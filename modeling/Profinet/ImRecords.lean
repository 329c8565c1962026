/-
  I&M RECORDS: what is written to I&M1, I&M2 and I&M3, and what is read of them.

  A string is written as Latin-1, filled up with spaces to the width of its field; a string that is
  too long or has another character is refused.  The writers put two bytes of padding between the
  block header and the first field, the readers expect the field right behind the header.  So what
  is read is shifted by two bytes, and it is what was written only if every byte of the record is
  zero (`im_records_agree_iff`).
-/
import Profinet.Blocks
import Profinet.Im
import Profinet.Lib.Stands

namespace Profinet.Im

open Wire Checked Blocks

/-- Block type of I&M1. -/
def blockIm1 : UInt16 := 0x0021
/-- Block type of I&M2. -/
def blockIm2 : UInt16 := 0x0022
/-- Block type of I&M3. -/
def blockIm3 : UInt16 := 0x0023

/-! ## Writing -/

/-- Why a string is not written. -/
inductive FieldError where
  /-- `{what} exceeds {width} character limit`. -/
  | tooLong (what : String) (width : Nat)
  /-- `{what} contains non-Latin-1 character {c:?}`. -/
  | notLatin1 (what : String) (c : Char)
  deriving DecidableEq, Repr

/-- The loop over the characters. -/
def latin1Chars (what : String) : List Char → Except FieldError (List UInt8)
  | [] => .ok []
  | c :: chars =>
    if 0xFF < c.toNat then .error (.notLatin1 what c)
    else do
      let out ← latin1Chars what chars
      return UInt8.ofNat c.toNat :: out

/-- `Vec::resize`. -/
def resize (out : List UInt8) (width : Nat) (fill : UInt8) : List UInt8 :=
  out.take width ++ List.replicate (width - out.length) fill

/-- A string field as Latin-1, padded with spaces to `width`. -/
def latin1Field (s : String) (width : Nat) (what : String) : Except FieldError (List UInt8) := do
  if width < s.toList.length then
    .error (.tooLong what width)
  else
    let out ← latin1Chars what s.toList
    return resize out width 0x20

/-- Block header, padding, tag function, tag location. -/
def im1Record (tagFunction tagLocation : String) : Except FieldError (List UInt8) := do
  let function ← latin1Field tagFunction 32 "tag_function"
  let location ← latin1Field tagLocation 22 "tag_location"
  return blockHeader blockIm1 58 1 0 ++ ([0, 0] ++ (function ++ location))

/-- Block header, padding, installation date. -/
def im2Record (date : String) : Except FieldError (List UInt8) := do
  let field ← latin1Field date 16 "date"
  return blockHeader blockIm2 20 1 0 ++ ([0, 0] ++ field)

/-- Block header, padding, descriptor. -/
def im3Record (descriptor : String) : Except FieldError (List UInt8) := do
  let field ← latin1Field descriptor 54 "descriptor"
  return blockHeader blockIm3 58 1 0 ++ ([0, 0] ++ field)

/-! ## Reading -/

/-- I&M1: the function and the location of the device. -/
structure InM1 where
  blockHeader : BlockHeader
  imTagFunction : Bytes 32
  imTagLocation : Bytes 22
  deriving DecidableEq, Repr

/-- I&M2: the date of installation. -/
structure InM2 where
  blockHeader : BlockHeader
  /-- `YYYY-MM-DD HH:MM`. -/
  imDate : Bytes 16
  deriving DecidableEq, Repr

/-- I&M3: a descriptor. -/
structure InM3 where
  blockHeader : BlockHeader
  imDescriptor : Bytes 54
  deriving DecidableEq, Repr

/-- The record has at least the size that the name needs. -/
def need (name : String) (data : List UInt8) (size : Nat) : Except String Unit :=
  if data.length < size then
    .error (name ++ ": insufficient data, need " ++ toString size ++ " bytes, got "
      ++ toString data.length)
  else .ok ()

/-- The block header of a record of at least `size` bytes. -/
def imHeader (name : String) (data : List UInt8) (size : Nat) :
    Comp (Except String BlockHeader) := do
  match need name data size with
  | .error e => return .error e
  | .ok _ => return (← parseBlockHeader data 0).map Prod.fst

/-- I&M1 is read behind the block header. -/
def parseIm1 (data : List UInt8) : Comp (Except String InM1) := do
  match ← imHeader "PNInM1" data 60 with
  | .error e => return .error e
  | .ok header => return .ok ⟨header, ← arrayAt 32 data 6, ← arrayAt 22 data 38⟩

/-- So is I&M2. -/
def parseIm2 (data : List UInt8) : Comp (Except String InM2) := do
  match ← imHeader "PNInM2" data 22 with
  | .error e => return .error e
  | .ok header => return .ok ⟨header, ← arrayAt 16 data 6⟩

/-- So is I&M3. -/
def parseIm3 (data : List UInt8) : Comp (Except String InM3) := do
  match ← imHeader "PNInM3" data 60 with
  | .error e => return .error e
  | .ok header => return .ok ⟨header, ← arrayAt 54 data 6⟩

/-! ## What a field is written as

  `Fits` is what the writers ask of a string: one byte for each character, and no more of them
  than the field is wide.  `latin1Field_ok` and `latin1Field_error` say that nothing else
  matters. -/

/-- A string within the limits of a field. -/
structure Fits (s : String) (width : Nat) : Prop where
  short : s.toList.length ≤ width
  latin1 : ∀ c ∈ s.toList, c.toNat ≤ 0xFF

/-- Its bytes, filled up with spaces. -/
def padded (s : String) (width : Nat) : List UInt8 :=
  s.toList.map (fun c => UInt8.ofNat c.toNat) ++ List.replicate (width - s.toList.length) 0x20

/-- The string of `n` NUL characters. -/
def nuls (n : Nat) : String := String.ofList (List.replicate n (Char.ofNat 0))

/-- A text that fits is padded to its width. -/
theorem padded_length {s : String} {width : Nat} (h : Fits s width) :
    (padded s width).length = width := by
  have hshort := h.short
  unfold padded
  rw [List.length_append, List.length_map, List.length_replicate]
  omega

/-- Characters of one byte are encoded. -/
theorem latin1Chars_ok (what : String) {chars : List Char} (h : ∀ c ∈ chars, c.toNat ≤ 0xFF) :
    latin1Chars what chars = .ok (chars.map fun c => UInt8.ofNat c.toNat) := by
  induction chars with
  | nil => rfl
  | cons c chars ih =>
    have hc := h c List.mem_cons_self
    unfold latin1Chars
    rw [if_neg (by omega), ih fun d hd => h d (List.mem_cons_of_mem c hd)]
    rfl

/-- And others are refused. -/
theorem latin1Chars_error (what : String) {chars : List Char}
    (h : ¬ ∀ c ∈ chars, c.toNat ≤ 0xFF) : ∃ e, latin1Chars what chars = .error e := by
  induction chars with
  | nil => exact absurd (List.forall_mem_nil _) h
  | cons c chars ih =>
    unfold latin1Chars
    by_cases hc : 0xFF < c.toNat
    · exact ⟨_, if_pos hc⟩
    · rw [if_neg hc]
      obtain ⟨e, he⟩ := ih fun hrest => h (List.forall_mem_cons.mpr ⟨by omega, hrest⟩)
      exact ⟨e, by rw [he]; rfl⟩

/-- A text that fits is padded with blanks. -/
theorem latin1Field_ok {s : String} {width : Nat} (h : Fits s width) (what : String) :
    latin1Field s width what = .ok (padded s width) := by
  have hshort := h.short
  unfold latin1Field
  rw [if_neg (by omega), latin1Chars_ok what h.latin1, ok_bind]
  unfold resize
  rw [List.length_map, List.take_of_length_le (by rw [List.length_map]; exact hshort)]
  rfl

/-- A string outside the limits is refused. -/
theorem latin1Field_error {s : String} {width : Nat} (h : ¬ Fits s width) (what : String) :
    ∃ e, latin1Field s width what = .error e := by
  unfold latin1Field
  by_cases hlong : width < s.toList.length
  · exact ⟨_, if_pos hlong⟩
  · rw [if_neg hlong]
    obtain ⟨e, he⟩ := latin1Chars_error what fun hall => h ⟨by omega, hall⟩
    exact ⟨e, by rw [he]; rfl⟩

/-- A field is all zero only if the string fills it with NUL. -/
theorem padded_zero_iff {s : String} {width : Nat} (h : Fits s width) :
    padded s width = List.replicate width 0 ↔ s = nuls width := by
  constructor
  · intro hzero
    have hall : ∀ b ∈ padded s width, b = 0 := by
      rw [hzero]
      exact fun b hb => (List.mem_replicate.mp hb).2
    have hfull : s.toList.length = width := by
      by_contra hne
      have hshort := h.short
      have hspace : (0x20 : UInt8) ∈ padded s width :=
        List.mem_append_right _ (List.mem_replicate.mpr ⟨by omega, rfl⟩)
      exact absurd (hall _ hspace) (by decide)
    have hchars : s.toList = List.replicate width (Char.ofNat 0) := by
      refine List.eq_replicate_iff.mpr ⟨hfull, fun c hc => ?_⟩
      have hbyte := hall _ (List.mem_append_left _ (List.mem_map.mpr ⟨c, hc, rfl⟩))
      have hlow := h.latin1 c hc
      have hnat : (UInt8.ofNat c.toNat).toNat = 0 := congrArg UInt8.toNat hbyte
      rw [UInt8.toNat_ofNat', Nat.mod_eq_of_lt (by omega)] at hnat
      rw [← Char.ofNat_toNat c, hnat]
    unfold nuls
    rw [← hchars, String.ofList_toList]
  · rintro rfl
    unfold padded nuls
    rw [String.toList_ofList, List.map_replicate, List.length_replicate, Nat.sub_self]
    exact List.append_nil _

/-! ## What is read of it

  The writers put two bytes of padding between the header and the fields, and the readers do not
  skip them: a field is read two bytes early (`shifted_stands`).  Such a field comes out right
  only if it equals its own shift, that is, only if it is all zero. -/

section Read

variable {blockType blockLength : UInt16} {fields : List UInt8}

/-- The record that the writers make of their fields. -/
def imRecord (blockType blockLength : UInt16) (fields : List UInt8) : List UInt8 :=
  blockHeader blockType blockLength 1 0 ++ ([0, 0] ++ fields)

/-- A record is its header, two bytes of padding and its fields. -/
theorem imRecord_length : (imRecord blockType blockLength fields).length = 8 + fields.length := by
  unfold imRecord
  rw [List.length_append, List.length_append, ← Nat.add_assoc]
  rfl

/-- The header of a record that is long enough is read. -/
theorem imHeader_ok (name : String) {size : Nat} (hsize : size ≤ 8 + fields.length)
    (hbound : 8 + fields.length < 2 ^ 63) :
    imHeader name (imRecord blockType blockLength fields) size
      = .ok (.ok ⟨blockType, blockLength, 1, 0⟩) := by
  have hlen := @imRecord_length blockType blockLength fields
  have hstands : Stands (imRecord blockType blockLength fields) 0
      (BlockHeader.mk blockType blockLength 1 0).bytes := stands_front _ _
  unfold imHeader need
  rw [if_neg (by omega)]
  dsimp only
  rw [parseBlockHeader_ok (by omega) hstands]
  rfl

/-- The readers take the padding for the first two bytes of the fields. -/
theorem shifted_stands : Stands (imRecord blockType blockLength fields) 6 (0 :: 0 :: fields) :=
  ⟨Nat.le_of_eq (by rw [imRecord_length, List.length_cons, List.length_cons]; omega), [], by
    rw [List.append_nil]
    rfl⟩

end Read

/-- A list is its own copy two places on only if it is all zero. -/
theorem eq_shifted_iff :
    (fields : List UInt8) → (0 :: 0 :: fields).take fields.length = fields
      ↔ fields = List.replicate fields.length 0
  | [] => ⟨fun _ => rfl, fun _ => rfl⟩
  | [a] => by
    show [0] = [a] ↔ [a] = [0]
    exact eq_comm
  | a :: b :: fields => by
    have ih := eq_shifted_iff fields
    show 0 :: 0 :: (a :: b :: fields).take fields.length = a :: b :: fields
      ↔ a :: b :: fields = 0 :: 0 :: List.replicate fields.length 0
    simp only [List.cons.injEq]
    constructor
    · rintro ⟨rfl, rfl, hrest⟩
      exact ⟨rfl, rfl, ih.mp hrest⟩
    · rintro ⟨rfl, rfl, hrest⟩
      exact ⟨rfl, rfl, ih.mpr hrest⟩

/-- An array that is read where more bytes stand is the first of them. -/
theorem array_front {data bs : List UInt8} {off n : Nat} (hdata : data.length < 2 ^ 63)
    (h : Stands data off bs) (hn : n ≤ bs.length) :
    arrayAt n data off = .ok ⟨bs.take n, List.length_take_of_le hn⟩ := by
  have hsplit : Stands data off (bs.take n ++ bs.drop n) := by
    rw [List.take_append_drop]
    exact h
  exact @Stands.arrayAt data off hdata n ⟨bs.take n, List.length_take_of_le hn⟩ hsplit.left

/-- The same further on. -/
theorem array_behind {data bs : List UInt8} {off k n : Nat} (hdata : data.length < 2 ^ 63)
    (h : Stands data off bs) (hn : k + n ≤ bs.length) :
    arrayAt n data (off + k)
      = .ok ⟨(bs.drop k).take n, List.length_take_of_le (by rw [List.length_drop]; omega)⟩ := by
  have hsplit : Stands data off (bs.take k ++ bs.drop k) := by
    rw [List.take_append_drop]
    exact h
  have hrest : n ≤ (bs.drop k).length := by
    rw [List.length_drop]
    omega
  exact array_front hdata (hsplit.split (List.length_take_of_le (by omega))).2 hrest

/-! ## The three records

  For each record: it is written where its texts fit, refused where one does not, and read back
  only where every field is filled with NUL. -/

/-- What is written to I&M1 is read back; what is out of limits is refused. -/
def Im1Agrees (tagFunction tagLocation : String) : Prop :=
  (Fits tagFunction 32 ∧ Fits tagLocation 22 →
    ∃ data im1, im1Record tagFunction tagLocation = .ok data ∧ parseIm1 data = .ok (.ok im1)
      ∧ im1.imTagFunction.val = padded tagFunction 32
      ∧ im1.imTagLocation.val = padded tagLocation 22)
  ∧ (¬ (Fits tagFunction 32 ∧ Fits tagLocation 22) →
    ∃ e, im1Record tagFunction tagLocation = .error e)

/-- The same of I&M2. -/
def Im2Agrees (date : String) : Prop :=
  (Fits date 16 → ∃ data im2, im2Record date = .ok data ∧ parseIm2 data = .ok (.ok im2)
    ∧ im2.imDate.val = padded date 16)
  ∧ (¬ Fits date 16 → ∃ e, im2Record date = .error e)

/-- The same of I&M3. -/
def Im3Agrees (descriptor : String) : Prop :=
  (Fits descriptor 54 →
    ∃ data im3, im3Record descriptor = .ok data ∧ parseIm3 data = .ok (.ok im3)
      ∧ im3.imDescriptor.val = padded descriptor 54)
  ∧ (¬ Fits descriptor 54 → ∃ e, im3Record descriptor = .error e)

/-! Within the limits of the fields a record is written, out of them it is refused. -/

/-- Texts that fit give a record of I&M1. -/
theorem im1Record_ok {tagFunction tagLocation : String} (hfunction : Fits tagFunction 32)
    (hlocation : Fits tagLocation 22) :
    im1Record tagFunction tagLocation
      = .ok (imRecord blockIm1 58 (padded tagFunction 32 ++ padded tagLocation 22)) := by
  unfold im1Record
  rw [latin1Field_ok hfunction, ok_bind, latin1Field_ok hlocation]
  rfl

/-- Of I&M2. -/
theorem im2Record_ok {date : String} (h : Fits date 16) :
    im2Record date = .ok (imRecord blockIm2 20 (padded date 16)) := by
  unfold im2Record
  rw [latin1Field_ok h]
  rfl

/-- And of I&M3. -/
theorem im3Record_ok {descriptor : String} (h : Fits descriptor 54) :
    im3Record descriptor = .ok (imRecord blockIm3 58 (padded descriptor 54)) := by
  unfold im3Record
  rw [latin1Field_ok h]
  rfl

/-- Texts that do not are refused. -/
theorem im1_refused {tagFunction tagLocation : String}
    (h : ¬ (Fits tagFunction 32 ∧ Fits tagLocation 22)) :
    ∃ e, im1Record tagFunction tagLocation = .error e := by
  unfold im1Record
  by_cases hfunction : Fits tagFunction 32
  · have hlocation : ¬ Fits tagLocation 22 := fun hlocation => h ⟨hfunction, hlocation⟩
    obtain ⟨e, he⟩ := latin1Field_error hlocation "tag_location"
    rw [latin1Field_ok hfunction, ok_bind, he]
    exact ⟨e, rfl⟩
  · obtain ⟨e, he⟩ := latin1Field_error hfunction "tag_function"
    rw [he]
    exact ⟨e, rfl⟩

/-- For I&M2. -/
theorem im2_refused {date : String} (h : ¬ Fits date 16) : ∃ e, im2Record date = .error e := by
  obtain ⟨e, he⟩ := latin1Field_error h "date"
  unfold im2Record
  rw [he]
  exact ⟨e, rfl⟩

/-- And for I&M3. -/
theorem im3_refused {descriptor : String} (h : ¬ Fits descriptor 54) :
    ∃ e, im3Record descriptor = .error e := by
  obtain ⟨e, he⟩ := latin1Field_error h "descriptor"
  unfold im3Record
  rw [he]
  exact ⟨e, rfl⟩

/-- The parser of a record with the fields written, if there are enough of them. -/
theorem parseIm1_written {fields : List UInt8} (hfields : fields.length = 54) :
    parseIm1 (imRecord blockIm1 58 fields) = .ok (.ok
      ⟨⟨blockIm1, 58, 1, 0⟩,
        ⟨(0 :: 0 :: fields).take 32, List.length_take_of_le (by simp only [List.length_cons]; omega)⟩,
        ⟨((0 :: 0 :: fields).drop 32).take 22, List.length_take_of_le (by
          simp only [List.length_drop, List.length_cons]
          omega)⟩⟩) := by
  have hlen := @imRecord_length blockIm1 58 fields
  have hstands := @shifted_stands blockIm1 58 fields
  unfold parseIm1
  rw [imHeader_ok "PNInM1" (by omega) (by omega), ok_bind]
  dsimp only
  rw [array_front (by omega) hstands (by simp only [List.length_cons]; omega), ok_bind,
    array_behind (k := 32) (by omega) hstands (by simp only [List.length_cons]; omega)]
  rfl

/-- Two bytes of padding and fourteen of the field: that is what is read of a written I&M2. -/
theorem parseIm2_written {field : List UInt8} (hfield : field.length = 16) :
    parseIm2 (imRecord blockIm2 20 field) = .ok (.ok
      ⟨⟨blockIm2, 20, 1, 0⟩, ⟨(0 :: 0 :: field).take 16, List.length_take_of_le (by
        simp only [List.length_cons]
        omega)⟩⟩) := by
  have hlen := @imRecord_length blockIm2 20 field
  have hstands := @shifted_stands blockIm2 20 field
  unfold parseIm2
  rw [imHeader_ok "PNInM2" (by omega) (by omega), ok_bind]
  dsimp only
  rw [array_front (by omega) hstands (by simp only [List.length_cons]; omega)]
  rfl

/-- So it is for I&M3. -/
theorem parseIm3_written {field : List UInt8} (hfield : field.length = 54) :
    parseIm3 (imRecord blockIm3 58 field) = .ok (.ok
      ⟨⟨blockIm3, 58, 1, 0⟩, ⟨(0 :: 0 :: field).take 54, List.length_take_of_le (by
        simp only [List.length_cons]
        omega)⟩⟩) := by
  have hlen := @imRecord_length blockIm3 58 field
  have hstands := @shifted_stands blockIm3 58 field
  unfold parseIm3
  rw [imHeader_ok "PNInM3" (by omega) (by omega), ok_bind]
  dsimp only
  rw [array_front (by omega) hstands (by simp only [List.length_cons]; omega)]
  rfl

/-- A single field is read back exactly if it is all zero. -/
theorem padded_shifted_iff {s : String} {width : Nat} (h : Fits s width) :
    (0 :: 0 :: padded s width).take width = padded s width ↔ s = nuls width := by
  have hlen := padded_length h
  have hshift := eq_shifted_iff (padded s width)
  rw [hlen] at hshift
  exact hshift.trans (padded_zero_iff h)

/-- Two fields, one behind the other, are read back exactly if both are all zero. -/
theorem two_shifted_iff {function location : List UInt8} (hfunction : function.length = 32)
    (hlocation : location.length = 22) :
    ((0 :: 0 :: (function ++ location)).take 32 = function
        ∧ ((0 :: 0 :: (function ++ location)).drop 32).take 22 = location)
      ↔ function = List.replicate 32 0 ∧ location = List.replicate 22 0 := by
  have hlen : (function ++ location).length = 54 := by
    rw [List.length_append, hfunction, hlocation]
  have hparts : (0 :: 0 :: (function ++ location)).take 54
      = (0 :: 0 :: (function ++ location)).take 32
        ++ ((0 :: 0 :: (function ++ location)).drop 32).take 22 := List.take_add (i := 32) (j := 22)
  have hfirst : ((0 :: 0 :: (function ++ location)).take 32).length = function.length := by
    rw [List.length_take_of_le (by simp only [List.length_cons]; omega), hfunction]
  have hshift := eq_shifted_iff (function ++ location)
  rw [hlen, hparts] at hshift
  constructor
  · rintro ⟨hf, hl⟩
    have hzero := hshift.mp (by rw [hf, hl])
    exact List.append_inj hzero hfunction
  · rintro ⟨hf, hl⟩
    have hzero : function ++ location = List.replicate 54 0 := by
      rw [hf, hl]
      rfl
    exact List.append_inj (hshift.mpr hzero) hfirst

/-- A writer and a reader, with what the reader makes of what was written within the limits. -/
theorem agrees_iff {α : Type} {Limits Exact : Prop} {Same : α → Prop}
    {write : Except FieldError (List UInt8)} {parse : List UInt8 → Comp (Except String α)}
    (hin : Limits → ∃ data r, write = .ok data ∧ parse data = .ok (.ok r) ∧ (Same r ↔ Exact))
    (hout : ¬ Limits → ∃ e, write = .error e) :
    ((Limits → ∃ data r, write = .ok data ∧ parse data = .ok (.ok r) ∧ Same r)
      ∧ (¬ Limits → ∃ e, write = .error e)) ↔ (Limits → Exact) := by
  constructor
  · rintro ⟨hagrees, -⟩ hlimits
    obtain ⟨data, r, hwrite, hparse, hsame⟩ := hagrees hlimits
    obtain ⟨data', r', hwrite', hparse', hiff⟩ := hin hlimits
    cases hwrite.symm.trans hwrite'
    cases hparse.symm.trans hparse'
    exact hiff.mp hsame
  · intro hexact
    refine ⟨?_, hout⟩
    intro hlimits
    obtain ⟨data, r, hwrite, hparse, hiff⟩ := hin hlimits
    exact ⟨data, r, hwrite, hparse, hiff.mpr (hexact hlimits)⟩

/-- For I&M1 the two agree only where a text does not fit, or both are all NUL. -/
theorem im1_agrees_iff (tagFunction tagLocation : String) :
    Im1Agrees tagFunction tagLocation ↔ (Fits tagFunction 32 ∧ Fits tagLocation 22 →
      tagFunction = nuls 32 ∧ tagLocation = nuls 22) := by
  refine agrees_iff ?_ im1_refused
  rintro ⟨hfunction, hlocation⟩
  have hf := padded_length hfunction
  have hl := padded_length hlocation
  have hlen : (padded tagFunction 32 ++ padded tagLocation 22).length = 54 := by
    rw [List.length_append, hf, hl]
  have hexact := (two_shifted_iff hf hl).trans
    (and_congr (padded_zero_iff hfunction) (padded_zero_iff hlocation))
  exact ⟨_, _, im1Record_ok hfunction hlocation, parseIm1_written hlen, hexact⟩

/-- So they do for I&M2. -/
theorem im2_agrees_iff (date : String) :
    Im2Agrees date ↔ (Fits date 16 → date = nuls 16) := by
  refine agrees_iff ?_ im2_refused
  intro hfits
  exact ⟨_, _, im2Record_ok hfits, parseIm2_written (padded_length hfits), padded_shifted_iff hfits⟩

/-- And for I&M3. -/
theorem im3_agrees_iff (descriptor : String) :
    Im3Agrees descriptor ↔ (Fits descriptor 54 → descriptor = nuls 54) := by
  refine agrees_iff ?_ im3_refused
  intro hfits
  exact ⟨_, _, im3Record_ok hfits, parseIm3_written (padded_length hfits), padded_shifted_iff hfits⟩

/-- **What is written is read back only where every field is filled with NUL**; a string out of
    limits is refused. -/
theorem im_records_agree_iff (tagFunction tagLocation date descriptor : String) :
    (Im1Agrees tagFunction tagLocation ↔ (Fits tagFunction 32 ∧ Fits tagLocation 22 →
        tagFunction = nuls 32 ∧ tagLocation = nuls 22))
      ∧ (Im2Agrees date ↔ (Fits date 16 → date = nuls 16))
      ∧ (Im3Agrees descriptor ↔ (Fits descriptor 54 → descriptor = nuls 54)) :=
  ⟨im1_agrees_iff tagFunction tagLocation, im2_agrees_iff date, im3_agrees_iff descriptor⟩

/-- The limits checked character by character. -/
theorem fits_of {s : String} {width : Nat} (hshort : s.toList.length ≤ width)
    (hlatin1 : s.toList.all (fun c => decide (c.toNat ≤ 0xFF)) = true) : Fits s width where
  short := hshort
  latin1 c hc := of_decide_eq_true (List.all_eq_true.mp hlatin1 c hc)

/-- A date comes back two bytes late. -/
theorem date_shifted :
    (im2Record "2024-01-01 12:00").toOption.map parseIm2
        = some (.ok (.ok ⟨⟨blockIm2, 20, 1, 0⟩,
            ⟨[0, 0] ++ (padded "2024-01-01 12:00" 16).take 14, by decide⟩⟩))
      ∧ ¬ Im2Agrees "2024-01-01 12:00" ∧ ¬ Im1Agrees "pump" "hall" ∧ ¬ Im3Agrees "spare" := by
  have hdate : Fits "2024-01-01 12:00" 16 := fits_of (by decide) (by decide)
  refine ⟨?_, ?_, ?_, ?_⟩
  · rw [im2Record_ok hdate]
    exact congrArg some (parseIm2_written (padded_length hdate))
  · exact fun h => absurd ((im2_agrees_iff _).mp h hdate) (by decide)
  · have hpump : Fits "pump" 32 ∧ Fits "hall" 22 :=
      ⟨fits_of (by decide) (by decide), fits_of (by decide) (by decide)⟩
    exact fun h => absurd ((im1_agrees_iff _ _).mp h hpump).1 (by decide)
  · have hspare : Fits "spare" 54 := fits_of (by decide) (by decide)
    exact fun h => absurd ((im3_agrees_iff _).mp h hspare) (by decide)

end Profinet.Im
