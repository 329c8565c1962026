/-
  EPM UUID: the text of a UUID, and back.

      dea00001-6c97-11d1-8271-00a02442df7d
      00 00 a0 de  97 6c  d1 11  82 71  00 a0 24 42 df 7d

  Three fields are little-endian on the wire, the two behind them big-endian; all are written in
  hexadecimal, most significant digit first.  A text is read without its dashes, field by field at
  fixed places, so that what was written is read back (`stringToUuidBytes_text`).
-/
import Profinet.Epm
import Profinet.Lib.Stands
import Profinet.Lib.Str
import Profinet.Lib.Text

namespace Profinet.Epm

open Wire Checked Text

/-- A field of the text as a number: its digits from `i` to `j`. -/
def uuidField (uuidStr : String) (parts : List Char) (i j : Nat) : ExceptT String Comp Nat := do
  match parseUint (2 ^ 64) 16 (← Str.slice parts i j) with
  | .ok n => return n
  | .error _ => throw ("Invalid UUID string: " ++ uuidStr)

/-- The sixteen bytes a text stands for (`string_to_uuid_bytes`). -/
def stringToUuidBytes (uuidStr : String) : ExceptT String Comp (List UInt8) := do
  let parts := uuidStr.toList.filter (· ≠ '-')
  if Str.byteLen parts ≠ 32 then
    throw ("Invalid UUID string: " ++ uuidStr)
  let timeLow ← uuidField uuidStr parts 0 8
  let timeMid ← uuidField uuidStr parts 8 12
  let timeHi ← uuidField uuidStr parts 12 16
  let clockSeq ← uuidField uuidStr parts 16 20
  let node ← (List.range 6).mapM fun i => uuidField uuidStr parts (20 + 2 * i) (22 + 2 * i)
  return wrU32 (UInt32.ofNat timeLow) true ++ wrU16 (UInt16.ofNat timeMid) true
    ++ wrU16 (UInt16.ofNat timeHi) true ++ be16 (UInt16.ofNat clockSeq) ++ node.map UInt8.ofNat

/-- A UUID by its fields. -/
structure Uuid where
  timeLow : UInt32
  timeMid : UInt16
  timeHi : UInt16
  clockSeq : UInt16
  node : Bytes 6

/-- The UUID in sixteen bytes, its first fields little-endian. -/
def Uuid.encode (u : Uuid) : List UInt8 :=
  wrU32 u.timeLow true ++ wrU16 u.timeMid true ++ wrU16 u.timeHi true ++ be16 u.clockSeq ++
    u.node.val

/-- The UUID as text. -/
def Uuid.text (u : Uuid) : String :=
  lowerHex 8 u.timeLow.toNat ++ "-" ++ lowerHex 4 u.timeMid.toNat ++ "-"
    ++ lowerHex 4 u.timeHi.toNat ++ "-" ++ lowerHex 4 u.clockSeq.toNat ++ "-"
    ++ String.join (u.node.val.map fun b => lowerHex 2 b.toNat)

@[simp] theorem Uuid.encode_length (u : Uuid) : u.encode.length = 16 := by
  have hnode := u.node.property
  simp [Uuid.encode, hnode]

/-- The fields that sixteen bytes hold. -/
def Uuid.ofBytes (b : Bytes 16) : Uuid where
  timeLow := rdU32 b.val 0 true
  timeMid := rdU16 b.val 4 true
  timeHi := rdU16 b.val 6 true
  clockSeq := rdU16 b.val 8 false
  node := bytesAt 6 b.val 10

theorem Uuid.encode_ofBytes (b : Bytes 16) : (Uuid.ofBytes b).encode = b.val := by
  have hwhole : bytesAt 16 b.val 0 = b := bytesAt_of_drop (List.append_nil b.val).symm
  calc (Uuid.ofBytes b).encode
      = wrU32 (rdU32 b.val 0 true) true ++ wrU16 (rdU16 b.val 4 true) true ++
          wrU16 (rdU16 b.val 6 true) true ++ wrU16 (rdU16 b.val 8 false) false ++
          (bytesAt 6 b.val 10).val := rfl
    _ = (bytesAt (4 + 2 + 2 + 2 + 6) b.val 0).val := by
        rw [wrU32_rdU32, wrU16_rdU16, wrU16_rdU16, wrU16_rdU16,
          bytesAt_add (4 + 2 + 2 + 2) 6 b.val 0, bytesAt_add (4 + 2 + 2) 2 b.val 0,
          bytesAt_add (4 + 2) 2 b.val 0, bytesAt_add 4 2 b.val 0]
    _ = b.val := congrArg Subtype.val hwhole

/-! ## Written -/

/-- The fields are read where they stand. -/
theorem uuidBytesToString_encode (u : Uuid) : uuidBytesToString u.encode = .ok u.text := by
  have hlen := u.encode_length
  have hdata : u.encode.length < 2 ^ 63 := by omega
  obtain ⟨hfront, hnode⟩ := (stands_whole u.encode).split (n := 10) (by simp)
  obtain ⟨hfront, hclock⟩ := hfront.split (n := 8) (by simp)
  obtain ⟨hfront, hhi⟩ := hfront.split (n := 6) (by simp)
  obtain ⟨hlow, hmid⟩ := hfront.split (n := 4) (by simp)
  unfold uuidBytesToString
  rw [if_neg (not_not.mpr hlen), slice_ok (by omega) (by omega), ok_bind, hlow.u32Of hdata, ok_bind,
    hmid.u16Of hdata, ok_bind, hhi.u16Of hdata, ok_bind, hclock.u16At hdata, ok_bind]
  dsimp only
  rw [hnode.take_eq u.node.property]
  rfl

/-! ## Read back -/

/-- Hexadecimal digits for a number, as many as the field is wide. -/
structure HexField (width n : Nat) (s : List Char) : Prop where
  numeral : Numeral 16 n s
  length : s.length = width

theorem hexField_lowerHex {width n : Nat} (hwidth : 0 < width) (h : n < 16 ^ width) :
    HexField width n (lowerHex width n).toList := by
  have hlen := (Nat.length_toDigits_le_iff (by decide) hwidth).mpr h
  rw [lowerHex, String.toList_ofList]
  refine ⟨numeral_leftpad (numeral_toDigits (by decide) (by decide) n) (by decide) width, ?_⟩
  rw [List.length_leftpad]
  omega

/-- No digit is a dash. -/
theorem HexField.filter {width n : Nat} {s : List Char} (h : HexField width n s) :
    s.filter (· ≠ '-') = s := by
  refine List.filter_eq_self.mpr ?_
  intro c hc
  obtain ⟨x, hx⟩ := h.numeral.digit hc
  have hne : c ≠ '-' := by
    rintro rfl
    revert hx
    simp [digitValue]
  simpa using hne

theorem HexField.byteLen {width n : Nat} {s : List Char} (h : HexField width n s) :
    Str.byteLen s = width := by
  rw [Str.byteLen_eq_length, h.length]
  intro c hc
  obtain ⟨x, hx⟩ := h.numeral.digit hc
  exact utf8Size_digit hx

/-- A field is read at its place. -/
theorem uuidField_eq {width n i j : Nat} {a w b : List Char} (hw : HexField width n w)
    (hi : Str.byteLen a = i) (hj : i + width = j) (hn : n < 2 ^ 64) (uuidStr : String) :
    uuidField uuidStr (a ++ (w ++ b)) i j = pure n := by
  have hslice : Str.slice (a ++ (w ++ b)) i j = .ok w :=
    Str.slice_mid hi (by rw [hw.byteLen, hj])
  have hparse : parseUint (2 ^ 64) 16 w = .ok n := parseUint_numeral (by decide) hw.numeral hn
  unfold uuidField
  rw [hslice]
  show (match parseUint (2 ^ 64) 16 w with
    | .ok n => pure n
    | .error _ => throw ("Invalid UUID string: " ++ uuidStr)) = _
  rw [hparse]

theorem byte_hexField (b : UInt8) : HexField 2 b.toNat (lowerHex 2 b.toNat).toList :=
  hexField_lowerHex (by decide) b.toNat_lt

/-- The bytes of the node, two digits each. -/
theorem uuidNode_eq (uuidStr : String) (node : List UInt8) (pre : List Char) {k : Nat}
    (hpre : Str.byteLen pre = 20 + 2 * k) :
    (List.range' k node.length).mapM (fun i => uuidField uuidStr
      (pre ++ node.flatMap fun b => (lowerHex 2 b.toNat).toList) (20 + 2 * i) (22 + 2 * i)) =
      pure (node.map UInt8.toNat) := by
  induction node generalizing pre k with
  | nil => rfl
  | cons b node ih =>
    have hb := byte_hexField b
    have hlt := b.toNat_lt
    have hfirst := uuidField_eq (b := node.flatMap fun b => (lowerHex 2 b.toNat).toList) hb hpre
      (show 20 + 2 * k + 2 = 22 + 2 * k by omega) (by omega) uuidStr
    have hrest := ih (pre ++ (lowerHex 2 b.toNat).toList) (k := k + 1)
      (by rw [Str.byteLen_append, hpre, hb.byteLen]; omega)
    rw [List.append_assoc] at hrest
    rw [List.flatMap_cons, List.length_cons, List.range'_succ, List.mapM_cons, hfirst, pure_bind,
      hrest, pure_bind]
    rfl

/-- Without the dashes, the fields side by side. -/
theorem uuidText_parts (u : Uuid) :
    u.text.toList.filter (· ≠ '-') =
      (lowerHex 8 u.timeLow.toNat).toList ++ ((lowerHex 4 u.timeMid.toNat).toList ++
        ((lowerHex 4 u.timeHi.toNat).toList ++ ((lowerHex 4 u.clockSeq.toNat).toList ++
          u.node.val.flatMap fun b => (lowerHex 2 b.toNat).toList))) := by
  have hlow : HexField 8 _ _ := hexField_lowerHex (by decide) u.timeLow.toNat_lt
  have hmid : HexField 4 _ _ := hexField_lowerHex (by decide) u.timeMid.toNat_lt
  have hhi : HexField 4 _ _ := hexField_lowerHex (by decide) u.timeHi.toNat_lt
  have hclock : HexField 4 _ _ := hexField_lowerHex (by decide) u.clockSeq.toNat_lt
  have hdash : "-".toList.filter (· ≠ '-') = [] := rfl
  unfold Uuid.text
  simp only [String.toList_append, String.toList_join, List.filter_append, hdash, hlow.filter,
    hmid.filter, hhi.filter, hclock.filter, List.nil_append, List.append_assoc, List.flatMap_map,
    List.filter_flatMap, (byte_hexField _).filter]

theorem uuidNode_byteLen (node : List UInt8) :
    Str.byteLen (node.flatMap fun b => (lowerHex 2 b.toNat).toList) = 2 * node.length := by
  induction node with
  | nil => rfl
  | cons b node ih =>
    rw [List.flatMap_cons, Str.byteLen_append, (byte_hexField b).byteLen, ih, List.length_cons]
    omega

/-- What was written is read. -/
theorem stringToUuidBytes_text (u : Uuid) : stringToUuidBytes u.text = pure u.encode := by
  have hlow : HexField 8 _ _ := hexField_lowerHex (by decide) u.timeLow.toNat_lt
  have hmid : HexField 4 _ _ := hexField_lowerHex (by decide) u.timeMid.toNat_lt
  have hhi : HexField 4 _ _ := hexField_lowerHex (by decide) u.timeHi.toNat_lt
  have hclock : HexField 4 _ _ := hexField_lowerHex (by decide) u.clockSeq.toNat_lt
  have hlow' := u.timeLow.toNat_lt
  have hmid' := u.timeMid.toNat_lt
  have hhi' := u.timeHi.toNat_lt
  have hclock' := u.clockSeq.toNat_lt
  unfold stringToUuidBytes
  simp only
  rw [uuidText_parts]
  -- from here on, of the four fields only their width and their number matter
  generalize (lowerHex 8 u.timeLow.toNat).toList = a at *
  generalize (lowerHex 4 u.timeMid.toNat).toList = b at *
  generalize (lowerHex 4 u.timeHi.toNat).toList = c at *
  generalize (lowerHex 4 u.clockSeq.toNat).toList = d at *
  have hnode := uuidNode_byteLen u.node.val
  have hlen : Str.byteLen (a ++ (b ++ (c ++ (d ++ u.node.val.flatMap fun b =>
      (lowerHex 2 b.toNat).toList)))) = 32 := by
    simp only [Str.byteLen_append, hlow.byteLen, hmid.byteLen, hhi.byteLen, hclock.byteLen, hnode,
      u.node.property]
  have hnodes := uuidNode_eq u.text u.node.val (a ++ b ++ c ++ d) (k := 0) (by
    simp only [Str.byteLen_append, hlow.byteLen, hmid.byteLen, hhi.byteLen, hclock.byteLen])
  generalize (u.node.val.flatMap fun b => (lowerHex 2 b.toNat).toList) = node at *
  have h0 := uuidField_eq (a := []) (b := b ++ (c ++ (d ++ node))) (i := 0) (j := 8) hlow rfl rfl
    (by omega) u.text
  have h1 := uuidField_eq (b := c ++ (d ++ node)) (j := 12) hmid hlow.byteLen rfl (by omega) u.text
  have h2 := uuidField_eq (a := a ++ b) (b := d ++ node) (i := 12) (j := 16) hhi
    (by rw [Str.byteLen_append, hlow.byteLen, hmid.byteLen]) rfl (by omega) u.text
  have h3 := uuidField_eq (a := a ++ b ++ c) (b := node) (i := 16) (j := 20) hclock
    (by rw [Str.byteLen_append, Str.byteLen_append, hlow.byteLen, hmid.byteLen, hhi.byteLen])
    rfl (by omega) u.text
  rw [u.node.property, ← List.range_eq_range'] at hnodes
  simp only [List.append_assoc, List.nil_append] at h0 h1 h2 h3 hnodes
  have hbytes : (u.node.val.map UInt8.toNat).map UInt8.ofNat = u.node.val := by
    rw [List.map_map]
    exact (List.map_congr_left fun b _ => UInt8.ofNat_toNat).trans (List.map_id _)
  rw [if_neg (not_not.mpr hlen), h0, pure_bind, h1, pure_bind, h2, pure_bind, h3, pure_bind, hnodes,
    pure_bind, UInt32.ofNat_toNat, UInt16.ofNat_toNat, UInt16.ofNat_toNat, UInt16.ofNat_toNat,
    hbytes]
  rfl

/-- Sixteen bytes are written and read back. -/
theorem stringToUuidBytes_bytes (b : Bytes 16) :
    ∃ text, uuidBytesToString b.val = .ok text ∧ stringToUuidBytes text = pure b.val := by
  refine ⟨(Uuid.ofBytes b).text, ?_, ?_⟩
  · rw [← uuidBytesToString_encode, Uuid.encode_ofBytes]
  · rw [stringToUuidBytes_text, Uuid.encode_ofBytes]

end Profinet.Epm
