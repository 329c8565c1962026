/-
  FIELDS AT AN OFFSET: which bytes stand where in a record.

  An encoder appends fields, and a reader that works with offsets finds each of them where the ones
  before it end.  `Stands data off bs` says that the bytes `bs` stand at `off`; what stands there as
  a whole stands there part by part (`Stands.split`), and a field that stands at an offset is read
  there by the checked operations.
-/
import Profinet.Lib.Checked

namespace Checked

open Wire

/-- The bytes `bs` stand at offset `off`. -/
structure Stands (data : List UInt8) (off : Nat) (bs : List UInt8) : Prop where
  fits : off + bs.length ≤ data.length
  here : ∃ rest, data.drop off = bs ++ rest

variable {data a b : List UInt8} {off : Nat}

/-- What an encoder wrote stands where it was written. -/
theorem stands_mid (before bs after : List UInt8) :
    Stands (before ++ (bs ++ after)) before.length bs where
  fits := by
    rw [List.length_append, List.length_append]
    omega
  here := ⟨after, List.drop_left⟩

theorem stands_front (bs after : List UInt8) : Stands (bs ++ after) 0 bs :=
  stands_mid [] bs after

theorem stands_whole (bs : List UInt8) : Stands bs 0 bs :=
  ⟨Nat.le_of_eq (Nat.zero_add _), [], (List.append_nil bs).symm⟩

/-- Two fields, one behind the other. -/
theorem Stands.split (h : Stands data off (a ++ b)) {n : Nat} (hn : a.length = n) :
    Stands data off a ∧ Stands data (off + n) b := by
  obtain ⟨hfits, rest, hhere⟩ := h
  rw [List.length_append] at hfits
  rw [List.append_assoc] at hhere
  exact ⟨⟨by omega, b ++ rest, hhere⟩, by omega, rest, drop_field hhere hn⟩

theorem Stands.left (h : Stands data off (a ++ b)) : Stands data off a := (h.split rfl).1

/-- What stands last is the rest of the data. -/
theorem Stands.drop_eq (h : Stands data off b) (hend : data.length = off + b.length) :
    data.drop off = b := by
  obtain ⟨_, rest, hhere⟩ := h
  have hlen := congrArg List.length hhere
  rw [List.length_drop, List.length_append] at hlen
  have hrest : rest = [] := List.length_eq_zero_iff.mp (by omega)
  rw [hhere, hrest, List.append_nil]

/-- What is cut off behind a field does not change it. -/
theorem Stands.append (h : Stands data off a) (more : List UInt8) : Stands (data ++ more) off a := by
  obtain ⟨hfits, rest, hhere⟩ := h
  refine ⟨?_, rest ++ more, ?_⟩
  · rw [List.length_append]
    omega
  · rw [List.drop_append_of_le_length (by omega), hhere, List.append_assoc]

/-- Byte by byte. -/
theorem Stands.getElem? {i : Nat} (h : Stands data off b) (hi : i < b.length) :
    data[off + i]? = b[i]? := by
  obtain ⟨_, rest, hhere⟩ := h
  rw [← List.getElem?_drop, hhere, List.getElem?_append_left hi]

theorem Stands.getD {i : Nat} (h : Stands data off b) (hi : i < b.length) :
    data.getD (off + i) 0 = b.getD i 0 := by
  rw [List.getD_eq_getElem?_getD, h.getElem? hi, List.getD_eq_getElem?_getD]

/-! ## Fields that are cut short -/

/-- The data ends inside the bytes `bs`, which begin at `off`. -/
structure CutAt (data : List UInt8) (off : Nat) (bs : List UInt8) : Prop where
  inside : off ≤ data.length
  short : data.length < off + bs.length
  here : ∃ rest, bs = data.drop off ++ rest

/-- A prefix that is not the whole. -/
theorem cutAt_take {bs : List UInt8} {m : Nat} (h : m < bs.length) : CutAt (bs.take m) 0 bs where
  inside := Nat.zero_le _
  short := by
    rw [List.length_take]
    omega
  here := ⟨bs.drop m, (List.take_append_drop m bs).symm⟩

/-- The cut lies in the first field or behind it. -/
theorem CutAt.split (h : CutAt data off (a ++ b)) {n : Nat} (hn : a.length = n) :
    CutAt data off a ∨ Stands data off a ∧ CutAt data (off + n) b := by
  obtain ⟨hinside, hshort, rest, hhere⟩ := h
  have hlen : (data.drop off).length = data.length - off := List.length_drop
  rw [List.length_append] at hshort
  rcases List.append_eq_append_iff.mp hhere with ⟨c, hdrop, hb⟩ | ⟨c, ha, hrest⟩
  · have hc : data.length - off = a.length + c.length := by
      rw [← hlen, hdrop, List.length_append]
    refine .inr ⟨⟨by omega, c, hdrop⟩, by omega, by omega, rest, ?_⟩
    rw [← List.drop_drop, hdrop, drop_append_exact hn]
    exact hb
  · have hc : a.length = data.length - off + c.length := by
      rw [← hlen, ← List.length_append, ← ha]
    by_cases hnil : c = []
    · rw [hnil, List.length_nil] at hc
      rw [hnil, List.append_nil] at ha
      refine .inr ⟨⟨by omega, [], ?_⟩, by omega, by omega, b, ?_⟩
      · rw [ha, List.append_nil]
      · rw [List.drop_eq_nil_of_le (by omega)]
        rfl
    · have hpos := List.length_pos_of_ne_nil hnil
      exact .inl ⟨hinside, by omega, c, ha⟩

/-! ## Reading them -/

section Reads

variable (hdata : data.length < 2 ^ 63)

theorem Stands.rdU16 {v : UInt16} (h : Stands data off (be16 v)) : rdU16 data off false = v := by
  obtain ⟨_, rest, hhere⟩ := h
  exact rdU16_be hhere

theorem Stands.rdU32 {v : UInt32} (h : Stands data off (be32 v)) : rdU32 data off false = v := by
  obtain ⟨_, rest, hhere⟩ := h
  exact rdU32_be hhere

/-- The bytes as a window. -/
theorem Stands.take_eq {n : Nat} (h : Stands data off b) (hn : b.length = n) :
    (data.drop off).take n = b := by
  obtain ⟨_, rest, hhere⟩ := h
  rw [hhere, take_append_exact hn]

theorem Stands.index {v : UInt8} (h : Stands data off [v]) : index data off = .ok v := by
  obtain ⟨hfits, rest, hhere⟩ := h
  have hlt : off < data.length := hfits
  rw [index_ok hlt, getD_of_drop hhere]

include hdata

/-- A word in either byte order. -/
theorem Stands.u16Of {v : UInt16} {le : Bool} (h : Stands data off (wrU16 v le)) :
    u16At data off le = .ok v := by
  obtain ⟨hfits, rest, hhere⟩ := h
  rw [wrU16_length] at hfits
  rw [u16At_ok hdata hfits, rdU16_of_drop hhere]

theorem Stands.u32Of {v : UInt32} {le : Bool} (h : Stands data off (wrU32 v le)) :
    u32At data off le = .ok v := by
  obtain ⟨hfits, rest, hhere⟩ := h
  rw [wrU32_length] at hfits
  rw [u32At_ok hdata hfits, rdU32_of_drop hhere]

theorem Stands.u16At {v : UInt16} (h : Stands data off (be16 v)) :
    u16At data off false = .ok v := h.u16Of hdata

theorem Stands.u32At {v : UInt32} (h : Stands data off (be32 v)) :
    u32At data off false = .ok v := h.u32Of hdata

theorem Stands.arrayAt {n : Nat} {w : Bytes n} (h : Stands data off w.val) :
    arrayAt n data off = .ok w := by
  obtain ⟨hfits, rest, hhere⟩ := h
  rw [w.property] at hfits
  rw [arrayAt_ok hdata hfits, bytesAt_of_drop hhere]

end Reads

end Checked
