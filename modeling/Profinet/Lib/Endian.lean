/-
  WORDS IN EITHER BYTE ORDER, read at an offset.

  Where the sender of a record chooses the byte order, a field is read at a fixed offset with the
  order as an argument.  `rdU16` and `rdU32` are these reads, of bytes that may be anything;
  `wrU16` and `wrU32` write a word.  The rules say which bytes a read looks at: those from its
  offset on (`rdU16_drop`), and no more than its own width (`rdU16_append`).  `Bytes n` is an array
  of `n` bytes, `bytesAt` the one at an offset.
-/
import Profinet.Lib.Wire

namespace Wire

/-- The two bytes at `off` as a word. -/
def rdU16 (data : List UInt8) (off : Nat) (le : Bool) : UInt16 :=
  let a := data.getD off 0
  let b := data.getD (off + 1) 0
  if le then ofBe16 b a else ofBe16 a b

/-- The four bytes at `off` as a word. -/
def rdU32 (data : List UInt8) (off : Nat) (le : Bool) : UInt32 :=
  let a := data.getD off 0
  let b := data.getD (off + 1) 0
  let c := data.getD (off + 2) 0
  let d := data.getD (off + 3) 0
  if le then ofBe32 d c b a else ofBe32 a b c d

/-- A 16-bit value in the given byte order. -/
def wrU16 (v : UInt16) (le : Bool) : List UInt8 := if le then (be16 v).reverse else be16 v

/-- A 32-bit value in the given byte order. -/
def wrU32 (v : UInt32) (le : Bool) : List UInt8 := if le then (be32 v).reverse else be32 v

@[simp] theorem wrU16_length (v : UInt16) (le : Bool) : (wrU16 v le).length = 2 := by
  cases le <;> rfl

@[simp] theorem wrU32_length (v : UInt32) (le : Bool) : (wrU32 v le).length = 4 := by
  cases le <;> rfl

/-- A byte array of fixed size. -/
abbrev Bytes (n : Nat) := { b : List UInt8 // b.length = n }

/-- The `n` bytes at `off` as an array. -/
def bytesAt (n : Nat) (data : List UInt8) (off : Nat) : Bytes n :=
  ⟨(List.range n).map fun i => data.getD (off + i) 0, by rw [List.length_map, List.length_range]⟩

/-! ## A read looks at its own bytes -/

theorem rdU16_drop (data : List UInt8) (n off : Nat) (le : Bool) :
    rdU16 (data.drop n) off le = rdU16 data (n + off) le := by
  simp only [rdU16, List.getD_eq_getElem?_getD, List.getElem?_drop, Nat.add_assoc]

theorem rdU32_drop (data : List UInt8) (n off : Nat) (le : Bool) :
    rdU32 (data.drop n) off le = rdU32 data (n + off) le := by
  simp only [rdU32, List.getD_eq_getElem?_getD, List.getElem?_drop, Nat.add_assoc]

theorem getD_append_lt {a : List UInt8} {i : Nat} (h : i < a.length) (b : List UInt8) :
    (a ++ b).getD i 0 = a.getD i 0 := by
  rw [List.getD_eq_getElem?_getD, List.getD_eq_getElem?_getD, List.getElem?_append_left h]

theorem rdU16_append {a : List UInt8} {off : Nat} (h : off + 2 ≤ a.length) (b : List UInt8)
    (le : Bool) : rdU16 (a ++ b) off le = rdU16 a off le := by
  unfold rdU16
  rw [getD_append_lt (by omega), getD_append_lt (by omega)]

theorem rdU32_append {a : List UInt8} {off : Nat} (h : off + 4 ≤ a.length) (b : List UInt8)
    (le : Bool) : rdU32 (a ++ b) off le = rdU32 a off le := by
  unfold rdU32
  rw [getD_append_lt (by omega), getD_append_lt (by omega), getD_append_lt (by omega),
    getD_append_lt (by omega)]

/-- A read inside a prefix. -/
theorem rdU16_take {data : List UInt8} {n off : Nat} (h : off + 2 ≤ n) (hn : n ≤ data.length)
    (le : Bool) : rdU16 (data.take n) off le = rdU16 data off le := by
  have hlen : off + 2 ≤ (data.take n).length := by
    rw [List.length_take]
    omega
  have hread := rdU16_append hlen (data.drop n) le
  rw [List.take_append_drop] at hread
  exact hread.symm

theorem rdU32_take {data : List UInt8} {n off : Nat} (h : off + 4 ≤ n) (hn : n ≤ data.length)
    (le : Bool) : rdU32 (data.take n) off le = rdU32 data off le := by
  have hlen : off + 4 ≤ (data.take n).length := by
    rw [List.length_take]
    omega
  have hread := rdU32_append hlen (data.drop n) le
  rw [List.take_append_drop] at hread
  exact hread.symm

/-- A word is read half by half. -/
theorem rdU32_words (data : List UInt8) (off : Nat) :
    (rdU32 data off false).toNat
      = (rdU16 data off false).toNat * 65536 + (rdU16 data (off + 2) false).toNat := by
  have hbyte (i : Nat) := (data.getD i 0).toNat_lt
  have h0 := hbyte off
  have h1 := hbyte (off + 1)
  have h2 := hbyte (off + 2)
  have h3 := hbyte (off + 3)
  have hnext : off + 2 + 1 = off + 3 := rfl
  show (ofBe32 _ _ _ _).toNat = (ofBe16 _ _).toNat * 65536 + (ofBe16 _ _).toNat
  rw [ofBe32, ofBe16, ofBe16, UInt32.toNat_ofNat', UInt16.toNat_ofNat', UInt16.toNat_ofNat', hnext]
  omega

theorem rdU32_ofWords (data : List UInt8) (off : Nat) :
    rdU32 data off false = ofWords (rdU16 data off false) (rdU16 data (off + 2) false) := by
  apply UInt32.toNat_inj.mp
  rw [rdU32_words, ofWords_toNat]

/-! ## What was written is read -/

theorem rdU16_wrU16 (v : UInt16) (le : Bool) : rdU16 (wrU16 v le) 0 le = v := by
  cases le with
  | true => exact ofBe16_be16 v
  | false => exact ofBe16_be16 v

theorem rdU32_wrU32 (v : UInt32) (le : Bool) : rdU32 (wrU32 v le) 0 le = v := by
  cases le with
  | true => exact ofBe32_be32 v
  | false => exact ofBe32_be32 v

/-- A word written at `off` is read there. -/
theorem rdU16_of_drop {data rest : List UInt8} {off : Nat} {v : UInt16} {le : Bool}
    (h : data.drop off = wrU16 v le ++ rest) : rdU16 data off le = v := by
  have hread := rdU16_drop data off 0 le
  rw [h, rdU16_append (Nat.le_of_eq (wrU16_length v le).symm), rdU16_wrU16] at hread
  exact hread.symm

theorem rdU32_of_drop {data rest : List UInt8} {off : Nat} {v : UInt32} {le : Bool}
    (h : data.drop off = wrU32 v le ++ rest) : rdU32 data off le = v := by
  have hread := rdU32_drop data off 0 le
  rw [h, rdU32_append (Nat.le_of_eq (wrU32_length v le).symm), rdU32_wrU32] at hread
  exact hread.symm

/-- The same for the words of a record that is always big-endian. -/
theorem rdU16_be {data rest : List UInt8} {off : Nat} {v : UInt16}
    (h : data.drop off = be16 v ++ rest) : rdU16 data off false = v :=
  @rdU16_of_drop data rest off v false h

theorem rdU32_be {data rest : List UInt8} {off : Nat} {v : UInt32}
    (h : data.drop off = be32 v ++ rest) : rdU32 data off false = v :=
  @rdU32_of_drop data rest off v false h

/-- An array written at `off` is read there. -/
theorem bytesAt_of_drop {n : Nat} {data rest : List UInt8} {off : Nat} {w : Bytes n}
    (h : data.drop off = w.val ++ rest) : bytesAt n data off = w := by
  have hbyte (i : Nat) (hi : i < w.val.length) : data.getD (off + i) 0 = w.val[i] := by
    rw [List.getD_eq_getElem?_getD, ← List.getElem?_drop, h, List.getElem?_append_left hi,
      List.getElem?_eq_getElem hi]
    rfl
  apply Subtype.ext
  apply List.ext_getElem
  · rw [(bytesAt n data off).property, w.property]
  · intro i hi hw
    simp only [bytesAt, List.getElem_map, List.getElem_range]
    exact hbyte i hw

/-- The bytes of a word that is read. -/
theorem wrU16_rdU16 (data : List UInt8) (off : Nat) (le : Bool) :
    wrU16 (rdU16 data off le) le = (bytesAt 2 data off).val := by
  cases le with
  | true =>
    show (be16 (ofBe16 _ _)).reverse = _
    rw [be16_ofBe16]
    rfl
  | false => exact be16_ofBe16 _ _

theorem wrU32_rdU32 (data : List UInt8) (off : Nat) (le : Bool) :
    wrU32 (rdU32 data off le) le = (bytesAt 4 data off).val := by
  cases le with
  | true =>
    show (be32 (ofBe32 _ _ _ _)).reverse = _
    rw [be32_ofBe32]
    rfl
  | false => exact be32_ofBe32 _ _ _ _

/-- Two arrays side by side are one. -/
theorem bytesAt_add (m n : Nat) (data : List UInt8) (off : Nat) :
    (bytesAt (m + n) data off).val = (bytesAt m data off).val ++ (bytesAt n data (off + m)).val := by
  unfold bytesAt
  simp only
  rw [List.range_add, List.map_append, List.map_map]
  congr 2
  funext i
  show data.getD (off + (m + i)) 0 = data.getD (off + m + i) 0
  rw [Nat.add_assoc]

/-- A byte written at `off` is read there. -/
theorem getD_of_drop {data rest : List UInt8} {off : Nat} {b : UInt8}
    (h : data.drop off = b :: rest) : data.getD off 0 = b := by
  have hread := congrArg (fun l => l[0]?) h
  simp only [List.getElem?_drop, Nat.add_zero, List.getElem?_cons_zero] at hread
  rw [List.getD_eq_getElem?_getD, hread]
  rfl

/-- The bytes behind a field of known length. -/
theorem drop_append_exact {a : List UInt8} {n : Nat} (h : a.length = n) (b : List UInt8) :
    (a ++ b).drop n = b := by
  rw [← h, List.drop_left]

/-- The bytes behind a field that starts at `off`. -/
theorem drop_field {data a b : List UInt8} {off n : Nat} (h : data.drop off = a ++ b)
    (ha : a.length = n) : data.drop (off + n) = b := by
  rw [← List.drop_drop, h, drop_append_exact ha]

/-- A field of known length. -/
theorem take_append_exact {a : List UInt8} {n : Nat} (h : a.length = n) (b : List UInt8) :
    (a ++ b).take n = a := by
  rw [← h, List.take_left]

end Wire
