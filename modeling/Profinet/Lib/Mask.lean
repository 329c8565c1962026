/-
  MASK: a byte as a set of bits.

      Clear b m     no bit of `m` is set in `b`
      Covers b m    every bit of `m` is set in `b`

  A byte is assembled by or-ing masks into it; the lemmas say which bits such a byte can have.
  That `b` has no bit outside `m` is `Clear b (~~~m)`.
-/
import Mathlib.Data.List.Basic

namespace Mask

/-- No bit of `m` is set in `b`. -/
def Clear (b m : UInt8) : Prop := b &&& m = 0

/-- Every bit of `m` is set in `b`. -/
def Covers (b m : UInt8) : Prop := b &&& m = m

instance (b m : UInt8) : Decidable (Clear b m) := inferInstanceAs (Decidable (b &&& m = 0))

instance (b m : UInt8) : Decidable (Covers b m) := inferInstanceAs (Decidable (b &&& m = m))

theorem or_and (a b m : UInt8) : (a ||| b) &&& m = (a &&& m) ||| (b &&& m) := by
  apply UInt8.toBitVec_inj.1
  ext i hi
  simp [Bool.and_or_distrib_right]

@[simp] theorem zero_clear (m : UInt8) : Clear 0 m := UInt8.zero_and

@[simp] theorem clear_zero (b : UInt8) : Clear b 0 := UInt8.and_zero

theorem clear_or {a b m : UInt8} : Clear (a ||| b) m ↔ Clear a m ∧ Clear b m := by
  unfold Clear
  rw [or_and, UInt8.or_eq_zero_iff]

/-- Taking bits away clears no less. -/
theorem Clear.and {a m : UInt8} (h : Clear a m) (b : UInt8) : Clear (a &&& b) m := by
  unfold Clear at h ⊢
  rw [UInt8.and_assoc, UInt8.and_comm b m, ← UInt8.and_assoc, h, UInt8.zero_and]

theorem covers_self (m : UInt8) : Covers m m := UInt8.and_self

theorem Covers.or_left {a m : UInt8} (h : Covers a m) (b : UInt8) : Covers (a ||| b) m := by
  unfold Covers at h ⊢
  rw [or_and, h]
  apply UInt8.toBitVec_inj.1
  ext i hi
  simp

theorem Covers.or_right {b m : UInt8} (h : Covers b m) (a : UInt8) : Covers (a ||| b) m := by
  rw [UInt8.or_comm]
  exact h.or_left a

/-- A mask with a bit in it is not both covered and clear. -/
theorem Covers.not_clear {b m : UInt8} (h : Covers b m) (hm : m ≠ 0) : ¬ Clear b m :=
  fun hclear => hm (h.symm.trans hclear)

/-- The byte with bit `i` set. -/
def bit (i : Fin 8) : UInt8 := ⟨BitVec.twoPow 8 i⟩

theorem clear_bit {b : UInt8} {i : Fin 8} : Clear b (bit i) ↔ b.toBitVec.getLsbD i = false := by
  unfold Clear
  rw [← UInt8.toBitVec_inj]
  show b.toBitVec &&& BitVec.twoPow 8 i = 0#8 ↔ _
  rw [BitVec.and_twoPow]
  cases b.toBitVec.getLsbD i with
  | false => simp
  | true =>
    have hne : BitVec.twoPow 8 i ≠ 0#8 := by
      revert i
      decide
    simpa using hne

/-- Two masks overlap in a bit. -/
theorem overlap_iff {a b : UInt8} :
    ¬ Clear a b ↔ ∃ i : Fin 8, ¬ Clear a (bit i) ∧ ¬ Clear b (bit i) := by
  simp only [clear_bit, Bool.not_eq_false]
  constructor
  · intro h
    by_contra hnone
    apply h
    unfold Clear
    rw [← UInt8.toBitVec_inj]
    apply BitVec.eq_of_getLsbD_eq
    intro i hi
    show (a.toBitVec &&& b.toBitVec).getLsbD i = _
    rw [BitVec.getLsbD_and]
    by_contra hset
    simp only [UInt8.toBitVec_zero, BitVec.getLsbD_zero, Bool.not_eq_false,
      Bool.and_eq_true] at hset
    exact hnone ⟨⟨i, hi⟩, hset⟩
  · rintro ⟨i, ha, hb⟩ hclear
    have hbit : (a.toBitVec &&& b.toBitVec).getLsbD i = true := by
      rw [BitVec.getLsbD_and, ha, hb]
      rfl
    have hzero : a.toBitVec &&& b.toBitVec = 0#8 := UInt8.toBitVec_inj.mpr hclear
    rw [hzero] at hbit
    simp at hbit

/-! ## Or-ing a list of masks into a byte -/

/-- `b` with every mask of the list or-ed into it. -/
def union (b : UInt8) (ms : List UInt8) : UInt8 := ms.foldl (· ||| ·) b

theorem clear_union {m : UInt8} :
    ∀ {ms : List UInt8} {b : UInt8}, Clear (union b ms) m ↔ Clear b m ∧ ∀ x ∈ ms, Clear x m
  | [], b => by simp [union]
  | y :: ms, b => by
      show Clear (union (b ||| y) ms) m ↔ _
      rw [clear_union, clear_or, List.forall_mem_cons, and_assoc]

theorem Covers.union {m : UInt8} (ms : List UInt8) :
    ∀ {b : UInt8}, Covers b m → Covers (union b ms) m := by
  induction ms with
  | nil => exact fun h => h
  | cons y ms ih => exact fun h => ih (h.or_left y)

theorem covers_union {m : UInt8} {ms : List UInt8} (b : UInt8) (h : m ∈ ms) :
    Covers (union b ms) m := by
  induction ms generalizing b with
  | nil => cases h
  | cons y ms ih =>
    rcases List.mem_cons.mp h with rfl | hrest
    · exact ((covers_self m).or_right b).union ms
    · exact ih (b ||| y) hrest

/-! ## Flags in a word -/

/-- The word with bit `i` set. -/
def wordBit (i : Fin 16) : UInt16 := ⟨BitVec.twoPow 16 i⟩

/-- Bit `i` of a word. -/
def hasBit (w : UInt16) (i : Fin 16) : Bool := w.toNat.testBit i

theorem and_wordBit (w : UInt16) (i : Fin 16) :
    w &&& wordBit i = if hasBit w i then wordBit i else 0 := by
  have hbits : w.toBitVec &&& BitVec.twoPow 16 i
      = if hasBit w i then BitVec.twoPow 16 i else 0 := BitVec.and_twoPow _ _
  apply UInt16.toBitVec_inj.1
  rw [UInt16.toBitVec_and]
  show w.toBitVec &&& BitVec.twoPow 16 i = _
  rw [hbits]
  cases hasBit w i with
  | true => rfl
  | false => rfl

theorem wordBit_ne_zero (i : Fin 16) : wordBit i ≠ 0 := by
  revert i
  decide

/-- A flag that is tested with its mask. -/
theorem and_wordBit_ne_zero (w : UInt16) (i : Fin 16) :
    decide (w &&& wordBit i ≠ 0) = hasBit w i := by
  rw [and_wordBit]
  cases hasBit w i with
  | true => exact decide_eq_true (wordBit_ne_zero i)
  | false => rfl

/-- The low bits of a word, under a mask of ones. -/
theorem and_low (w : UInt16) : w &&& 0x07FF = UInt16.ofNat (w.toNat % 2048) := by
  apply UInt16.toNat_inj.mp
  rw [UInt16.toNat_and, UInt16.toNat_ofNat']
  show w.toNat &&& 2 ^ 11 - 1 = _
  rw [Nat.and_two_pow_sub_one_eq_mod]
  omega

theorem word_and_or (w a b : UInt16) : (w &&& a) ||| (w &&& b) = w &&& (a ||| b) := by
  apply UInt16.toBitVec_inj.1
  ext i hi
  simp [Bool.and_or_distrib_left]

end Mask
