/-
  ONE'S COMPLEMENT SUMS: the checksum arithmetic of the Internet protocols.

  A message is a list of big-endian 16-bit words, an odd last byte the high byte of one more.
  `wordSum` adds them up without bound, and `fold` brings a sum back into 16 bits by adding the
  carries, as often as it takes.  What is left is the sum modulo 65535, with the one exception that
  only nothing folds to nothing: a multiple of 65535 folds to 0xFFFF (`fold_eq`).  So a word that
  completes a sum to such a multiple can be found from the rest (`fold_complement`), wherever among
  the words it stands (`wordSum_append`).
-/
import Profinet.Lib.Endian

namespace OnesComplement

open Wire

/-- The words of a message, added up. -/
def wordSum : List UInt8 → Nat
  | [] => 0
  | [a] => a.toNat * 256
  | a :: b :: rest => a.toNat * 256 + b.toNat + wordSum rest

/-- The carries added back, until 16 bits are enough. -/
def fold (n : Nat) : Nat := if 0xFFFF < n then fold (n % 65536 + n / 65536) else n
  termination_by n
  decreasing_by omega

/-! ## Folding -/

theorem fold_le (n : Nat) : fold n ≤ 0xFFFF := by
  induction n using fold.induct with
  | case1 n hcarry ih =>
    rw [fold, if_pos hcarry]
    exact ih
  | case2 n hfits =>
    rw [fold, if_neg hfits]
    omega

/-- A carry weighs 65536, one more than a multiple of 65535. -/
theorem fold_mod (n : Nat) : fold n % 65535 = n % 65535 := by
  induction n using fold.induct with
  | case1 n hcarry ih =>
    rw [fold, if_pos hcarry, ih]
    omega
  | case2 n hfits => rw [fold, if_neg hfits]

/-- Only nothing folds to nothing. -/
theorem fold_pos {n : Nat} (h : 0 < n) : 0 < fold n := by
  induction n using fold.induct with
  | case1 n hcarry ih =>
    rw [fold, if_pos hcarry]
    exact ih (by omega)
  | case2 n hfits =>
    rw [fold, if_neg hfits]
    exact h

theorem fold_eq {n : Nat} (h : 0 < n) : fold n = (n - 1) % 65535 + 1 := by
  have hle := fold_le n
  have hmod := fold_mod n
  have hpos := fold_pos h
  omega

/-- **The complement completes a sum.** -/
theorem fold_complement (n : Nat) : fold (n + (0xFFFF - fold n)) = 0xFFFF := by
  have hle := fold_le n
  have hmod := fold_mod n
  have hzero : fold 0 = 0 := by rw [fold, if_neg (by omega)]
  rcases Nat.eq_zero_or_pos n with rfl | hpos
  · rw [hzero, fold_eq (by omega)]
  · rw [fold_eq (by omega)]
    omega

/-- A sum that folds to all ones does so with 0xFFFF more, too. -/
theorem fold_ones {n : Nat} (h : fold n = 0xFFFF) : fold (n + 0xFFFF) = 0xFFFF := by
  have hmod := fold_mod n
  rw [fold_eq (by omega)]
  omega

/-! ## Sums of words -/

/-- Words can be added up in parts, as long as the first part ends on a word. -/
theorem wordSum_append (a b : List UInt8) (h : a.length % 2 = 0) :
    wordSum (a ++ b) = wordSum a + wordSum b := by
  induction a using wordSum.induct with
  | case1 => exact (Nat.zero_add _).symm
  | case2 x =>
    rw [List.length_singleton] at h
    omega
  | case3 x y rest ih =>
    have hrest : rest.length % 2 = 0 := by
      rw [List.length_cons, List.length_cons] at h
      omega
    show x.toNat * 256 + y.toNat + wordSum (rest ++ b) = _
    rw [ih hrest, wordSum, Nat.add_assoc _ (wordSum rest)]

theorem ofBe16_toNat (a b : UInt8) : (ofBe16 a b).toNat = a.toNat * 256 + b.toNat := by
  have ha := a.toNat_lt
  have hb := b.toNat_lt
  exact UInt16.toNat_ofNat_of_lt' (by unfold UInt16.size; omega)

theorem wordSum_be16 (v : UInt16) : wordSum (be16 v) = v.toNat := by
  have hread := congrArg UInt16.toNat (ofBe16_be16 v)
  rw [ofBe16_toNat] at hread
  rw [be16, wordSum, wordSum, Nat.add_zero, hread]

/-- Every word is at most 0xFFFF. -/
theorem wordSum_le (data : List UInt8) : wordSum data ≤ 0xFFFF * ((data.length + 1) / 2) := by
  induction data using wordSum.induct with
  | case1 => exact Nat.le_refl _
  | case2 a =>
    have ha := a.toNat_lt
    rw [wordSum, List.length_singleton]
    omega
  | case3 a b rest ih =>
    have ha := a.toNat_lt
    have hb := b.toNat_lt
    rw [wordSum, List.length_cons, List.length_cons]
    omega

end OnesComplement
