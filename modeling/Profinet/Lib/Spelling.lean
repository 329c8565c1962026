/-
  SPELLING: the one text of a number.

  A numeral may have zeros in front, and its hexadecimal letters either case.  What has neither is
  one text for each number: the decimal digits without a leading zero (`eq_toDigits`), and two
  hexadecimal digits in lower case (`toLower_pair`).
-/
import Mathlib.Data.List.Induction
import Profinet.Lib.Text

namespace Text

/-! ## Lower case -/

theorem toNat_toLower (c : Char) :
    c.toLower.toNat = if 65 ≤ c.toNat ∧ c.toNat ≤ 90 then c.toNat + 32 else c.toNat := by
  have hup : (c.val ≥ 'A'.val ∧ c.val ≤ 'Z'.val) ↔ 65 ≤ c.toNat ∧ c.toNat ≤ 90 := by
    rw [ge_iff_le, UInt32.le_iff_toNat_le, UInt32.le_iff_toNat_le]
    exact Iff.rfl
  by_cases h : c.val ≥ 'A'.val ∧ c.val ≤ 'Z'.val
  · have hle : c.val.toNat ≤ 90 := (hup.mp h).2
    have hlower : c.toLower.val = c.val + 32 := congrArg Char.val (dif_pos h)
    rw [if_pos (hup.mp h)]
    show c.toLower.val.toNat = c.val.toNat + 32
    rw [hlower, UInt32.toNat_add]
    show (c.val.toNat + 32) % 2 ^ 32 = _
    omega
  · have hsame : c.toLower = c := dif_neg h
    rw [if_neg (fun h' => h (hup.mpr h')), hsame]

theorem toLower_toLower (c : Char) : c.toLower.toLower = c.toLower := by
  rw [← Char.toNat_inj, toNat_toLower, toNat_toLower]
  split_ifs <;> omega

theorem toNat_digitChar {x : Nat} (h : x < 16) :
    (Nat.digitChar x).toNat = if x < 10 then 48 + x else 87 + x := by
  have hall : ∀ x : Fin 16,
      (Nat.digitChar x.val).toNat = if x.val < 10 then 48 + x.val else 87 + x.val := by decide
  exact hall ⟨x, h⟩

/-- A digit in either case is the one of its value, in lower case. -/
theorem toLower_eq_digitChar {c : Char} {x : Nat} (hx : x < 16) :
    c.toLower = Nat.digitChar x ↔ digitValue 16 c = some x := by
  have hlow := toNat_toLower c
  have hdigit := toNat_digitChar hx
  rw [digitValue_eq_some, ← Char.toNat_inj, hlow, hdigit]
  split_ifs <;> omega

/-- A decimal digit is the one of its value. -/
theorem eq_digitChar {c : Char} {x : Nat} (hc : digitValue 10 c = some x) :
    c = Nat.digitChar x := by
  obtain ⟨hx, hrange⟩ := digitValue_eq_some.mp hc
  rw [← Char.toNat_inj, toNat_digitChar (by omega), if_pos hx]
  omega

/-! ## Two hexadecimal digits -/

theorem numeral_pair {c d : Char} {x y : Nat} (hc : digitValue 16 c = some x)
    (hd : digitValue 16 d = some y) : Numeral 16 (x * 16 + y) [c, d] := by
  refine ⟨List.cons_ne_nil _ _, [x, y], ?_, ?_⟩
  · show [digitValue 16 c, digitValue 16 d] = _
    rw [hc, hd]
    rfl
  · show (0 * 16 + x) * 16 + y = x * 16 + y
    omega

/-- Two digits spell the number whose high and low digit they are. -/
theorem toLower_pair {n : Nat} (hn : n < 256) {s : List Char} :
    s.map Char.toLower = [Nat.digitChar (n / 16), Nat.digitChar (n % 16)]
      ↔ s.length = 2 ∧ Numeral 16 n s := by
  constructor
  · intro h
    obtain ⟨c, rest, rfl, hc, hrest⟩ := List.map_eq_cons_iff.mp h
    obtain ⟨d, rest, rfl, hd, hnil⟩ := List.map_eq_cons_iff.mp hrest
    obtain rfl := List.map_eq_nil_iff.mp hnil
    have hnum := numeral_pair ((toLower_eq_digitChar (by omega)).mp hc)
      ((toLower_eq_digitChar (Nat.mod_lt n (by decide))).mp hd)
    rw [Nat.div_add_mod'] at hnum
    exact ⟨rfl, hnum⟩
  · rintro ⟨hlen, -, ds, hds, hvalue⟩
    obtain ⟨c, d, rfl⟩ := List.length_eq_two.mp hlen
    obtain ⟨x, y, rfl⟩ : ∃ x y, ds = [x, y] := by
      refine List.length_eq_two.mp ?_
      rw [← List.length_map (f := some), ← hds]
      rfl
    injection hds with hc hds
    injection hds with hd _
    have hx := digitValue_lt hc
    have hy := digitValue_lt hd
    have hn' : (0 * 16 + x) * 16 + y = n := hvalue
    have hhigh : n / 16 = x := by omega
    have hlow : n % 16 = y := by omega
    rw [hhigh, hlow]
    show [c.toLower, d.toLower] = _
    rw [(toLower_eq_digitChar hx).mpr hc, (toLower_eq_digitChar hy).mpr hd]

/-! ## Decimal digits -/

/-- **A numeral without a leading zero is the decimal text of its number.** -/
theorem eq_toDigits {n : Nat} {s : List Char} (h : Numeral 10 n s)
    (hzero : s.length ≤ 1 ∨ s.head? ≠ some '0') : s = Nat.toDigits 10 n := by
  induction s using List.reverseRecOn generalizing n with
  | nil => exact absurd rfl h.nonempty
  | append_singleton t c ih =>
    obtain ⟨-, ds, hds, hvalue⟩ := h
    rw [List.map_append] at hds
    obtain ⟨front, last, rfl, hfront, hlast⟩ := List.map_eq_append_iff.mp hds.symm
    obtain ⟨x, rfl, hx⟩ := List.map_eq_singleton_iff.mp hlast
    have hc : digitValue 10 c = some x := hx.symm
    have hlt := digitValue_lt hc
    have hn : ofDigits 10 0 front * 10 + x = n := by
      unfold ofDigits at hvalue ⊢
      rw [List.foldl_append] at hvalue
      exact hvalue
    obtain rfl := eq_digitChar hc
    by_cases ht : t = []
    · obtain rfl := ht
      obtain rfl : front = [] := List.map_eq_nil_iff.mp hfront
      have hone : x = n := by
        have hzero' : ofDigits 10 0 [] = 0 := rfl
        omega
      rw [← hone, Nat.toDigits_of_lt_base hlt]
      rfl
    · have hnum : Numeral 10 (ofDigits 10 0 front) t := ⟨ht, front, hfront.symm, rfl⟩
      have hhead : t.head? ≠ some '0' := by
        rcases hzero with hshort | hhead
        · have hpos := List.length_pos_iff.mpr ht
          rw [List.length_append, List.length_singleton] at hshort
          omega
        · rwa [List.head?_append_of_ne_nil _ ht] at hhead
      have hrec := ih hnum (.inr hhead)
      -- digits that do not begin with a zero do not make zero
      have hpos : 0 < ofDigits 10 0 front := by
        rcases Nat.eq_zero_or_pos (ofDigits 10 0 front) with hz | hpos
        · rw [hz] at hrec
          rw [hrec] at hhead
          exact absurd rfl hhead
        · exact hpos
      have hdiv : n / 10 = ofDigits 10 0 front := by omega
      have hmod : n % 10 = x := by omega
      rw [Nat.toDigits_of_base_le (by decide) (by omega), hdiv, hmod, ← hrec]

/-- The decimal text of a number has no leading zero. -/
theorem head_toDigits {n : Nat} (h : 0 < n) : (Nat.toDigits 10 n).head? ≠ some '0' := by
  by_cases hsmall : n < 10
  · rw [Nat.toDigits_of_lt_base hsmall]
    intro hhead
    have hzero : Nat.digitChar n = Nat.digitChar 0 := Option.some.inj hhead
    have hnat := congrArg Char.toNat hzero
    rw [toNat_digitChar (by omega), toNat_digitChar (by decide), if_pos hsmall,
      if_pos (by decide)] at hnat
    omega
  · have hless : 0 < n / 10 := by omega
    have hne : Nat.toDigits 10 (n / 10) ≠ [] :=
      (numeral_toDigits (by decide) (by decide) (n / 10)).nonempty
    rw [Nat.toDigits_of_base_le (by decide) (by omega), List.head?_append_of_ne_nil _ hne]
    exact head_toDigits hless

end Text
