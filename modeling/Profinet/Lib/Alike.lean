/-
  TWO COMPUTATIONS SIDE BY SIDE.

  `Alike R x y` relates two computations that may abort: both abort, for the same reason, or both
  return, and what they return is related by `R`.  The rules follow two computations step by step
  through the operations of `Checked`, the way `Returns` follows one:

      bind, ite        related values go on alike; both take the same branch
      add, sub         both sums are in range; the offsets may differ
      index, u16At     the bytes read are the same, or missing on both sides
      slice, sliceFrom the bytes behind the two offsets are the same

  With equality for `R` the two computations are the same (`alike_eq`).
-/
import Profinet.Lib.Checked

namespace Checked

variable {α α' β β' : Type}

/-- The two computations end alike. -/
def Alike (R : α → α' → Prop) : Comp α → Comp α' → Prop
  | .ok a, .ok b => R a b
  | .error p, .error q => p = q
  | _, _ => False

theorem Alike.refl {R : α → α → Prop} (hR : ∀ a, R a a) (x : Comp α) : Alike R x x := by
  cases x with
  | ok a => exact hR a
  | error p => exact rfl

theorem alike_eq {x y : Comp α} : Alike Eq x y ↔ x = y := by
  constructor
  · intro h
    rcases x with p | a
    · rcases y with q | b
      · exact congrArg Except.error h
      · exact h.elim
    · rcases y with q | b
      · exact h.elim
      · exact congrArg Except.ok h
  · rintro rfl
    exact .refl (fun _ => rfl) x

/-- Related values go on alike. -/
theorem Alike.bind {R : α → α' → Prop} {S : β → β' → Prop} {x : Comp α} {y : Comp α'}
    {f : α → Comp β} {g : α' → Comp β'} (h : Alike R x y) (hf : ∀ a b, R a b → Alike S (f a) (g b)) :
    Alike S (x >>= f) (y >>= g) := by
  rcases x with p | a
  · rcases y with q | b
    · exact h
    · exact h.elim
  · rcases y with q | b
    · exact h.elim
    · exact hf a b h

/-- Both take the same branch. -/
theorem Alike.ite {R : α → α' → Prop} {c c' : Prop} [Decidable c] [Decidable c']
    {x y : Comp α} {x' y' : Comp α'} (hc : c ↔ c') (hx : c → Alike R x x')
    (hy : ¬ c → Alike R y y') : Alike R (if c then x else y) (if c' then x' else y') := by
  by_cases h : c
  · rw [if_pos h, if_pos (hc.mp h)]
    exact hx h
  · rw [if_neg h, if_neg fun h' => h (hc.mpr h')]
    exact hy h

/-- What two computations show of their results is the same if they end alike in it. -/
theorem Alike.map_eq {f : α → β} {g : α' → β} {x : Comp α} {y : Comp α'}
    (h : Alike (fun a b => f a = g b) x y) : x.map f = y.map g := by
  rcases x with p | a
  · rcases y with q | b
    · exact congrArg Except.error h
    · exact h.elim
  · rcases y with q | b
    · exact h.elim
    · exact congrArg Except.ok h

section Steps

variable {data data' : List UInt8} {R : β → β' → Prop}

theorem Alike.add {a b a' b' : Nat} {f : Sum a b → Comp β} {g : Sum a' b' → Comp β'}
    (h : a + b < 2 ^ 64) (h' : a' + b' < 2 ^ 64)
    (hf : ∀ (n : Sum a b) (n' : Sum a' b'), (n : Nat) = a + b → (n' : Nat) = a' + b' →
      Alike R (f n) (g n')) :
    Alike R (Checked.add a b >>= f) (Checked.add a' b' >>= g) := by
  rw [add_ok h, add_ok h']
  exact hf _ _ rfl rfl

theorem Alike.sub {a b a' b' : Nat} {f : { n : Nat // n = a - b } → Comp β}
    {g : { n : Nat // n = a' - b' } → Comp β'} (h : b ≤ a) (h' : b' ≤ a')
    (hf : ∀ (n : { n : Nat // n = a - b }) (n' : { n : Nat // n = a' - b' }),
      (n : Nat) = a - b → (n' : Nat) = a' - b' → Alike R (f n) (g n')) :
    Alike R (Checked.sub a b >>= f) (Checked.sub a' b' >>= g) := by
  rw [sub_ok h, sub_ok h']
  exact hf _ _ rfl rfl

theorem index_eq_getElem? (data : List UInt8) (i : Nat) :
    Checked.index data i = (match data[i]? with | some b => .ok b | none => .error .index) := by
  unfold Checked.index
  by_cases h : i < data.length
  · rw [if_pos h, List.getElem?_eq_getElem h, List.getD_eq_getElem?_getD,
      List.getElem?_eq_getElem h]
    rfl
  · rw [if_neg h, List.getElem?_eq_none (by omega)]

/-- The bytes at the two places are the same, or both are missing. -/
theorem index_congr {i i' : Nat} (h : data[i]? = data'[i']?) :
    Checked.index data i = Checked.index data' i' := by
  rw [index_eq_getElem?, index_eq_getElem?, h]

theorem Alike.index {i i' : Nat} {f : UInt8 → Comp β} {g : UInt8 → Comp β'}
    (h : data[i]? = data'[i']?) (hf : ∀ b, Alike R (f b) (g b)) :
    Alike R (Checked.index data i >>= f) (Checked.index data' i' >>= g) := by
  rw [index_congr h]
  refine (Alike.refl (R := Eq) (fun _ => rfl) _).bind ?_
  rintro a b rfl
  exact hf a

theorem Alike.u16At {off off' : Nat} {le : Bool} {f : UInt16 → Comp β} {g : UInt16 → Comp β'}
    (hoff : off + 1 < 2 ^ 64) (hoff' : off' + 1 < 2 ^ 64) (h : data[off]? = data'[off']?)
    (h' : data[off + 1]? = data'[off' + 1]?)
    (hf : ∀ v, Alike R (f v) (g v)) :
    Alike R (Checked.u16At data off le >>= f) (Checked.u16At data' off' le >>= g) := by
  have hsame : Checked.u16At data off le = Checked.u16At data' off' le := by
    unfold Checked.u16At
    rw [add_ok hoff, add_ok hoff']
    simp only [ok_bind]
    rw [index_congr h, index_congr h']
  rw [hsame]
  refine (Alike.refl (R := Eq) (fun _ => rfl) _).bind ?_
  rintro a b rfl
  exact hf a

theorem Alike.slice {i j i' j' : Nat} {f : Window data i j → Comp β}
    {g : Window data' i' j' → Comp β'} (hij : i ≤ j) (hij' : i' ≤ j') (hlen : j - i = j' - i')
    (hi : i ≤ data.length) (hi' : i' ≤ data'.length) (h : data.drop i = data'.drop i')
    (hf : ∀ (w : Window data i j) (w' : Window data' i' j'), w.val = w'.val → Alike R (f w) (g w')) :
    Alike R (Checked.slice data i j >>= f) (Checked.slice data' i' j' >>= g) := by
  have hrest := congrArg List.length h
  rw [List.length_drop, List.length_drop] at hrest
  by_cases hj : j ≤ data.length
  · rw [slice_ok hij hj, slice_ok hij' (by omega)]
    apply hf
    show (data.drop i).take (j - i) = (data'.drop i').take (j' - i')
    rw [h, hlen]
  · have hout : ¬ (i ≤ j ∧ j ≤ data.length) := by omega
    have hout' : ¬ (i' ≤ j' ∧ j' ≤ data'.length) := by omega
    unfold Checked.slice
    rw [if_neg hout, if_neg hout']
    exact rfl

theorem Alike.sliceFrom {i i' : Nat} {f : { w : List UInt8 // w = data.drop i } → Comp β}
    {g : { w : List UInt8 // w = data'.drop i' } → Comp β'}
    (hi : i ≤ data.length) (hi' : i' ≤ data'.length) (h : data.drop i = data'.drop i')
    (hf : ∀ (w : { w : List UInt8 // w = data.drop i })
      (w' : { w : List UInt8 // w = data'.drop i' }), w.val = w'.val → Alike R (f w) (g w')) :
    Alike R (Checked.sliceFrom data i >>= f) (Checked.sliceFrom data' i' >>= g) := by
  rw [sliceFrom_ok hi, sliceFrom_ok hi']
  exact hf _ _ h

/-- From `base` on, the second data stand in the first as well, `n` bytes further back. -/
def Shifted (base n : Nat) (data data' : List UInt8) : Prop :=
  ∀ off, base ≤ off → data.drop (off + n) = data'.drop off

variable {base n : Nat}

theorem Shifted.getElem? (h : Shifted base n data data') {off off' : Nat} (hbase : base ≤ off')
    (hoff : off = off' + n) : data[off]? = data'[off']? := by
  have hdrop := congrArg (fun l => l[0]?) (h off' hbase)
  simp only [List.getElem?_drop, Nat.add_zero] at hdrop
  rw [hoff]
  exact hdrop

theorem Shifted.index (h : Shifted base n data data') {i i' : Nat} (hbase : base ≤ i')
    (hi : i = i' + n) {f : UInt8 → Comp β} {g : UInt8 → Comp β'} (hf : ∀ b, Alike R (f b) (g b)) :
    Alike R (Checked.index data i >>= f) (Checked.index data' i' >>= g) :=
  .index (h.getElem? hbase hi) hf

theorem Shifted.u16At (h : Shifted base n data data') {off off' : Nat} (hbase : base ≤ off')
    (hoff : off = off' + n) (hsmall : off + 1 < 2 ^ 64) {le : Bool} {f : UInt16 → Comp β}
    {g : UInt16 → Comp β'} (hf : ∀ v, Alike R (f v) (g v)) :
    Alike R (Checked.u16At data off le >>= f) (Checked.u16At data' off' le >>= g) :=
  .u16At hsmall (by omega) (h.getElem? hbase hoff) (h.getElem? (by omega) (by omega)) hf

theorem Shifted.slice (h : Shifted base n data data') {i j i' j' : Nat} (hbase : base ≤ i')
    (hi : i = i' + n) (hj : j = j' + n) (hij : i' ≤ j') (hlen : i ≤ data.length)
    (hlen' : i' ≤ data'.length) {f : Window data i j → Comp β} {g : Window data' i' j' → Comp β'}
    (hf : ∀ (w : Window data i j) (w' : Window data' i' j'), w.val = w'.val → Alike R (f w) (g w')) :
    Alike R (Checked.slice data i j >>= f) (Checked.slice data' i' j' >>= g) :=
  .slice (by omega) hij (by omega) hlen hlen' (by rw [hi]; exact h i' hbase) hf

end Steps

end Checked
