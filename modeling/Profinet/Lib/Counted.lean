/-
  COUNTED LISTS read from bytes that may end too soon.

  A record says how many elements follow, and the reader takes that many, one round of a loop for
  each; a round that finds too few bytes breaks off.  `counted step` is the loop: `step` reads one
  element, as a list of values, and says `none` to break.

  When such loops are nested, a break ends the innermost one only, and the loops around it go on
  from where it stood.  `Reads` says what keeps that harmless: `step` reads a whole element
  exactly; of one cut short it reads a prefix and leaves fewer than `K` bytes; and fewer than `K`
  bytes are never read as a value.  `Reads.cut_list` carries this from the elements to the list,
  so it is one rule per level of nesting.
-/
import Mathlib.Data.List.Basic

namespace Counted

variable {α β : Type}

/-- `count` rounds of a loop that reads one element each and breaks off at `none`: what was read
    and the bytes left. -/
def counted (step : List UInt8 → Option (List β × List UInt8)) :
    Nat → List UInt8 → List β × List UInt8
  | 0, p => ([], p)
  | count + 1, p =>
    match step p with
    | none => ([], p)
    | some (found, rest) =>
      let (more, rest) := counted step count rest
      (found ++ more, rest)

/-- `step` reads the elements that `enc` writes as `val`, those with `ok`, and invents none from
    fewer than `K` bytes. -/
structure Reads (K : Nat) (step : List UInt8 → Option (List β × List UInt8))
    (enc : α → List UInt8) (val : α → List β) (ok : α → Prop) : Prop where
  whole (a : α) (rest : List UInt8) : ok a → step (enc a ++ rest) = some (val a, rest)
  cut (a : α) (m : Nat) : ok a → m < (enc a).length →
    (step ((enc a).take m) = none ∧ m < K)
      ∨ ∃ found rest, step ((enc a).take m) = some (found, rest) ∧ found <+: val a
        ∧ rest.length < K
  short (p : List UInt8) : p.length < K →
    step p = none ∨ ∃ rest, step p = some ([], rest) ∧ rest.length < K

variable {K : Nat} {step : List UInt8 → Option (List β × List UInt8)} {enc : α → List UInt8}
  {val : α → List β} {ok : α → Prop}

theorem counted_none {p : List UInt8} (h : step p = none) (count : Nat) :
    counted step count p = ([], p) := by
  cases count with
  | zero => rfl
  | succ count => simp only [counted, h]

theorem counted_some {p rest : List UInt8} {found : List β} (h : step p = some (found, rest))
    (count : Nat) :
    counted step (count + 1) p
      = (found ++ (counted step count rest).1, (counted step count rest).2) := by
  simp only [counted, h]

/-- A list that is all there is read exactly, whatever follows. -/
theorem Reads.whole_list (h : Reads K step enc val ok) {l : List α} (hl : ∀ a ∈ l, ok a)
    (rest : List UInt8) :
    counted step l.length (l.flatMap enc ++ rest) = (l.flatMap val, rest) := by
  induction l with
  | nil => rfl
  | cons a l ih =>
    rw [List.flatMap_cons, List.append_assoc, List.length_cons,
      counted_some (h.whole a _ (hl a List.mem_cons_self)),
      ih fun b hb => hl b (List.mem_cons_of_mem a hb)]
    rfl

/-- From fewer than `K` bytes nothing is read. -/
theorem Reads.short_list (h : Reads K step enc val ok) {p : List UInt8} (hp : p.length < K)
    (count : Nat) : ∃ rest, counted step count p = ([], rest) ∧ rest.length < K := by
  induction count generalizing p with
  | zero => exact ⟨p, rfl, hp⟩
  | succ count ih =>
    rcases h.short p hp with hnone | ⟨rest, hsome, hrest⟩
    · exact ⟨p, counted_none hnone _, hp⟩
    · obtain ⟨rest', hmore, hrest'⟩ := ih hrest
      refine ⟨rest', ?_, hrest'⟩
      rw [counted_some hsome, hmore]
      rfl

/-- **Of a list cut short a prefix is read.**  The round of the element that is cut either breaks
    or reads a prefix of its values; the rounds behind it have too few bytes. -/
theorem Reads.cut_list (h : Reads K step enc val ok) {l : List α} (hl : ∀ a ∈ l, ok a) {m : Nat}
    (hm : m < (l.flatMap enc).length) :
    ∃ found rest, counted step l.length ((l.flatMap enc).take m) = (found, rest)
      ∧ found <+: l.flatMap val ∧ rest.length < K := by
  induction l generalizing m with
  | nil => nomatch hm
  | cons a l ih =>
    have ha := hl a List.mem_cons_self
    have hrest : ∀ b ∈ l, ok b := fun b hb => hl b (List.mem_cons_of_mem a hb)
    rw [List.flatMap_cons, List.length_append] at hm
    rw [List.flatMap_cons, List.flatMap_cons, List.length_cons]
    by_cases hcut : m < (enc a).length
    · -- the cut lies in this element
      rw [List.take_append_of_le_length (by omega)]
      rcases h.cut a m ha hcut with ⟨hnone, hK⟩ | ⟨found, rest, hsome, hpre, hK⟩
      · refine ⟨[], _, counted_none hnone _, List.nil_prefix, ?_⟩
        rw [List.length_take]
        omega
      · obtain ⟨rest', hmore, hK'⟩ := h.short_list hK l.length
        refine ⟨found, rest', ?_, hpre.trans (List.prefix_append _ _), hK'⟩
        rw [counted_some hsome, hmore, List.append_nil]
    · -- the cut lies behind it
      obtain ⟨found, rest, hmore, hpre, hK⟩ := ih hrest (m := m - (enc a).length) (by omega)
      refine ⟨val a ++ found, rest, ?_, (List.prefix_append_right_inj _).mpr hpre, hK⟩
      rw [List.take_append, List.take_of_length_le (by omega), counted_some (h.whole a _ ha), hmore]

/-! ## Counts that fit -/

/-- An element is no longer than the list it is in. -/
theorem length_le_flatMap (enc : α → List UInt8) {l : List α} {a : α} (ha : a ∈ l) :
    (enc a).length ≤ (l.flatMap enc).length := by
  obtain ⟨l₁, l₂, rfl⟩ := List.append_of_mem ha
  simp only [List.flatMap_append, List.flatMap_cons, List.length_append]
  omega

/-- A list has no more elements than bytes, if none is empty. -/
theorem count_le_flatMap {enc : α → List UInt8} (hpos : ∀ a : α, 0 < (enc a).length)
    (l : List α) :
    l.length ≤ (l.flatMap enc).length := by
  induction l with
  | nil => exact Nat.le_refl 0
  | cons a l ih =>
    have ha := hpos a
    rw [List.flatMap_cons, List.length_append, List.length_cons]
    omega

end Counted
