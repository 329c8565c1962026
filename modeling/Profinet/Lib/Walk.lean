/-
  WALKS THAT FAIL: what is known of a result that was computed to its end.

  In `Except` a walk over a list ends at the first error.  One that ends in a value has gone through
  every item, so whatever each step gives, the whole gives: `forall_of_mapM` for a list of results,
  `invariant_of_foldlM` for a running one.
-/
import Mathlib.Data.List.Basic

namespace Walk

variable {α β ε : Type}

/-- A value at the end of two steps comes from a value between them. -/
theorem ok_of_bind {x : Except ε α} {f : α → Except ε β} {b : β} (h : (x >>= f) = .ok b) :
    ∃ a, x = .ok a ∧ f a = .ok b := by
  cases x with
  | error e => nomatch h
  | ok a => exact ⟨a, rfl, h⟩

theorem bind_eq_ok {x : Except ε α} {f : α → Except ε β} {b : β} :
    (x >>= f) = .ok b ↔ ∃ a, x = .ok a ∧ f a = .ok b := by
  constructor
  · exact ok_of_bind
  · rintro ⟨a, rfl, h⟩
    exact h

theorem forall_of_mapM {f : α → Except ε β} {P : β → Prop} (hf : ∀ a b, f a = .ok b → P b)
    {l : List α} {bs : List β} (h : l.mapM f = .ok bs) : ∀ b ∈ bs, P b := by
  induction l generalizing bs with
  | nil =>
    cases h
    exact fun b hb => nomatch hb
  | cons a l ih =>
    rw [List.mapM_cons] at h
    obtain ⟨b, hb, h⟩ := ok_of_bind h
    obtain ⟨bs', hbs', h⟩ := ok_of_bind h
    cases h
    intro c hc
    rcases List.mem_cons.mp hc with rfl | hc
    · exact hf a c hb
    · exact ih hbs' c hc

theorem invariant_of_foldlM {step : β → α → Except ε β} {P : β → Prop}
    (hstep : ∀ b a b', P b → step b a = .ok b' → P b') {l : List α} {init result : β}
    (hinit : P init) (h : l.foldlM step init = .ok result) : P result := by
  induction l generalizing init with
  | nil =>
    cases h
    exact hinit
  | cons a l ih =>
    rw [List.foldlM_cons] at h
    obtain ⟨b, hb, h⟩ := ok_of_bind h
    exact ih (hstep init a b hinit hb) h

end Walk
