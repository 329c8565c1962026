/-
  CUT SHORT: a parser on the front of its data.

  `Below R x y` follows a computation on the whole data and one on a front of them: whenever the
  whole one returns, so does the other, with a result that is related.  The rules go step by step
  through the operations of `Checked`:

      bind, same    what is related goes on
      stop          the one on the front ends early, with an empty list
      ite           the one on the front ends, or both go on
      take_..       what is read in front of the cut is the same

  With `<+:` for `R`, what the front shows is where the list of the whole data begins.
-/
import Profinet.Lib.Checked

namespace Checked

open Wire

variable {α α' β β' : Type}

/-- Where the second computation returns, the first does, and what they return is related. -/
def Below (R : α → α' → Prop) (x : Comp α) (y : Comp α') : Prop :=
  ∀ b, y = .ok b → ∃ a, x = .ok a ∧ R a b

theorem Below.bind {S : α → α' → Prop} {R : β → β' → Prop} {x : Comp α} {y : Comp α'}
    {f : α → Comp β} {g : α' → Comp β'} (h : Below S x y)
    (hf : ∀ a b, S a b → Below R (f a) (g b)) : Below R (x >>= f) (y >>= g) := by
  intro b hb
  cases hy : y with
  | error p =>
    rw [hy] at hb
    cases hb
  | ok v =>
    obtain ⟨a, hx, hS⟩ := h v hy
    rw [hy] at hb
    rw [hx]
    exact hf a v hS b hb

/-- The same step on both sides. -/
theorem Below.same {R : β → β' → Prop} {x : Comp α} {f : α → Comp β} {g : α → Comp β'}
    (hf : ∀ a, Below R (f a) (g a)) : Below R (x >>= f) (x >>= g) := by
  have hx : Below Eq x x := fun b hb => ⟨b, hb, rfl⟩
  refine hx.bind ?_
  rintro a b rfl
  exact hf a

/-- An empty list is where any list begins. -/
theorem Below.stop (y : Comp (List α)) : Below (· <+: ·) (.ok []) y :=
  fun _ _ => ⟨[], rfl, List.nil_prefix⟩

/-- A loop that ends where the data do: the one on the front ends, or both go on. -/
theorem Below.ite {c c' : Prop} [Decidable c] [Decidable c'] {x y : Comp (List α)}
    (hc : c' → c) (h : ¬ c → Below (· <+: ·) x y) :
    Below (· <+: ·) (if c then .ok [] else x) (if c' then .ok [] else y) := by
  by_cases hcut : c
  · rw [if_pos hcut]
    exact .stop _
  · rw [if_neg hcut, if_neg fun h' => hcut (hc h')]
    exact h hcut

/-! ## What is read in front of the cut -/

section

variable {data : List UInt8} {m : Nat}

theorem Below.slice {R : β → β' → Prop} {i j : Nat} (hij : i ≤ j) (h : j ≤ (data.take m).length)
    {f : Window (data.take m) i j → Comp β} {g : Window data i j → Comp β'}
    (hf : ∀ (w : Window (data.take m) i j) (w' : Window data i j), w.val = w'.val →
      Below R (f w) (g w')) :
    Below R (Checked.slice (data.take m) i j >>= f) (Checked.slice data i j >>= g) := by
  have hlen := h
  rw [List.length_take] at hlen
  rw [slice_ok hij h, slice_ok hij (by omega)]
  apply hf
  show ((data.take m).drop i).take (j - i) = (data.drop i).take (j - i)
  rw [List.drop_take, List.take_take, Nat.min_eq_left (by omega)]

end

end Checked
