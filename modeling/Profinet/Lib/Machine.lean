/-
  MACHINES: two machines that are told the same things.

  A machine has a state, is told labels one after the other, and comes back with an output for each;
  a step of it may abort.  One machine refines another that never aborts when a relation between
  their states is kept by every step with the same output.

      run            the outputs of a run, and the state behind it
      total          a machine that never aborts, as one that may
      run_refines    the step lemma lifted to runs

  States, labels, outputs and aborts are parameters, and the two machines may name the labels
  differently.
-/
import Mathlib.Data.List.Basic

namespace Machine

variable {ε S A L M O : Type}

/-- The outputs of a run, and the state behind it. -/
def run (step : S → L → Except ε (O × S)) : S → List L → Except ε (List O × S)
  | s, [] => .ok ([], s)
  | s, l :: labels => do
    let (o, s) ← step s l
    let (os, s) ← run step s labels
    return (o :: os, s)

/-- The same of a machine that never aborts. -/
def total (step : A → M → O × A) : A → List M → List O × A
  | a, [] => ([], a)
  | a, m :: labels =>
    (((step a m).1 :: (total step (step a m).2 labels).1), (total step (step a m).2 labels).2)

theorem run_ok {step : S → L → Except ε (O × S)} {s s' s'' : S} {l : L} {o : O} {labels : List L}
    {os : List O} (h : step s l = .ok (o, s')) (hrest : run step s' labels = .ok (os, s'')) :
    run step s (l :: labels) = .ok (o :: os, s'') := by
  rw [run, h]
  show (run step s' labels >>= _) = _
  rw [hrest]
  rfl

/-- **A relation that every step keeps, with the same output, is kept by every run, with the same
    outputs.** -/
theorem run_refines {step : S → L → Except ε (O × S)} {astep : A → M → O × A} {label : L → M}
    {R : S → A → Prop} {Ok : L → Prop}
    (hstep : ∀ s a l, Ok l → R s a → ∃ s', step s l = .ok ((astep a (label l)).1, s') ∧
      R s' (astep a (label l)).2)
    {labels : List L} (hok : ∀ l ∈ labels, Ok l) {s : S} {a : A} (h : R s a) :
    ∃ s', run step s labels = .ok ((total astep a (labels.map label)).1, s') ∧
      R s' (total astep a (labels.map label)).2 := by
  induction labels generalizing s a with
  | nil => exact ⟨s, rfl, h⟩
  | cons l labels ih =>
    rw [List.forall_mem_cons] at hok
    obtain ⟨s', hs', h'⟩ := hstep s a l hok.1 h
    obtain ⟨s'', hrun, h''⟩ := ih hok.2 h'
    exact ⟨s'', run_ok hs' hrun, h''⟩

end Machine
