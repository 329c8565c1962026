/-
  TRAINS: a signal, sampled once a period, that is made of pulses.

  Every pulse sets the signal for `width` samples from its start on.  Pulses may overlap, and then
  the signal does not show where one ends and the next begins:

      run        samples in a row that are set, with neither neighbour set
      Shaped     every run is `width` long, and runs are `gap` or more apart

  `shaped_iff` says which starts make a signal of that shape: those `width + gap` apart, two of the
  same instant counting as one.
-/
import Mathlib.Data.List.Basic

namespace Train

/-- The signal is set from `i` to before `j`, and at neither neighbour. -/
structure Run (w : Nat → Prop) (i j : Nat) : Prop where
  nonempty : i < j
  set : ∀ k, i ≤ k → k < j → w k
  starts : ∀ k, k + 1 = i → ¬ w k
  ends : ¬ w j

/-- Every run of the signal is `width` samples long, and two runs are `gap` clear ones apart. -/
structure Shaped (w : Nat → Prop) (width gap : Nat) : Prop where
  /-- No run goes on for ever. -/
  covered : ∀ k, w k → ∃ i j, Run w i j ∧ i ≤ k ∧ k < j
  width : ∀ i j, Run w i j → j = i + width
  gap : ∀ i j i' j', Run w i j → Run w i' j' → i < i' → j + gap ≤ i'

/-- The signal of the pulses that start at the instants of `T`. -/
def signal (T : Nat → Prop) (width : Nat) (k : Nat) : Prop := ∃ t, T t ∧ t ≤ k ∧ k < t + width

/-- Starts that leave room for a pulse and a gap between two different instants. -/
def Separated (T : Nat → Prop) (room : Nat) : Prop := ∀ t t', T t → T t' → t < t' → t + room ≤ t'

section Shape

variable {T : Nat → Prop} {width gap : Nat}

/-- A run begins with a pulse. -/
theorem start_of_run {i j : Nat} (h : Run (signal T width) i j) : T i := by
  obtain ⟨t, ht, hle, hlt⟩ := h.set i (Nat.le_refl i) h.nonempty
  rcases Nat.eq_or_lt_of_le hle with rfl | hearlier
  · exact ht
  · -- an earlier pulse would set the sample before the run
    exfalso
    exact h.starts (i - 1) (by omega) ⟨t, ht, by omega, by omega⟩

/-- Separated pulses are the runs. -/
theorem run_of_start (hwidth : 0 < width) (hgap : 0 < gap) (hsep : Separated T (width + gap))
    {t : Nat} (ht : T t) : Run (signal T width) t (t + width) where
  nonempty := by omega
  set := fun k hle hlt => ⟨t, ht, hle, hlt⟩
  starts := by
    rintro k hk ⟨t', ht', hle, hlt⟩
    have hroom := hsep t' t ht' ht (by omega)
    omega
  ends := by
    rintro ⟨t', ht', hle, hlt⟩
    have hroom := hsep t t' ht ht' (by omega)
    omega

theorem run_ends {w : Nat → Prop} {i j j' : Nat} (h : Run w i j) (h' : Run w i j') : j = j' := by
  rcases Nat.lt_trichotomy j j' with hlt | heq | hgt
  · exact absurd (h'.set j (Nat.le_of_lt h.nonempty) hlt) h.ends
  · exact heq
  · exact absurd (h.set j' (Nat.le_of_lt h'.nonempty) hgt) h'.ends

theorem shaped_of_separated (hwidth : 0 < width) (hgap : 0 < gap)
    (hsep : Separated T (width + gap)) : Shaped (signal T width) width gap where
  covered := by
    rintro k ⟨t, ht, hle, hlt⟩
    exact ⟨t, t + width, run_of_start hwidth hgap hsep ht, hle, hlt⟩
  width := fun i j h => run_ends h (run_of_start hwidth hgap hsep (start_of_run h))
  gap := by
    intro i j i' j' h h' hlt
    have hj := run_ends h (run_of_start hwidth hgap hsep (start_of_run h))
    have hroom := hsep i i' (start_of_run h) (start_of_run h') hlt
    omega

/-- In a signal of the right shape every pulse is a run of its own. -/
theorem run_of_shaped (hwidth : 0 < width) (hshape : Shaped (signal T width) width gap) {t : Nat}
    (ht : T t) : Run (signal T width) t (t + width) := by
  obtain ⟨i, j, hrun, hle, hlt⟩ := hshape.covered t ⟨t, ht, Nat.le_refl t, by omega⟩
  have hj := hshape.width i j hrun
  rcases Nat.eq_or_lt_of_le hle with rfl | hearlier
  · exact hj ▸ hrun
  · -- the pulse would carry the run beyond its end
    exfalso
    exact hrun.ends ⟨t, ht, by omega, by omega⟩

theorem separated_of_shaped (hwidth : 0 < width) (hshape : Shaped (signal T width) width gap) :
    Separated T (width + gap) := by
  intro t t' ht ht' hlt
  have hroom := hshape.gap _ _ _ _ (run_of_shaped hwidth hshape ht)
    (run_of_shaped hwidth hshape ht') hlt
  omega

/-- **The shape of a train.** -/
theorem shaped_iff (hwidth : 0 < width) (hgap : 0 < gap) :
    Shaped (signal T width) width gap ↔ Separated T (width + gap) :=
  ⟨separated_of_shaped hwidth, shaped_of_separated hwidth hgap⟩

end Shape

end Train
