/-
  FIELDS OF A FOLD: what one field of a record is after a walk in which elements write to it.

  An element either writes a field, with a value of its own, or leaves it alone.  Then the field is
  what the last of the writers wrote (`foldl_field`).  Where there is at most one writer it does not
  matter in which order the elements come (`find?_perm`), and which of the others there are.
-/
import Mathlib.Data.List.Basic

namespace LastWrite

variable {α β γ δ : Type}

/-- The last writer decides. -/
theorem foldl_field {step : δ → β → δ} {f : δ → γ} {p : β → Bool} {g : β → γ} {l : List β}
    (hstep : ∀ b ∈ l, ∀ d, f (step d b) = if p b then g b else f d) (d : δ) :
    f (l.foldl step d) = ((l.reverse.find? p).map g).getD (f d) := by
  induction l generalizing d with
  | nil => rfl
  | cons b rest ih =>
    rw [List.foldl_cons, ih (fun b' hb' => hstep b' (List.mem_cons_of_mem b hb')),
      hstep b List.mem_cons_self, List.reverse_cons, List.find?_append]
    cases rest.reverse.find? p with
    | some last => rfl
    | none =>
      rw [List.find?_cons]
      cases p b with
      | true => rfl
      | false => rfl

/-- Where all writers write the same, one of them decides. -/
theorem foldl_mark {step : δ → β → δ} {f : δ → γ} {p : β → Bool} {c : γ}
    (hstep : ∀ d b, f (step d b) = if p b then c else f d) (l : List β) (d : δ) :
    f (l.foldl step d) = if l.any p then c else f d := by
  induction l generalizing d with
  | nil => rfl
  | cons b rest ih =>
    rw [List.foldl_cons, ih, hstep, List.any_cons]
    cases p b with
    | true =>
      rw [Bool.true_or, if_pos rfl]
      exact ite_self c
    | false => rfl

/-- A field that nothing writes. -/
theorem foldl_kept {step : δ → β → δ} {f : δ → γ} (hstep : ∀ d b, f (step d b) = f d) (l : List β)
    (d : δ) : f (l.foldl step d) = f d := by
  induction l generalizing d with
  | nil => rfl
  | cons b rest ih => rw [List.foldl_cons, ih, hstep]

/-- At most one element is a writer. -/
def AtMostOne (p : β → Bool) (l : List β) : Prop := (l.filter p).length ≤ 1

instance (p : β → Bool) (l : List β) : Decidable (AtMostOne p l) :=
  inferInstanceAs (Decidable ((l.filter p).length ≤ 1))

theorem AtMostOne.sublist {p : β → Bool} {l l' : List β} (h : AtMostOne p l) (hsub : l'.Sublist l) :
    AtMostOne p l' := Nat.le_trans (hsub.filter p).length_le h

/-- The only writer is the first and the last. -/
theorem AtMostOne.find?_reverse {p : β → Bool} {l : List β} (h : AtMostOne p l) :
    l.reverse.find? p = l.find? p := by
  rw [← List.getLast?_filter, ← List.head?_filter]
  unfold AtMostOne at h
  match hwriters : l.filter p, h with
  | [], _ => rfl
  | [b], _ => rfl

/-- The only writer is found in any order. -/
theorem AtMostOne.find?_perm {p : β → Bool} {l l' : List β} (h : AtMostOne p l) (hperm : l.Perm l') :
    l.find? p = l'.find? p := by
  have hfilter := hperm.filter p
  rw [← List.head?_filter, ← List.head?_filter]
  unfold AtMostOne at h
  match hwriters : l.filter p, h with
  | [], _ =>
    rw [hwriters] at hfilter
    rw [List.nil_perm.mp hfilter]
  | [b], _ =>
    rw [hwriters] at hfilter
    rw [List.singleton_perm.mp hfilter]

/-- What the other elements are does not matter. -/
theorem find?_filter_of_imp {p q : β → Bool} (h : ∀ b, p b = true → q b = true) (l : List β) :
    (l.filter q).find? p = l.find? p := by
  rw [List.find?_filter]
  congr 1
  funext b
  cases hp : p b with
  | true => simp [h b hp]
  | false => simp

/-- Whether there is one writer at most is seen from the elements that might write. -/
theorem AtMostOne.of_filter_perm {p q : β → Bool} {l l' : List β} (h : AtMostOne p l)
    (himp : ∀ b, p b = true → q b = true) (hperm : (l.filter q).Perm (l'.filter q)) :
    AtMostOne p l' := by
  have hboth (l : List β) : (l.filter q).filter p = l.filter p := by
    rw [List.filter_filter]
    refine List.filter_congr ?_
    intro b _
    cases hp : p b with
    | true => rw [himp b hp, Bool.and_true]
    | false => rfl
  unfold AtMostOne at h ⊢
  rw [← hboth, ← (hperm.filter p).length_eq, hboth]
  exact h

end LastWrite
