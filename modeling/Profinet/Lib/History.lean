/-
  HISTORIES: an entry of a list, and what stands before it.

  `l = before ++ x :: after` picks the entry `x` behind `before`.  A statement about all such splits
  of a list is taken apart at the list's first entry; a split of a list that has grown at its end is
  one of the list before, or picks the new entry.

  The level of a history is that of its last entry, for a two-valued reading of the entries, and its
  edges are the entries at which the level changes.
-/
import Mathlib.Data.List.Basic

namespace History

variable {α : Type} {P : List α → α → Prop}

theorem forall_split_nil : ∀ before x after, ([] : List α) = before ++ x :: after → P before x := by
  intro before x after h
  cases before with
  | nil => cases h
  | cons _ _ => cases h

theorem forall_split_cons {x : α} {rest : List α} :
    (∀ before y after, x :: rest = before ++ y :: after → P before y) ↔
      P [] x ∧ ∀ before y after, rest = before ++ y :: after → P (x :: before) y := by
  constructor
  · intro h
    refine ⟨h [] x rest rfl, fun before y after heq => ?_⟩
    exact h (x :: before) y after (by rw [heq]; rfl)
  · rintro ⟨hhead, htail⟩ before y after heq
    cases before with
    | nil =>
      injection heq with hx
      exact hx ▸ hhead
    | cons z before =>
      injection heq with hx hrest
      exact hx ▸ htail before y after hrest

/-- A list that ends in `y` is split at an earlier entry, or at `y`. -/
theorem snoc_split {l before after : List α} {y x : α} (h : l ++ [y] = before ++ x :: after) :
    (∃ after', l = before ++ x :: after') ∨ (before = l ∧ x = y) := by
  rcases List.eq_nil_or_concat after with rfl | ⟨after', z, rfl⟩
  · obtain ⟨hl, hx⟩ := List.append_inj' h rfl
    injection hx with hx
    exact .inr ⟨hl.symm, hx.symm⟩
  · rw [List.concat_eq_append, ← List.cons_append, ← List.append_assoc] at h
    exact .inl ⟨after', (List.append_inj' h rfl).1⟩

theorem forall_mem_snoc {Q : α → Prop} {l : List α} {x : α} (h : ∀ y ∈ l, Q y) (hx : Q x) :
    ∀ y ∈ l ++ [x], Q y := by
  intro y hy
  rcases List.mem_append.mp hy with hold | hlast
  · exact h y hold
  · rw [List.mem_singleton.mp hlast]
    exact hx

/-! ## Levels and edges -/

/-- The level of a history; `initial` is that of the empty one. -/
def level (high : α → Bool) (initial : Bool) (l : List α) : Bool :=
  (l.getLast?.map high).getD initial

/-- The entries at which the level changes, from the level `now`. -/
def edges (high : α → Bool) : Bool → List α → List α
  | _, [] => []
  | now, x :: rest => if high x = now then edges high now rest else x :: edges high (high x) rest

theorem level_cons (high : α → Bool) (now : Bool) (x : α) (rest : List α) :
    level high now (x :: rest) = level high (high x) rest := by
  unfold level
  rw [List.getLast?_cons]
  cases rest.getLast? with
  | none => rfl
  | some y => rfl

/-- A new entry is an edge if it is not at the level of the history. -/
theorem edges_snoc (high : α → Bool) (now : Bool) (l : List α) (x : α) :
    edges high now (l ++ [x])
      = edges high now l ++ if high x = level high now l then [] else [x] := by
  induction l generalizing now with
  | nil => rfl
  | cons y rest ih =>
    rw [level_cons, List.cons_append]
    unfold edges
    by_cases h : high y = now
    · rw [if_pos h, if_pos h, ih, ← h]
    · rw [if_neg h, if_neg h, ih, List.cons_append]

end History
