/-
  STRETCHES OF A HISTORY, from one mark to the next.

  Some entries of a history are marks, each with a value of its own (`mark`).  A stretch is what
  stands between two consecutive marks:

      x x M₁ x x x M₂ M₃ x        the stretches ⟨M₁, [x, x, x], M₂⟩ and ⟨M₂, [], M₃⟩

  `stretches` walks the history once.  A program that takes its entries one at a time knows only the
  last mark and what it kept of the entries since; `stretches_snoc` says that this is enough: a new
  entry closes a stretch if it is a mark and not the first.
-/
import Mathlib.Algebra.Order.BigOperators.Group.List
import Mathlib.Algebra.Order.Ring.Nat
import Mathlib.Data.List.Basic

namespace Stretches

variable {α τ : Type}

/-- Two consecutive marks, and the entries between them. -/
structure Stretch (α τ : Type) where
  first : τ
  within : List α
  last : τ
  deriving DecidableEq, Repr

section Marks

variable (mark : α → Option τ)

/-- The stretches of a history whose last mark so far is `first`, with `within` behind it. -/
def stretchesFrom (first : τ) (within : List α) : List α → List (Stretch α τ)
  | [] => []
  | x :: rest =>
    match mark x with
    | none => stretchesFrom first (within ++ [x]) rest
    | some last => ⟨first, within, last⟩ :: stretchesFrom last [] rest

/-- The stretches of a history: between each mark and the next. -/
def stretches : List α → List (Stretch α τ)
  | [] => []
  | x :: rest =>
    match mark x with
    | none => stretches rest
    | some first => stretchesFrom mark first [] rest

/-- The last mark of a history and the entries behind it: all of them, if there is no mark. -/
def sinceFrom (last : Option τ) (within : List α) : List α → Option τ × List α
  | [] => (last, within)
  | x :: rest =>
    match mark x with
    | none => sinceFrom last (within ++ [x]) rest
    | some m => sinceFrom (some m) [] rest

/-- The last mark of a history and what is behind it. -/
def since (l : List α) : Option τ × List α := sinceFrom mark none [] l

/-- The stretch a new entry closes, behind this last mark and these entries. -/
def closed (behind : Option τ × List α) (x : α) : List (Stretch α τ) :=
  match behind.1, mark x with
  | some first, some last => [⟨first, behind.2, last⟩]
  | _, _ => []

variable {mark}

theorem sinceFrom_snoc (last : Option τ) (within l : List α) (x : α) :
    sinceFrom mark last within (l ++ [x])
      = match mark x with
        | none => ((sinceFrom mark last within l).1, (sinceFrom mark last within l).2 ++ [x])
        | some m => (some m, []) := by
  induction l generalizing last within with
  | nil =>
    rw [List.nil_append]
    unfold sinceFrom
    cases mark x <;> rfl
  | cons y rest ih =>
    rw [List.cons_append]
    unfold sinceFrom
    cases mark y with
    | none => exact ih last (within ++ [y])
    | some m => exact ih (some m) []

theorem since_snoc (l : List α) (x : α) :
    since mark (l ++ [x])
      = match mark x with
        | none => ((since mark l).1, (since mark l).2 ++ [x])
        | some m => (some m, []) :=
  sinceFrom_snoc none [] l x

theorem stretchesFrom_snoc (first : τ) (within l : List α) (x : α) :
    stretchesFrom mark first within (l ++ [x])
      = stretchesFrom mark first within l
        ++ closed mark (sinceFrom mark (some first) within l) x := by
  induction l generalizing first within with
  | nil =>
    rw [List.nil_append]
    unfold stretchesFrom sinceFrom closed
    cases mark x <;> rfl
  | cons y rest ih =>
    rw [List.cons_append]
    unfold stretchesFrom sinceFrom
    cases mark y with
    | none => exact ih first (within ++ [y])
    | some m =>
      dsimp only
      rw [ih m [], List.cons_append]

/-- Before the first mark no stretch is open, whatever stands there. -/
theorem stretches_snoc_from (within l : List α) (x : α) :
    stretches mark (l ++ [x]) = stretches mark l ++ closed mark (sinceFrom mark none within l) x := by
  induction l generalizing within with
  | nil =>
    rw [List.nil_append]
    unfold stretches sinceFrom closed
    cases mark x <;> rfl
  | cons y rest ih =>
    rw [List.cons_append]
    unfold stretches sinceFrom
    cases mark y with
    | none => exact ih (within ++ [y])
    | some m => exact stretchesFrom_snoc m [] rest x

theorem stretches_snoc (l : List α) (x : α) :
    stretches mark (l ++ [x]) = stretches mark l ++ closed mark (since mark l) x :=
  stretches_snoc_from [] l x

end Marks

/-! ## Figures over a list of samples -/

/-- The largest sample, with further ones. -/
theorem max_append (l m : List Nat) :
    (l ++ m).max?.getD 0 = m.foldl max (l.max?.getD 0) := by
  cases l with
  | nil =>
    cases m with
    | nil => rfl
    | cons n m =>
      rw [List.nil_append, List.max?_cons', List.foldl_cons, List.max?_nil, Option.getD_none,
        Nat.zero_max]
      rfl
  | cons n l =>
    rw [List.cons_append, List.max?_cons', List.max?_cons', List.foldl_append]
    rfl

theorem le_max_of_mem {l : List Nat} {n : Nat} (h : n ∈ l) : n ≤ l.max?.getD 0 := by
  cases hmax : l.max? with
  | none =>
    rw [List.max?_eq_none_iff.mp hmax] at h
    exact absurd h List.not_mem_nil
  | some m => exact (List.max?_eq_some_iff.mp hmax).2 n h

/-- A lower bound of the samples, brought down to further ones. -/
theorem foldl_min_le {l m : List Nat} {lo : Nat} (h : ∀ n ∈ l, lo ≤ n) :
    ∀ n ∈ l ++ m, m.foldl min lo ≤ n := by
  induction m generalizing l lo with
  | nil => rwa [List.append_nil]
  | cons k m ih =>
    have hk : ∀ n ∈ l ++ [k], min lo k ≤ n := by
      intro n hn
      rcases List.mem_append.mp hn with hold | hnew
      · exact Nat.le_trans (Nat.min_le_left _ _) (h n hold)
      · rw [List.mem_singleton.mp hnew]
        exact Nat.min_le_right _ _
    have hrest := ih hk
    rw [List.append_assoc, List.singleton_append] at hrest
    exact hrest

/-- The mean lies between any two bounds of the samples. -/
theorem mean_bounds {l : List Nat} {lo hi : Nat} (hl : 0 < l.length)
    (h : ∀ n ∈ l, lo ≤ n ∧ n ≤ hi) : lo ≤ l.sum / l.length ∧ l.sum / l.length ≤ hi := by
  have hlow : l.length * lo ≤ l.sum := List.card_nsmul_le_sum l lo fun n hn => (h n hn).1
  have hhigh : l.sum ≤ l.length * hi := List.sum_le_card_nsmul l hi fun n hn => (h n hn).2
  constructor
  · rw [Nat.le_div_iff_mul_le hl, Nat.mul_comm]
    exact hlow
  · exact Nat.div_le_of_le_mul hhigh

end Stretches
