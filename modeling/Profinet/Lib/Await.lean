/-
  AWAIT: a loop that listens until something it heard decides.

  Items arrive one after the other; the window closes when nothing came within the rest of it, and
  listening may fail.  The loop asks after every item whether what it heard so far decides.

      wait        the loop
      heard       the items that arrive while the window is open
      failure     the error that ends the window, if one does
      decision    what the shortest deciding beginning of the items says

  `wait_eq`: the loop returns the decision if there is one, and ends with its window otherwise.  A
  loop that looks at the newest item only returns what the first deciding item says
  (`decision_newest`).

  The items, the errors and the outcomes are parameters.
-/
import Mathlib.Data.List.Basic

namespace Await

variable {ι ε ρ : Type}

/-- One attempt to hear something. -/
inductive Receipt (ι ε : Type)
  | item (i : ι)
  /-- nothing came within the rest of the window -/
  | expired
  | failed (e : ε)

/-- The items that arrive while the window is open. -/
def heard : List (Receipt ι ε) → List ι
  | .item i :: receipts => i :: heard receipts
  | _ => []

/-- The error that ends the window, if one does. -/
def failure : List (Receipt ι ε) → Option ε
  | .item _ :: receipts => failure receipts
  | .failed e :: _ => some e
  | _ => none

section

variable (decides : List ι → Option ρ) (timeout : List ι → ρ)

/-- The loop, with the items heard so far; the list ends where the window does. -/
def wait (seen : List ι) : List (Receipt ι ε) → Except ε ρ
  | [] => .ok (timeout seen)
  | .expired :: _ => .ok (timeout seen)
  | .failed e :: _ => .error e
  | .item i :: receipts =>
    match decides (seen ++ [i]) with
    | some r => .ok r
    | none => wait (seen ++ [i]) receipts

/-- What the shortest of the longer and longer lists says that decides. -/
def decision (seen : List ι) : List ι → Option ρ
  | [] => none
  | i :: items => (decides (seen ++ [i])).or (decision (seen ++ [i]) items)

/-- **The loop in terms of what was heard.** -/
theorem wait_eq (seen : List ι) (receipts : List (Receipt ι ε)) :
    wait decides timeout seen receipts
      = match decision decides seen (heard receipts), failure receipts with
        | some r, _ => .ok r
        | none, some e => .error e
        | none, none => .ok (timeout (seen ++ heard receipts)) := by
  induction receipts generalizing seen with
  | nil =>
    show Except.ok (timeout seen) = .ok (timeout (seen ++ []))
    rw [List.append_nil]
  | cons receipt receipts ih =>
    cases receipt with
    | expired =>
      show Except.ok (timeout seen) = .ok (timeout (seen ++ []))
      rw [List.append_nil]
    | failed e => rfl
    | item i =>
      unfold wait heard decision failure
      cases decides (seen ++ [i]) with
      | some r => rfl
      | none =>
        show wait decides timeout (seen ++ [i]) receipts = _
        rw [ih, List.append_assoc]
        rfl

/-- A loop that looks at the newest item only. -/
theorem decision_newest {f : ι → Option ρ} (hf : ∀ seen i, decides (seen ++ [i]) = f i)
    (seen items : List ι) : decision decides seen items = items.findSome? f := by
  induction items generalizing seen with
  | nil => rfl
  | cons i items ih =>
    show (decides (seen ++ [i])).or (decision decides (seen ++ [i]) items) = _
    rw [hf, List.findSome?_cons]
    cases f i with
    | some r => rfl
    | none => exact ih (seen ++ [i])

/-- What was heard before more receipts is heard first. -/
theorem heard_append (receipts more : List (Receipt ι ε)) :
    ∃ rest, heard (receipts ++ more) = heard receipts ++ rest := by
  induction receipts with
  | nil => exact ⟨heard more, rfl⟩
  | cons receipt receipts ih =>
    cases receipt with
    | expired => exact ⟨[], rfl⟩
    | failed e => exact ⟨[], rfl⟩
    | item i =>
      obtain ⟨rest, hrest⟩ := ih
      exact ⟨rest, congrArg (i :: ·) hrest⟩

end

end Await
