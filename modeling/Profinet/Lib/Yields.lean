/-
  WHAT A PARSER ACCEPTS: the inputs on which a computation returns one given result.

  A parser is a list of checks, each of which may end it early, with reads in between.
  `Yields x b P` says that the computation returns `b` exactly where `P` holds.  Its rules follow a
  computation the way those of `Returns` do, and each names the value it goes on with:

      check        a check that fails where `P` does not hold
      last         the result itself
      add, index, u16At, slice   an operation in range, and what follows
-/
import Profinet.Lib.Checked

namespace Checked

variable {α β : Type}

/-- The computation returns `b` exactly if `P`. -/
def Yields (x : Comp β) (b : β) (P : Prop) : Prop := x = .ok b ↔ P

variable {b : β} {P : Prop}

theorem Yields.last {a : β} (h : a = b ↔ P) : Yields (pure a) b P := by
  constructor
  · intro heq
    exact h.mp (Except.ok.inj heq)
  · intro hP
    exact congrArg Except.ok (h.mpr hP)

/-- A check that ends the computation with another result. -/
theorem Yields.check {c : Prop} [Decidable c] {a : β} {x : Comp β} (hne : a ≠ b) (hstop : c → ¬ P)
    (hgo : ¬ c → Yields x b P) : Yields (if c then pure a else x) b P := by
  by_cases h : c
  · rw [if_pos h]
    refine .last ⟨fun heq => absurd heq hne, fun hP => absurd hP (hstop h)⟩
  · rw [if_neg h]
    exact hgo h

section Steps

variable {data : List UInt8}

/-- The sum keeps a name of its own, so that a reader may give it another one. -/
theorem Yields.add {m n : Nat} {f : Sum m n → Comp β} (h : m + n < 2 ^ 64)
    (hf : ∀ (s : Nat) (hs : s = m + n), Yields (f ⟨s, hs⟩) b P) : Yields (add m n >>= f) b P := by
  rw [add_ok h]
  exact hf _ rfl

theorem Yields.index {i : Nat} {f : UInt8 → Comp β} (h : i < data.length)
    (hf : Yields (f (data.getD i 0)) b P) : Yields (index data i >>= f) b P := by
  rw [index_ok h]
  exact hf

theorem Yields.slice {i j : Nat} {f : Window data i j → Comp β} (h : i ≤ j)
    (h' : j ≤ data.length) (hf : Yields (f ⟨(data.drop i).take (j - i), rfl⟩) b P) :
    Yields (slice data i j >>= f) b P := by
  rw [slice_ok h h']
  exact hf

theorem Yields.u16At {off : Nat} {le : Bool} {f : UInt16 → Comp β} (hdata : data.length < 2 ^ 63)
    (h : off + 2 ≤ data.length) (hf : Yields (f (Wire.rdU16 data off le)) b P) :
    Yields (u16At data off le >>= f) b P := by
  rw [u16At_ok hdata h]
  exact hf

end Steps

end Checked
