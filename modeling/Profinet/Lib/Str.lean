/-
  BYTE OFFSETS INTO A TEXT.

  A text is a list of characters, but its length and its slices are told in bytes of UTF-8.  An
  offset is a boundary if a character ends there; a slice that does not begin and end at boundaries
  aborts the thread.
-/
import Profinet.Lib.Checked

namespace Str

open Checked

/-- `len()`: the bytes the text is coded in. -/
def byteLen (s : List Char) : Nat := (s.map Char.utf8Size).sum

/-- The text before and behind the boundary `n` bytes on, if there is one. -/
def cut : Nat → List Char → Option (List Char × List Char)
  | 0, s => some ([], s)
  | _ + 1, [] => none
  | n + 1, c :: s =>
    if c.utf8Size ≤ n + 1 then (cut (n + 1 - c.utf8Size) s).map fun (a, b) => (c :: a, b) else none

/-- `s[i..j]`. -/
def slice (s : List Char) (i j : Nat) : Comp (List Char) :=
  match cut i s with
  | none => .error .slice
  | some (_, rest) =>
    if j < i then .error .slice
    else
      match cut (j - i) rest with
      | none => .error .slice
      | some (w, _) => .ok w

@[simp] theorem byteLen_nil : byteLen [] = 0 := rfl

@[simp] theorem byteLen_cons (c : Char) (s : List Char) :
    byteLen (c :: s) = c.utf8Size + byteLen s := rfl

@[simp] theorem byteLen_append (s t : List Char) : byteLen (s ++ t) = byteLen s + byteLen t := by
  unfold byteLen
  rw [List.map_append, List.sum_append]

theorem byteLen_pos {s : List Char} (h : s ≠ []) : 0 < byteLen s := by
  cases s with
  | nil => exact absurd rfl h
  | cons c s =>
    have hc := c.utf8Size_pos
    rw [byteLen_cons]
    omega

/-- Characters of one byte each. -/
theorem byteLen_eq_length {s : List Char} (h : ∀ c ∈ s, c.utf8Size = 1) : byteLen s = s.length := by
  induction s with
  | nil => rfl
  | cons c s ih =>
    rw [List.forall_mem_cons] at h
    rw [byteLen_cons, h.1, ih h.2, List.length_cons, Nat.add_comm]

@[simp] theorem cut_zero (s : List Char) : cut 0 s = some ([], s) := by
  cases s with
  | nil => rfl
  | cons c s => rfl

theorem cut_append (a b : List Char) : cut (byteLen a) (a ++ b) = some (a, b) := by
  induction a with
  | nil => exact cut_zero b
  | cons c a ih =>
    obtain ⟨k, hk⟩ : ∃ k, c.utf8Size + byteLen a = k + 1 :=
      ⟨c.utf8Size + byteLen a - 1, by have hc := c.utf8Size_pos; omega⟩
    rw [byteLen_cons, hk, List.cons_append, cut, if_pos (by omega)]
    have hrest : k + 1 - c.utf8Size = byteLen a := by omega
    rw [hrest, ih]
    rfl

/-- A cut takes the text apart at that many bytes. -/
theorem cut_some {n : Nat} {s a b : List Char} (h : cut n s = some (a, b)) :
    s = a ++ b ∧ byteLen a = n := by
  induction s generalizing n a with
  | nil =>
    cases n with
    | zero =>
      cases h
      exact ⟨rfl, rfl⟩
    | succ n => cases h
  | cons c s ih =>
    cases n with
    | zero =>
      cases h
      exact ⟨rfl, rfl⟩
    | succ n =>
      rw [cut] at h
      split at h
      · obtain ⟨⟨a', b'⟩, hcut, heq⟩ := Option.map_eq_some_iff.mp h
        cases heq
        obtain ⟨rfl, hlen⟩ := ih hcut
        exact ⟨rfl, by rw [byteLen_cons, hlen]; omega⟩
      · cases h

/-- A slice that begins at a boundary depends on what is behind it. -/
theorem slice_append (a b : List Char) (n : Nat) :
    slice (a ++ b) (byteLen a) (byteLen a + n) =
      match cut n b with
      | none => .error .slice
      | some (w, _) => .ok w := by
  unfold slice
  rw [cut_append]
  simp only
  rw [if_neg (by omega), Nat.add_sub_cancel_left]

/-- A piece that stands between two others. -/
theorem slice_mid {a w b : List Char} {i j : Nat} (hi : byteLen a = i) (hj : i + byteLen w = j) :
    slice (a ++ (w ++ b)) i j = .ok w := by
  rw [← hi, ← hj, ← hi, slice_append, cut_append]

end Str
