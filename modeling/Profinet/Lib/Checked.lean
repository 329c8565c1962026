/-
  CHECKED OPERATIONS: indexing, slicing and arithmetic with the aborts of the language visible.

  `data[i]`, `data[i..j]` and the sums of a 64-bit `usize` abort the thread when they are out of
  range.  A computation that may abort is a `Comp`: its value, or the `Panic` it ended in.  What a
  checked operation returns comes with the equation it satisfies (`Sum`, `Window`), so that a loop
  written with them can be seen to end.

      add, sub, subI32, align4  the value, if it is in the range of the type
      addU32                    the same, in a build that checks; the wrapped value in one that does not
      index, slice, sliceFrom   the bytes, if they are there
      u16At, u32At, arrayAt     a field at an offset, byte by byte

  Each has one lemma `.._ok` that says when it does not abort, and what it returns then.  `Returns`
  is the triple of a whole computation: it returns a value, and the value has a property.
-/
import Mathlib.Algebra.GroupWithZero.Nat
import Profinet.Lib.Endian

namespace Checked

open Wire

/-- Why a thread was aborted. -/
inductive Panic where
  | index
  | slice
  | overflow
  deriving DecidableEq, Repr

/-- A computation that returns a value or aborts. -/
abbrev Comp := Except Panic

/-- The bytes of an object: the language allows none of `2 ^ 63` bytes or more. -/
abbrev Slice := { data : List UInt8 // data.length < 2 ^ 63 }

/-! ## Arithmetic -/

/-- A sum that did not overflow, with the proof of what it is. -/
abbrev Sum (a b : Nat) := { n : Nat // n = a + b }

/-- A sum is greater than its first part if the second is not zero. -/
theorem Sum.lt {a b : Nat} (n : Sum a (b + 1)) : a < n := by
  have := n.2
  omega

/-- `a + b` in `usize`. -/
def add (a b : Nat) : Comp (Sum a b) :=
  if a + b < 2 ^ 64 then .ok ⟨a + b, rfl⟩ else .error .overflow

/-- `checked_add`: the sum of two `usize`, none where it does not fit. -/
def checkedAdd (a b : Nat) : Option Nat := if a + b < 2 ^ 64 then some (a + b) else none

/-- `a - b` in `usize`. -/
def sub (a b : Nat) : Comp { n : Nat // n = a - b } :=
  if b ≤ a then .ok ⟨a - b, rfl⟩ else .error .overflow

/-- `a - b` in `i32`. -/
def subI32 (a b : Int) : Comp { n : Int // n = a - b } :=
  if -2147483648 ≤ a - b ∧ a - b < 2147483648 then .ok ⟨a - b, rfl⟩ else .error .overflow

/-- Whether sums that overflow abort or wrap around is a choice of the build. -/
inductive Build where
  | debug
  | release
  deriving DecidableEq, Repr

/-- `a + b` in `u32`. -/
def addU32 (build : Build) (a b : UInt32) : Comp { n : UInt32 // n = a + b } :=
  match build with
  | .debug => if a.toNat + b.toNat < 2 ^ 32 then .ok ⟨a + b, rfl⟩ else .error .overflow
  | .release => .ok ⟨a + b, rfl⟩

/-- `n as i32`: the low 32 bits, as a signed number. -/
def asI32 (n : Nat) : Int := Int.bmod n (2 ^ 32)

/-- `(offset + 3) & !3`: up to the next multiple of four. -/
def align4 (offset : Nat) : Comp { n : Nat // n = (offset + 3) / 4 * 4 } := do
  let n ← add offset 3
  return ⟨n / 4 * 4, by rw [n.2]⟩

/-! ## Bytes -/

variable {α β : Type}

/-- `data[i]`. -/
def index (data : List UInt8) (i : Nat) : Comp UInt8 :=
  if i < data.length then .ok (data.getD i 0) else .error .index

/-- A window of a slice, with the proof of what it is. -/
abbrev Window (data : List α) (i j : Nat) := { w : List α // w = (data.drop i).take (j - i) }

/-- `data[i..j]`. -/
def slice (data : List α) (i j : Nat) : Comp (Window data i j) :=
  if i ≤ j ∧ j ≤ data.length then .ok ⟨(data.drop i).take (j - i), rfl⟩ else .error .slice

/-- `data[i..]`. -/
def sliceFrom (data : List α) (i : Nat) : Comp { w : List α // w = data.drop i } :=
  if i ≤ data.length then .ok ⟨data.drop i, rfl⟩ else .error .slice

/-- `iter().rposition(p)`: the last place with the property. -/
def rposition (p : α → Bool) (data : List α) : Option Nat :=
  (data.reverse.findIdx? p).map (data.length - 1 - ·)

/-- The two bytes at `off` as a word. -/
def u16At (data : List UInt8) (off : Nat) (le : Bool) : Comp UInt16 := do
  let a ← index data off
  let b ← index data (← add off 1)
  pure (if le then ofBe16 b a else ofBe16 a b)

/-- The four bytes at `off` as a word. -/
def u32At (data : List UInt8) (off : Nat) (le : Bool) : Comp UInt32 := do
  let a ← index data off
  let b ← index data (← add off 1)
  let c ← index data (← add off 2)
  let d ← index data (← add off 3)
  pure (if le then ofBe32 d c b a else ofBe32 a b c d)

/-- `data[off..off + n]` as an array. -/
def arrayAt (n : Nat) (data : List UInt8) (off : Nat) : Comp (Bytes n) := do
  let _ ← slice data off (← add off n)
  pure (bytesAt n data off)

/-! ## When they do not abort -/

/-- A result that is there goes on with what is computed from it. -/
@[simp] theorem ok_bind {ε : Type} (a : α) (f : α → Except ε β) : (Except.ok a >>= f) = f a := rfl

/-- An addition that fits. -/
theorem add_ok {a b : Nat} (h : a + b < 2 ^ 64) : add a b = .ok ⟨a + b, rfl⟩ := if_pos h

/-- The same for the checked addition of the source. -/
theorem checkedAdd_eq {a b : Nat} (h : a + b < 2 ^ 64) : checkedAdd a b = some (a + b) := if_pos h

/-- It has a result exactly if it fits. -/
theorem checkedAdd_eq_some {a b n : Nat} : checkedAdd a b = some n ↔ a + b < 2 ^ 64 ∧ a + b = n := by
  unfold checkedAdd
  rw [Option.ite_none_right_eq_some, Option.some.injEq]

/-- A difference that is not negative. -/
theorem sub_ok {a b : Nat} (h : b ≤ a) : sub a b = .ok ⟨a - b, rfl⟩ := if_pos h

/-- A signed difference in the range of its type. -/
theorem subI32_ok {a b : Int} (h : -2147483648 ≤ a - b) (h' : a - b < 2147483648) :
    subI32 a b = .ok ⟨a - b, rfl⟩ := if_pos ⟨h, h'⟩

/-- Rounding up that fits. -/
theorem align4_ok {offset : Nat} (h : offset + 3 < 2 ^ 64) :
    align4 offset = .ok ⟨(offset + 3) / 4 * 4, rfl⟩ := by
  unfold align4
  rw [add_ok h]
  rfl

/-- An addition of 32 bits that fits, in either build. -/
theorem addU32_ok (build : Build) {a b : UInt32} (h : a.toNat + b.toNat < 2 ^ 32) :
    addU32 build a b = .ok ⟨a + b, rfl⟩ := by
  cases build with
  | debug => exact if_pos h
  | release => rfl

/-- A length that fits is its own signed value. -/
theorem asI32_eq {n : Nat} (h : n < 2 ^ 31) : asI32 n = n := by
  unfold asI32 Int.bmod
  rw [Int.emod_eq_of_lt (by omega) (by omega), if_pos (by omega)]

/-- An index in bounds. -/
theorem index_ok {data : List UInt8} {i : Nat} (h : i < data.length) :
    index data i = .ok (data.getD i 0) := if_pos h

/-- A window in bounds. -/
theorem slice_ok {data : List α} {i j : Nat} (h : i ≤ j) (h' : j ≤ data.length) :
    slice data i j = .ok ⟨(data.drop i).take (j - i), rfl⟩ := if_pos ⟨h, h'⟩

/-- A rest in bounds. -/
theorem sliceFrom_ok {data : List α} {i : Nat} (h : i ≤ data.length) :
    sliceFrom data i = .ok ⟨data.drop i, rfl⟩ := if_pos h

/-- A position that was found is in bounds. -/
theorem rposition_lt {p : α → Bool} {data : List α} {i : Nat} (h : rposition p data = some i) :
    i < data.length := by
  unfold rposition at h
  obtain ⟨j, hj, rfl⟩ := Option.map_eq_some_iff.mp h
  have hlen := (List.findIdx?_eq_some_iff_getElem.mp hj).1
  rw [List.length_reverse] at hlen
  omega

/-- An element put at the end has the property, or the place is that of the others. -/
theorem rposition_concat (p : α → Bool) (data : List α) (a : α) :
    rposition p (data ++ [a]) = if p a then some data.length else rposition p data := by
  unfold rposition
  rw [List.reverse_append, List.reverse_singleton, List.singleton_append, List.findIdx?_cons,
    List.length_append, List.length_singleton]
  cases p a with
  | true => rfl
  | false =>
    rw [if_neg Bool.false_ne_true, if_neg Bool.false_ne_true, Option.map_map]
    congr 1
    funext i
    show data.length + 1 - 1 - (i + 1) = data.length - 1 - i
    omega

/-- A word in bounds, in either byte order. -/
theorem u16At_ok {data : List UInt8} {off : Nat} (hdata : data.length < 2 ^ 63)
    (h : off + 2 ≤ data.length) (le : Bool) : u16At data off le = .ok (rdU16 data off le) := by
  unfold u16At
  rw [index_ok (by omega), add_ok (by omega)]
  simp only [ok_bind]
  rw [index_ok (by omega)]
  rfl

/-- A double word in bounds, in either byte order. -/
theorem u32At_ok {data : List UInt8} {off : Nat} (hdata : data.length < 2 ^ 63)
    (h : off + 4 ≤ data.length) (le : Bool) : u32At data off le = .ok (rdU32 data off le) := by
  unfold u32At
  rw [index_ok (by omega), add_ok (by omega), add_ok (by omega), add_ok (by omega)]
  simp only [ok_bind]
  rw [index_ok (by omega), index_ok (by omega), index_ok (by omega)]
  rfl

/-- An array in bounds. -/
theorem arrayAt_ok {n : Nat} {data : List UInt8} {off : Nat} (hdata : data.length < 2 ^ 63)
    (h : off + n ≤ data.length) : arrayAt n data off = .ok (bytesAt n data off) := by
  unfold arrayAt
  rw [add_ok (by omega)]
  simp only [ok_bind]
  rw [slice_ok (by omega) h]
  rfl

/-! ## Whole computations -/

/-- The computation returns, and what it returns has the property. -/
def Returns (x : Comp α) (P : α → Prop) : Prop := ∃ a, x = .ok a ∧ P a

/-- The computation returns. -/
abbrev Safe (x : Comp α) : Prop := Returns x fun _ => True

/-- A value returns. -/
theorem returns_ok {P : α → Prop} {a : α} (h : P a) : Returns (.ok a : Comp α) P := ⟨a, rfl, h⟩

/-- A value is safe. -/
theorem safe_ok (a : α) : Safe (.ok a : Comp α) := ⟨a, rfl, trivial⟩

/-- A panic is not safe. -/
theorem not_safe_error (p : Panic) : ¬ Safe (.error p : Comp α) := by
  rintro ⟨a, h, _⟩
  cases h

/-- An index in bounds is safe. -/
theorem safe_index {data : List UInt8} {i : Nat} (h : i < data.length) : Safe (index data i) :=
  ⟨_, index_ok h, trivial⟩

/-- A computation followed by another. -/
theorem Returns.bind {x : Comp α} {f : α → Comp β} {P : α → Prop} {Q : β → Prop}
    (hx : Returns x P) (hf : ∀ a, P a → Returns (f a) Q) : Returns (x >>= f) Q := by
  obtain ⟨a, rfl, ha⟩ := hx
  exact hf a ha

/-- A branch returns if both sides do, each under its condition. -/
theorem Returns.ite {c : Prop} [Decidable c] {x y : Comp α} {P : α → Prop}
    (hx : c → Returns x P) (hy : ¬c → Returns y P) : Returns (if c then x else y) P := by
  by_cases h : c
  · rw [if_pos h]
    exact hx h
  · rw [if_neg h]
    exact hy h

/-- The same where the sides use the condition. -/
theorem Returns.dite {c : Prop} [Decidable c] {x : c → Comp α} {y : ¬c → Comp α} {P : α → Prop}
    (hx : ∀ h, Returns (x h) P) (hy : ∀ h, Returns (y h) P) :
    Returns (if h : c then x h else y h) P := by
  by_cases h : c
  · rw [dif_pos h]
    exact hx h
  · rw [dif_neg h]
    exact hy h

section Steps

/-! One rule for each operation: it is in range, and what follows returns whatever it gave. -/

variable {data : List UInt8} {P : β → Prop}

/-- The addition is done if it fits, and the rest sees what it is. -/
theorem Returns.add {a b : Nat} {f : Sum a b → Comp β} (h : a + b < 2 ^ 64)
    (hf : ∀ n : Sum a b, (n : Nat) = a + b → Returns (f n) P) : Returns (add a b >>= f) P := by
  rw [add_ok h]
  exact hf _ rfl

/-- So is the subtraction. -/
theorem Returns.sub {a b : Nat} {f : { n : Nat // n = a - b } → Comp β} (h : b ≤ a)
    (hf : ∀ n : { n : Nat // n = a - b }, (n : Nat) = a - b → Returns (f n) P) :
    Returns (sub a b >>= f) P := by
  rw [sub_ok h]
  exact hf _ rfl

/-- The signed one. -/
theorem Returns.subI32 {a b : Int} {f : { n : Int // n = a - b } → Comp β}
    (h : -2147483648 ≤ a - b) (h' : a - b < 2147483648)
    (hf : ∀ n : { n : Int // n = a - b }, (n : Int) = a - b → Returns (f n) P) :
    Returns (subI32 a b >>= f) P := by
  rw [subI32_ok h h']
  exact hf _ rfl

/-- And the rounding. -/
theorem Returns.align4 {offset : Nat} {f : { n : Nat // n = (offset + 3) / 4 * 4 } → Comp β}
    (h : offset + 3 < 2 ^ 64)
    (hf : ∀ n : { n : Nat // n = (offset + 3) / 4 * 4 }, (n : Nat) = (offset + 3) / 4 * 4 →
      Returns (f n) P) :
    Returns (align4 offset >>= f) P := by
  rw [align4_ok h]
  exact hf _ rfl

/-- So is the index. -/
theorem Returns.index {i : Nat} {f : UInt8 → Comp β} (h : i < data.length)
    (hf : ∀ b, Returns (f b) P) : Returns (index data i >>= f) P := by
  rw [index_ok h]
  exact hf _

/-- The window, of which the length is known. -/
theorem Returns.slice {i j : Nat} {f : Window data i j → Comp β} (h : i ≤ j)
    (h' : j ≤ data.length)
    (hf : ∀ w : Window data i j, w.val.length = j - i → Returns (f w) P) :
    Returns (slice data i j >>= f) P := by
  rw [slice_ok h h']
  apply hf
  rw [List.length_take, List.length_drop]
  omega

/-- And the rest of a slice. -/
theorem Returns.sliceFrom {i : Nat} {f : { w : List UInt8 // w = data.drop i } → Comp β}
    (h : i ≤ data.length)
    (hf : ∀ w : { w : List UInt8 // w = data.drop i }, w.val.length = data.length - i →
      Returns (f w) P) :
    Returns (sliceFrom data i >>= f) P := by
  rw [sliceFrom_ok h]
  exact hf _ List.length_drop

variable (hdata : data.length < 2 ^ 63)
include hdata

/-- A word is below its bound. -/
theorem Returns.u16At {off : Nat} {le : Bool} {f : UInt16 → Comp β} (h : off + 2 ≤ data.length)
    (hf : ∀ v, v.toNat < 65536 → Returns (f v) P) : Returns (u16At data off le >>= f) P := by
  rw [u16At_ok hdata h]
  exact hf _ (UInt16.toNat_lt _)

/-- So is a double word. -/
theorem Returns.u32At {off : Nat} {le : Bool} {f : UInt32 → Comp β} (h : off + 4 ≤ data.length)
    (hf : ∀ v, v.toNat < 4294967296 → Returns (f v) P) : Returns (u32At data off le >>= f) P := by
  rw [u32At_ok hdata h]
  exact hf _ (UInt32.toNat_lt _)

/-- An array is any array. -/
theorem Returns.arrayAt {n off : Nat} {f : Bytes n → Comp β} (h : off + n ≤ data.length)
    (hf : ∀ w, Returns (f w) P) : Returns (arrayAt n data off >>= f) P := by
  rw [arrayAt_ok hdata h]
  exact hf _

end Steps

end Checked
