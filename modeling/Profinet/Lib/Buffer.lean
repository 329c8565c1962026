/-
  BYTE BUFFERS WRITTEN IN PLACE, with the bounds checks of the language made visible.

  `buf[off..off + n].copy_from_slice(data)` and `buf[i] = x` abort the thread when the window
  does not fit.  `write` returns `none` there, so "never indexes out of bounds" is a statement
  about its result.  `write_eq` gives the positional reading of a write that fits: the window
  holds the data, every other byte is what it was.

  `settle` turns a computation that is proved not to abort, and to keep a property, into a
  total function on the values that have the property.
-/
import Mathlib.Data.List.Basic

namespace Buffer

variable {α : Type}

/-! ## Windows -/

/-- The window `[off, off + n)` of the buffer; `none` when it does not fit. -/
def read (buf : List α) (off n : Nat) : Option (List α) :=
  if off + n ≤ buf.length then some ((buf.drop off).take n) else none

/-- The buffer with the window that starts at `off` replaced by `data`. -/
def written (buf : List α) (off : Nat) (data : List α) : List α :=
  buf.take off ++ (data ++ buf.drop (off + data.length))

/-- Overwrite the window that starts at `off` with `data`; `none` when it does not fit. -/
def write (buf : List α) (off : Nat) (data : List α) : Option (List α) :=
  if off + data.length ≤ buf.length then some (written buf off data) else none

theorem write_eq {buf : List α} {off : Nat} {data : List α}
    (h : off + data.length ≤ buf.length) : write buf off data = some (written buf off data) :=
  if_pos h

theorem written_length {buf : List α} {off : Nat} {data : List α}
    (h : off + data.length ≤ buf.length) : (written buf off data).length = buf.length := by
  simp only [written, List.length_append, List.length_take, List.length_drop]
  omega

/-- A write changes nothing outside its window. -/
theorem written_getElem?_outside {buf : List α} {off : Nat} {data : List α}
    (h : off + data.length ≤ buf.length) {p : Nat} (hp : p < off ∨ off + data.length ≤ p) :
    (written buf off data)[p]? = buf[p]? := by
  have htake : (buf.take off).length = off := by
    rw [List.length_take]
    omega
  rcases hp with hp | hp
  · rw [written, List.getElem?_append_left (by omega), List.getElem?_take_of_lt hp]
  · rw [written, List.getElem?_append_right (by omega), htake,
      List.getElem?_append_right (by omega), List.getElem?_drop]
    congr 1
    omega

/-- Inside its window a write leaves the data. -/
theorem written_getElem?_inside {buf : List α} {off : Nat} {data : List α}
    (h : off + data.length ≤ buf.length) {i : Nat} (hi : i < data.length) :
    (written buf off data)[off + i]? = data[i]? := by
  have htake : (buf.take off).length = off := by
    rw [List.length_take]
    omega
  rw [written, List.getElem?_append_right (by omega), htake,
    List.getElem?_append_left (by omega)]
  congr 1
  omega

theorem read_eq {buf : List α} {off n : Nat} (h : off + n ≤ buf.length) :
    read buf off n = some ((buf.drop off).take n) :=
  if_pos h

/-- Two buffers that agree on a window give the same bytes there. -/
theorem window_congr {buf buf' : List α} {off n : Nat}
    (h : ∀ i, i < n → buf'[off + i]? = buf[off + i]?) :
    (buf'.drop off).take n = (buf.drop off).take n := by
  apply List.ext_getElem?
  intro i
  by_cases hi : i < n
  · rw [List.getElem?_take_of_lt hi, List.getElem?_take_of_lt hi, List.getElem?_drop,
      List.getElem?_drop, h i hi]
  · rw [List.getElem?_take_eq_none (by omega), List.getElem?_take_eq_none (by omega)]

/-- A buffer that holds `data` byte by byte in a window gives `data` there. -/
theorem window_eq {buf data : List α} {off : Nat}
    (h : ∀ i, i < data.length → buf[off + i]? = data[i]?) :
    (buf.drop off).take data.length = data := by
  apply List.ext_getElem?
  intro i
  by_cases hi : i < data.length
  · rw [List.getElem?_take_of_lt hi, List.getElem?_drop, h i hi]
  · rw [List.getElem?_take_eq_none (by omega), List.getElem?_eq_none (by omega)]

/-! ## One value at several places -/

/-- `buf'` is `buf` with `x` at the places `offs`, and the same everywhere else. -/
def Stamped (buf : List α) (offs : List Nat) (x : α) (buf' : List α) : Prop :=
  buf'.length = buf.length ∧ ∀ p, p < buf.length → buf'[p]? = if p ∈ offs then some x else buf[p]?

theorem stamped_nil (buf : List α) (x : α) : Stamped buf [] x buf := by
  refine ⟨rfl, ?_⟩
  intro p _
  rw [if_neg List.not_mem_nil]

theorem stamped_written {buf : List α} {off : Nat} (h : off < buf.length) (x : α) :
    Stamped buf [off] x (written buf off [x]) := by
  have hfit : off + [x].length ≤ buf.length := h
  refine ⟨written_length hfit, ?_⟩
  intro p _
  by_cases hp : p = off
  · have hin := written_getElem?_inside hfit (i := 0) Nat.one_pos
    rw [if_pos (List.mem_singleton.mpr hp), hp]
    exact hin
  · rw [if_neg (fun hm => hp (List.mem_singleton.mp hm)),
      written_getElem?_outside hfit (by simp only [List.length_singleton]; omega)]

/-- A place that holds the value already may be counted among those stamped. -/
theorem stamped_same {buf : List α} {off : Nat} {x : α} (h : buf[off]? = some x) :
    Stamped buf [off] x buf := by
  refine ⟨rfl, ?_⟩
  intro p _
  by_cases hp : p = off
  · rw [if_pos (List.mem_singleton.mpr hp), hp, h]
  · rw [if_neg (fun hm => hp (List.mem_singleton.mp hm))]

theorem Stamped.trans {buf buf' buf'' : List α} {offs offs' : List Nat} {x : α}
    (h : Stamped buf offs x buf') (h' : Stamped buf' offs' x buf'') :
    Stamped buf (offs ++ offs') x buf'' := by
  refine ⟨h'.1.trans h.1, ?_⟩
  intro p hp
  rw [h'.2 p (by rw [h.1]; exact hp), h.2 p hp]
  by_cases hm' : p ∈ offs'
  · rw [if_pos hm', if_pos (List.mem_append_right _ hm')]
  · by_cases hm : p ∈ offs
    · rw [if_neg hm', if_pos hm, if_pos (List.mem_append_left _ hm)]
    · rw [if_neg hm', if_neg hm, if_neg (fun h => (List.mem_append.mp h).elim hm hm')]

theorem Stamped.getElem?_of_notMem {buf buf' : List α} {offs : List Nat} {x : α}
    (h : Stamped buf offs x buf') {p : Nat} (hp : p ∉ offs) : buf'[p]? = buf[p]? := by
  by_cases hlt : p < buf.length
  · rw [h.2 p hlt, if_neg hp]
  · rw [List.getElem?_eq_none (by rw [h.1]; omega), List.getElem?_eq_none (by omega)]

theorem Stamped.getElem?_of_mem {buf buf' : List α} {offs : List Nat} {x : α}
    (h : Stamped buf offs x buf') {p : Nat} (hp : p ∈ offs) (hlt : p < buf.length) :
    buf'[p]? = some x := by
  rw [h.2 p hlt, if_pos hp]

/-- The buffer with `x` at the places `offs`. -/
def stamp (buf : List α) (offs : List Nat) (x : α) : List α :=
  buf.mapIdx fun p y => if p ∈ offs then x else y

theorem stamped_stamp (buf : List α) (offs : List Nat) (x : α) :
    Stamped buf offs x (stamp buf offs x) := by
  refine ⟨List.length_mapIdx, ?_⟩
  intro p hp
  rw [stamp, List.getElem?_mapIdx, List.getElem?_eq_getElem hp, Option.map_some]
  by_cases hm : p ∈ offs
  · rw [if_pos hm, if_pos hm]
  · rw [if_neg hm, if_neg hm]

/-- Only one buffer is stamped so. -/
theorem Stamped.eq_stamp {buf buf' : List α} {offs : List Nat} {x : α}
    (h : Stamped buf offs x buf') : buf' = stamp buf offs x := by
  have hst := stamped_stamp buf offs x
  apply List.ext_getElem?
  intro p
  by_cases hp : p < buf.length
  · rw [h.2 p hp, hst.2 p hp]
  · rw [List.getElem?_eq_none (by rw [h.1]; omega), List.getElem?_eq_none (by rw [hst.1]; omega)]

/-! ## Computations that are known not to abort -/

/-- The value of a computation that is proved to give one with property `P`. -/
def settle {P : α → Prop} : (o : Option α) → (∃ a, o = some a ∧ P a) → { a : α // P a }
  | some a, h => ⟨a, by obtain ⟨b, hb, hP⟩ := h; exact Option.some.inj hb ▸ hP⟩
  | none, h => absurd h (by rintro ⟨a, ha, -⟩; nomatch ha)

theorem settle_eq {P : α → Prop} {o : Option α} (h : ∃ a, o = some a ∧ P a) :
    o = some (settle o h).1 := by
  cases o with
  | some a => rfl
  | none => obtain ⟨a, ha, -⟩ := h; nomatch ha

end Buffer
