/-
  PACKING ITEMS END TO END, and the cells such a packing is made of.

  A frame layout is computed by a loop with a running offset: every item kept is placed at the
  offset, and the offset moves on by the item's size.  `pack` is that placement without the
  loop; `foldl_place` says that the loop with its two accumulators computes it.

  `Tiles cs a b` says that the extents `cs` follow one another without a gap from `a` to `b`.
  From it come, once for every layout, that the extents are pairwise disjoint and that they
  cover `[a, b)` and nothing else.

  The items, their sizes and what is placed are parameters: nothing here knows a frame.
-/
import Mathlib.Data.List.Basic
import Mathlib.Algebra.BigOperators.Group.List.Basic
import Mathlib.Algebra.GroupWithZero.Nat

namespace Pack

variable {α β : Type}

/-! ## Placing items -/

/-- The items of `l` one behind the other from `off`, each with the offset it starts at. -/
def pack (size : α → Nat) : Nat → List α → List (Nat × α)
  | _, [] => []
  | off, a :: l => (off, a) :: pack size (off + size a) l

/-- How far a packing of `l` reaches. -/
def span (size : α → Nat) (l : List α) : Nat := (l.map size).sum

@[simp] theorem span_nil (size : α → Nat) : span size [] = 0 := rfl

@[simp] theorem span_cons (size : α → Nat) (a : α) (l : List α) :
    span size (a :: l) = size a + span size l := by
  simp [span]

@[simp] theorem pack_nil (size : α → Nat) (off : Nat) : pack size off [] = [] := rfl

@[simp] theorem pack_cons (size : α → Nat) (off : Nat) (a : α) (l : List α) :
    pack size off (a :: l) = (off, a) :: pack size (off + size a) l := rfl

/-- The items come out in the order they went in. -/
theorem pack_map_snd (size : α → Nat) (off : Nat) (l : List α) :
    (pack size off l).map Prod.snd = l := by
  induction l generalizing off with
  | nil => rfl
  | cons a l ih => rw [pack_cons, List.map_cons, ih]

/-- Items of one byte each take consecutive offsets. -/
theorem pack_one_map_fst (off : Nat) (l : List α) :
    (pack (fun _ => 1) off l).map Prod.fst = List.range' off l.length := by
  induction l generalizing off with
  | nil => rfl
  | cons a l ih => rw [pack_cons, List.map_cons, ih, List.length_cons, List.range'_succ]

theorem span_one (l : List α) : span (fun _ => 1) l = l.length := by
  induction l with
  | nil => rfl
  | cons a l ih => rw [span_cons, ih, List.length_cons, Nat.add_comm]

/-- Items that take at least one byte each are no more than the bytes they take. -/
theorem length_le_span (size : α → Nat) (l : List α) (h : ∀ a, 0 < size a) :
    l.length ≤ span size l := by
  induction l with
  | nil => exact Nat.le_refl 0
  | cons a l ih =>
    have := h a
    rw [List.length_cons, span_cons]
    omega

/-- A placed item lies inside the packing. -/
theorem mem_pack {size : α → Nat} {off : Nat} {l : List α} {e : Nat × α}
    (he : e ∈ pack size off l) :
    off ≤ e.1 ∧ e.1 + size e.2 ≤ off + span size l ∧ e.2 ∈ l := by
  induction l generalizing off with
  | nil => exact absurd he List.not_mem_nil
  | cons a l ih =>
    rw [pack_cons] at he
    rcases List.mem_cons.mp he with rfl | he
    · show off ≤ off ∧ off + size a ≤ off + span size (a :: l) ∧ a ∈ a :: l
      rw [span_cons]
      exact ⟨Nat.le_refl _, by omega, List.mem_cons_self⟩
    · obtain ⟨h1, h2, h3⟩ := ih he
      rw [span_cons]
      exact ⟨by omega, by omega, List.mem_cons_of_mem a h3⟩

/-- Every item of the list is placed somewhere. -/
theorem exists_mem_pack (size : α → Nat) (off : Nat) {l : List α} {a : α} (ha : a ∈ l) :
    ∃ o, (o, a) ∈ pack size off l := by
  rw [← pack_map_snd size off l] at ha
  obtain ⟨⟨o, b⟩, hb, rfl⟩ := List.mem_map.mp ha
  exact ⟨o, hb⟩

/-- One pass of a layout loop: place the items that are kept, skip the others. -/
def place (keep : α → Bool) (size : α → Nat) (mk : Nat → α → β) (st : List β × Nat) (a : α) :
    List β × Nat :=
  if keep a then (st.1 ++ [mk st.2 a], st.2 + size a) else st

/-- **The loop computes the packing** of the items it keeps. -/
theorem foldl_place (keep : α → Bool) (size : α → Nat) (mk : Nat → α → β) (l : List α)
    (acc : List β) (off : Nat) :
    l.foldl (place keep size mk) (acc, off)
      = (acc ++ (pack size off (l.filter keep)).map (fun e => mk e.1 e.2),
          off + span size (l.filter keep)) := by
  induction l generalizing acc off with
  | nil => simp
  | cons a l ih =>
    rw [List.foldl_cons]
    by_cases hk : keep a = true
    · rw [place, if_pos hk, ih, List.filter_cons_of_pos hk, pack_cons, span_cons, List.map_cons,
        List.append_assoc, List.singleton_append, Nat.add_assoc]
    · rw [place, if_neg hk, ih, List.filter_cons_of_neg hk]

/-! ## Extents that tile an interval -/

/-- `len` places from `start` on. -/
structure Extent where
  start : Nat
  len : Nat
  deriving DecidableEq, Repr

/-- Position `p` lies in the extent. -/
def Extent.Has (c : Extent) (p : Nat) : Prop := c.start ≤ p ∧ p < c.start + c.len

/-- No position lies in both. -/
def Extent.Disjoint (c d : Extent) : Prop := ∀ p, c.Has p → ¬ d.Has p

/-- The extents follow one another without a gap from `a` to `b`. -/
def Tiles : List Extent → Nat → Nat → Prop
  | [], a, b => a = b
  | c :: cs, a, b => c.start = a ∧ Tiles cs (a + c.len) b

theorem Tiles.append {cs ds : List Extent} {a b c : Nat} (h : Tiles cs a b) (h' : Tiles ds b c) :
    Tiles (cs ++ ds) a c := by
  induction cs generalizing a with
  | nil =>
    have hab : a = b := h
    rw [hab]
    exact h'
  | cons e cs ih => exact ⟨h.1, ih h.2⟩

theorem Tiles.le {cs : List Extent} {a b : Nat} (h : Tiles cs a b) : a ≤ b := by
  induction cs generalizing a with
  | nil => exact Nat.le_of_eq h
  | cons c cs ih =>
    have := ih h.2
    omega

/-- **A tiling covers its interval, and nothing else.** -/
theorem Tiles.covers {cs : List Extent} {a b : Nat} (h : Tiles cs a b) (p : Nat) :
    (∃ c ∈ cs, c.Has p) ↔ a ≤ p ∧ p < b := by
  induction cs generalizing a with
  | nil =>
    have hab : a = b := h
    constructor
    · rintro ⟨c, hc, -⟩
      exact absurd hc List.not_mem_nil
    · intro hp
      omega
  | cons c cs ih =>
    obtain ⟨hstart, htail⟩ := h
    have hle := htail.le
    constructor
    · rintro ⟨d, hd, hp⟩
      rcases List.mem_cons.mp hd with rfl | hd
      · obtain ⟨h1, h2⟩ := hp
        omega
      · have := (ih htail).mp ⟨d, hd, hp⟩
        omega
    · intro hp
      by_cases hc : p < a + c.len
      · exact ⟨c, List.mem_cons_self, by unfold Extent.Has; omega⟩
      · obtain ⟨d, hd, hdp⟩ := (ih htail).mpr ⟨by omega, hp.2⟩
        exact ⟨d, List.mem_cons_of_mem c hd, hdp⟩

/-- **The extents of a tiling are pairwise disjoint.** -/
theorem Tiles.pairwise_disjoint {cs : List Extent} {a b : Nat} (h : Tiles cs a b) :
    cs.Pairwise Extent.Disjoint := by
  induction cs generalizing a with
  | nil => exact List.Pairwise.nil
  | cons c cs ih =>
    obtain ⟨hstart, htail⟩ := h
    refine List.Pairwise.cons ?_ (ih htail)
    intro d hd p hcp hdp
    -- everything behind `c` starts where `c` ends
    have hp := (htail.covers p).mp ⟨d, hd, hdp⟩
    have hlt := hcp.2
    omega

/-- An item may be split into extents of its own: the packing still tiles. -/
theorem tiles_pack (size : α → Nat) (cells : Nat × α → List Extent)
    {l : List α} (hcells : ∀ a ∈ l, ∀ o, Tiles (cells (o, a)) o (o + size a)) (off : Nat) :
    Tiles ((pack size off l).flatMap cells) off (off + span size l) := by
  induction l generalizing off with
  | nil => rfl
  | cons a l ih =>
    rw [pack_cons, List.flatMap_cons, span_cons, ← Nat.add_assoc]
    exact (hcells a List.mem_cons_self off).append
      (ih (fun b hb => hcells b (List.mem_cons_of_mem a hb)) (off + size a))

end Pack
