/-
  SCANNING A QUEUE for its first verdict.

  A receive loop takes items off a queue until one of them decides the matter, and leaves the rest
  of the queue for whoever comes next.  `f` is what the loop makes of an item: nothing, and the
  loop goes on, or a verdict.  `scan f` is the loop.

  `scan_eq_some` says what a verdict means: everything before it was passed over.  `scan_inserted`
  says what an outsider can do to a scan by adding items of his own: nothing, exactly when the loop
  passes over them all.
-/
import Mathlib.Data.List.Basic

namespace Scan

variable {α β : Type}

/-- The first verdict, with what is left of the queue. -/
def scan (f : α → Option β) : List α → Option (β × List α)
  | [] => none
  | a :: l =>
    match f a with
    | some b => some (b, l)
    | none => scan f l

theorem scan_hit {f : α → Option β} {a : α} {b : β} (h : f a = some b) (l : List α) :
    scan f (a :: l) = some (b, l) := by
  simp only [scan, h]

theorem scan_pass {f : α → Option β} {a : α} (h : f a = none) (l : List α) :
    scan f (a :: l) = scan f l := by
  simp only [scan, h]

/-- Items without a verdict are passed over. -/
theorem scan_skip {f : α → Option β} {pre : List α} (h : ∀ a ∈ pre, f a = none) (l : List α) :
    scan f (pre ++ l) = scan f l := by
  induction pre with
  | nil => rfl
  | cons a pre ih =>
    rw [List.cons_append, scan_pass (h a List.mem_cons_self)]
    exact ih fun c hc => h c (List.mem_cons_of_mem a hc)

/-- **A verdict is that of the first item that has one.** -/
theorem scan_eq_some {f : α → Option β} {l rest : List α} {b : β} :
    scan f l = some (b, rest)
      ↔ ∃ pre a, l = pre ++ a :: rest ∧ (∀ c ∈ pre, f c = none) ∧ f a = some b := by
  constructor
  · intro h
    induction l with
    | nil => nomatch h
    | cons a l ih =>
      cases hf : f a with
      | some b' =>
        rw [scan_hit hf] at h
        obtain ⟨rfl, rfl⟩ := Prod.mk.inj (Option.some.inj h)
        exact ⟨[], a, rfl, nofun, hf⟩
      | none =>
        rw [scan_pass hf] at h
        obtain ⟨pre, c, rfl, hpre, hc⟩ := ih h
        refine ⟨a :: pre, c, rfl, ?_, hc⟩
        intro d hd
        rcases List.mem_cons.mp hd with rfl | hd
        · exact hf
        · exact hpre d hd
  · rintro ⟨pre, a, rfl, hpre, ha⟩
    rw [scan_skip hpre, scan_hit ha]

theorem scan_eq_none {f : α → Option β} {l : List α} :
    scan f l = none ↔ ∀ a ∈ l, f a = none := by
  induction l with
  | nil => exact ⟨fun _ => nofun, fun _ => rfl⟩
  | cons a l ih =>
    cases hf : f a with
    | some b =>
      rw [scan_hit hf]
      constructor
      · intro h
        nomatch h
      · intro h
        nomatch hf.symm.trans (h a List.mem_cons_self)
    | none =>
      rw [scan_pass hf, ih]
      constructor
      · intro h c hc
        rcases List.mem_cons.mp hc with rfl | hc
        · exact hf
        · exact h c hc
      · intro h c hc
        exact h c (List.mem_cons_of_mem a hc)

/-- **What items added before the deciding one can do.**  `mixed` marks the added ones.  Without
    them the scan decides at `a`; with them it still does exactly if each of them is passed over,
    provided that none of them gives that verdict itself. -/
theorem scan_inserted {f : α → Option β} {mixed : List (Bool × α)} {post : List α} {a : α} {b : β}
    (hother : ∀ p ∈ mixed, p.1 = true → f p.2 ≠ some b)
    (hbase : scan f ((mixed.filter fun p => !p.1).map Prod.snd ++ a :: post) = some (b, post)) :
    (scan f (mixed.map Prod.snd ++ a :: post)).map Prod.fst = some b
      ↔ ∀ p ∈ mixed, p.1 = true → f p.2 = none := by
  obtain ⟨pre, a', heq, hpre, ha'⟩ := scan_eq_some.mp hbase
  have hlen : pre.length = ((mixed.filter fun p => !p.1).map Prod.snd).length := by
    have := congrArg List.length heq
    simp only [List.length_append, List.length_cons] at this ⊢
    omega
  obtain ⟨rfl, htail⟩ := List.append_inj heq.symm hlen
  obtain rfl : a' = a := (List.cons.inj htail).1
  have hkept : ∀ p ∈ mixed, p.1 = false → f p.2 = none := by
    intro p hp hmark
    exact hpre p.2 (List.mem_map_of_mem (List.mem_filter.mpr ⟨hp, by rw [hmark]; rfl⟩))
  constructor
  · intro h p hp hmark
    obtain ⟨⟨b', rest⟩, hscan, rfl⟩ := Option.map_eq_some_iff.mp h
    obtain ⟨pre', c, heq', hpre', hc⟩ := scan_eq_some.mp hscan
    by_cases hlt : pre'.length < mixed.length
    · -- the verdict would be an added item's
      have hget : (mixed.map Prod.snd)[pre'.length]? = some c := by
        have hget := congrArg (fun l => l[pre'.length]?) heq'
        simp only [List.getElem?_append_right (Nat.le_refl _), Nat.sub_self,
          List.getElem?_cons_zero] at hget
        rwa [List.getElem?_append_left (by rw [List.length_map]; exact hlt)] at hget
      obtain ⟨q, hq, rfl⟩ := List.mem_map.mp (List.mem_of_getElem? hget)
      cases hqm : q.1 with
      | true => exact absurd hc (hother q hq hqm)
      | false => nomatch hc.symm.trans (hkept q hq hqm)
    · have hmem : p.2 ∈ pre' := by
        have htake := congrArg (List.take mixed.length) heq'
        rw [List.take_append_of_le_length (Nat.le_of_eq (List.length_map _).symm),
          List.take_of_length_le (Nat.le_of_eq (List.length_map _)),
          List.take_append_of_le_length (by omega)] at htake
        exact List.mem_of_mem_take (htake ▸ List.mem_map_of_mem hp)
      exact hpre' p.2 hmem
  · intro h
    have hall : ∀ c ∈ mixed.map Prod.snd, f c = none := by
      intro c hc
      obtain ⟨p, hp, rfl⟩ := List.mem_map.mp hc
      cases hmark : p.1 with
      | true => exact h p hp hmark
      | false => exact hkept p hp hmark
    rw [scan_skip hall, scan_hit ha']
    rfl

end Scan
