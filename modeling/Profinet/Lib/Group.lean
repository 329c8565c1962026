/-
  GROUPING A LIST BY KEY, in first-seen order.

  A grouping loop looks for the entry of an item's key by position; it extends the entry it
  finds and opens a new one at the end otherwise.  `foldl_group` says what the loop leaves
  behind: one entry per key, the keys in the order they were first seen (`List.eraseDups`), and
  each entry the one its key would have alone.  `perm_flatMap_filter` says that the classes
  behind the entries are the list itself, rearranged.

  The items, the keys and the entries are parameters.
-/
import Mathlib.Data.List.Induction
import Mathlib.Data.List.Nodup
import Mathlib.Data.List.Perm.Basic

namespace Group

variable {α β κ : Type} [DecidableEq κ]

/-! ## Keys in first-seen order -/

/-- The keys of a list in the order they were first seen, for a key type whose own equality test
    may be another one. -/
def firstSeen (l : List κ) : List κ := l.eraseDups

theorem nodup_eraseDups (l : List κ) : l.eraseDups.Nodup := by
  induction l using List.reverseRecOn with
  | nil => exact List.nodup_nil
  | append_singleton l k ih =>
    rw [List.eraseDups_append]
    by_cases hk : k ∈ l
    · simpa [List.removeAll, hk] using ih
    · have hone : ([k].removeAll l).eraseDups = [k] := by
        simp [List.removeAll, hk, List.eraseDups_cons]
      rw [hone]
      refine List.Nodup.append ih (List.nodup_singleton k) ?_
      intro x hx hxk
      rw [List.mem_singleton.mp hxk] at hx
      exact hk (List.mem_eraseDups.mp hx)

theorem nodup_firstSeen (l : List κ) : (firstSeen l).Nodup := nodup_eraseDups l

theorem mem_firstSeen {l : List κ} {k : κ} : k ∈ firstSeen l ↔ k ∈ l := List.mem_eraseDups

theorem eraseDups_snoc_of_mem {l : List κ} {k : κ} (hk : k ∈ l) :
    (l ++ [k]).eraseDups = l.eraseDups := by
  rw [List.eraseDups_append]
  simp [List.removeAll, hk]

theorem eraseDups_snoc_of_notMem {l : List κ} {k : κ} (hk : k ∉ l) :
    (l ++ [k]).eraseDups = l.eraseDups ++ [k] := by
  rw [List.eraseDups_append]
  simp [List.removeAll, hk, List.eraseDups_cons]

/-- **The classes are the list, rearranged**: every item is in the class of its own key and in
    no other. -/
theorem perm_flatMap_filter (key : α → κ) {ks : List κ} (hnd : ks.Nodup) (l : List α)
    (hcover : ∀ a ∈ l, key a ∈ ks) :
    (ks.flatMap fun k => l.filter fun a => key a = k).Perm l := by
  induction ks generalizing l with
  | nil =>
    have hl : l = [] := List.eq_nil_iff_forall_not_mem.mpr fun a ha => nomatch hcover a ha
    rw [hl]
    exact List.Perm.nil
  | cons k ks ih =>
    obtain ⟨hk, hks⟩ := List.nodup_cons.mp hnd
    rw [List.flatMap_cons]
    -- the later keys find their classes among the items that are not `k`'s
    have hrest : (ks.flatMap fun j => l.filter fun a => key a = j)
        = ks.flatMap fun j => (l.filter fun a => !decide (key a = k)).filter fun a => key a = j := by
      refine List.flatMap_congr ?_
      intro j hj
      rw [List.filter_filter]
      refine List.filter_congr ?_
      intro a _
      have hjk : j ≠ k := fun h => hk (h ▸ hj)
      by_cases ha : key a = j
      · simp [ha, hjk]
      · simp [ha]
    rw [hrest]
    refine (List.Perm.append_left _ (ih hks _ ?_)).trans
      (List.filter_append_perm (fun a => decide (key a = k)) l)
    intro a ha
    obtain ⟨hal, hak⟩ := List.mem_filter.mp ha
    rcases List.mem_cons.mp (hcover a hal) with h | h
    · simp [h] at hak
    · exact h

/-! ## The grouping loop -/

/-- One round: the entry of the key is found by position and extended, or opened. -/
def group (keyOf : β → κ) (key : α → κ) (fresh : α → β) (add : β → α → β) (es : List β) (a : α) :
    List β :=
  match es.findIdx? fun e => keyOf e = key a with
  | some i => es.modify i fun e => add e a
  | none => es ++ [add (fresh a) a]

/-- Modifying at the position of a key modifies the entry of that key. -/
theorem modify_findIdx? {keyOf : β → κ} {entry : κ → β} (hkey : ∀ k, keyOf (entry k) = k)
    {ks : List κ} (hnd : ks.Nodup) {k : κ} (hk : k ∈ ks) (g : β → β) :
    ∃ i, ((ks.map entry).findIdx? fun e => keyOf e = k) = some i
      ∧ (ks.map entry).modify i g = ks.map fun j => if j = k then g (entry j) else entry j := by
  induction ks with
  | nil => exact absurd hk List.not_mem_nil
  | cons j ks ih =>
    obtain ⟨hj, hks⟩ := List.nodup_cons.mp hnd
    rw [List.map_cons, List.findIdx?_cons]
    by_cases hjk : j = k
    · subst hjk
      refine ⟨0, by simp [hkey], ?_⟩
      rw [List.modify_zero_cons, List.map_cons, if_pos rfl]
      refine congrArg _ (List.map_congr_left fun i hi => ?_)
      have hij : i ≠ j := fun h => hj (h ▸ hi)
      rw [if_neg hij]
    · obtain ⟨i, hfind, hmod⟩ := ih hks ((List.mem_cons.mp hk).resolve_left (Ne.symm hjk))
      refine ⟨i + 1, by simp [hkey, hjk, hfind], ?_⟩
      rw [List.modify_succ_cons, hmod, List.map_cons, if_neg hjk]

theorem findIdx?_eq_none_of_notMem {keyOf : β → κ} {entry : κ → β}
    (hkey : ∀ k, keyOf (entry k) = k) {ks : List κ} {k : κ} (hk : k ∉ ks) :
    ((ks.map entry).findIdx? fun e => keyOf e = k) = none := by
  rw [List.findIdx?_eq_none_iff]
  intro e he
  obtain ⟨j, hj, rfl⟩ := List.mem_map.mp he
  rw [hkey]
  exact decide_eq_false fun h => hk (h ▸ hj)

/-- **What the loop leaves behind.**  `entry l k` is the entry of `k` after the items `l`: the
    hypotheses say how it starts, how one more item of its key extends it, and that items of
    other keys leave it alone. -/
theorem foldl_group (keyOf : β → κ) (key : α → κ) (fresh : α → β) (add : β → α → β)
    (entry : List α → κ → β) (hkey : ∀ l k, keyOf (entry l k) = k)
    (hopen : ∀ l a, key a ∉ l.map key → entry (l ++ [a]) (key a) = add (fresh a) a)
    (hadd : ∀ l a, key a ∈ l.map key → entry (l ++ [a]) (key a) = add (entry l (key a)) a)
    (hother : ∀ l a k, k ≠ key a → entry (l ++ [a]) k = entry l k) (l : List α) :
    l.foldl (group keyOf key fresh add) [] = (l.map key).eraseDups.map (entry l) := by
  induction l using List.reverseRecOn with
  | nil => rfl
  | append_singleton l a ih =>
    rw [List.foldl_append, ih, List.foldl_cons, List.foldl_nil, group, List.map_append]
    show _ = (l.map key ++ [key a]).eraseDups.map _
    by_cases hmem : key a ∈ l.map key
    · obtain ⟨i, hfind, hmod⟩ := modify_findIdx? (hkey l) (nodup_eraseDups (l.map key))
        (List.mem_eraseDups.mpr hmem) fun e => add e a
      rw [hfind, eraseDups_snoc_of_mem hmem]
      show List.modify _ i _ = _
      rw [hmod]
      refine List.map_congr_left ?_
      intro k _
      by_cases hk : k = key a
      · rw [if_pos hk, hk, hadd l a hmem]
      · rw [if_neg hk, hother l a k hk]
    · rw [findIdx?_eq_none_of_notMem (hkey l) (fun h => hmem (List.mem_eraseDups.mp h)),
        eraseDups_snoc_of_notMem hmem, List.map_append, List.map_cons, List.map_nil, hopen l a hmem]
      refine congrArg (· ++ _) (List.map_congr_left fun k hk => ?_)
      have hne : k ≠ key a := fun h => hmem (h ▸ List.mem_eraseDups.mp hk)
      exact (hother l a k hne).symm

end Group
