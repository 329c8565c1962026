/-
  RUNS: how long the runs of some characters in a text are.

  `runs p n k s` walks over `s` behind a run of `k` characters of `p`: it is the length of the run
  that `s` ends in, and `none` if a run of `n` turns up.  So a text is walked piece by piece; a piece
  that begins with another character does not care what it stands behind.

      infix_mark    a word without a character stands before or behind it
      not_infix     a word of `n` characters of `p` does not stand in a text of shorter runs
-/
import Profinet.Lib.Text

namespace Text

variable {p : Char → Bool} {n : Nat}

/-- The run that the text ends in, behind one of `k`, if none is as long as `n`. -/
def runs (p : Char → Bool) (n : Nat) : Nat → List Char → Option Nat
  | k, [] => some k
  | k, c :: s => if p c then (if k + 1 < n then runs p n (k + 1) s else none) else runs p n 0 s

theorem runs_append (a b : List Char) (k : Nat) :
    runs p n k (a ++ b) = (runs p n k a).bind fun k => runs p n k b := by
  induction a generalizing k with
  | nil => rfl
  | cons c a ih =>
    show (if p c then (if k + 1 < n then runs p n (k + 1) (a ++ b) else none)
      else runs p n 0 (a ++ b)) = _
    rw [ih, ih, runs]
    by_cases hc : p c = true
    · rw [if_pos hc, if_pos hc]
      by_cases hk : k + 1 < n
      · rw [if_pos hk, if_pos hk]
      · rw [if_neg hk, if_neg hk]
        rfl
    · rw [if_neg hc, if_neg hc]

/-- A piece that is one run. -/
theorem runs_all {s : List Char} (h : ∀ c ∈ s, p c = true) {k : Nat} (hk : k + s.length < n) :
    runs p n k s = some (k + s.length) := by
  induction s generalizing k with
  | nil => rfl
  | cons c s ih =>
    rw [List.forall_mem_cons] at h
    rw [List.length_cons] at hk
    rw [runs, if_pos h.1, if_pos (by omega), ih h.2 (by omega), List.length_cons]
    congr 1
    omega

/-- Runs that are short behind a run are short by themselves. -/
theorem runs_mono {s : List Char} {k j : Nat} (h : (runs p n k s).isSome) (hj : j ≤ k) :
    (runs p n j s).isSome := by
  induction s generalizing k j with
  | nil => rfl
  | cons c s ih =>
    rw [runs] at h ⊢
    by_cases hc : p c = true
    · rw [if_pos hc] at h ⊢
      by_cases hk : k + 1 < n
      · rw [if_pos hk] at h
        rw [if_pos (by omega)]
        exact ih h (by omega)
      · rw [if_neg hk] at h
        cases h
    · rw [if_neg hc] at h ⊢
      exact h

/-- No word of `n` such characters stands in the text. -/
theorem not_infix {s w : List Char} (h : (runs p n 0 s).isSome) (hw : ∀ c ∈ w, p c = true)
    (hlen : w.length = n) (hpos : 0 < n) : ¬ w <:+: s := by
  -- it does not stand at the head of the text, behind a run or not
  have hprefix : ∀ {s : List Char} {w : List Char} {k : Nat}, (∀ c ∈ w, p c = true) →
      w <+: s → (runs p n k s).isSome → w ≠ [] → k + w.length < n := by
    intro s
    induction s with
    | nil =>
      intro w k _ hpre _ hne
      exact absurd (List.prefix_nil.mp hpre) hne
    | cons c s ih =>
      intro w k hw hpre hsome hne
      cases w with
      | nil => exact absurd rfl hne
      | cons d w =>
        obtain ⟨rfl, hrest⟩ := List.cons_prefix_cons.mp hpre
        rw [List.forall_mem_cons] at hw
        rw [runs, if_pos hw.1] at hsome
        by_cases hk : k + 1 < n
        · rw [if_pos hk] at hsome
          rw [List.length_cons]
          cases w with
          | nil => exact hk
          | cons e w =>
            have hlt := ih hw.2 hrest hsome (List.cons_ne_nil _ _)
            omega
        · rw [if_neg hk] at hsome
          cases hsome
  induction s with
  | nil =>
    intro hinfix
    rw [List.infix_nil.mp hinfix] at hlen
    rw [← hlen] at hpos
    exact Nat.lt_irrefl 0 hpos
  | cons c s ih =>
    intro hinfix
    rcases List.infix_cons_iff.mp hinfix with hpre | hinfix
    · have hne : w ≠ [] := by
        rintro rfl
        rw [← hlen] at hpos
        exact Nat.lt_irrefl 0 hpos
      have hlt := hprefix hw hpre h hne
      omega
    · refine ih ?_ hinfix
      rw [runs] at h
      split at h
      · split at h
        · exact runs_mono h (Nat.zero_le _)
        · cases h
      · exact h

/-- A word that stands in a text, and has not the character `c`, stands before or behind it. -/
theorem infix_mark {c : Char} {w a b : List Char} (hw : c ∉ w) (h : w <:+: a ++ c :: b) :
    w <:+: a ∨ w <:+: b := by
  induction a with
  | nil =>
    rcases List.infix_cons_iff.mp h with hpre | hinfix
    · cases w with
      | nil => exact .inl (List.nil_infix)
      | cons d w =>
        obtain ⟨rfl, -⟩ := List.cons_prefix_cons.mp hpre
        exact absurd List.mem_cons_self hw
    · exact .inr hinfix
  | cons d a ih =>
    rcases List.infix_cons_iff.mp h with hpre | hinfix
    · have hself : d :: a <+: d :: (a ++ c :: b) := ⟨c :: b, rfl⟩
      rcases List.prefix_or_prefix_of_prefix hpre hself with hshort | ⟨t, rfl⟩
      · exact .inl hshort.isInfix
      · have htail : t <+: c :: b := by
          have hcons : d :: a ++ t <+: d :: a ++ c :: b := hpre
          exact (List.prefix_append_right_inj _).mp hcons
        cases t with
        | nil =>
          rw [List.append_nil]
          exact .inl List.infix_rfl
        | cons e t =>
          obtain ⟨rfl, -⟩ := List.cons_prefix_cons.mp htail
          exact absurd (List.mem_append_right _ List.mem_cons_self) hw
    · rcases ih hinfix with hbefore | hbehind
      · exact .inl (hbefore.trans (List.suffix_cons d a).isInfix)
      · exact .inr hbehind

/-- The text has the word in it. -/
def contains (w s : List Char) : Bool := (splitOnce w s).isSome

theorem contains_iff {w s : List Char} : contains w s = true ↔ w <:+: s := by
  constructor
  · intro h
    obtain ⟨⟨a, b⟩, hsplit⟩ := Option.isSome_iff_exists.mp h
    rw [splitOnce_some hsplit]
    exact List.infix_append' a w b
  · intro h
    unfold contains
    induction s with
    | nil =>
      rw [List.infix_nil.mp h]
      rfl
    | cons c s ih =>
      unfold splitOnce
      by_cases hpre : w.isPrefixOf (c :: s) = true
      · rw [if_pos hpre]
        rfl
      · rw [if_neg hpre]
        simp only [Option.isSome_map]
        refine ih ?_
        rcases List.infix_cons_iff.mp h with hhead | hinfix
        · exact absurd (List.isPrefixOf_iff_prefix.mpr hhead) hpre
        · exact hinfix

end Text
