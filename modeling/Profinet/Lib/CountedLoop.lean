/-
  COUNTED LOOPS OVER OFFSETS.

  `Counted.counted` is a loop over the bytes from where it stands.  A program keeps the bytes in one
  buffer and an offset into it; `countedFrom` is that loop, with a checked round.  `span` is the
  bytes from an offset to where the loop has to stop.  A round that reads at an offset what `step`
  reads of the span makes a loop that does (`countedFrom_ok`); of a round of which only the offset
  is known, the offset of the loop is known (`returns_countedFrom`).  `ReadsAt` is `Reads` of a round
  at an offset, over the bytes that stand there.
-/
import Profinet.Lib.Counted
import Profinet.Lib.Stands

namespace Counted

open Checked Wire

variable {β : Type}

/-- `count` rounds of a loop at an offset, which breaks off at `none`. -/
def countedFrom (step : Nat → Comp (Option (List β × Nat))) :
    Nat → Nat → Comp (List β × Nat)
  | 0, p => return ([], p)
  | count + 1, p => do
    match ← step p with
    | none => return ([], p)
    | some (found, p) =>
      let (more, p) ← countedFrom step count p
      return (found ++ more, p)

/-- The bytes from an offset up to `stop`. -/
def span (data : List UInt8) (stop p : Nat) : List UInt8 := (data.take stop).drop p

theorem span_length {data : List UInt8} {stop : Nat} (h : stop ≤ data.length) (p : Nat) :
    (span data stop p).length = stop - p := by
  unfold span
  rw [List.length_drop, List.length_take, Nat.min_eq_left h]

theorem span_drop (data : List UInt8) (stop p n : Nat) :
    (span data stop p).drop n = span data stop (p + n) := by
  unfold span
  rw [List.drop_drop]

theorem rdU16_span {data : List UInt8} {stop p k : Nat} (h : p + k + 2 ≤ stop)
    (hstop : stop ≤ data.length) (le : Bool) :
    rdU16 (span data stop p) k le = rdU16 data (p + k) le := by
  unfold span
  rw [rdU16_drop, rdU16_take h hstop]

theorem rdU32_span {data : List UInt8} {stop p k : Nat} (h : p + k + 4 ≤ stop)
    (hstop : stop ≤ data.length) (le : Bool) :
    rdU32 (span data stop p) k le = rdU32 data (p + k) le := by
  unfold span
  rw [rdU32_drop, rdU32_take h hstop]

theorem span_min (data : List UInt8) (stop p : Nat) :
    span data (min stop data.length) p = span data stop p := by
  unfold span
  rw [List.take_eq_take_iff.mpr]
  omega

/-- A window that starts in the data, as a span of it. -/
theorem drop_take_eq_span (data : List UInt8) (off n : Nat) :
    (data.drop off).take n = span data (min (off + n) data.length) off := by
  rw [span_min, List.take_drop]
  rfl

/-- The checked round at an offset agrees with the round over the span. -/
def Agrees (stepFrom : Nat → Comp (Option (List β × Nat)))
    (step : List UInt8 → Option (List β × List UInt8)) (data : List UInt8) (stop : Nat) : Prop :=
  ∀ p, p ≤ stop →
    (stepFrom p = .ok none ∧ step (span data stop p) = none) ∨
    ∃ found p', p' ≤ stop ∧ stepFrom p = .ok (some (found, p')) ∧
      step (span data stop p) = some (found, span data stop p')

theorem countedFrom_ok {stepFrom : Nat → Comp (Option (List β × Nat))}
    {step : List UInt8 → Option (List β × List UInt8)} {data : List UInt8} {stop : Nat}
    (h : Agrees stepFrom step data stop) (count : Nat) {p : Nat} (hp : p ≤ stop) :
    ∃ found p', p' ≤ stop ∧ countedFrom stepFrom count p = .ok (found, p') ∧
      counted step count (span data stop p) = (found, span data stop p') := by
  induction count generalizing p with
  | zero => exact ⟨[], p, hp, rfl, rfl⟩
  | succ count ih =>
    rcases h p hp with ⟨hfrom, hstep⟩ | ⟨found, p', hp', hfrom, hstep⟩
    · refine ⟨[], p, hp, ?_, counted_none hstep _⟩
      unfold countedFrom
      rw [hfrom]
      rfl
    · obtain ⟨more, p'', hp'', hmore, hcounted⟩ := ih hp'
      refine ⟨found ++ more, p'', hp'', ?_, ?_⟩
      · unfold countedFrom
        rw [hfrom]
        simp only [ok_bind]
        rw [hmore]
        rfl
      · rw [counted_some hstep, hcounted]

/-- The loop ends at an offset of the kind its rounds end at. -/
theorem returns_countedFrom {step : Nat → Comp (Option (List β × Nat))} {Q : Nat → Prop}
    (h : ∀ p, Q p → Returns (step p) fun r => ∀ found p', r = some (found, p') → Q p')
    (count : Nat) {p : Nat} (hp : Q p) :
    Returns (countedFrom step count p) fun r => Q r.2 := by
  induction count generalizing p with
  | zero => exact returns_ok hp
  | succ count ih =>
    refine (h p hp).bind ?_
    intro r hr
    rcases r with _ | ⟨found, p'⟩
    · exact returns_ok hp
    · exact (ih (hr _ _ rfl)).bind fun r hr => returns_ok hr

section ReadsAt

variable {α : Type} {K : Nat} {step : Nat → Comp (Option (List β × Nat))} {data : List UInt8}
  {enc : α → List UInt8} {val : α → List β}

/-- A round at an offset reads an element that stands there as a whole; of one cut short it reads a
    prefix and leaves fewer than `K` bytes; and it invents none from fewer than `K` bytes. -/
structure ReadsAt (K : Nat) (step : Nat → Comp (Option (List β × Nat))) (data : List UInt8)
    (enc : α → List UInt8) (val : α → List β) : Prop where
  whole (a : α) (p : Nat) : Stands data p (enc a) →
    step p = .ok (some (val a, p + (enc a).length))
  cut (a : α) (p : Nat) : CutAt data p (enc a) →
    (step p = .ok none ∧ data.length < p + K)
      ∨ ∃ found p', step p = .ok (some (found, p')) ∧ found <+: val a ∧ p' ≤ data.length
        ∧ data.length < p' + K
  short (p : Nat) : p ≤ data.length → data.length < p + K →
    step p = .ok none
      ∨ ∃ p', step p = .ok (some ([], p')) ∧ p' ≤ data.length ∧ data.length < p' + K

theorem countedFrom_none {p : Nat} (h : step p = .ok none) (count : Nat) :
    countedFrom step count p = .ok ([], p) := by
  cases count with
  | zero => rfl
  | succ count =>
    rw [countedFrom, h]
    rfl

theorem countedFrom_some {p p' p'' : Nat} {found more : List β} {count : Nat}
    (h : step p = .ok (some (found, p'))) (hmore : countedFrom step count p' = .ok (more, p'')) :
    countedFrom step (count + 1) p = .ok (found ++ more, p'') := by
  rw [countedFrom, h, ok_bind]
  dsimp only
  rw [hmore]
  rfl

theorem ReadsAt.whole_list (h : ReadsAt K step data enc val) {l : List α} {p : Nat}
    (hl : Stands data p (l.flatMap enc)) :
    countedFrom step l.length p = .ok (l.flatMap val, p + (l.flatMap enc).length) := by
  induction l generalizing p with
  | nil => rfl
  | cons a l ih =>
    rw [List.flatMap_cons] at hl
    obtain ⟨hfirst, hrest⟩ := hl.split rfl
    rw [List.flatMap_cons, List.flatMap_cons, List.length_append, ← Nat.add_assoc]
    exact countedFrom_some (h.whole a p hfirst) (ih hrest)

theorem ReadsAt.short_list (h : ReadsAt K step data enc val) {p : Nat} (hp : p ≤ data.length)
    (hshort : data.length < p + K) (count : Nat) :
    ∃ p', countedFrom step count p = .ok ([], p') ∧ p' ≤ data.length ∧ data.length < p' + K := by
  induction count generalizing p with
  | zero => exact ⟨p, rfl, hp, hshort⟩
  | succ count ih =>
    rcases h.short p hp hshort with hnone | ⟨p', hsome, hp', hshort'⟩
    · exact ⟨p, countedFrom_none hnone _, hp, hshort⟩
    · obtain ⟨p'', hmore, hp''⟩ := ih hp' hshort'
      exact ⟨p'', countedFrom_some hsome hmore, hp''⟩

/-- Of a list cut short a prefix is read, as `Reads.cut_list` has it of the loop over bytes. -/
theorem ReadsAt.cut_list (h : ReadsAt K step data enc val) {l : List α} {p : Nat}
    (hl : CutAt data p (l.flatMap enc)) :
    ∃ found p', countedFrom step l.length p = .ok (found, p') ∧ found <+: l.flatMap val
      ∧ p' ≤ data.length ∧ data.length < p' + K := by
  induction l generalizing p with
  | nil =>
    have hshort := hl.short
    have hinside := hl.inside
    rw [List.flatMap_nil, List.length_nil] at hshort
    omega
  | cons a l ih =>
    rw [List.flatMap_cons] at hl
    rw [List.flatMap_cons, List.length_cons]
    rcases hl.split rfl with hfirst | ⟨hfirst, hrest⟩
    · rcases h.cut a p hfirst with ⟨hnone, hK⟩ | ⟨found, p', hsome, hpre, hp', hK⟩
      · exact ⟨[], p, countedFrom_none hnone _, List.nil_prefix, hfirst.inside, hK⟩
      · -- the rounds behind the element that is cut have too few bytes
        obtain ⟨p'', hmore, hp''⟩ := h.short_list hp' hK l.length
        refine ⟨found, p'', ?_, hpre.trans (List.prefix_append _ _), hp''⟩
        rw [countedFrom_some hsome hmore, List.append_nil]
    · obtain ⟨found, p', hmore, hpre, hp'⟩ := ih hrest
      exact ⟨val a ++ found, p', countedFrom_some (h.whole a p hfirst) hmore,
        (List.prefix_append_right_inj _).mpr hpre, hp'⟩

end ReadsAt

/-! ## Loops that fail -/

variable {σ ε : Type}

/-- `count` rounds of a loop at an offset that carries a value; a round that fails, fails the
    loop. -/
def everyFrom (step : σ → Nat → Comp (Except ε (σ × Nat))) :
    Nat → σ → Nat → Comp (Except ε (σ × Nat))
  | 0, s, p => return .ok (s, p)
  | count + 1, s, p => do
    match ← step s p with
    | .error e => return .error e
    | .ok (s, p) => everyFrom step count s p

theorem returns_everyFrom {step : σ → Nat → Comp (Except ε (σ × Nat))} {Q : Nat → Prop}
    (h : ∀ s p, Q p → Returns (step s p) fun r => ∀ s' p', r = .ok (s', p') → Q p')
    (count : Nat) (s : σ) {p : Nat} (hp : Q p) :
    Returns (everyFrom step count s p) fun r => ∀ s' p', r = .ok (s', p') → Q p' := by
  induction count generalizing s p with
  | zero =>
    refine returns_ok ?_
    intro s' p' heq
    cases heq
    exact hp
  | succ count ih =>
    refine (h s p hp).bind ?_
    intro r hr
    rcases r with e | ⟨s', p'⟩
    · exact returns_ok nofun
    · exact ih s' (hr s' p' rfl)

section Lists

variable {α : Type} {step : σ → Nat → Comp (Except ε (σ × Nat))} {data : List UInt8}
  {enc : α → List UInt8} {put : σ → α → σ} {l : List α}

/-- A list whose elements are read one by one is read as a whole: each is put to the value. -/
theorem everyFrom_whole
    (h : ∀ a ∈ l, ∀ s p, Stands data p (enc a) →
      step s p = .ok (.ok (put s a, p + (enc a).length)))
    (s : σ) {p : Nat} (hl : Stands data p (l.flatMap enc)) :
    everyFrom step l.length s p = .ok (.ok (l.foldl put s, p + (l.flatMap enc).length)) := by
  induction l generalizing s p with
  | nil => rfl
  | cons a l ih =>
    rw [List.flatMap_cons] at hl ⊢
    obtain ⟨hfirst, hrest⟩ := hl.split rfl
    have hmore := ih (fun b hb => h b (List.mem_cons_of_mem a hb)) (put s a) hrest
    rw [List.length_cons, everyFrom, h a List.mem_cons_self s p hfirst, ok_bind]
    dsimp only
    rw [hmore, List.length_append, Nat.add_assoc]
    rfl

/-- A list cut short fails if each of its elements does, cut short. -/
theorem everyFrom_cut
    (h : ∀ a ∈ l, ∀ s p, Stands data p (enc a) →
      step s p = .ok (.ok (put s a, p + (enc a).length)))
    (hcut : ∀ a ∈ l, ∀ s p, CutAt data p (enc a) → ∃ e, step s p = .ok (.error e))
    (s : σ) {p : Nat} (hl : CutAt data p (l.flatMap enc)) :
    ∃ e, everyFrom step l.length s p = .ok (.error e) := by
  induction l generalizing s p with
  | nil =>
    have hshort := hl.short
    have hinside := hl.inside
    rw [List.flatMap_nil, List.length_nil] at hshort
    omega
  | cons a l ih =>
    rw [List.flatMap_cons] at hl
    rw [List.length_cons, everyFrom]
    rcases hl.split rfl with hfirst | ⟨hfirst, hrest⟩
    · obtain ⟨e, he⟩ := hcut a List.mem_cons_self s p hfirst
      rw [he]
      exact ⟨e, rfl⟩
    · obtain ⟨e, he⟩ := ih (fun b hb => h b (List.mem_cons_of_mem a hb))
        (fun b hb => hcut b (List.mem_cons_of_mem a hb)) (put s a) hrest
      rw [h a List.mem_cons_self s p hfirst, ok_bind]
      exact ⟨e, he⟩

end Lists

end Counted
