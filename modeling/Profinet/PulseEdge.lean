/-
  PULSE EDGE: is every acknowledged pulse an edge of its own?

  A consumer that reacts to a rising edge must see the mask clear between two pulses.  The shaper
  makes sure of it in its own time; the wire follows the shaper once a pass.  A pass that blocks
  for long after writing a pulse hands all those periods over at once: the pulse and its cooldown
  end in one tick, and a pulse on the same mask in the next pass is acknowledged while the byte of
  the first is still driven.

      edges_of_separated   a repeat that finds its mask clear on the wire makes an edge
      separated_of_edges   and, for masks that do not overlap, only such a repeat does
-/
import Profinet.ServeLoop

namespace Profinet

open Mask

namespace ServeSession

/-- Passes made one after another, none of which stopped the loop. -/
inductive Goes (cfg : ServeSession) (s : Serve) : List Pass → Serve → Prop where
  | nil : Goes cfg s [] s
  | snoc {ps : List Pass} {s' : Serve} (i : PassInput) :
      Goes cfg s ps s' → (cfg.pass s' i).stop = none →
      Goes cfg s (ps ++ [⟨s', i⟩]) (cfg.pass s' i).serve

theorem Goes.cons {cfg : ServeSession} {s s' : Serve} {ps : List Pass} {i : PassInput}
    (hstop : (cfg.pass s i).stop = none) (h : cfg.Goes (cfg.pass s i).serve ps s') :
    cfg.Goes s (⟨s, i⟩ :: ps) s' := by
  induction h with
  | nil => exact @Goes.snoc cfg s [] s i .nil hstop
  | snoc j _ hj ih => exact .snoc j ih hj

/-- The passes before one of a run, and the run from there. -/
theorem passes_split {cfg : ServeSession} {x : Pass} {rest : List Pass} :
    ∀ {before : List Pass} {s : Serve} {is : List PassInput},
      cfg.passes s is = before ++ x :: rest →
      cfg.Goes s before x.before ∧ ∃ is', cfg.passes x.before (x.input :: is') = x :: rest
  | before, s, [], h => by
      rw [passes] at h
      cases before <;> cases h
  | [], s, i :: is, h => by
      rw [passes] at h
      injection h with hx hrest
      subst hx
      refine ⟨.nil, is, ?_⟩
      rw [passes, hrest]
  | y :: before, s, i :: is, h => by
      rw [passes] at h
      injection h with hy hrest
      split at hrest
      · cases before <;> cases hrest
      · rename_i hstop
        obtain ⟨hgoes, hfrom⟩ := passes_split hrest
        subst hy
        exact ⟨hgoes.cons hstop, hfrom⟩

/-- Two passes of a run, and the passes between them. -/
theorem passes_between {cfg : ServeSession} {s : Serve} {is : List PassInput} {x y : Pass}
    {before between after : List Pass}
    (h : cfg.passes s is = before ++ x :: (between ++ y :: after)) :
    cfg.Goes s before x.before ∧ (cfg.pass x.before x.input).stop = none ∧
      cfg.Goes (cfg.pass x.before x.input).serve between y.before := by
  obtain ⟨hbefore, is', hx⟩ := passes_split h
  rw [passes] at hx
  injection hx with _ hrest
  split at hrest
  · cases between <;> cases hrest
  · rename_i hstop
    exact ⟨hbefore, hstop, (passes_split hrest).1⟩

/-! ## What a pass does to the shapers

  A pass hears a line, writes the byte if it changed, sleeps and ticks.  What is driven is the
  byte written last. -/

/-- What a line does to the control state: nothing, a level bit, or a pulse, which is the only one
    acknowledged as such. -/
theorem hear_cases (cfg : ServeSession) (s : ControlState) (r : Received) :
    ((cfg.hear s r).1 = s ∧ ∀ m n, (cfg.hear s r).2.1 ≠ some (.ackPulse m n)) ∨
      (∃ mask on, r = .control (.setLevel mask on) ∧
        (cfg.hear s r).1 = { s with level := if on then s.level ||| mask else s.level &&& ~~~mask } ∧
        ∀ m n, (cfg.hear s r).2.1 ≠ some (.ackPulse m n)) ∨
      ∃ mask, r = .control (.pulse mask) ∧ Clear mask (~~~cfg.allowMask) ∧
        s.triggerPulse mask = .ok (cfg.hear s r).1 ∧
        (cfg.hear s r).2.1 = some (.ackPulse mask pulseTicks) := by
  unfold hear
  split
  · exact .inl ⟨rfl, fun _ _ h => by cases h⟩
  · exact .inl ⟨rfl, fun _ _ h => by cases h⟩
  · rename_i cmd hquit
    split
    · exact .inl ⟨rfl, fun _ _ h => by cases h⟩
    · rcases applyControlCmd_cases cmd s cfg.allowMask with
        ⟨reply, quit, ha, hreply⟩ | ⟨mask, on, rfl, -, ha⟩ | ⟨mask, s', rfl, hin, htrig, ha⟩
      · refine .inl ⟨by rw [ha], ?_⟩
        rw [ha]
        exact hreply
      · refine .inr (.inl ⟨mask, on, rfl, by rw [ha], ?_⟩)
        rw [ha]
        intro _ _ h
        cases h
      · refine .inr (.inr ⟨mask, rfl, hin, ?_, ?_⟩)
        · rw [ha]
          exact htrig
        · rw [ha]
  · exact .inl ⟨rfl, fun _ _ h => by cases h⟩
  · exact .inl ⟨rfl, fun _ _ h => by cases h⟩
  · exact .inl ⟨rfl, fun _ _ h => by cases h⟩

/-- After the write the wire shows what the control state asks for. -/
theorem settled_driven (cfg : ServeSession) (s : Serve) (i : PassInput) :
    (cfg.settled s i).drivenByte = s.control.effective := by
  have hdrive : (cfg.drive s i).drivenByte = s.control.effective := by
    unfold drive written
    split
    · rename_i w hw
      split at hw
      · cases hw
        rfl
      · cases hw
    · rename_i hw
      split at hw
      · cases hw
      · rename_i hsame
        exact (not_ne_iff.mp hsame).symm
  unfold settled rested advance
  simp only
  split
  · exact hdrive
  · exact hdrive

/-- The tick is all the rest of a pass does to the control state. -/
theorem settled_control (cfg : ServeSession) (s : Serve) (i : PassInput) :
    ∃ n, (cfg.settled s i).control = s.control.tick n := by
  have hdrive : (cfg.drive s i).control = s.control := by
    unfold drive
    split
    · rfl
    · rfl
  unfold settled rested advance
  simp only
  split
  · exact ⟨_, by rw [hdrive]⟩
  · exact ⟨0, by rw [hdrive, ControlState.tick_zero]⟩

theorem heard_control (cfg : ServeSession) (s : Serve) (i : PassInput) :
    (cfg.heard s i).control = (cfg.hear s.control i.received).1 := rfl

/-- Only a write changes the driven byte. -/
theorem driven_pass (cfg : ServeSession) (s : Serve) (i : PassInput) :
    (cfg.pass s i).serve.drivenByte =
      ((cfg.pass s i).log.write.map (·.byte)).getD s.drivenByte := by
  cases hp : cfg.pass s i with
  | mk serve log stop =>
    have hdoes := cfg.pass_does s i
    rw [hp] at hdoes
    cases hdoes with
    | stops => rfl
    | hears => rfl
    | serves => rfl
    | drives =>
      simp only
      rw [settled_driven]
      by_cases hw : (cfg.heard s i).control.effective = s.drivenByte
      · have hnone : written (cfg.heard s i) i = none := if_neg (not_not_intro hw)
        rw [hnone, hw]
        rfl
      · have hsome : written (cfg.heard s i) i = some ⟨_, _⟩ := if_pos hw
        rw [hsome]
        rfl

/-- A pass that goes on without driving anything belongs to a session without a cyclic tier; it
    has left the control state alone. -/
theorem goes_on (cfg : ServeSession) (s : Serve) (i : PassInput) (h : (cfg.pass s i).stop = none) :
    (cfg.cyclic = none ∧ (cfg.pass s i).serve.control = s.control ∧
        (cfg.pass s i).serve.drivenByte = s.drivenByte) ∨
      (cfg.pass s i).serve = cfg.settled (cfg.heard s i) i := by
  cases hp : cfg.pass s i with
  | mk serve log stop =>
    have hdoes := cfg.pass_does s i
    rw [hp] at hdoes h
    cases hdoes with
    | stops => cases h
    | hears => cases h
    | serves hcyc =>
      refine .inl ⟨hcyc, ?_, rfl⟩
      show (cfg.hear s.control i.received).1 = s.control
      unfold hear
      split
      · rfl
      · rfl
      · rw [hcyc]
      · rfl
      · rfl
      · rfl
    | drives => exact .inr rfl

/-- A pass that goes on ticks what the line left of the control state. -/
theorem going_control {cfg : ServeSession} {s : Serve} {i : PassInput}
    (h : (cfg.pass s i).stop = none) :
    ∃ n, (cfg.pass s i).serve.control = (cfg.heard s i).control.tick n := by
  cases hp : cfg.pass s i with
  | mk serve log stop =>
    have hdoes := cfg.pass_does s i
    rw [hp] at hdoes h
    cases hdoes with
    | stops => cases h
    | hears => cases h
    | serves => exact ⟨0, (ControlState.tick_zero _).symm⟩
    | drives => exact cfg.settled_control (cfg.heard s i) i

/-! ## Acknowledged pulses

  An acknowledged pulse raises its mask on the wire in the pass that acknowledges it, or has found
  it high already. -/

/-- The pass acknowledges a pulse on `m`, with no level bit on it. -/
structure Acks (cfg : ServeSession) (p : Pass) (m : UInt8) : Prop where
  reply : (cfg.pass p.before p.input).log.reply = some (.ackPulse m pulseTicks)
  level : Clear (cfg.pass p.before p.input).log.level m

/-- What such a pass was asked, and what it triggered. -/
structure AckedBy (cfg : ServeSession) (p : Pass) (m : UInt8) : Prop where
  received : p.input.received = .control (.pulse m)
  allowed : Clear m (~~~cfg.allowMask)
  triggered : p.before.control.triggerPulse m = .ok (cfg.heard p.before p.input).control
  level : Clear p.before.control.level m

theorem Acks.by {cfg : ServeSession} {p : Pass} {m : UInt8} (h : cfg.Acks p m) :
    cfg.AckedBy p m := by
  have hlog : (cfg.pass p.before p.input).log.level = (cfg.heard p.before p.input).control.level ∧
      (cfg.hear p.before.control p.input.received).2.1 = some (.ackPulse m pulseTicks) := by
    have hreply := h.reply
    cases hp : cfg.pass p.before p.input with
    | mk serve log stop =>
      have hdoes := cfg.pass_does p.before p.input
      rw [hp] at hdoes hreply
      cases hdoes with
      | stops => cases hreply
      | hears => exact ⟨rfl, hreply⟩
      | serves => exact ⟨rfl, hreply⟩
      | drives => exact ⟨rfl, hreply⟩
  rcases cfg.hear_cases p.before.control p.input.received with
    ⟨-, hno⟩ | ⟨-, -, -, -, hno⟩ | ⟨mask, hrec, hin, htrig, hack⟩
  · exact absurd hlog.2 (hno _ _)
  · exact absurd hlog.2 (hno _ _)
  · rw [hack] at hlog
    cases hlog.2
    have hlevel := (ControlState.triggerPulse_ok htrig).1
    refine ⟨hrec, hin, htrig, ?_⟩
    rw [← hlevel]
    exact hlog.1 ▸ h.level

/-- Only a session with a cyclic tier acknowledges a pulse. -/
theorem Acks.cyclic {cfg : ServeSession} {p : Pass} {m : UInt8} (h : cfg.Acks p m) :
    cfg.cyclic.isSome := by
  cases hcyc : cfg.cyclic with
  | some c => rfl
  | none =>
    have hfree := (ControlState.triggerPulse_ok h.by.triggered).2
    have hsame : (cfg.heard p.before p.input).control = p.before.control := by
      rw [heard_control, h.by.received]
      simp only [hear, hcyc]
    rw [hsame] at hfree
    rcases hfree.free with hnone | hidle
    · cases hnone.symm.trans hfree.started
    · cases hidle.symm.trans hfree.started

/-- Once its pass is over, the wire shows the pulse. -/
theorem Acks.covers {cfg : ServeSession} {p : Pass} {m : UInt8} (h : cfg.Acks p m)
    (hstop : (cfg.pass p.before p.input).stop = none) :
    Covers (cfg.pass p.before p.input).serve.drivenByte m := by
  have hstarted := (ControlState.triggerPulse_ok h.by.triggered).2.started
  rcases cfg.goes_on p.before p.input hstop with ⟨hcyc, -, -⟩ | hset
  · have hsome := h.cyclic
    rw [hcyc] at hsome
    cases hsome
  · rw [hset, settled_driven]
    exact ControlState.covers_effective (ControlState.mem_of_shaper hstarted)
      EdgePulse.started_active

/-- Every byte between two acknowledged pulses on one mask: one of them has it clear. -/
def EdgesDistinct (cfg : ServeSession) (ps : List Pass) : Prop :=
  ∀ (before between after : List Pass) (x y : Pass) (m : UInt8),
    ps = before ++ x :: (between ++ y :: after) → cfg.Acks x m → cfg.Acks y m →
    ∃ p ∈ between, ∃ w, (cfg.pass p.before p.input).log.write = some w ∧ Clear w.byte m

/-- A pulse on a mask pulsed before, accepted by its shaper, finds the mask clear on the wire. -/
def Separated (cfg : ServeSession) (p : Pass) : Prop :=
  ∀ m, cfg.headStop p.before p.input = none → p.input.received = .control (.pulse m) →
    p.before.control.shaper m = some .idle → Clear p.before.control.level m →
    m ≠ 0 ∧ Clear p.before.drivenByte m

/-! ## A repeat that finds its mask clear makes an edge

  Between two acknowledgments the mask is low on the wire at some write, so the second one is a
  new edge. -/

theorem pulsed_hear {cfg : ServeSession} {s : ControlState} {m : UInt8} (r : Received)
    (h : s.shaper m ≠ none) : (cfg.hear s r).1.shaper m ≠ none := by
  rcases cfg.hear_cases s r with ⟨hsame, -⟩ | ⟨_, _, -, hsame, -⟩ | ⟨mask, -, -, htrig, -⟩
  · rw [hsame]
    exact h
  · rw [hsame]
    exact h
  · have htriggered := (ControlState.triggerPulse_ok htrig).2
    by_cases hm : m = mask
    · subst hm
      show List.lookup m (cfg.hear s r).1.pulses ≠ none
      rw [htriggered.started]
      intro hnone
      cases hnone
    · show List.lookup m (cfg.hear s r).1.pulses ≠ none
      rw [htriggered.others m hm]
      exact h

/-- A mask once pulsed has a shaper from then on. -/
theorem pulsed_pass {cfg : ServeSession} {s : Serve} {i : PassInput} {m : UInt8}
    (hstop : (cfg.pass s i).stop = none) (h : (cfg.hear s.control i.received).1.shaper m ≠ none) :
    (cfg.pass s i).serve.control.shaper m ≠ none := by
  obtain ⟨n, hn⟩ := going_control hstop
  rw [hn, ControlState.shaper_tick, heard_control]
  intro hnone
  exact h (Option.map_eq_none_iff.mp hnone)

theorem pulsed_goes {cfg : ServeSession} {s s' : Serve} {ps : List Pass} {m : UInt8}
    (hgoes : cfg.Goes s ps s') (h : s.control.shaper m ≠ none) : s'.control.shaper m ≠ none := by
  induction hgoes with
  | nil => exact h
  | snoc i _ hstop ih => exact pulsed_pass hstop (pulsed_hear _ ih)

/-- Between a wire that shows a bit of the mask and one that does not lies a write without it. -/
theorem write_between {cfg : ServeSession} {s s' : Serve} {ps : List Pass} {m : UInt8}
    (hgoes : cfg.Goes s ps s') (h : ¬ Clear s.drivenByte m) (h' : Clear s'.drivenByte m) :
    ∃ p ∈ ps, ∃ w, (cfg.pass p.before p.input).log.write = some w ∧ Clear w.byte m := by
  induction hgoes with
  | nil => exact absurd h' h
  | @snoc ps s₁ i _ _ ih =>
    by_cases hclear : Clear s₁.drivenByte m
    · obtain ⟨p, hp, hw⟩ := ih hclear
      exact ⟨p, List.mem_append_left _ hp, hw⟩
    · refine ⟨⟨s₁, i⟩, List.mem_append_right _ (.head _), ?_⟩
      rw [driven_pass] at h'
      cases hw : (cfg.pass s₁ i).log.write with
      | none =>
        rw [hw] at h'
        exact absurd h' hclear
      | some w =>
        rw [hw] at h'
        exact ⟨w, rfl, h'⟩

/-- A pass that acknowledged a pulse was not stopped at its head. -/
theorem Acks.headStop {cfg : ServeSession} {p : Pass} {m : UInt8} (h : cfg.Acks p m) :
    cfg.headStop p.before p.input = none := by
  cases hhead : cfg.headStop p.before p.input with
  | none => rfl
  | some r =>
    have hreply := h.reply
    unfold pass at hreply
    rw [hhead] at hreply
    cases hreply

theorem edges_of_separated {cfg : ServeSession} {s : Serve} {is : List PassInput}
    (hsep : ∀ p ∈ cfg.passes s is, cfg.Separated p) : cfg.EdgesDistinct (cfg.passes s is) := by
  intro before between after x y m hps hx hy
  obtain ⟨-, hstop, hbetween⟩ := passes_between hps
  have hpulsed : y.before.control.shaper m ≠ none := by
    apply pulsed_goes hbetween
    apply pulsed_pass hstop
    show List.lookup m (cfg.heard x.before x.input).control.pulses ≠ none
    rw [(ControlState.triggerPulse_ok hx.by.triggered).2.started]
    intro hnone
    cases hnone
  -- the shaper accepted the second pulse, so it was idle
  have hidle : y.before.control.shaper m = some .idle := by
    rcases (ControlState.triggerPulse_ok hy.by.triggered).2.free with hnone | hidle
    · exact absurd hnone hpulsed
    · exact hidle
  have hmem : y ∈ cfg.passes s is := by
    rw [hps]
    simp
  obtain ⟨hm, hclear⟩ := hsep y hmem m hy.headStop hy.by.received hidle hy.by.level
  exact write_between hbetween ((hx.covers hstop).not_clear hm) hclear

/-! ## Masks that do not overlap: the converse

  If the masks do not overlap, a bit is high for one shaper only; a repeat that finds it high on
  the wire is therefore no edge of its own. -/

/-- Some pass is asked for a pulse on `m`. -/
def Pulsed (ps : List Pass) (m : UInt8) : Prop := ∃ p ∈ ps, p.input.received = .control (.pulse m)

/-- The pulsed masks are not empty, share no bit with one another, and none with a level command. -/
structure Apart (ps : List Pass) : Prop where
  nonzero : ∀ m, Pulsed ps m → m ≠ 0
  pulses : ∀ m m', Pulsed ps m → Pulsed ps m' → m' = m ∨ Clear m' m
  levels : ∀ p ∈ ps, ∀ mask on m, p.input.received = .control (.setLevel mask on) → Pulsed ps m →
    Clear mask m

/-- What holds of the control state while the masks of a run are apart. -/
structure KeptApart (ps : List Pass) (s : ControlState) : Prop where
  level : ∀ m, Pulsed ps m → Clear s.level m
  keys : ∀ e ∈ s.pulses, Pulsed ps e.1

theorem KeptApart.hear {cfg : ServeSession} {ps : List Pass} {s : ControlState} {r : Received}
    (hapart : Apart ps) (hr : ∃ p ∈ ps, p.input.received = r) (h : KeptApart ps s) :
    KeptApart ps (cfg.hear s r).1 := by
  obtain ⟨p, hp, rfl⟩ := hr
  rcases cfg.hear_cases s p.input.received with
    ⟨hsame, -⟩ | ⟨mask, on, hrec, hsame, -⟩ | ⟨mask, hrec, -, htrig, -⟩
  · rw [hsame]
    exact h
  · rw [hsame]
    refine ⟨fun m hm => ?_, h.keys⟩
    cases on with
    | true => exact clear_or.mpr ⟨h.level m hm, hapart.levels p hp mask true m hrec hm⟩
    | false => exact (h.level m hm).and _
  · obtain ⟨hlevel, htriggered⟩ := ControlState.triggerPulse_ok htrig
    refine ⟨fun m hm => hlevel ▸ h.level m hm, fun e he => ?_⟩
    rcases htriggered.old e he with hold | rfl
    · exact h.keys e hold
    · exact ⟨p, hp, hrec⟩

theorem KeptApart.tick {ps : List Pass} {s : ControlState} (h : KeptApart ps s) (n : Nat) :
    KeptApart ps (s.tick n) := by
  refine ⟨h.level, fun e he => ?_⟩
  obtain ⟨e', he', rfl⟩ := List.mem_map.mp he
  exact h.keys e' he'

/-- Then a mask without a pulse in flight is not on the wire. -/
theorem KeptApart.clear {ps : List Pass} {s : ControlState} {m : UInt8} (hapart : Apart ps)
    (h : KeptApart ps s) (hm : Pulsed ps m) (hquiet : s.Quiet m) : Clear s.effective m := by
  refine ControlState.clear_effective.mpr ⟨h.level m hm, fun e he hactive => ?_⟩
  obtain ⟨k, q⟩ := e
  rcases hapart.pulses m k hm (h.keys _ he) with rfl | hclear
  · exact absurd ((hquiet q he).symm.trans hactive) Bool.false_ne_true
  · exact hclear

/-- A line that is not acknowledged as a pulse on `m` leaves the shaper of `m` alone. -/
theorem hear_unacked {cfg : ServeSession} {s : ControlState} {m : UInt8} {r : Received}
    (hr : (cfg.hear s r).2.1 ≠ some (.ackPulse m pulseTicks)) :
    (cfg.hear s r).1.shaper m = s.shaper m ∧ (s.Quiet m → (cfg.hear s r).1.Quiet m) := by
  rcases cfg.hear_cases s r with ⟨hsame, -⟩ | ⟨_, _, -, hsame, -⟩ | ⟨mask, -, -, htrig, hack⟩
  · rw [hsame]
    exact ⟨rfl, id⟩
  · rw [hsame]
    exact ⟨rfl, id⟩
  · have htriggered := (ControlState.triggerPulse_ok htrig).2
    have hne : m ≠ mask := by
      rintro rfl
      exact hr hack
    refine ⟨htriggered.others m hne, fun h q hq => ?_⟩
    rcases htriggered.old _ hq with hold | hnew
    · exact h q hold
    · cases hnew
      exact absurd rfl hne

/-- A pass that takes its line shows the answer to it. -/
theorem heard_log {cfg : ServeSession} {s : Serve} {i : PassInput} (h : cfg.headStop s i = none) :
    (cfg.pass s i).log.reply = (cfg.hear s.control i.received).2.1 ∧
      (cfg.pass s i).log.level = (cfg.heard s i).control.level := by
  unfold pass
  rw [h]
  simp only
  split
  · exact ⟨rfl, rfl⟩
  · split
    · exact ⟨rfl, rfl⟩
    · split
      · exact ⟨rfl, rfl⟩
      · exact ⟨rfl, rfl⟩

theorem head_of_going {cfg : ServeSession} {s : Serve} {i : PassInput}
    (h : (cfg.pass s i).stop = none) : cfg.headStop s i = none := by
  cases hhead : cfg.headStop s i with
  | none => rfl
  | some r =>
    unfold pass at h
    rw [hhead] at h
    cases h

/-- Where the wire and the shapers stand after some passes: the last pulse on every mask, and what
    a byte without the mask since then means. -/
structure Since (cfg : ServeSession) (ps done : List Pass) (s : Serve) : Prop where
  apart : KeptApart ps s.control
  last : ∀ m, s.control.shaper m ≠ none → ∃ before x since, done = before ++ x :: since ∧
    cfg.Acks x m ∧
    ((∃ p ∈ since, ∃ w, (cfg.pass p.before p.input).log.write = some w ∧ Clear w.byte m) →
      Clear s.drivenByte m ∧ s.control.Quiet m)

theorem since_initial (cfg : ServeSession) (ps : List Pass) (t d d' : Nat) :
    cfg.Since ps [] (.initial t d d') := by
  refine ⟨⟨fun m _ => zero_clear m, fun e he => by cases he⟩, fun m hm => ?_⟩
  exact absurd rfl hm

theorem Since.pass {cfg : ServeSession} {ps done : List Pass} {s : Serve} {i : PassInput}
    (hapart : Apart ps) (hmem : (⟨s, i⟩ : Pass) ∈ ps) (h : cfg.Since ps done s)
    (hstop : (cfg.pass s i).stop = none) :
    cfg.Since ps (done ++ [⟨s, i⟩]) (cfg.pass s i).serve := by
  have hheard : KeptApart ps (cfg.heard s i).control := h.apart.hear hapart ⟨_, hmem, rfl⟩
  obtain ⟨n, hn⟩ := going_control hstop
  refine ⟨by rw [hn]; exact hheard.tick n, fun m hm => ?_⟩
  have hpulsed : (cfg.heard s i).control.shaper m ≠ none := by
    intro hnone
    rw [hn, ControlState.shaper_tick, hnone] at hm
    exact hm rfl
  obtain ⟨hreply, hlevel⟩ := heard_log (head_of_going hstop)
  by_cases hack : (cfg.hear s.control i.received).2.1 = some (.ackPulse m pulseTicks)
  · -- this pass is the last pulse on `m`
    obtain ⟨q, hq⟩ := Option.ne_none_iff_exists'.mp hpulsed
    have hkey := hheard.keys _ (ControlState.mem_of_shaper hq)
    refine ⟨done, ⟨s, i⟩, [], rfl, ⟨hreply.trans hack, ?_⟩, ?_⟩
    · rw [hlevel]
      exact hheard.level m hkey
    · rintro ⟨p, hp, -⟩
      cases hp
  · obtain ⟨hsame, hquiet⟩ := hear_unacked hack
    rw [heard_control, hsame] at hpulsed
    obtain ⟨q, hq⟩ := Option.ne_none_iff_exists'.mp hpulsed
    have hkey : Pulsed ps m := h.apart.keys _ (ControlState.mem_of_shaper hq)
    obtain ⟨before, x, since, hdone, hx, hsince⟩ := h.last m hpulsed
    refine ⟨before, x, since ++ [⟨s, i⟩], by rw [hdone]; simp, hx, ?_⟩
    rintro ⟨p, hp, w, hw, hclear⟩
    rcases cfg.goes_on s i hstop with ⟨hcyc, hcontrol, hdriven⟩ | hset
    · rw [hcontrol, hdriven]
      rcases List.mem_append.mp hp with hold | hlast
      · exact hsince ⟨p, hold, w, hw, hclear⟩
      · rw [List.mem_singleton.mp hlast] at hw
        have hsome := (write_eq hw).1
        rw [hcyc] at hsome
        cases hsome
    · have hquiet' : (cfg.heard s i).control.Quiet m := by
        rcases List.mem_append.mp hp with hold | hlast
        · exact hquiet (hsince ⟨p, hold, w, hw, hclear⟩).2
        · rw [List.mem_singleton.mp hlast] at hw
          rw [(write_eq hw).2.1] at hclear
          exact ControlState.quiet_of_clear (hapart.nonzero m hkey) hclear
      rw [hn]
      refine ⟨?_, hquiet'.tick n⟩
      rw [hset, settled_driven]
      exact hheard.clear hapart hkey hquiet'

theorem since_goes {cfg : ServeSession} {ps done : List Pass} {s s' : Serve}
    (hapart : Apart ps) (hgoes : cfg.Goes s done s') (hdone : ∀ p ∈ done, p ∈ ps)
    (h : cfg.Since ps [] s) : cfg.Since ps done s' := by
  induction hgoes with
  | nil => exact h
  | snoc i _ hstop ih =>
    have hlast := hdone _ (List.mem_append_right _ (.head _))
    exact (ih fun p hp => hdone p (List.mem_append_left _ hp)).pass hapart hlast hstop

theorem separated_of_edges {cfg : ServeSession} {t d d' : Nat} {is : List PassInput}
    (hapart : Apart (cfg.passes (.initial t d d') is))
    (hedges : cfg.EdgesDistinct (cfg.passes (.initial t d d') is)) :
    ∀ p ∈ cfg.passes (.initial t d d') is, cfg.Separated p := by
  intro y hy m hhead hrec hidle hlevel
  have hpulsed : Pulsed (cfg.passes (.initial t d d') is) m := ⟨y, hy, hrec⟩
  refine ⟨hapart.nonzero m hpulsed, ?_⟩
  obtain ⟨done, after, hps⟩ := List.append_of_mem hy
  obtain ⟨hgoes, -⟩ := passes_split hps
  have hsince : cfg.Since (cfg.passes (.initial t d d') is) done y.before := by
    refine since_goes hapart hgoes (fun p hp => ?_) (cfg.since_initial _ t d d')
    rw [hps]
    exact List.mem_append_left _ hp
  obtain ⟨before, x, since, hdone, hx, hclear⟩ := hsince.last m (by rw [hidle]; rintro ⟨⟩)
  have hacks : cfg.Acks y m := by
    obtain ⟨c, hcyc⟩ := Option.isSome_iff_exists.mp hx.cyclic
    obtain ⟨hreply, hloglevel⟩ := heard_log hhead
    obtain ⟨hack, hsame⟩ := applyControlCmd_pulse hx.by.allowed hidle
    refine ⟨?_, ?_⟩
    · rw [hreply, hrec]
      simp only [hear, hcyc]
      exact hack
    · rw [hloglevel, heard_control, hrec]
      simp only [hear, hcyc]
      rw [hsame]
      exact hlevel
  refine (hclear ?_).1
  refine hedges before since after x y m ?_ hx hacks
  rw [hps, hdone]
  simp

end ServeSession

/-- **When an acknowledged pulse is an edge of its own.**  In every run whose repeated pulses each
    find their mask clear on the wire, a byte with the mask clear lies between any two acknowledged
    pulses on it.  When the masks of the run share no bits, those are the only such runs. -/
theorem pulse_edges (cfg : ServeSession) (t d d' : Nat) (inputs : List PassInput) :
    ((∀ p ∈ cfg.passes (.initial t d d') inputs, cfg.Separated p) →
      cfg.EdgesDistinct (cfg.passes (.initial t d d') inputs)) ∧
    (ServeSession.Apart (cfg.passes (.initial t d d') inputs) →
      cfg.EdgesDistinct (cfg.passes (.initial t d d') inputs) →
      ∀ p ∈ cfg.passes (.initial t d d') inputs, cfg.Separated p) :=
  ⟨ServeSession.edges_of_separated, fun hapart hedges =>
    ServeSession.separated_of_edges hapart hedges⟩

/-- A session that may drive bit 0, at a cycle of 4 ms. -/
def benchServe : ServeSession := ⟨false, some ⟨0x01, 4, 0, rfl⟩⟩

/-- A pass that takes a pulse on bit 0 at once. -/
def benchPulse : PassInput := ⟨none, .control (.pulse 0x01), true, 0, 0, 0, 0, 0⟩

/-- A pass without a line. -/
def benchQuiet : PassInput := ⟨none, .timeout none, true, 0, 0, 0, 0, 0⟩

/-- The state after a pulse, and after the pass behind it. -/
def benchPulsed : Serve := (benchServe.pass (.initial 0 0 0) benchPulse).serve

/-- The session after its second pass, the bit cleared. -/
def benchCleared : Serve := (benchServe.pass benchPulsed benchQuiet).serve

/-- Two pulses with a pass between them, which drives the clear byte: the second finds it, and is an
    edge of its own. -/
theorem pulse_edges_bench :
    benchServe.Acks ⟨.initial 0 0 0, benchPulse⟩ 0x01 ∧ benchServe.Acks ⟨benchCleared, benchPulse⟩ 0x01 ∧
      benchServe.EdgesDistinct
        (benchServe.passes (.initial 0 0 0) [benchPulse, benchQuiet, benchPulse]) := by
  have hpasses : benchServe.passes (.initial 0 0 0) [benchPulse, benchQuiet, benchPulse] =
      [⟨.initial 0 0 0, benchPulse⟩, ⟨benchPulsed, benchQuiet⟩, ⟨benchCleared, benchPulse⟩] := rfl
  refine ⟨⟨by decide, by decide⟩, ⟨by decide, by decide⟩, ?_⟩
  refine (pulse_edges benchServe 0 0 0 [benchPulse, benchQuiet, benchPulse]).1 ?_
  intro p hp m hhead hrec hidle hlevel
  rw [hpasses] at hp
  rcases List.mem_cons.mp hp with rfl | hp
  · -- nothing was pulsed before
    cases hidle
  rcases List.mem_cons.mp hp with rfl | hp
  · cases hrec
  · rw [List.mem_singleton.mp hp] at hrec ⊢
    cases hrec
    exact ⟨by decide, by decide⟩

/-- Two pulses right after one another: the pass that writes the first sleeps for 33 ms, eight
    periods, so the shaper accepts the second, and the wire never showed the gap. -/
theorem pulse_edge_lost :
    ¬ ∀ (cfg : ServeSession) (t d d' : Nat) (inputs : List PassInput),
      cfg.EdgesDistinct (cfg.passes (.initial t d d') inputs) := by
  intro h
  have hpasses : benchServe.passes (.initial 0 0 0) [benchPulse, benchPulse] =
      [] ++ ⟨.initial 0 0 0, benchPulse⟩ ::
        ([] ++ ⟨(benchServe.pass (.initial 0 0 0) benchPulse).serve, benchPulse⟩ :: []) := rfl
  have hfirst : benchServe.Acks ⟨.initial 0 0 0, benchPulse⟩ 0x01 := ⟨by decide, by decide⟩
  have hsecond : benchServe.Acks
      ⟨(benchServe.pass (.initial 0 0 0) benchPulse).serve, benchPulse⟩ 0x01 :=
    ⟨by decide, by decide⟩
  obtain ⟨p, hp, -⟩ := h benchServe 0 0 0 [benchPulse, benchPulse] [] [] [] _ _ 0x01 hpasses
    hfirst hsecond
  cases hp

end Profinet
