/-
  PULSE WIDTH: how long the wire carries a pulse.

  A pulse is ticked by the periods elapsed since the last tick, some of them before it was on the
  wire.  What the loop does guarantee is the sleep after a write:

      write ---- 2 * cycle + 25 ms ----> tick (the pass's own) ---- one period ----> next tick

  The clearing write comes behind a tick.  If the pass's own tick leaves the pulse active, a whole
  period more passes before the next one, and 2 * cycle + 25 ms and a period are more than three
  periods.  If it does not, the wire has carried the pulse for 2 * cycle + 25 ms, which is three
  periods for cycles of up to 25 ms only.
-/
import Profinet.PulseEdge

namespace Profinet

open Mask

namespace ServeSession

/-! ## The clock of a run

  The clock only goes forward, and behind a write it has gone forward by the settle time at
  least. -/

/-- When the pass reads the elapsed time. -/
def evaluatedAt (cfg : ServeSession) (s : Serve) (i : PassInput) : Nat :=
  (cfg.drive (cfg.heard s i) i).now

theorem now_le_heard (cfg : ServeSession) (s : Serve) (i : PassInput) :
    s.now ≤ (cfg.heard s i).now := by
  show s.now ≤ cfg.heardAt s i
  unfold heardAt
  split
  · omega
  · omega

theorem heard_le_evaluated (cfg : ServeSession) (s : Serve) (i : PassInput) :
    (cfg.heard s i).now ≤ cfg.evaluatedAt s i := by
  unfold evaluatedAt drive written
  split
  · rename_i w hw
    split at hw
    · cases hw
      simp only
      omega
    · cases hw
  · simp only
    omega

/-- A pass that writes reads the elapsed time after the sleep. -/
theorem write_evaluated {cfg : ServeSession} {s : Serve} {i : PassInput} {w : Write}
    (h : (cfg.pass s i).log.write = some w) : w.time + cfg.settle ≤ cfg.evaluatedAt s i := by
  obtain ⟨-, rfl, hne, -⟩ := write_eq h
  have hwritten : written (cfg.heard s i) i = some ⟨_, _⟩ := if_pos hne
  unfold evaluatedAt drive
  rw [hwritten]
  simp only
  omega

theorem drive_lastTick (cfg : ServeSession) (s : Serve) (i : PassInput) :
    (cfg.drive s i).lastTick = s.lastTick := by
  unfold drive
  split
  · rfl
  · rfl

theorem drive_control (cfg : ServeSession) (s : Serve) (i : PassInput) :
    (cfg.drive s i).control = s.control := by
  unfold drive
  split
  · rfl
  · rfl

/-- The periods the pass hands to the shapers, if it hands over any. -/
def handed (cfg : ServeSession) (s : Serve) (i : PassInput) : Nat :=
  cfg.periods (cfg.evaluatedAt s i - s.lastTick)

/-- The end of a pass that drives: it ticks and starts a new period, or it does neither. -/
theorem settled_cases (cfg : ServeSession) (s : Serve) (i : PassInput) :
    (cfg.tick ≤ cfg.evaluatedAt s i - s.lastTick ∧
        cfg.evaluatedAt s i ≤ (cfg.settled (cfg.heard s i) i).lastTick ∧
        (cfg.settled (cfg.heard s i) i).lastTick ≤ (cfg.settled (cfg.heard s i) i).now ∧
        (cfg.settled (cfg.heard s i) i).control =
          (cfg.heard s i).control.tick (cfg.handed s i)) ∨
      (cfg.evaluatedAt s i - s.lastTick < cfg.tick ∧
        (cfg.settled (cfg.heard s i) i).lastTick = s.lastTick ∧
        cfg.evaluatedAt s i ≤ (cfg.settled (cfg.heard s i) i).now ∧
        (cfg.settled (cfg.heard s i) i).control = (cfg.heard s i).control) := by
  have hlast : (cfg.drive (cfg.heard s i) i).lastTick = s.lastTick :=
    (cfg.drive_lastTick (cfg.heard s i) i).trans rfl
  have hcontrol := cfg.drive_control (cfg.heard s i) i
  unfold settled rested advance handed evaluatedAt
  simp only
  rw [hlast, hcontrol]
  by_cases hdue : cfg.tick ≤ (cfg.drive (cfg.heard s i) i).now - s.lastTick
  · rw [if_pos hdue]
    exact .inl ⟨hdue, Nat.le_add_right _ _, Nat.le_add_right _ _, rfl⟩
  · rw [if_neg hdue]
    exact .inr ⟨Nat.lt_of_not_le hdue, hlast, Nat.le_add_right _ _, hcontrol⟩

/-- The clock stands at or after the last tick. -/
def Ticked (s : Serve) : Prop := s.lastTick ≤ s.now

theorem initial_ticked (t d d' : Nat) : Ticked (.initial t d d') := by
  show t + d ≤ t + d + d'
  omega

/-- Neither the clock nor the tick instant goes back, and the start stays where it was. -/
theorem pass_clock (cfg : ServeSession) {s : Serve} (i : PassInput) (h : Ticked s) :
    s.now ≤ (cfg.pass s i).serve.now ∧ s.lastTick ≤ (cfg.pass s i).serve.lastTick ∧
      Ticked (cfg.pass s i).serve := by
  have hheard := cfg.now_le_heard s i
  have heval := cfg.heard_le_evaluated s i
  unfold Ticked at h ⊢
  cases hp : cfg.pass s i with
  | mk serve log stop =>
    have hdoes := cfg.pass_does s i
    rw [hp] at hdoes
    cases hdoes with
    | stops => exact ⟨Nat.le_refl _, Nat.le_refl _, h⟩
    | hears => exact ⟨hheard, Nat.le_refl _, Nat.le_trans h hheard⟩
    | serves =>
      have hsame : (cfg.heard s i).lastTick = s.lastTick := rfl
      simp only
      omega
    | drives =>
      rcases cfg.settled_cases s i with ⟨hdue, hlate, hnow, -⟩ | ⟨hnot, hlast, hnow, -⟩
      · simp only
        omega
      · simp only
        omega

theorem goes_clock {cfg : ServeSession} {s s' : Serve} {ps : List Pass} (hgoes : cfg.Goes s ps s')
    (h : Ticked s) : s.now ≤ s'.now ∧ s.lastTick ≤ s'.lastTick ∧ Ticked s' := by
  induction hgoes with
  | nil => exact ⟨Nat.le_refl _, Nat.le_refl _, h⟩
  | snoc i _ _ ih =>
    obtain ⟨hnow, hlast, hticked⟩ := ih
    obtain ⟨hnow', hlast', hticked'⟩ := cfg.pass_clock i hticked
    exact ⟨Nat.le_trans hnow hnow', Nat.le_trans hlast hlast', hticked'⟩

/-! ## What the passes make of a pulse on the wire

  A pulse that is still on the wire after a write is `Held`: either its shaper has periods left,
  or the wire has carried it long enough.  Passes keep that. -/

/-- The byte driven after the passes, as the write that put it there. -/
def LastWrite (cfg : ServeSession) (ps : List Pass) (w : Write) : Prop :=
  ∃ before p after, ps = before ++ p :: after ∧
    (cfg.pass p.before p.input).log.write = some w ∧
    ∀ q ∈ after, (cfg.pass q.before q.input).log.write = none

/-- Every acknowledged pulse stays on the wire for `pulseTicks` periods: between the write of the
    byte that carries it and the first later write that does not. -/
def PulseWidth (cfg : ServeSession) (ps : List Pass) : Prop :=
  ∀ (before between after : List Pass) (x y : Pass) (m : UInt8) (w w' : Write),
    ps = before ++ x :: (between ++ y :: after) → cfg.Acks x m →
    cfg.LastWrite (before ++ [x]) w →
    (∀ p ∈ between, ∀ v, (cfg.pass p.before p.input).log.write = some v → Covers v.byte m) →
    (cfg.pass y.before y.input).log.write = some w' → ¬ Covers w'.byte m →
    w.time + pulseTicks * cfg.tick ≤ w'.time

/-- A pass that writes the pulse it was asked for does not end it early: it counts fewer than
    `pulseTicks` periods, or the wire has carried the pulse for that long when it counts them. -/
def Unhurried (cfg : ServeSession) (p : Pass) : Prop :=
  ∀ m w, p.input.received = .control (.pulse m) →
    (cfg.pass p.before p.input).log.write = some w →
    cfg.handed p.before p.input < pulseTicks ∨
      w.time + pulseTicks * cfg.tick ≤ cfg.evaluatedAt p.before p.input

/-- A write of a driving session: the tick and the sleep in terms of the cycle. -/
theorem cyclic_times {cfg : ServeSession} (h : cfg.cyclic.isSome) :
    0 < cfg.cycleMs ∧ cfg.tick = millis cfg.cycleMs := by
  obtain ⟨c, hc⟩ := Option.isSome_iff_exists.mp h
  have hpos : 0 < cfg.cycleMs := by
    have hvalid := c.valid
    unfold validateCycleMs at hvalid
    split at hvalid
    · cases hvalid
    · rename_i hok
      show 0 < (cfg.cyclic.map (·.cycleMs.toNat)).getD 0
      rw [hc]
      show 0 < c.cycleMs.toNat
      omega
  refine ⟨hpos, ?_⟩
  unfold tick
  split
  · omega
  · rfl

/-- The pulse on `m` is still active in a period that began after the sleep, or three periods have
    gone by. -/
def Held (cfg : ServeSession) (m : UInt8) (w : Write) (s : Serve) : Prop :=
  ((∃ q, s.control.shaper m = some q ∧ q.active = true) ∧ w.time + cfg.settle ≤ s.lastTick) ∨
    w.time + pulseTicks * cfg.tick ≤ s.now

/-- A line leaves an active pulse alone. -/
theorem hear_active {cfg : ServeSession} {s : ControlState} {m : UInt8} {q : EdgePulse}
    (hq : s.shaper m = some q) (hactive : q.active = true) (r : Received) :
    (cfg.hear s r).1.shaper m = some q := by
  by_cases hack : (cfg.hear s r).2.1 = some (.ackPulse m pulseTicks)
  · exfalso
    rcases cfg.hear_cases s r with ⟨-, hno⟩ | ⟨-, -, -, -, hno⟩ | ⟨mask, -, -, htrig, hmask⟩
    · exact hno _ _ hack
    · exact hno _ _ hack
    · cases hmask.symm.trans hack
      rcases (ControlState.triggerPulse_ok htrig).2.free with hnone | hidle
      · cases hnone.symm.trans hq
      · cases hidle.symm.trans hq
        cases hactive
  · exact (hear_unacked hack).1.trans hq

/-- A pulse that is active when a later pass takes its line. -/
theorem held_settled {cfg : ServeSession} {s : Serve} {i : PassInput} {m : UInt8} {w : Write}
    (hcyc : cfg.cyclic.isSome) {q : EdgePulse} (hq : (cfg.heard s i).control.shaper m = some q)
    (hactive : q.active = true) (hlast : w.time + cfg.settle ≤ s.lastTick) :
    cfg.Held m w (cfg.settled (cfg.heard s i) i) := by
  obtain ⟨hpos, htick⟩ := cyclic_times hcyc
  rcases cfg.settled_cases s i with ⟨hdue, hlate, hnow, -⟩ | ⟨-, hsame, -, hcontrol⟩
  · -- a whole period began after the sleep and is over now
    refine .inr ?_
    unfold settle millis at hlast
    rw [htick] at hdue ⊢
    unfold millis pulseTicks at *
    omega
  · refine .inl ⟨⟨q, ?_, hactive⟩, ?_⟩
    · rw [hcontrol]
      exact hq
    · rw [hsame]
      exact hlast

theorem Held.pass {cfg : ServeSession} {s : Serve} {i : PassInput} {m : UInt8} {w : Write}
    (hcyc : cfg.cyclic.isSome) (hticked : Ticked s) (h : cfg.Held m w s)
    (hstop : (cfg.pass s i).stop = none) : cfg.Held m w (cfg.pass s i).serve := by
  rcases h with ⟨⟨q, hq, hactive⟩, hlast⟩ | hlong
  · rcases cfg.goes_on s i hstop with ⟨hnone, -, -⟩ | hset
    · rw [hnone] at hcyc
      cases hcyc
    · rw [hset]
      exact held_settled hcyc (hear_active hq hactive i.received) hactive hlast
  · exact .inr (Nat.le_trans hlong (cfg.pass_clock i hticked).1)

theorem Held.goes {cfg : ServeSession} {s s' : Serve} {ps : List Pass} {m : UInt8} {w : Write}
    (hcyc : cfg.cyclic.isSome) (hticked : Ticked s) (h : cfg.Held m w s)
    (hgoes : cfg.Goes s ps s') : cfg.Held m w s' := by
  induction hgoes with
  | nil => exact h
  | snoc i hprev hstop ih => exact ih.pass hcyc (goes_clock hprev hticked).2.2 hstop

/-- A pass that writes starts a new period after the sleep. -/
theorem write_ticks {cfg : ServeSession} {s : Serve} {i : PassInput} {w : Write}
    (hticked : Ticked s) (h : (cfg.pass s i).log.write = some w) :
    cfg.tick ≤ cfg.evaluatedAt s i - s.lastTick ∧
      w.time + cfg.settle ≤ (cfg.pass s i).serve.lastTick ∧
      (cfg.pass s i).serve.control = (cfg.heard s i).control.tick (cfg.handed s i) := by
  have heval := write_evaluated h
  obtain ⟨hcyc, hw, -, hset⟩ := write_eq h
  obtain ⟨-, htick⟩ := cyclic_times hcyc
  have hlong : cfg.tick ≤ cfg.evaluatedAt s i - s.lastTick := by
    have hheard := cfg.now_le_heard s i
    have htime : (cfg.heard s i).now ≤ w.time := by
      rw [hw]
      exact Nat.le_add_right _ _
    unfold Ticked at hticked
    rw [htick]
    unfold settle millis at *
    omega
  rw [hset]
  rcases cfg.settled_cases s i with ⟨-, hlate, -, hcontrol⟩ | ⟨hnot, -, -, -⟩
  · exact ⟨hlong, Nat.le_trans heval hlate, hcontrol⟩
  · omega

/-- The pass that writes the pulse it acknowledges leaves it active, or has carried it long
    enough. -/
theorem held_of_write {cfg : ServeSession} {x : Pass} {m : UInt8} {w : Write}
    (hticked : Ticked x.before) (hx : cfg.Acks x m) (hun : cfg.Unhurried x)
    (hw : (cfg.pass x.before x.input).log.write = some w) :
    cfg.Held m w (cfg.pass x.before x.input).serve := by
  obtain ⟨-, hlast, hcontrol⟩ := write_ticks hticked hw
  rcases hun m w hx.by.received hw with hfew | hlong
  · refine .inl ⟨⟨EdgePulse.tick ⟨pulseTicks, 0⟩ (cfg.handed x.before x.input), ?_, ?_⟩, hlast⟩
    · have hstarted := (ControlState.triggerPulse_ok hx.by.triggered).2.started
      rw [hcontrol, ControlState.shaper_tick]
      show (List.lookup m _).map _ = _
      rw [hstarted]
      rfl
    · exact EdgePulse.tick_active hfew
  · refine .inr (Nat.le_trans hlong ?_)
    rw [(write_eq hw).2.2.2]
    rcases cfg.settled_cases x.before x.input with ⟨-, hlate, hnow, -⟩ | ⟨-, -, hnow, -⟩
    · exact Nat.le_trans hlate hnow
    · exact hnow

/-- A pass that finds its pulse on the wire already: the byte was written, and the sleep was over,
    before the period it is ticked in began. -/
theorem held_of_earlier {cfg : ServeSession} {x : Pass} {m : UInt8} {w : Write}
    (hx : cfg.Acks x m) (hstop : (cfg.pass x.before x.input).stop = none)
    (hlast : w.time + cfg.settle ≤ x.before.lastTick) :
    cfg.Held m w (cfg.pass x.before x.input).serve := by
  rcases cfg.goes_on x.before x.input hstop with ⟨hnone, -, -⟩ | hset
  · have hcyc := hx.cyclic
    rw [hnone] at hcyc
    cases hcyc
  · rw [hset]
    exact held_settled hx.cyclic (ControlState.triggerPulse_ok hx.by.triggered).2.started
      EdgePulse.started_active hlast

theorem width_of_unhurried {cfg : ServeSession} {s : Serve} {is : List PassInput}
    (hticked : Ticked s) (hun : ∀ p ∈ cfg.passes s is, cfg.Unhurried p) :
    cfg.PulseWidth (cfg.passes s is) := by
  intro before between after x y m w w' hps hx hlastw hcarried hw' hclears
  obtain ⟨hbefore, hstop, hbetween⟩ := passes_between hps
  have hxticked := (goes_clock hbefore hticked).2.2
  -- the last write before the pass is in this pass or in an earlier one that slept out its cycle
  have hheld : cfg.Held m w (cfg.pass x.before x.input).serve := by
    obtain ⟨earlier, p, later, hsplit, hw, hnone⟩ := hlastw
    rcases List.eq_nil_or_concat later with rfl | ⟨later', x', rfl⟩
    · obtain ⟨-, hxp⟩ := List.append_inj' hsplit rfl
      injection hxp with hxp
      subst hxp
      refine held_of_write hxticked hx (hun x ?_) hw
      rw [hps]
      simp
    · rw [List.concat_eq_append, ← List.cons_append, ← List.append_assoc] at hsplit
      obtain ⟨hbefore', hxx⟩ := List.append_inj' hsplit rfl
      injection hxx with hxx
      subst hxx
      refine held_of_earlier hx hstop ?_
      have hps' : cfg.passes s is = earlier ++ p :: (later' ++ x :: (between ++ y :: after)) := by
        rw [hps, hbefore']
        simp
      obtain ⟨hp, -, hpx⟩ := passes_between hps'
      have hpticked := (goes_clock hp hticked).2.2
      obtain ⟨-, hsleep, -⟩ := write_ticks hpticked hw
      have hmono := goes_clock hpx (cfg.pass_clock p.input hpticked).2.2
      exact Nat.le_trans hsleep hmono.2.1
  have hy := hheld.goes hx.cyclic (cfg.pass_clock x.input hxticked).2.2 hbetween
  obtain ⟨-, hw'eq, -, -⟩ := write_eq hw'
  -- the bit is still held, or the time is up: a pass that clears it is one of the latter
  rcases hy with ⟨⟨q, hq, hactive⟩, -⟩ | hlong
  · exfalso
    apply hclears
    rw [hw'eq]
    have hheard : (cfg.heard y.before y.input).control.shaper m = some q :=
      hear_active hq hactive y.input.received
    exact ControlState.covers_effective (ControlState.mem_of_shaper hheard) hactive
  · have hnow := cfg.now_le_heard y.before y.input
    rw [hw'eq]
    simp only
    omega

/-! ## Which sessions keep every pulse wide enough

  A session whose passes are all `Unhurried` keeps every pulse wide enough, as it does where the
  sleep is three periods of the cycle.  Otherwise nothing may be cleared too early: the session
  cannot drive a bit at all, or its timer ends it before a second write. -/

/-- The session cannot drive a bit, or its cycle is short enough for the sleep to make three
    periods, or its timer ends it before it could write a second byte. -/
def Paced (cfg : ServeSession) : Prop :=
  cfg.allowMask = 0 ∨ cfg.cycleMs ≤ 25 ∨
    (0 < cfg.seconds ∧ 1000 * cfg.seconds ≤ 2 * cfg.cycleMs + 25)

/-- At a cycle of up to 25 ms the sleep after the write is three periods. -/
theorem unhurried_of_short {cfg : ServeSession} (h : cfg.cycleMs ≤ 25) (p : Pass) :
    cfg.Unhurried p := by
  intro m w _ hw
  obtain ⟨-, htick⟩ := cyclic_times (write_eq hw).1
  have heval := write_evaluated hw
  refine .inr (Nat.le_trans ?_ heval)
  rw [htick]
  unfold settle millis pulseTicks
  omega

theorem pass_start (cfg : ServeSession) (s : Serve) (i : PassInput) :
    (cfg.pass s i).serve.start = s.start := by
  have hsettled : (cfg.settled (cfg.heard s i) i).start = s.start := by
    unfold settled rested advance drive
    simp only
    split
    · split
      · rfl
      · rfl
    · split
      · rfl
      · rfl
  cases hp : cfg.pass s i with
  | mk serve log stop =>
    have hdoes := cfg.pass_does s i
    rw [hp] at hdoes
    cases hdoes with
    | stops => rfl
    | hears => rfl
    | serves => rfl
    | drives => exact hsettled

theorem goes_start {cfg : ServeSession} {s s' : Serve} {ps : List Pass}
    (hgoes : cfg.Goes s ps s') : s'.start = s.start := by
  induction hgoes with
  | nil => rfl
  | snoc i _ _ ih => exact (cfg.pass_start _ i).trans ih

/-- A pass that writes was not stopped by the timer. -/
theorem write_before_timer {cfg : ServeSession} {s : Serve} {i : PassInput} {w : Write}
    (h : (cfg.pass s i).log.write = some w) :
    ¬ (0 < cfg.seconds ∧ cfg.seconds ≤ (s.now - s.start) / millis 1000) := by
  intro htimer
  unfold pass headStop at h
  rw [if_pos htimer] at h
  cases h

theorem width_of_paced {cfg : ServeSession} (h : cfg.Paced) (t d d' : Nat)
    (is : List PassInput) : cfg.PulseWidth (cfg.passes (.initial t d d') is) := by
  rcases h with hmask | hshort | ⟨hpos, htimer⟩
  · intro before between after x y m w w' _ hx _ _ _ hclears
    have hm : m = 0 := by
      have hallowed := hx.by.allowed
      rw [hmask] at hallowed
      simpa [Clear] using hallowed
    exact absurd (hm ▸ clear_zero w'.byte) hclears
  · exact width_of_unhurried (initial_ticked t d d') fun p _ => unhurried_of_short hshort p
  · intro before between after x y m w w' hps hx hlastw _ hw' _
    exfalso
    obtain ⟨earlier, p, later, hsplit, hw, -⟩ := hlastw
    have hps' : cfg.passes (.initial t d d') is =
        earlier ++ p :: ((later ++ between) ++ y :: after) := by
      rw [hps, ← List.singleton_append, ← List.append_assoc before, hsplit]
      simp
    obtain ⟨hp, -, hpy⟩ := passes_between hps'
    have hpclock := goes_clock hp (initial_ticked t d d')
    have hpass := cfg.pass_clock p.input hpclock.2.2
    have hstart : y.before.start = t + d + d' := by
      rw [goes_start hpy, cfg.pass_start, goes_start hp]
      rfl
    -- the sleep of the first write has used the session up
    have hlate : t + d + d' + cfg.settle ≤ y.before.now := by
      have hnow : t + d + d' ≤ p.before.now := hpclock.1
      have hheard := cfg.now_le_heard p.before p.input
      have htime : (cfg.heard p.before p.input).now ≤ w.time := by
        rw [(write_eq hw).2.1]
        exact Nat.le_add_right _ _
      obtain ⟨-, hsleep, -⟩ := write_ticks hpclock.2.2 hw
      have hticked : Ticked (cfg.pass p.before p.input).serve := hpass.2.2
      have hmono := (goes_clock hpy hpass.2.2).1
      unfold Ticked at hticked
      omega
    apply write_before_timer hw'
    refine ⟨hpos, ?_⟩
    rw [Nat.le_div_iff_mul_le (by decide), hstart]
    unfold settle millis at *
    omega

/-! ## A pulse that is too short

  For any longer cycle a run is given in which the pass's own tick ends the pulse after 2 * cycle
  + 25 ms. -/

/-- A pass that nothing stops before its tick. -/
theorem pass_drives {cfg : ServeSession} {s : Serve} {i : PassInput}
    (hhead : cfg.headStop s i = none) (hcyc : cfg.cyclic.isSome)
    (hstop : (cfg.hear s.control i.received).2.2 = none) (hok : i.writeOk = true) :
    cfg.pass s i = ⟨cfg.settled (cfg.heard s i) i,
      { cfg.heardLog s i with write := written (cfg.heard s i) i },
      deadman (cfg.settled (cfg.heard s i) i)⟩ := by
  have hnot : ¬ cfg.cyclic.isNone = true := by
    rw [Option.isSome_iff_exists] at hcyc
    obtain ⟨c, hc⟩ := hcyc
    rw [hc]
    exact Bool.false_ne_true
  unfold pass
  rw [hhead]
  simp only
  rw [hstop]
  simp only
  rw [if_neg hnot, if_neg (by simp [hok])]

/-- A pass at once, with this line. -/
def atOnce (r : Received) : PassInput := ⟨none, r, true, 0, 0, 0, 0, 0⟩

/-- The pulse on every allowed bit. -/
def fullPulse (cfg : ServeSession) : Received := .control (.pulse cfg.allowMask)

theorem hear_fullPulse {cfg : ServeSession} (hcyc : cfg.cyclic.isSome) :
    cfg.hear .default cfg.fullPulse =
      (⟨0, [(cfg.allowMask, ⟨pulseTicks, 0⟩)]⟩, some (.ackPulse cfg.allowMask pulseTicks), none) := by
  obtain ⟨c, hc⟩ := Option.isSome_iff_exists.mp hcyc
  have hin : (ControlCmd.pulse cfg.allowMask).outside cfg.allowMask = none := by
    simp [ControlCmd.outside, ControlCmd.requested, Option.filter]
  unfold hear fullPulse
  simp only [hc]
  unfold applyControlCmd
  rw [hin]
  rfl

/-- The loop's variables once the pulse is triggered, in a loop that starts `late` into the period
    it ticks first. -/
theorem heard_fullPulse {cfg : ServeSession} (hcyc : cfg.cyclic.isSome) (late : Nat) :
    cfg.heard (.initial 0 0 late) (atOnce cfg.fullPulse) =
      ⟨late, late, ⟨0, [(cfg.allowMask, ⟨pulseTicks, 0⟩)]⟩, safeOutputByte, 0, late⟩ := by
  have hhear : cfg.hear (Serve.initial 0 0 late).control (atOnce cfg.fullPulse).received = _ :=
    hear_fullPulse hcyc
  unfold heard
  rw [hhear]
  simp [heardAt, activity, Serve.initial, atOnce, fullPulse]

/-- The write of the first pass, and its reading of the clock. -/
theorem first_drive {cfg : ServeSession} {late evaluated : Nat} (hcyc : cfg.cyclic.isSome)
    (hmask : cfg.allowMask ≠ 0) (hsleep : late + cfg.settle = evaluated) :
    written (cfg.heard (.initial 0 0 late) (atOnce cfg.fullPulse)) (atOnce cfg.fullPulse) =
        some ⟨late, cfg.allowMask⟩ ∧
      cfg.drive (cfg.heard (.initial 0 0 late) (atOnce cfg.fullPulse)) (atOnce cfg.fullPulse) =
        ⟨evaluated, late, ⟨0, [(cfg.allowMask, ⟨pulseTicks, 0⟩)]⟩, cfg.allowMask, 0, late⟩ := by
  have hwritten : written (cfg.heard (.initial 0 0 late) (atOnce cfg.fullPulse))
      (atOnce cfg.fullPulse) = some ⟨late, cfg.allowMask⟩ := by
    have heff : (⟨0, [(cfg.allowMask, ⟨pulseTicks, 0⟩)]⟩ : ControlState).effective =
        cfg.allowMask := by
      show (0 : UInt8) ||| cfg.allowMask = cfg.allowMask
      rw [UInt8.zero_or]
    unfold written
    rw [heard_fullPulse hcyc, heff]
    exact if_pos hmask
  refine ⟨hwritten, ?_⟩
  unfold drive
  rw [hwritten, heard_fullPulse hcyc]
  simp only [atOnce, Nat.add_zero, hsleep]

/-- The first pass writes the pulse and, if it counts three periods, ticks it away. -/
theorem first_pass {cfg : ServeSession} {late evaluated : Nat} (hcyc : cfg.cyclic.isSome)
    (hmask : cfg.allowMask ≠ 0) (hsleep : late + cfg.settle = evaluated)
    (hdue : cfg.tick ≤ evaluated) (hperiods : cfg.periods evaluated = pulseTicks) :
    (cfg.pass (.initial 0 0 late) (atOnce cfg.fullPulse)).log =
        ⟨some (.ackPulse cfg.allowMask pulseTicks), 0, some ⟨late, cfg.allowMask⟩⟩ ∧
      (cfg.pass (.initial 0 0 late) (atOnce cfg.fullPulse)).stop = none ∧
      (cfg.pass (.initial 0 0 late) (atOnce cfg.fullPulse)).serve =
        ⟨evaluated, late, ⟨0, [(cfg.allowMask, ⟨0, pulseCooldownTicks⟩)]⟩, cfg.allowMask,
          evaluated, late⟩ := by
  obtain ⟨hwritten, hdrive⟩ := first_drive hcyc hmask hsleep
  have hhear : cfg.hear (Serve.initial 0 0 late).control (atOnce cfg.fullPulse).received = _ :=
    hear_fullPulse hcyc
  have hhead : cfg.headStop (.initial 0 0 late) (atOnce cfg.fullPulse) = none := by
    have hnot : ¬ (0 < cfg.seconds ∧ cfg.seconds ≤
        ((Serve.initial 0 0 late).now - (Serve.initial 0 0 late).start) / millis 1000) := by
      have hzero : (Serve.initial 0 0 late).now - (Serve.initial 0 0 late).start = 0 :=
        Nat.sub_self _
      rw [hzero, Nat.zero_div]
      omega
    unfold headStop
    rw [if_neg hnot]
    rfl
  have hsettled : cfg.settled (cfg.heard (.initial 0 0 late) (atOnce cfg.fullPulse))
      (atOnce cfg.fullPulse) = ⟨evaluated, late,
        ⟨0, [(cfg.allowMask, ⟨0, pulseCooldownTicks⟩)]⟩, cfg.allowMask, evaluated, late⟩ := by
    unfold settled advance
    rw [hdrive]
    simp only [Nat.sub_zero]
    rw [if_pos hdue, hperiods]
    rfl
  have hpass := pass_drives hhead hcyc (congrArg (·.2.2) hhear) (rfl : (atOnce _).writeOk = true)
  rw [hpass, hsettled, hwritten]
  refine ⟨?_, rfl, rfl⟩
  unfold heardLog
  rw [hhear, heard_fullPulse hcyc]

/-- The second pass, at once, writes the byte without it. -/
theorem second_pass {cfg : ServeSession} {late evaluated : Nat} (hcyc : cfg.cyclic.isSome)
    (hmask : cfg.allowMask ≠ 0)
    (htimer : ¬ (0 < cfg.seconds ∧ cfg.seconds ≤ (evaluated - late) / millis 1000)) :
    (cfg.pass ⟨evaluated, late, ⟨0, [(cfg.allowMask, ⟨0, pulseCooldownTicks⟩)]⟩, cfg.allowMask,
      evaluated, late⟩ (atOnce (.bad ""))).log.write = some ⟨evaluated, 0⟩ := by
  have hhead : ∀ s : Serve, s.now = evaluated → s.start = late →
      cfg.headStop s (atOnce (.bad "")) = none := by
    intro s hnow hstart
    unfold headStop
    rw [hnow, hstart, if_neg htimer]
    rfl
  rw [pass_drives (hhead _ rfl rfl) hcyc rfl rfl]
  show written _ _ = _
  have hne : (0 : UInt8) ≠ cfg.allowMask := fun h => hmask h.symm
  simp [written, heard, hear, heardAt, atOnce, ControlState.effective, ControlState.activeMasks,
    EdgePulse.active, union, hne]

/-- Three periods, counted from the last tick. -/
theorem three_periods {cfg : ServeSession} (hcyc : cfg.cyclic.isSome) :
    cfg.periods (millis (3 * cfg.cycleMs)) = pulseTicks := by
  obtain ⟨hpos, htick⟩ := cyclic_times hcyc
  have hnum : millis (3 * cfg.cycleMs) / 1000 = 3 * (cfg.cycleMs * 1000) := by
    unfold millis
    omega
  have hden : max (millis cfg.cycleMs / 1000) 1 = cfg.cycleMs * 1000 := by
    unfold millis
    omega
  unfold periods
  rw [htick, hnum, hden, Nat.mul_div_cancel _ (by omega)]
  rfl

/-- A pulse right before the end of a period of more than 25 ms: the sleep after its write makes
    three counted periods of it, and the next pass clears the bit. -/
theorem too_short {cfg : ServeSession} (hcyc : cfg.cyclic.isSome) (hmask : cfg.allowMask ≠ 0)
    (hlong : 25 < cfg.cycleMs)
    (htimer : cfg.seconds = 0 ∨ 2 * cfg.cycleMs + 25 < 1000 * cfg.seconds) :
    ¬ cfg.PulseWidth (cfg.passes (.initial 0 0 (millis (cfg.cycleMs - 25)))
      [atOnce cfg.fullPulse, atOnce (.bad "")]) := by
  intro h
  obtain ⟨hpos, htick⟩ := cyclic_times hcyc
  have hperiods := three_periods hcyc
  -- the first pass wakes so late that exactly three periods have passed when it evaluates
  have hsleep : millis (cfg.cycleMs - 25) + cfg.settle = millis (3 * cfg.cycleMs) := by
    unfold settle millis
    omega
  have hdue : cfg.tick ≤ millis (3 * cfg.cycleMs) := by
    rw [htick]
    unfold millis
    omega
  have hrunning : ¬ (0 < cfg.seconds ∧ cfg.seconds ≤
      (millis (3 * cfg.cycleMs) - millis (cfg.cycleMs - 25)) / millis 1000) := by
    rintro ⟨hpos, hover⟩
    rw [Nat.le_div_iff_mul_le (by decide)] at hover
    unfold millis at hover
    omega
  -- and so early that the bit was driven for less than three cycles
  have hshort : millis (3 * cfg.cycleMs) <
      millis (cfg.cycleMs - 25) + pulseTicks * cfg.tick := by
    rw [htick]
    unfold millis pulseTicks
    omega
  generalize millis (cfg.cycleMs - 25) = late at *
  generalize millis (3 * cfg.cycleMs) = evaluated at *
  obtain ⟨hlog, hstop, hserve⟩ := first_pass hcyc hmask hsleep hdue hperiods
  have hsecond := second_pass hcyc hmask hrunning
  rw [← hserve] at hsecond
  have hpasses : cfg.passes (.initial 0 0 late) [atOnce cfg.fullPulse, atOnce (.bad "")] =
      [] ++ ⟨.initial 0 0 late, atOnce cfg.fullPulse⟩ ::
        ([] ++ ⟨(cfg.pass (.initial 0 0 late) (atOnce cfg.fullPulse)).serve, atOnce (.bad "")⟩ ::
          []) := by
    rw [passes, hstop]
    simp only
    rw [passes]
    simp only [passes]
    split
    · rfl
    · rfl
  have hacks : cfg.Acks ⟨.initial 0 0 late, atOnce cfg.fullPulse⟩ cfg.allowMask := by
    refine ⟨?_, ?_⟩
    · rw [hlog]
    · rw [hlog]
      exact zero_clear _
  have hlast : cfg.LastWrite ([] ++ [⟨.initial 0 0 late, atOnce cfg.fullPulse⟩])
      ⟨late, cfg.allowMask⟩ :=
    ⟨[], _, [], rfl, by rw [hlog], fun q hq => by cases hq⟩
  have hclears : ¬ Covers 0 cfg.allowMask := by
    intro hcovers
    exact hcovers.not_clear hmask (zero_clear _)
  -- the write that clears the bit comes before the width is over
  have hwidth := h [] [] [] _ _ _ _ _ hpasses hacks hlast (fun p hp => by cases hp) hsecond hclears
  simp only at hwidth
  omega

theorem paced_of_width {cfg : ServeSession}
    (h : ∀ (t d d' : Nat) (is : List PassInput), cfg.PulseWidth (cfg.passes (.initial t d d') is)) :
    cfg.Paced := by
  by_contra hpaced
  unfold Paced at hpaced
  rw [not_or, not_or] at hpaced
  obtain ⟨hmask, hlong, htimer⟩ := hpaced
  have hcyc : cfg.cyclic.isSome := by
    cases hc : cfg.cyclic with
    | some c => rfl
    | none =>
      exfalso
      apply hmask
      unfold allowMask
      rw [hc]
  exact too_short hcyc hmask (by omega) (by omega) (h 0 0 (millis (cfg.cycleMs - 25)) _)

end ServeSession

/-- **How long the wire carries an acknowledged pulse.**  For `pulseTicks` periods at least, in
    every run whose pulse-writing passes do not count the pulse away before its time; and in all
    the runs of a session exactly when its cycle is at most 25 ms, if it can drive anything at all
    and lives to write a second byte. -/
theorem pulse_width (cfg : ServeSession) :
    (∀ (t d d' : Nat) (inputs : List PassInput),
      (∀ p ∈ cfg.passes (.initial t d d') inputs, cfg.Unhurried p) →
      cfg.PulseWidth (cfg.passes (.initial t d d') inputs)) ∧
    ((∀ (t d d' : Nat) (inputs : List PassInput),
      cfg.PulseWidth (cfg.passes (.initial t d d') inputs)) ↔ cfg.Paced) :=
  ⟨fun t d d' _ => ServeSession.width_of_unhurried (ServeSession.initial_ticked t d d'),
    ServeSession.paced_of_width, fun h t d d' is => ServeSession.width_of_paced h t d d' is⟩

/-- A session that may drive bit 0, at a cycle of 32 ms. -/
def benchSlow : ServeSession := ⟨false, some ⟨0x01, 32, 0, rfl⟩⟩

/-- A pulse 7 ms into the first period: 89 ms later three periods are counted, and the next pass
    clears the bit, 7 ms short of 96. -/
theorem pulse_too_short :
    ¬ benchSlow.PulseWidth (benchSlow.passes (.initial 0 0 (millis 7))
      [ServeSession.atOnce (.control (.pulse 0x01)), ServeSession.atOnce (.bad "")]) :=
  @ServeSession.too_short benchSlow rfl (by decide) (by decide) (.inl rfl)

end Profinet
