/-
  RX STATISTICS: what the figures of the receive path say of the frames that came in.

  The path keeps two times, the watchdog's own (`last_receive_time`, which a timeout re-arms) and
  the arrival of the last accepted frame, and a flag that something has disturbed the stretch since.
  The figures of the history of events are:

      accepted … accepted … timeout … accepted … disowned … accepted
      └────────┘ └──────────────────┘ └─────────────────────┘
        steady        disturbed              disturbed

      gaps                the stretches from one accepted frame to the next
      undisturbed         of these, the ones without a timeout and without a disowned frame

  The longest gap is over all gaps, the other figures are over the undisturbed ones.  `Tallied` is
  the tie between the figures and the history; every event keeps it (`Tallied.frame`,
  `Tallied.timeout`), whatever the clock says.
-/
import Profinet.Lib.Stretches
import Profinet.Watchdog

namespace Profinet.Cyclic

open Wire Util Rt Stretches

/-! ## The figures -/

/-- `reset`, at the instant it reads. -/
def CyclicStats.reset (_ : CyclicStats) (now : Instant) : CyclicStats := CyclicStats.new now

/-- `avg_rx_interval_us`: the mean of the measured intervals, 0 before the first. -/
def CyclicStats.avgRxIntervalUs (st : CyclicStats) : Nat :=
  if st.rxIntervalCount = 0 then 0 else st.rxIntervalSumUs / st.rxIntervalCount

/-- The statistics set back, everything else as it is. -/
def Shared.resetStats (s : Shared) (now : Instant) : Shared :=
  { s with stats := s.stats.reset now }

/-! ## The history -/

/-- The arrival of a frame that is accepted. -/
def LinkEvent.acceptedAt (base : Shared) : LinkEvent → Option Instant
  | .frame now data => (base.accepted data).map fun _ => now
  | .timeout _ => none

/-- A frame of our device and IOCR that vouches for no data. -/
def LinkEvent.isDisowned (base : Shared) : LinkEvent → Bool
  | .frame _ data => (base.inputFrame data).any fun frame => !frameIsAlive frame
  | .timeout _ => false

/-- The events between two accepted frames. -/
abbrev Gap := Stretch LinkEvent Instant

/-- The length of a gap. -/
def gapUs (g : Gap) : Nat := microsBetween g.first g.last

/-- The gaps between consecutive accepted frames. -/
def gaps (base : Shared) (es : List LinkEvent) : List Gap := stretches (LinkEvent.acceptedAt base) es

/-- No timeout and no disowned frame. -/
def calm (base : Shared) (es : List LinkEvent) : Bool :=
  es.all fun e => !e.isTimeout && !e.isDisowned base

/-- The lengths of the gaps in which nothing but foreign frames arrived. -/
def undisturbed (base : Shared) (es : List LinkEvent) : List Nat :=
  ((gaps base es).filter fun g => calm base g.within).map gapUs

/-! ## The meter behind the statistics -/

/-- The part of the statistics the gaps are measured with. -/
structure RxFigures where
  lastAccepted : Option Instant
  disturbed : Bool
  longest : Nat
  jitter : Nat
  shortest : Nat
  sum : Nat
  count : Nat

/-- The receive figures of the statistics. -/
def CyclicStats.rxFigures (st : CyclicStats) : RxFigures where
  lastAccepted := st.lastAcceptedTime
  disturbed := st.intervalDisturbed
  longest := st.maxRxIntervalUs
  jitter := st.maxRxJitterUs
  shortest := st.minRxIntervalUs
  sum := st.rxIntervalSumUs
  count := st.rxIntervalCount

namespace RxFigures

/-- The gap an accepted frame closes. -/
def closing (f : RxFigures) (now : Instant) : List Nat :=
  (f.lastAccepted.map (microsBetween · now)).toList

/-- The same, if nothing has disturbed it. -/
def measured (f : RxFigures) (now : Instant) : List Nat :=
  if f.disturbed then [] else f.closing now

/-- An accepted frame is taken up. -/
def accept (f : RxFigures) (now : Instant) (targetUs : Nat) : RxFigures where
  lastAccepted := some now
  disturbed := false
  longest := (f.closing now).foldl max f.longest
  jitter := ((f.measured now).map (absDiff · targetUs)).foldl max f.jitter
  shortest := (f.measured now).foldl min f.shortest
  sum := f.sum + (f.measured now).sum
  count := f.count + (f.measured now).length

/-- A frame that counts as invalid disturbs the interval. -/
def disturb (f : RxFigures) : RxFigures := { f with disturbed := true }

end RxFigures

/-- **The stats section is the meter**: an accepted frame is taken up, any other disturbs. -/
theorem receive_rxFigures (st : CyclicStats) (now : Instant) (targetUs : Nat) (valid : Bool) :
    (st.receive now targetUs valid).rxFigures
      = if valid then st.rxFigures.accept now targetUs else st.rxFigures.disturb := by
  cases valid with
  | false => rfl
  | true =>
    unfold CyclicStats.rxFigures RxFigures.accept RxFigures.measured RxFigures.closing
      CyclicStats.receive CyclicStats.addInterval
    cases hlast : st.lastAcceptedTime with
    | none => cases hflag : st.intervalDisturbed <;> simp
    | some previous => cases hflag : st.intervalDisturbed <;> simp

theorem receive_counts (st : CyclicStats) (now : Instant) (targetUs : Nat) (valid : Bool) :
    (st.receive now targetUs valid).framesInvalid = st.framesInvalid
      ∧ (st.receive now targetUs valid).framesReceived = st.framesReceived + 1 := by
  cases valid with
  | false => exact ⟨rfl, rfl⟩
  | true =>
    unfold CyclicStats.receive CyclicStats.addInterval
    cases st.lastAcceptedTime with
    | none => exact ⟨rfl, rfl⟩
    | some previous => cases hflag : st.intervalDisturbed <;> simp

theorem trackCycleCounter_stats (s : Shared) (rxCounter : UInt16) :
    ∃ missed duplicate outOfOrder, (s.trackCycleCounter rxCounter).stats
      = { s.stats with
          framesMissed := missed
          framesDuplicate := duplicate
          framesOutOfOrder := outOfOrder } := by
  unfold Shared.trackCycleCounter
  cases s.lastRxCycleCounter with
  | none => exact ⟨_, _, _, rfl⟩
  | some prev => exact Shared.trackCounter_eq s.stats prev rxCounter s.rxCounterStep

/-- The statistics behind a frame of our device: the stats section, the counter, and one more
    invalid frame if it is disowned. -/
theorem processInputFrame_stats (s : Shared) {data : List UInt8} {frame : RtFrame}
    (h : s.inputFrame data = some frame) (now : Instant) :
    ∃ missed duplicate outOfOrder, (s.processInputFrame now data).stats
      = { s.stats.receive now s.inputIocr.cycleTimeUs (frameIsAlive frame) with
          framesMissed := missed
          framesDuplicate := duplicate
          framesOutOfOrder := outOfOrder
          framesInvalid := s.stats.framesInvalid + if frameIsAlive frame then 0 else 1 } := by
  -- recovery from FAULT is no matter of the statistics
  have hrecover : ∀ valid : Bool, ∃ s' : Shared,
      (if valid ∧ (s.receiveStats now valid).state = .fault then
        (s.receiveStats now valid).transition .running else s.receiveStats now valid) = s'
      ∧ s'.stats = s.stats.receive now s.inputIocr.cycleTimeUs valid := by
    intro valid
    refine ⟨_, rfl, ?_⟩
    split
    · obtain ⟨log, hlog⟩ := (s.receiveStats now valid).transition_eq .running
      rw [hlog]
      rfl
    · rfl
  obtain ⟨s', hs', hstats⟩ := hrecover (frameIsAlive frame)
  obtain ⟨missed, duplicate, outOfOrder, htrack⟩ := trackCycleCounter_stats s' frame.cycleCounter
  have hinvalid := (receive_counts s.stats now s.inputIocr.cycleTimeUs (frameIsAlive frame)).1
  refine ⟨missed, duplicate, outOfOrder, ?_⟩
  unfold Shared.processInputFrame
  simp only [h, hs']
  rw [← hinvalid]
  cases halive : frameIsAlive frame with
  | true =>
    obtain ⟨inputs, log, hstore⟩ :=
      (s'.trackCycleCounter frame.cycleCounter).acknowledge.storeInputs_eq frame.payload
    rw [if_pos rfl, hstore]
    show (s'.trackCycleCounter frame.cycleCounter).stats = _
    rw [htrack, hstats, halive]
    rfl
  | false =>
    rw [if_neg Bool.false_ne_true]
    unfold Shared.countInvalid
    rw [htrack, hstats, halive]
    rfl

/-- What a frame is to the meter. -/
theorem processInputFrame_rxFigures (s : Shared) (now : Instant) (data : List UInt8) :
    (s.processInputFrame now data).stats.rxFigures
      = match s.inputFrame data with
        | none => s.stats.rxFigures
        | some frame =>
          if frameIsAlive frame then s.stats.rxFigures.accept now s.inputIocr.cycleTimeUs
          else s.stats.rxFigures.disturb := by
  cases hframe : s.inputFrame data with
  | none => rw [s.processInputFrame_ignored hframe]
  | some frame =>
    obtain ⟨missed, duplicate, outOfOrder, hstats⟩ := processInputFrame_stats s hframe now
    rw [hstats]
    exact receive_rxFigures s.stats now s.inputIocr.cycleTimeUs (frameIsAlive frame)

/-- Of the frames received some are invalid. -/
theorem processInputFrame_invalid (s : Shared) (now : Instant) (data : List UInt8)
    (h : s.stats.framesInvalid ≤ s.stats.framesReceived) :
    (s.processInputFrame now data).stats.framesInvalid
      ≤ (s.processInputFrame now data).stats.framesReceived := by
  cases hframe : s.inputFrame data with
  | none =>
    rw [s.processInputFrame_ignored hframe]
    exact h
  | some frame =>
    obtain ⟨missed, duplicate, outOfOrder, hstats⟩ := processInputFrame_stats s hframe now
    have hreceived := (receive_counts s.stats now s.inputIocr.cycleTimeUs (frameIsAlive frame)).2
    rw [hstats]
    show s.stats.framesInvalid + _ ≤ (s.stats.receive _ _ _).framesReceived
    rw [hreceived]
    split <;> omega

/-! ## The meter follows the history -/

/-- The figures of the meter are those of the history `es`. -/
structure Tallied (base : Shared) (es : List LinkEvent) (f : RxFigures) : Prop where
  lastAccepted : f.lastAccepted = (since (LinkEvent.acceptedAt base) es).1
  /-- The flag means: disturbed since the last accepted frame. -/
  disturbed : f.disturbed = !calm base (since (LinkEvent.acceptedAt base) es).2
  longest : f.longest = ((gaps base es).map gapUs).max?.getD 0
  jitter : f.jitter
    = ((undisturbed base es).map (absDiff · base.inputIocr.cycleTimeUs)).max?.getD 0
  shortest : ∀ n ∈ undisturbed base es, f.shortest ≤ n
  sum : f.sum = (undisturbed base es).sum
  count : f.count = (undisturbed base es).length

theorem tallied_nil (base : Shared) (now : Instant) :
    Tallied base [] (CyclicStats.new now).rxFigures where
  lastAccepted := rfl
  disturbed := rfl
  longest := rfl
  jitter := rfl
  shortest := fun _ hn => absurd hn List.not_mem_nil
  sum := rfl
  count := rfl

section Steps

variable {base : Shared} {es : List LinkEvent} {f : RxFigures}

/-- **An event that is no accepted frame** closes no gap; if it disturbs, the flag goes up. -/
theorem Tallied.behind (h : Tallied base es f) {e : LinkEvent} (he : e.acceptedAt base = none) :
    Tallied base (es ++ [e])
      { f with disturbed := f.disturbed || (e.isTimeout || e.isDisowned base) } := by
  have hsince : since (LinkEvent.acceptedAt base) (es ++ [e])
      = ((since (LinkEvent.acceptedAt base) es).1,
        (since (LinkEvent.acceptedAt base) es).2 ++ [e]) := by
    rw [since_snoc, he]
  have hgaps : gaps base (es ++ [e]) = gaps base es := by
    unfold gaps
    rw [stretches_snoc]
    unfold closed
    rw [he]
    cases (since (LinkEvent.acceptedAt base) es).1 <;> exact List.append_nil _
  have hundisturbed : undisturbed base (es ++ [e]) = undisturbed base es := by
    unfold undisturbed
    rw [hgaps]
  refine ⟨?_, ?_, ?_, ?_, ?_, ?_, ?_⟩
  · rw [hsince]
    exact h.lastAccepted
  · rw [hsince, h.disturbed]
    unfold calm
    rw [List.all_append]
    cases List.all (since (LinkEvent.acceptedAt base) es).2 _ <;> simp
  · rw [hgaps]
    exact h.longest
  · rw [hundisturbed]
    exact h.jitter
  · rw [hundisturbed]
    exact h.shortest
  · rw [hundisturbed]
    exact h.sum
  · rw [hundisturbed]
    exact h.count

/-- The meter sees the gap that an accepted frame closes, and whether it was calm. -/
theorem Tallied.closes (h : Tallied base es f) {e : LinkEvent} {now : Instant}
    (he : e.acceptedAt base = some now) :
    (gaps base (es ++ [e])).map gapUs = (gaps base es).map gapUs ++ f.closing now
      ∧ undisturbed base (es ++ [e]) = undisturbed base es ++ f.measured now := by
  have hgaps : gaps base (es ++ [e]) = gaps base es
      ++ closed (LinkEvent.acceptedAt base) (since (LinkEvent.acceptedAt base) es) e :=
    stretches_snoc es e
  unfold undisturbed RxFigures.measured RxFigures.closing
  rw [hgaps, h.lastAccepted, h.disturbed, List.map_append, List.filter_append, List.map_append]
  unfold closed
  rw [he]
  cases (since (LinkEvent.acceptedAt base) es).1 with
  | none => simp
  | some previous =>
    refine ⟨rfl, ?_⟩
    rw [List.filter_singleton]
    cases calm base (since (LinkEvent.acceptedAt base) es).2 <;> rfl

/-- **An accepted frame.**  The gap it closes counts for the longest one whatever was in it, for the
    other figures if the flag is down. -/
theorem Tallied.accepted (h : Tallied base es f) {e : LinkEvent} {now : Instant}
    (he : e.acceptedAt base = some now) :
    Tallied base (es ++ [e]) (f.accept now base.inputIocr.cycleTimeUs) := by
  obtain ⟨hgaps, hundisturbed⟩ := h.closes he
  have hsince : since (LinkEvent.acceptedAt base) (es ++ [e]) = (some now, []) := by
    rw [since_snoc, he]
  refine ⟨?_, ?_, ?_, ?_, ?_, ?_, ?_⟩
  · rw [hsince]
    rfl
  · rw [hsince]
    rfl
  · rw [hgaps, max_append, ← h.longest]
    rfl
  · rw [hundisturbed, List.map_append, max_append, ← h.jitter]
    rfl
  · rw [hundisturbed]
    exact foldl_min_le h.shortest
  · rw [hundisturbed, List.sum_append, ← h.sum]
    rfl
  · rw [hundisturbed, List.length_append, ← h.count]
    rfl

end Steps

/-! ## Runs -/

/-- What the receive path goes by is the same throughout. -/
theorem link_config (s : Shared) (e : LinkEvent) :
    (e.apply s).dstMac = s.dstMac ∧ (e.apply s).inputIocr = s.inputIocr := by
  cases e with
  | frame now data =>
    show (s.processInputFrame now data).dstMac = _ ∧ (s.processInputFrame now data).inputIocr = _
    cases hframe : s.inputFrame data with
    | none =>
      rw [s.processInputFrame_ignored hframe]
      exact ⟨rfl, rfl⟩
    | some frame =>
      cases halive : frameIsAlive frame with
      | false =>
        obtain ⟨st, heq, -⟩ := s.processInputFrame_disowned hframe halive now
        rw [heq]
        exact ⟨rfl, rfl⟩
      | true =>
        obtain ⟨st, inputs, log, heq, -⟩ := s.processInputFrame_accepted hframe halive now
        rw [heq]
        exact ⟨rfl, rfl⟩
  | timeout rearmAt =>
    obtain ⟨log, heq⟩ := s.handleWatchdogTimeout_eq
    cases rearmAt with
    | none =>
      show s.handleWatchdogTimeout.dstMac = _ ∧ s.handleWatchdogTimeout.inputIocr = _
      rw [heq]
      exact ⟨rfl, rfl⟩
    | some later =>
      show (s.handleWatchdogTimeout.rearm later).dstMac = _
        ∧ (s.handleWatchdogTimeout.rearm later).inputIocr = _
      rw [heq]
      exact ⟨rfl, rfl⟩

/-- The state of a run, as the receive path of `base` sees it. -/
structure Measures (base : Shared) (es : List LinkEvent) (s : Shared) : Prop where
  dstMac : s.dstMac = base.dstMac
  inputIocr : s.inputIocr = base.inputIocr
  invalid : s.stats.framesInvalid ≤ s.stats.framesReceived
  tallied : Tallied base es s.stats.rxFigures

theorem Measures.frame {base s : Shared} {es : List LinkEvent} (h : Measures base es s)
    (now : Instant) (data : List UInt8) :
    Measures base (es ++ [.frame now data]) (s.processInputFrame now data) := by
  obtain ⟨hmac, hiocr⟩ := link_config s (.frame now data)
  refine ⟨hmac.trans h.dstMac, hiocr.trans h.inputIocr,
    processInputFrame_invalid s now data h.invalid, ?_⟩
  have hfilter : s.inputFrame data = base.inputFrame data := by
    unfold Shared.inputFrame
    rw [h.dstMac, h.inputIocr]
  rw [processInputFrame_rxFigures, hfilter, h.inputIocr]
  cases hframe : base.inputFrame data with
  | none =>
    -- a foreign frame is nothing to the meter
    have hbehind := h.tallied.behind (e := .frame now data)
      (by simp [LinkEvent.acceptedAt, Shared.accepted, hframe])
    rwa [LinkEvent.isTimeout, LinkEvent.isDisowned, hframe, Option.any_none, Bool.or_false,
      Bool.or_false] at hbehind
  | some frame =>
    have hat : (LinkEvent.frame now data).acceptedAt base
        = if frameIsAlive frame then some now else none := by
      rw [LinkEvent.acceptedAt, Shared.accepted, hframe, Option.filter_some]
      split <;> rfl
    dsimp only
    cases halive : frameIsAlive frame with
    | true =>
      rw [halive] at hat
      exact h.tallied.accepted hat
    | false =>
      rw [halive] at hat
      have hbehind := h.tallied.behind hat
      rwa [LinkEvent.isTimeout, LinkEvent.isDisowned, hframe, Option.any_some, halive, Bool.not_false,
        Bool.or_true, Bool.or_true] at hbehind

/-- A timeout disturbs; when the watchdog's own timer is armed again is no matter of the meter. -/
theorem Measures.timeout {base s : Shared} {es : List LinkEvent} (h : Measures base es s)
    (rearmAt : Option Instant) :
    Measures base (es ++ [.timeout rearmAt]) ((LinkEvent.timeout rearmAt).apply s) := by
  obtain ⟨hmac, hiocr⟩ := link_config s (.timeout rearmAt)
  obtain ⟨log, heq⟩ := s.handleWatchdogTimeout_eq
  have hbehind := h.tallied.behind (e := .timeout rearmAt) rfl
  rw [LinkEvent.isTimeout, Bool.true_or, Bool.or_true] at hbehind
  have hstats : ((LinkEvent.timeout rearmAt).apply s).stats.rxFigures = s.stats.rxFigures.disturb
      ∧ ((LinkEvent.timeout rearmAt).apply s).stats.framesInvalid = s.stats.framesInvalid
      ∧ ((LinkEvent.timeout rearmAt).apply s).stats.framesReceived = s.stats.framesReceived := by
    cases rearmAt with
    | none =>
      rw [LinkEvent.apply, heq]
      exact ⟨rfl, rfl, rfl⟩
    | some later =>
      rw [LinkEvent.apply, heq]
      exact ⟨rfl, rfl, rfl⟩
  obtain ⟨hfigures, hinvalid, hreceived⟩ := hstats
  refine ⟨hmac.trans h.dstMac, hiocr.trans h.inputIocr, ?_, ?_⟩
  · rw [hinvalid, hreceived]
    exact h.invalid
  · rw [hfigures]
    exact hbehind

theorem measures_run (s : Shared) (now : Instant) (es : List LinkEvent) :
    Measures s es (runLink (s.resetStats now) es) := by
  induction es using List.reverseRecOn with
  | nil => exact ⟨rfl, rfl, Nat.le_refl 0, tallied_nil s now⟩
  | append_singleton es e ih =>
    rw [runLink, List.foldl_append]
    cases e with
    | frame now data => exact ih.frame now data
    | timeout rearmAt => exact ih.timeout rearmAt

/-- **The statistics stay coherent.**  After any sequence of frames and timeouts since a reset, at
    whatever instants: no more frames are invalid than were received; the longest interval is that
    of the longest gap; the intervals counted are the undisturbed gaps; and once there is one, the
    mean lies between the shortest and the longest, and the jitter is the largest deviation of an
    undisturbed gap from the cycle time. -/
theorem statistics_coherent (s : Shared) (now : Instant) (es : List LinkEvent) :
    let st := (runLink (s.resetStats now) es).stats
    st.framesInvalid ≤ st.framesReceived
    ∧ st.maxRxIntervalUs = ((gaps s es).map gapUs).max?.getD 0
    ∧ st.rxIntervalCount = (undisturbed s es).length
    ∧ (0 < st.rxIntervalCount →
      st.minRxIntervalUs ≤ st.avgRxIntervalUs ∧ st.avgRxIntervalUs ≤ st.maxRxIntervalUs
      ∧ ((undisturbed s es).map (absDiff · s.inputIocr.cycleTimeUs)).max?
        = some st.maxRxJitterUs) := by
  intro st
  obtain ⟨-, -, hinvalid, htallied⟩ := measures_run s now es
  have hlongest : st.maxRxIntervalUs = ((gaps s es).map gapUs).max?.getD 0 := htallied.longest
  have hcount : st.rxIntervalCount = (undisturbed s es).length := htallied.count
  have hsum : st.rxIntervalSumUs = (undisturbed s es).sum := htallied.sum
  refine ⟨hinvalid, hlongest, hcount, fun hpos => ?_⟩
  -- every undisturbed gap lies between the shortest and the longest interval
  have hbounds : ∀ n ∈ undisturbed s es, st.minRxIntervalUs ≤ n ∧ n ≤ st.maxRxIntervalUs := by
    intro n hn
    refine ⟨htallied.shortest n hn, ?_⟩
    obtain ⟨g, hg, rfl⟩ := List.mem_map.mp hn
    rw [hlongest]
    exact le_max_of_mem (List.mem_map_of_mem (List.mem_of_mem_filter hg))
  have havg : st.avgRxIntervalUs = (undisturbed s es).sum / (undisturbed s es).length := by
    unfold CyclicStats.avgRxIntervalUs
    rw [if_neg (by omega), hsum, hcount]
  rw [hcount] at hpos
  obtain ⟨hlow, hhigh⟩ := mean_bounds hpos hbounds
  refine ⟨havg ▸ hlow, havg ▸ hhigh, ?_⟩
  have hjitter : st.maxRxJitterUs
      = ((undisturbed s es).map (absDiff · s.inputIocr.cycleTimeUs)).max?.getD 0 := htallied.jitter
  rw [hjitter]
  cases hund : undisturbed s es with
  | nil =>
    rw [hund] at hpos
    exact absurd hpos (Nat.lt_irrefl 0)
  | cons n rest => rfl

end Profinet.Cyclic
