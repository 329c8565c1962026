/-
  CYCLIC EFFECTS: what one received frame and one watchdog timeout do to the shared state.

  Each lemma gives the state afterwards as an update of the state before, with the log of
  callbacks and the diagnostic counters left open.  Everything about runs (`Watchdog`,
  `OutputImage`, `Threads`) starts from these and unfolds no section again:

      processInputFrame_ignored     a foreign or unparsable frame: nothing
      processInputFrame_disowned    our device's frame without usable data: counters only
      processInputFrame_accepted    the watchdog is satisfied, FAULT recovers, IOCS goes GOOD
      handleWatchdogTimeout_eq      the streak grows, IOCS goes BAD, RUNNING may go to FAULT
-/
import Profinet.Cyclic

namespace Profinet.Cyclic

open Wire Util Rt

namespace Shared

variable (s : Shared)

/-! ## Callbacks and state changes -/

theorem emit_eq (e : CallbackEvent) : ∃ log, s.emit e = { s with fired := log } := by
  unfold emit
  by_cases h : s.callbacks.handles e
  · exact ⟨_, by rw [if_pos h]⟩
  · exact ⟨s.fired, by rw [if_neg h]⟩

theorem foldl_emit_eq (es : List CallbackEvent) :
    ∃ log, es.foldl emit s = { s with fired := log } := by
  induction es generalizing s with
  | nil => exact ⟨s.fired, rfl⟩
  | cons e es ih =>
    obtain ⟨log, hlog⟩ := s.emit_eq e
    obtain ⟨log', hlog'⟩ := ih (s.emit e)
    refine ⟨log', ?_⟩
    rw [List.foldl_cons, hlog', hlog]

/-- A transition sets the state; a change to FAULT is latched. -/
theorem transition_eq (newState : CyclicState) :
    ∃ log, s.transition newState
      = { s with
          state := newState
          everFaulted := s.everFaulted || (newState = .fault && s.state ≠ .fault)
          fired := log } := by
  unfold transition moveState
  by_cases h : s.state = newState
  · refine ⟨s.fired, ?_⟩
    rw [if_pos h]
    subst h
    simp
  · rw [if_neg h]
    obtain ⟨log, hlog⟩ := emit_eq (latchFault { s with state := newState } newState)
      (.stateChange s.state newState)
    refine ⟨log, hlog.trans ?_⟩
    unfold latchFault
    by_cases hf : newState = .fault
    · subst hf
      simp [h]
    · simp [hf]

theorem storeInputs_eq (payload : List UInt8) :
    ∃ inputs log, s.storeInputs payload = { s with inputData := inputs, fired := log } := by
  obtain ⟨log, hlog⟩ := foldl_emit_eq
    { s with inputData := (s.inputIocr.objects.foldl (extractStep payload)
        ⟨s.inputData, [], []⟩).inputData } _
  exact ⟨_, log, hlog⟩

/-! ## One received frame -/

/-- A received counter moves the three counters of the sequence, and nothing else. -/
theorem trackCounter_eq (st : CyclicStats) (prev rxCounter : UInt16) (step : UInt32) :
    ∃ missed duplicate outOfOrder, st.trackCounter prev rxCounter step
      = { st with
          framesMissed := missed
          framesDuplicate := duplicate
          framesOutOfOrder := outOfOrder } := by
  unfold CyclicStats.trackCounter
  by_cases h1 : rxCounter = prev
  · rw [if_pos h1]
    exact ⟨_, _, _, rfl⟩
  · rw [if_neg h1]
    by_cases h2 : rxCounter ≠ ((prev.toUInt32 + step) &&& 0xFFFF).toUInt16
    · rw [if_pos h2]
      by_cases h3 : (rxCounter - prev).toNat > 0x8000
      · rw [if_pos h3]
        exact ⟨_, _, _, rfl⟩
      · rw [if_neg h3]
        exact ⟨_, _, _, rfl⟩
    · rw [if_neg h2]
      exact ⟨_, _, _, rfl⟩

theorem trackCounter_keeps (st : CyclicStats) (prev rxCounter : UInt16) (step : UInt32) :
    (st.trackCounter prev rxCounter step).lastReceiveTime = st.lastReceiveTime
      ∧ (st.trackCounter prev rxCounter step).consecutiveTimeouts = st.consecutiveTimeouts := by
  obtain ⟨missed, duplicate, outOfOrder, h⟩ := trackCounter_eq st prev rxCounter step
  rw [h]
  exact ⟨rfl, rfl⟩

theorem trackCycleCounter_eq (rxCounter : UInt16) :
    ∃ st, s.trackCycleCounter rxCounter
        = { s with stats := st, lastRxCycleCounter := some rxCounter }
      ∧ st.lastReceiveTime = s.stats.lastReceiveTime
      ∧ st.consecutiveTimeouts = s.stats.consecutiveTimeouts := by
  unfold trackCycleCounter
  cases s.lastRxCycleCounter with
  | none => exact ⟨s.stats, rfl, rfl, rfl⟩
  | some prev => exact ⟨_, rfl, trackCounter_keeps s.stats prev rxCounter s.rxCounterStep⟩

theorem receive_accepted (st : CyclicStats) (now : Instant) (targetUs : Nat) :
    (st.receive now targetUs true).lastReceiveTime = now
      ∧ (st.receive now targetUs true).consecutiveTimeouts = 0 :=
  ⟨rfl, rfl⟩

theorem receive_disowned (st : CyclicStats) (now : Instant) (targetUs : Nat) :
    (st.receive now targetUs false).lastReceiveTime = st.lastReceiveTime
      ∧ (st.receive now targetUs false).consecutiveTimeouts = st.consecutiveTimeouts :=
  ⟨rfl, rfl⟩

/-- A frame of another station, of another IOCR or of no known shape changes nothing. -/
theorem processInputFrame_ignored {data : List UInt8} (h : s.inputFrame data = none)
    (now : Instant) : s.processInputFrame now data = s := by
  simp only [processInputFrame, h]

/-- A frame the device disowns is counted: the watchdog, the state and the output image are as
    before. -/
theorem processInputFrame_disowned {data : List UInt8} {frame : RtFrame}
    (h : s.inputFrame data = some frame) (hdead : frameIsAlive frame = false) (now : Instant) :
    ∃ st, s.processInputFrame now data
        = { s with stats := st, lastRxCycleCounter := some frame.cycleCounter }
      ∧ st.lastReceiveTime = s.stats.lastReceiveTime
      ∧ st.consecutiveTimeouts = s.stats.consecutiveTimeouts := by
  obtain ⟨st, htrack, ht, hc⟩ := (s.receiveStats now false).trackCycleCounter_eq frame.cycleCounter
  obtain ⟨ht', hc'⟩ := receive_disowned s.stats now s.inputIocr.cycleTimeUs
  refine ⟨{ st with framesInvalid := st.framesInvalid + 1 }, ?_, ht.trans ht', hc.trans hc'⟩
  simp only [processInputFrame, h, hdead, Bool.false_eq_true, false_and, if_false]
  rw [htrack]
  rfl

/-- An accepted frame satisfies the watchdog, recovers from FAULT and acknowledges the input. -/
theorem processInputFrame_accepted {data : List UInt8} {frame : RtFrame}
    (h : s.inputFrame data = some frame) (halive : frameIsAlive frame = true) (now : Instant) :
    ∃ st inputs log, s.processInputFrame now data
        = { s with
            state := if s.state = .fault then .running else s.state
            outputBuilder := s.outputBuilder.setAllIocs ioxsGood
            stats := st
            lastRxCycleCounter := some frame.cycleCounter
            inputData := inputs
            fired := log }
      ∧ st.lastReceiveTime = now ∧ st.consecutiveTimeouts = 0 := by
  -- recovery first: only the state and the log move
  have hrecover : ∃ log,
      (if s.state = .fault then (s.receiveStats now true).transition .running
        else s.receiveStats now true)
      = { s with
          state := if s.state = .fault then .running else s.state
          stats := s.stats.receive now s.inputIocr.cycleTimeUs true
          fired := log } := by
    by_cases hf : s.state = .fault
    · obtain ⟨log, hlog⟩ := (s.receiveStats now true).transition_eq .running
      refine ⟨log, ?_⟩
      rw [if_pos hf, if_pos hf, hlog]
      simp [receiveStats]
    · refine ⟨s.fired, ?_⟩
      rw [if_neg hf, if_neg hf]
      rfl
  obtain ⟨log, hrec⟩ := hrecover
  obtain ⟨ht, hc⟩ := receive_accepted s.stats now s.inputIocr.cycleTimeUs
  obtain ⟨st, htrack, ht', hc'⟩ := trackCycleCounter_eq
    { s with
      state := if s.state = .fault then .running else s.state
      stats := s.stats.receive now s.inputIocr.cycleTimeUs true
      fired := log } frame.cycleCounter
  obtain ⟨inputs, log', hstore⟩ := storeInputs_eq
    (acknowledge { s with
      state := if s.state = .fault then .running else s.state
      stats := st
      lastRxCycleCounter := some frame.cycleCounter
      fired := log }) frame.payload
  refine ⟨st, inputs, log', ?_, ht'.trans ht, hc'.trans hc⟩
  have hstate : (s.receiveStats now true).state = s.state := rfl
  simp only [processInputFrame, h, halive, if_true, true_and, hstate]
  rw [hrec, htrack]
  exact hstore

/-! ## One watchdog timeout -/

/-- A timeout escalates: faulting is enabled, the streak reaches the limit, the link was up. -/
def escalates : Bool :=
  s.maxConsecutiveTimeouts > 0
    && s.stats.consecutiveTimeouts + 1 ≥ s.maxConsecutiveTimeouts && s.state = .running

theorem handleWatchdogTimeout_eq :
    ∃ log, s.handleWatchdogTimeout
      = { s with
          stats := s.stats.countTimeout
          outputBuilder :=
            if s.maxConsecutiveTimeouts > 0 then s.outputBuilder.setAllIocs ioxsBad
            else s.outputBuilder
          state := if s.escalates then .fault else s.state
          everFaulted := s.everFaulted || s.escalates
          fired := log } := by
  obtain ⟨log, hlog⟩ := s.countTimeout.disown.emit_eq .timeout
  have hdisown : s.countTimeout.disown
      = { s with
          stats := s.stats.countTimeout
          outputBuilder :=
            if s.maxConsecutiveTimeouts > 0 then s.outputBuilder.setAllIocs ioxsBad
            else s.outputBuilder } := by
    unfold disown
    by_cases hmax : s.countTimeout.maxConsecutiveTimeouts > 0
    · have hmax' : s.maxConsecutiveTimeouts > 0 := hmax
      rw [if_pos hmax, if_pos hmax']
      rfl
    · have hmax' : ¬ s.maxConsecutiveTimeouts > 0 := hmax
      rw [if_neg hmax, if_neg hmax']
      rfl
  rw [hdisown] at hlog
  unfold handleWatchdogTimeout
  simp only [hdisown, hlog]
  have hconsecutive : s.countTimeout.stats.consecutiveTimeouts
      = s.stats.consecutiveTimeouts + 1 := rfl
  by_cases hesc : s.maxConsecutiveTimeouts > 0
      ∧ s.stats.consecutiveTimeouts + 1 ≥ s.maxConsecutiveTimeouts ∧ s.state = .running
  · have hb : s.escalates = true := by simp [escalates, hesc.1, hesc.2.1, hesc.2.2]
    rw [hconsecutive, if_pos hesc, hb]
    obtain ⟨log', hmove⟩ := transition_eq
      { s with
        stats := s.stats.countTimeout
        outputBuilder :=
          if s.maxConsecutiveTimeouts > 0 then s.outputBuilder.setAllIocs ioxsBad
          else s.outputBuilder
        fired := log } .fault
    rw [hmove]
    unfold emitError
    obtain ⟨log'', hemit⟩ := emit_eq _ _
    refine ⟨log'', hemit.trans ?_⟩
    simp [hesc.2.2]
  · have hb : s.escalates = false := by
      by_contra h
      rw [Bool.not_eq_false] at h
      simp only [escalates, Bool.and_eq_true, decide_eq_true_eq] at h
      exact hesc ⟨h.1.1, h.1.2, h.2⟩
    refine ⟨log, ?_⟩
    rw [hconsecutive, if_neg hesc, hb]
    simp

end Shared

end Profinet.Cyclic
