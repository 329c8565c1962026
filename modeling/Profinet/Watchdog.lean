/-
  WATCHDOG: the receive watchdog of the controller is a strike timer.

  `Watches base s t` relates the shared state to a `Strikes.Timer`: the timer's instant is
  `last_receive_time`, its strikes are `consecutive_timeouts` (modulo 2^32, the width of the
  counter), and the state is FAULT exactly when faulting is enabled and the strikes have reached
  the limit.  An accepted frame is a sign of life, an expired check a strike, and nothing else
  moves the timer.  From it:

      escalation_and_recovery     every sequence of frames and timeouts
      watchdog_timing             every run of the receive loop, with its clock

  The first is about the events in any order, the second about the passes of `rx_loop`.
-/
import Mathlib.Data.List.Induction
import Profinet.Lib.Strikes
import Profinet.CyclicEffects

namespace Profinet.Cyclic

open Wire Gsdml Util Rt Strikes

/-! ## Accepted frames

  A frame is accepted if it is long enough, comes from the device, is a cyclic frame of ours, and
  its status says that the link is alive. -/

/-- What makes a received byte string an accepted frame: it is our device's, it parses, it is for
    our input IOCR, and its provider vouches for the data. -/
structure Accepts (s : Shared) (data : List UInt8) (frame : RtFrame) : Prop where
  length : 18 ≤ data.length
  sourceMac : (data.drop 6).take 6 = s.dstMac.1
  parses : parseEthernetFrame data = some frame
  frameId : frame.frameId = s.inputIocr.frameId
  valid : frame.isValid = true
  running : frame.isRunning = true
  notIgnored : frame.isIgnored = false
  transferStatus : frame.transferStatus = 0

/-- The frame a byte string is accepted as, if it is. -/
def Shared.accepted (s : Shared) (data : List UInt8) : Option RtFrame :=
  (s.inputFrame data).filter frameIsAlive

/-- What `process_input_frame` takes for one of its frames. -/
theorem inputFrame_eq_some {s : Shared} {data : List UInt8} {frame : RtFrame} :
    s.inputFrame data = some frame ↔ 18 ≤ data.length ∧ (data.drop 6).take 6 = s.dstMac.1
      ∧ parseEthernetFrame data = some frame ∧ frame.frameId = s.inputIocr.frameId := by
  unfold Shared.inputFrame
  -- length, source address, frame and frame id, in the order of the tests
  by_cases hlen : data.length < 18
  · rw [if_pos hlen]
    constructor
    · intro h
      nomatch h
    · intro h
      omega
  rw [if_neg hlen]
  by_cases hmac : (data.drop 6).take 6 = s.dstMac.1
  · rw [if_neg (not_not_intro hmac)]
    cases hparse : parseEthernetFrame data with
    | none => simp
    | some f =>
      by_cases hid : f.frameId = s.inputIocr.frameId
      · simp only [ne_eq, hid, not_true_eq_false, if_false, Option.some.injEq]
        constructor
        · rintro rfl
          exact ⟨by omega, hmac, rfl, hid⟩
        · exact fun h => h.2.2.1
      · simp only [ne_eq, hid, not_false_eq_true, if_true, Option.some.injEq]
        constructor
        · intro h
          nomatch h
        · rintro ⟨-, -, rfl, h⟩
          exact absurd h hid
  · rw [if_pos hmac]
    constructor
    · intro h
      nomatch h
    · exact fun h => absurd h.2.1 hmac

/-- The code's filter and liveness test accept what the specification says. -/
theorem accepted_eq_some {s : Shared} {data : List UInt8} {frame : RtFrame} :
    s.accepted data = some frame ↔ Accepts s data frame := by
  rw [Shared.accepted, Option.filter_eq_some_iff, inputFrame_eq_some]
  simp only [frameIsAlive, Bool.and_eq_true, Bool.not_eq_true', beq_iff_eq]
  constructor
  · rintro ⟨⟨h1, h2, h3, h4⟩, ⟨⟨h5, h6⟩, h7⟩, h8⟩
    exact ⟨h1, h2, h3, h4, h5, h6, h7, h8⟩
  · rintro ⟨h1, h2, h3, h4, h5, h6, h7, h8⟩
    exact ⟨⟨h1, h2, h3, h4⟩, ⟨⟨h5, h6⟩, h7⟩, h8⟩

/-- Which frames are accepted depends on the device and the input IOCR only. -/
theorem accepted_congr {s t : Shared} (hmac : s.dstMac = t.dstMac)
    (hiocr : s.inputIocr = t.inputIocr) (data : List UInt8) :
    s.accepted data = t.accepted data := by
  unfold Shared.accepted Shared.inputFrame
  rw [hmac, hiocr]

/-- What a frame that is not accepted leaves alone. -/
structure LinkKept (s s' : Shared) : Prop where
  streak : s'.stats.consecutiveTimeouts = s.stats.consecutiveTimeouts
  lastReceiveTime : s'.stats.lastReceiveTime = s.stats.lastReceiveTime
  state : s'.state = s.state
  everFaulted : s'.everFaulted = s.everFaulted
  dstMac : s'.dstMac = s.dstMac
  inputIocr : s'.inputIocr = s.inputIocr
  limit : s'.maxConsecutiveTimeouts = s.maxConsecutiveTimeouts

/-- A frame that is not accepted keeps the link as it is. -/
theorem processInputFrame_kept (s : Shared) (now : Instant) {data : List UInt8}
    (h : s.accepted data = none) : LinkKept s (s.processInputFrame now data) := by
  cases hframe : s.inputFrame data with
  | none =>
    rw [s.processInputFrame_ignored hframe]
    exact ⟨rfl, rfl, rfl, rfl, rfl, rfl, rfl⟩
  | some frame =>
    have hdead : frameIsAlive frame = false := by
      simpa [Shared.accepted, hframe, Option.filter] using h
    obtain ⟨st, heq, ht, hc⟩ := s.processInputFrame_disowned hframe hdead now
    rw [heq]
    exact ⟨hc, ht, rfl, rfl, rfl, rfl, rfl⟩

/-! ## The timer behind the shared state

  One lemma for a frame and one for a timeout; whatever leaves the link's fields alone keeps the
  relation. -/

/-- The shared state as the strike timer sees it. -/
structure Watches (base s : Shared) (t : Timer) : Prop where
  dstMac : s.dstMac = base.dstMac
  inputIocr : s.inputIocr = base.inputIocr
  limit : s.maxConsecutiveTimeouts = base.maxConsecutiveTimeouts
  armedAt : s.stats.lastReceiveTime = t.armedAt
  strikes : s.stats.consecutiveTimeouts.toNat = t.strikes % 4294967296
  state : s.state = if 0 < base.maxConsecutiveTimeouts.toNat
      ∧ base.maxConsecutiveTimeouts.toNat ≤ t.strikes then .fault else .running
  latched : s.state = .fault → s.everFaulted = true

/-- A running state without timeouts is watched by a fresh timer. -/
theorem Watches.start {s : Shared} (hstate : s.state = .running)
    (hstreak : s.stats.consecutiveTimeouts = 0) :
    Watches s s ⟨s.stats.lastReceiveTime, 0⟩ where
  dstMac := rfl
  inputIocr := rfl
  limit := rfl
  armedAt := rfl
  strikes := by
    rw [hstreak]
    rfl
  state := by
    rw [hstate, if_neg]
    intro h
    have hle : s.maxConsecutiveTimeouts.toNat ≤ 0 := h.2
    omega
  latched := fun h => by
    rw [hstate] at h
    nomatch h

section Steps

variable {base s : Shared} {t : Timer}

/-- What keeps the link keeps the watch. -/
theorem Watches.kept (h : Watches base s t) {s' : Shared} (hk : LinkKept s s') :
    Watches base s' t where
  dstMac := hk.dstMac.trans h.dstMac
  inputIocr := hk.inputIocr.trans h.inputIocr
  limit := hk.limit.trans h.limit
  armedAt := hk.lastReceiveTime.trans h.armedAt
  strikes := by
    rw [hk.streak]
    exact h.strikes
  state := hk.state.trans h.state
  latched := by
    rw [hk.state, hk.everFaulted]
    exact h.latched

/-- **A received frame is a sign of life if it is accepted, and nothing otherwise.** -/
theorem Watches.frame (h : Watches base s t) (now : Instant) (data : List UInt8) :
    Watches base (s.processInputFrame now data)
      (t.sign ((base.accepted data).map fun _ => now)) := by
  have hacc := accepted_congr h.dstMac h.inputIocr data
  cases hb : base.accepted data with
  | none =>
    rw [hb] at hacc
    exact h.kept (processInputFrame_kept s now hacc)
  | some frame =>
    rw [hb] at hacc
    obtain ⟨hframe, halive⟩ := Option.filter_eq_some_iff.mp hacc
    obtain ⟨st, inputs, log, heq, ht, hc⟩ := s.processInputFrame_accepted hframe halive now
    rw [heq]
    have hzero : ¬ (0 < base.maxConsecutiveTimeouts.toNat
        ∧ base.maxConsecutiveTimeouts.toNat ≤ 0) := by omega
    -- in FAULT an accepted frame leads back, and no other state is left in a watched run
    have hrun : (if s.state = .fault then .running else s.state) = CyclicState.running := by
      by_cases hf : s.state = .fault
      · exact if_pos hf
      · rw [if_neg hf]
        have hs := h.state
        by_cases hc : 0 < base.maxConsecutiveTimeouts.toNat
            ∧ base.maxConsecutiveTimeouts.toNat ≤ t.strikes
        · rw [if_pos hc] at hs
          exact absurd hs hf
        · rwa [if_neg hc] at hs
    refine ⟨h.dstMac, h.inputIocr, h.limit, ht, ?_, ?_, ?_⟩
    · show st.consecutiveTimeouts.toNat = 0 % 4294967296
      rw [hc]
      rfl
    · show (if s.state = .fault then .running else s.state) = if _ then _ else _
      rw [hrun]
      exact (if_neg hzero).symm
    · intro hf
      have hf' : (if s.state = .fault then .running else s.state) = CyclicState.fault := hf
      rw [hrun] at hf'
      nomatch hf'

/-- The limit is reached by this strike exactly when the code escalates, from RUNNING. -/
theorem Watches.escalates_iff (h : Watches base s t) :
    s.escalates = true ↔ (0 < base.maxConsecutiveTimeouts.toNat
      ∧ base.maxConsecutiveTimeouts.toNat ≤ t.strikes + 1) ∧ s.state = .running := by
  have hmax := base.maxConsecutiveTimeouts.toNat_lt
  have hlt : base.maxConsecutiveTimeouts > 0 ↔ 0 < base.maxConsecutiveTimeouts.toNat :=
    UInt32.lt_iff_toNat_lt
  unfold Shared.escalates
  rw [h.limit]
  simp only [Bool.and_eq_true, decide_eq_true_eq, ge_iff_le]
  constructor
  · rintro ⟨⟨h1, h2⟩, h3⟩
    rw [UInt32.le_iff_toNat_le, UInt32.toNat_add, h.strikes] at h2
    refine ⟨⟨hlt.mp h1, ?_⟩, h3⟩
    have hone : (1 : UInt32).toNat = 1 := rfl
    rw [hone] at h2
    omega
  · rintro ⟨⟨h1, h2⟩, h3⟩
    refine ⟨⟨hlt.mpr h1, ?_⟩, h3⟩
    -- in RUNNING the strikes are below the limit, so the counter has not wrapped
    have hbelow : t.strikes < base.maxConsecutiveTimeouts.toNat := by
      by_contra hge
      have hs := h.state
      rw [if_pos ⟨h1, by omega⟩, h3] at hs
      nomatch hs
    rw [UInt32.le_iff_toNat_le, UInt32.toNat_add, h.strikes]
    have hone : (1 : UInt32).toNat = 1 := rfl
    rw [hone]
    omega

/-- **A watchdog timeout is a strike**, whenever the timer is armed again. -/
theorem Watches.timeout (h : Watches base s t) (later : Instant) :
    Watches base (s.handleWatchdogTimeout.rearm later) (t.strike later) := by
  obtain ⟨log, heq⟩ := s.handleWatchdogTimeout_eq
  rw [heq]
  refine ⟨h.dstMac, h.inputIocr, h.limit, rfl, ?_, ?_, ?_⟩
  · show (s.stats.consecutiveTimeouts + 1).toNat = (t.strikes + 1) % 4294967296
    have hone : (1 : UInt32).toNat = 1 := rfl
    rw [UInt32.toNat_add, h.strikes, hone]
    omega
  · show (if s.escalates = true then .fault else s.state) = if _ then _ else _
    have hs := h.state
    show _ = if 0 < base.maxConsecutiveTimeouts.toNat
      ∧ base.maxConsecutiveTimeouts.toNat ≤ t.strikes + 1 then CyclicState.fault else .running
    by_cases hesc : s.escalates = true
    · rw [if_pos hesc, if_pos (h.escalates_iff.mp hesc).1]
    · rw [if_neg hesc]
      by_cases hlim : 0 < base.maxConsecutiveTimeouts.toNat
          ∧ base.maxConsecutiveTimeouts.toNat ≤ t.strikes + 1
      · rw [if_pos hlim]
        -- not escalating at the limit, the state is not RUNNING: it is FAULT already
        by_cases hold : 0 < base.maxConsecutiveTimeouts.toNat
            ∧ base.maxConsecutiveTimeouts.toNat ≤ t.strikes
        · rwa [if_pos hold] at hs
        · rw [if_neg hold] at hs
          exact absurd (h.escalates_iff.mpr ⟨hlim, hs⟩) hesc
      · rw [if_neg hlim]
        rwa [if_neg (fun hold => hlim ⟨hold.1, by omega⟩)] at hs
  · intro hf
    have hf' : (if s.escalates = true then .fault else s.state) = CyclicState.fault := hf
    show (s.everFaulted || s.escalates) = true
    by_cases hesc : s.escalates = true
    · rw [hesc, Bool.or_true]
    · rw [if_neg hesc] at hf'
      rw [h.latched hf', Bool.true_or]

end Steps

/-! ## Any sequence of frames and timeouts

  From the relation, and from what the library says of a timer over any sequence of passes. -/

/-- What reaches the receive path: a byte string, or a timeout (after which the loop, but not a
    caller of `handle_watchdog_timeout`, re-arms the timer). -/
inductive LinkEvent
  | frame (now : Instant) (data : List UInt8)
  | timeout (rearmAt : Option Instant)

namespace LinkEvent

/-- One event on the shared state. -/
def apply (s : Shared) : LinkEvent → Shared
  | .frame now data => s.processInputFrame now data
  | .timeout none => s.handleWatchdogTimeout
  | .timeout (some later) => s.handleWatchdogTimeout.rearm later

/-- Is it an accepted frame? -/
def isAccepted (base : Shared) : LinkEvent → Bool
  | .frame _ data => (base.accepted data).isSome
  | .timeout _ => false

/-- Is it a timeout? -/
def isTimeout : LinkEvent → Bool
  | .frame .. => false
  | .timeout _ => true

end LinkEvent

/-- Events, one after the other. -/
def runLink (s : Shared) (es : List LinkEvent) : Shared := es.foldl LinkEvent.apply s

/-- The number of timeouts since the last accepted frame. -/
def streak (base : Shared) (es : List LinkEvent) : Nat :=
  (es.reverse.takeWhile fun e => !e.isAccepted base).countP LinkEvent.isTimeout

/-- The streak after one more event. -/
theorem streak_snoc (base : Shared) (es : List LinkEvent) (e : LinkEvent) :
    streak base (es ++ [e])
      = if e.isAccepted base then 0 else streak base es + if e.isTimeout then 1 else 0 := by
  unfold streak
  rw [List.reverse_append, List.reverse_singleton, List.singleton_append, List.takeWhile_cons]
  by_cases h : e.isAccepted base = true
  · simp [h]
  · simp [h, List.countP_cons]

/-- A timeout that does not re-arm leaves the timer's instant. -/
theorem handleWatchdogTimeout_rearm_same (s : Shared) :
    s.handleWatchdogTimeout.rearm s.stats.lastReceiveTime = s.handleWatchdogTimeout := by
  obtain ⟨log, heq⟩ := s.handleWatchdogTimeout_eq
  rw [heq]
  rfl

/-- Every event is followed by the timer. -/
theorem Watches.apply {base s : Shared} {t : Timer} (h : Watches base s t) (e : LinkEvent) :
    ∃ armed, Watches base (e.apply s)
      ⟨armed, if e.isAccepted base then 0 else t.strikes + if e.isTimeout then 1 else 0⟩ := by
  cases e with
  | frame now data =>
    have hf := h.frame now data
    cases hb : base.accepted data with
    | none =>
      rw [hb] at hf
      refine ⟨t.armedAt, ?_⟩
      rw [if_neg (by simp [LinkEvent.isAccepted, hb])]
      exact hf
    | some frame =>
      rw [hb] at hf
      refine ⟨now, ?_⟩
      rw [if_pos (by simp [LinkEvent.isAccepted, hb])]
      exact hf
  | timeout rearmAt =>
    cases rearmAt with
    | none =>
      have ht := h.timeout s.stats.lastReceiveTime
      rw [handleWatchdogTimeout_rearm_same] at ht
      exact ⟨s.stats.lastReceiveTime, ht⟩
    | some later => exact ⟨later, h.timeout later⟩

/-- The shared state follows the streak through every sequence of events. -/
theorem watches_run {s : Shared} (hstate : s.state = .running)
    (hstreak : s.stats.consecutiveTimeouts = 0) (es : List LinkEvent) :
    ∃ armed, Watches s (runLink s es) ⟨armed, streak s es⟩ := by
  induction es using List.reverseRecOn with
  | nil => exact ⟨_, Watches.start hstate hstreak⟩
  | append_singleton es e ih =>
    obtain ⟨armed, h⟩ := ih
    rw [runLink, List.foldl_append, streak_snoc]
    exact h.apply e

/-- A latched fault stays latched. -/
theorem everFaulted_runLink {s : Shared} (h : s.everFaulted = true) (es : List LinkEvent) :
    (runLink s es).everFaulted = true := by
  induction es generalizing s with
  | nil => exact h
  | cons e es ih =>
    -- no event takes the latch back
    refine ih ?_
    have htimeout : ∀ later, (s.handleWatchdogTimeout.rearm later).everFaulted = true := by
      intro later
      obtain ⟨log, heq⟩ := s.handleWatchdogTimeout_eq
      rw [heq]
      show (s.everFaulted || s.escalates) = true
      rw [h, Bool.true_or]
    cases e with
    | frame now data =>
      cases hacc : s.accepted data with
      | none => exact (processInputFrame_kept s now hacc).everFaulted.trans h
      | some frame =>
        obtain ⟨hframe, halive⟩ := Option.filter_eq_some_iff.mp hacc
        obtain ⟨st, inputs, log, heq, -⟩ := s.processInputFrame_accepted hframe halive now
        show (s.processInputFrame now data).everFaulted = true
        rw [heq]
        exact h
    | timeout rearmAt =>
      cases rearmAt with
      | none =>
        have ht := htimeout s.stats.lastReceiveTime
        rwa [handleWatchdogTimeout_rearm_same] at ht
      | some later => exact htimeout later

/-- **Watchdog escalation and recovery.**  From RUNNING with no streak, after any sequence of
    byte strings and timeouts: the counter is the streak modulo 2^32, the state is FAULT exactly
    when the streak has reached an enabled limit, frames that are not accepted change nothing
    the watchdog looks at, and a fault once entered is reported ever after. -/
theorem escalation_and_recovery (s : Shared) (hstate : s.state = .running)
    (hstreak : s.stats.consecutiveTimeouts = 0) (es : List LinkEvent) :
    (runLink s es).stats.consecutiveTimeouts.toNat = streak s es % 4294967296
      ∧ ((runLink s es).state = .fault ↔ 0 < s.maxConsecutiveTimeouts.toNat
          ∧ s.maxConsecutiveTimeouts.toNat ≤ streak s es)
      ∧ ((runLink s es).state = .running ∨ (runLink s es).state = .fault)
      ∧ (∀ now data, (∀ frame, ¬ Accepts s data frame) →
          let t := (runLink s es).processInputFrame now data
          t.stats.consecutiveTimeouts = (runLink s es).stats.consecutiveTimeouts
            ∧ t.stats.lastReceiveTime = (runLink s es).stats.lastReceiveTime
            ∧ t.state = (runLink s es).state)
      ∧ ((runLink s es).state = .fault → ∀ later : List LinkEvent,
          let t := runLink s (es ++ later)
          cyclicAbortReason t.state t.everFaulted = some "cyclic_fault") := by
  obtain ⟨armed, h⟩ := watches_run hstate hstreak es
  have hs := h.state
  -- the counter, the escalation and the states come from the timer beside the run
  refine ⟨h.strikes, ?_, ?_, ?_, ?_⟩
  · by_cases hlim : 0 < s.maxConsecutiveTimeouts.toNat
        ∧ s.maxConsecutiveTimeouts.toNat ≤ streak s es
    · rw [if_pos hlim] at hs
      exact iff_of_true hs hlim
    · rw [if_neg hlim] at hs
      refine iff_of_false (fun hf => ?_) hlim
      rw [hs] at hf
      nomatch hf
  · by_cases hlim : 0 < s.maxConsecutiveTimeouts.toNat
        ∧ s.maxConsecutiveTimeouts.toNat ≤ streak s es
    · rw [if_pos hlim] at hs
      exact .inr hs
    · rw [if_neg hlim] at hs
      exact .inl hs
  -- what is not accepted touches neither counter, time nor state
  · intro now data hnot
    have hnone : (runLink s es).accepted data = none := by
      rw [accepted_congr h.dstMac h.inputIocr]
      cases hacc : s.accepted data with
      | none => rfl
      | some frame => exact absurd (accepted_eq_some.mp hacc) (hnot frame)
    have hk := processInputFrame_kept (runLink s es) now hnone
    exact ⟨hk.streak, hk.lastReceiveTime, hk.state⟩
  -- the latch outlives the recovery, and the abort reason asks for the latch
  · intro hf later
    have hlatched := everFaulted_runLink (h.latched hf) later
    show cyclicAbortReason (runLink s (es ++ later)).state (runLink s (es ++ later)).everFaulted = _
    rw [runLink, List.foldl_append]
    show cyclicAbortReason _ (runLink (runLink s es) later).everFaulted = _
    rw [hlatched]
    rfl

/-- Three timeouts and a frame: FAULT, RUNNING again, and still reported. -/
theorem escalation_and_recovery_bench :
    (runLink benchRunning [.timeout none, .timeout none, .timeout none]).state = .fault
      ∧ cyclicAbortReason
          (runLink benchRunning [.timeout none, .timeout none, .timeout none,
            .frame 9 benchFrame]).state
          (runLink benchRunning [.timeout none, .timeout none, .timeout none,
            .frame 9 benchFrame]).everFaulted = some "cyclic_fault" := by
  obtain ⟨-, hfault, -, -, hlatched⟩ := escalation_and_recovery benchRunning (by decide)
    (by decide) [.timeout none, .timeout none, .timeout none]
  have hf := hfault.mpr (by decide)
  exact ⟨hf, hlatched hf [.frame 9 benchFrame]⟩

/-- The counter is a `u32`: 2^32 timeouts on end bring it back to zero. -/
theorem consecutive_timeouts_wraps :
    ¬ ∀ (s : Shared) (es : List LinkEvent), s.state = .running →
        s.stats.consecutiveTimeouts = 0 →
        (runLink s es).stats.consecutiveTimeouts.toNat = streak s es := by
  intro hall
  have hstreak : ∀ n, streak benchRunning (List.replicate n (.timeout none)) = n := by
    intro n
    induction n with
    | zero => rfl
    | succ n ih =>
      rw [List.replicate_succ', streak_snoc, ih]
      rfl
  obtain ⟨armed, h⟩ := watches_run (s := benchRunning) (by decide) (by decide)
    (List.replicate 4294967296 (.timeout none))
  have hcount := h.strikes
  rw [hall benchRunning (List.replicate 4294967296 (.timeout none)) (by decide) (by decide),
    hstreak] at hcount
  omega

/-! ## The receive loop and its clock

  A pass of the loop is a pass of the timer: its frame, if accepted, is the sign of life, and its
  check is the poll. -/

/-- One pass of `rx_loop`: the frame it received, if any, handled at an instant; the instant of
    the check; and the instant the timer is re-armed at, which is read after a timeout only. -/
structure RxPass where
  received : Option (Instant × List UInt8)
  check : Instant
  later : Instant

namespace RxPass

/-- The frame of the pass, if one came. -/
def receive (s : Shared) (p : RxPass) : Shared :=
  match p.received with
  | some (now, data) => s.processInputFrame now data
  | none => s

/-- The whole pass: the frame, then the watchdog. -/
def run (w : Nat) (s : Shared) (p : RxPass) : Shared :=
  (p.receive s).checkReceiveWatchdog w p.check p.later

/-- When the pass accepted a frame. -/
def acceptedAt (base : Shared) (p : RxPass) : Option Instant :=
  p.received.bind fun (now, data) => (base.accepted data).map fun _ => now

/-- The pass as the strike timer sees it. -/
def timed (base : Shared) (p : RxPass) : Pass := ⟨p.acceptedAt base, p.check, p.later⟩

end RxPass

/-- `rx_loop` from its start, through the passes made so far. -/
def rxLoop (s : Shared) (start : Instant) (passes : List RxPass) : Shared :=
  passes.foldl (RxPass.run s.watchdog) (s.rearm start)

/-- The last accepted frame of the passes, or the start of the loop. -/
def lastAccepted (base : Shared) (start : Instant) (passes : List RxPass) : Instant :=
  passes.foldl (fun a p => (p.acceptedAt base).getD a) start

/-- The clock of the loop is monotone: every reading of a pass is at or after the one before. -/
def ClockMonotone (start : Instant) (passes : List RxPass) : Prop :=
  (start :: passes.flatMap fun p => (p.received.map Prod.fst).toList ++ [p.check, p.later]).Pairwise
    (· ≤ ·)

/-- Consecutive checks are at most `D` apart, the start of the loop being the zeroth. -/
def ChecksApart (D : Nat) (start : Instant) (passes : List RxPass) : Prop :=
  (start :: passes.map RxPass.check).IsChain fun a b => b ≤ a + D

section Loop

variable {base s : Shared} {t : Timer}

/-- A received frame is a sign of life for the timer, where it is accepted. -/
theorem Watches.receive (h : Watches base s t) (p : RxPass) :
    Watches base (p.receive s) (t.sign (p.acceptedAt base)) := by
  unfold RxPass.receive RxPass.acceptedAt
  cases p.received with
  | none => exact h
  | some r => exact h.frame r.1 r.2

/-- The check of a pass is the check of the timer. -/
theorem Watches.check (h : Watches base s t) (w : Nat) (now later : Instant) :
    Watches base (s.checkReceiveWatchdog w now later) (t.check w now later) := by
  unfold Shared.checkReceiveWatchdog Timer.check
  rw [h.armedAt]
  by_cases hexp : now - t.armedAt > w
  · rw [if_pos hexp, if_pos hexp]
    exact h.timeout later
  · rw [if_neg hexp, if_neg hexp]
    exact h

/-- Passes are followed by the timer. -/
theorem Watches.passes (h : Watches base s t) (w : Nat) (passes : List RxPass) :
    Watches base (passes.foldl (RxPass.run w) s) (t.run w (passes.map (RxPass.timed base))) := by
  induction passes generalizing s t with
  | nil => exact h
  | cons p ps ih => exact ih ((h.receive p).check w p.check p.later)

end Loop

/-- **The receive loop is the strike timer** of its accepted frames and checks. -/
theorem watches_rxLoop {s : Shared} (hstate : s.state = .running)
    (hstreak : s.stats.consecutiveTimeouts = 0) (start : Instant) (passes : List RxPass) :
    Watches s (rxLoop s start passes)
      ((⟨start, 0⟩ : Timer).run s.watchdog (passes.map (RxPass.timed s))) := by
  have hbase := Watches.start hstate hstreak
  have harmed : Watches s (s.rearm start) ⟨start, 0⟩ :=
    ⟨rfl, rfl, rfl, rfl, hbase.strikes, hbase.state, hbase.latched⟩
  exact harmed.passes s.watchdog passes

/-- The timer's last sign of life is the last accepted frame. -/
theorem lastAlive_timed (base : Shared) (start : Instant) (passes : List RxPass) :
    lastAlive start (passes.map (RxPass.timed base)) = lastAccepted base start passes := by
  rw [lastAlive, List.foldl_map]
  rfl

/-- The timer's clock goes forward with the passes'. -/
theorem clock_timed (base : Shared) {start : Instant} {passes : List RxPass}
    (h : ClockMonotone start passes) : Clock start (passes.map (RxPass.timed base)) := by
  induction passes generalizing start with
  | nil => trivial
  | cons p ps ih =>
    unfold ClockMonotone at h
    rw [List.flatMap_cons, List.append_assoc, List.pairwise_cons, List.pairwise_append] at h
    obtain ⟨hstart, -, hrest, hbefore⟩ := h
    have hcheck : start ≤ p.check := hstart _ (by simp)
    have hlater : p.check ≤ p.later := by
      rw [List.cons_append, List.pairwise_cons] at hrest
      exact hrest.1 _ (by simp)
    refine ⟨?_, hcheck, hlater, ih ?_⟩
    · intro x hx
      obtain ⟨r, hr, hx'⟩ := Option.bind_eq_some_iff.mp hx
      obtain ⟨-, -, rfl⟩ := Option.map_eq_some_iff.mp hx'
      have hmem : r.1 ∈ (p.received.map Prod.fst).toList := by simp [hr]
      exact ⟨hstart _ (List.mem_append_left _ hmem), hbefore _ hmem p.check (by simp)⟩
    · rw [List.cons_append, List.pairwise_cons] at hrest
      exact hrest.2

/-- The timer's polls are as close as the passes' checks. -/
theorem gaps_timed (base : Shared) {D : Nat} {start : Instant} {passes : List RxPass}
    (h : ChecksApart D start passes) : Gaps D start (passes.map (RxPass.timed base)) := by
  induction passes generalizing start with
  | nil => trivial
  | cons p ps ih =>
    have hc : p.check ≤ start + D ∧ (p.check :: ps.map RxPass.check).IsChain
        fun a b => b ≤ a + D := List.isChain_cons_cons.mp h
    exact ⟨hc.1, ih hc.2⟩

/-- **Watchdog timing.**  In every run of the receive loop from RUNNING with an enabled limit
    `K`, whatever frames its passes receive, with `W` the watchdog period: a check that moves the
    state from RUNNING to FAULT comes more than `K * W` after the last accepted frame (or the
    start of the loop); and when checks are at most `D` apart, a check that leaves the state
    RUNNING comes at most `K * (W + 2 * D)` after it. -/
theorem watchdog_timing (s : Shared) (start : Instant) (before : List RxPass) (p : RxPass)
    (hstate : s.state = .running) (hstreak : s.stats.consecutiveTimeouts = 0)
    (hlimit : 0 < s.maxConsecutiveTimeouts.toNat) (hclock : ClockMonotone start (before ++ [p])) :
    let W := s.inputIocr.watchdogTimeUs * 1000
    let K := s.maxConsecutiveTimeouts.toNat
    let alive := lastAccepted s start (before ++ [p])
    ((p.receive (rxLoop s start before)).state = .running →
      (rxLoop s start (before ++ [p])).state = .fault → alive + K * W < p.check)
    ∧ (∀ D, ChecksApart D start (before ++ [p]) →
      (rxLoop s start (before ++ [p])).state = .running → p.check ≤ alive + K * (W + 2 * D)) := by
  intro W K alive
  have hpre := (watches_rxLoop hstate hstreak start before).receive p
  have hpost := watches_rxLoop hstate hstreak start (before ++ [p])
  have halive : alive = lastAlive start ((before ++ [p]).map (RxPass.timed s)) :=
    (lastAlive_timed s start _).symm
  have hclock' := clock_timed s hclock
  -- with the limit enabled, FAULT is the limit reached
  have hfault : ∀ n : Nat, (if 0 < K ∧ K ≤ n then CyclicState.fault else .running) = .fault
      ↔ K ≤ n := by
    intro n
    by_cases hn : K ≤ n
    · simp [hn, K, hlimit]
    · simp [hn]
  constructor
  · intro hrunning hdead
    have hbelow : ¬ K ≤ _ := fun hle => by
      have hs := hpre.state
      rw [(hfault _).mpr hle, hrunning] at hs
      nomatch hs
    have hreached := (hfault _).mp (hpost.state.symm.trans hdead)
    rw [List.map_append] at hclock' hreached halive
    have hsplit : (⟨start, 0⟩ : Timer).run s.watchdog
        (before.map (RxPass.timed s) ++ [p].map (RxPass.timed s))
          = (((⟨start, 0⟩ : Timer).run s.watchdog (before.map (RxPass.timed s))).sign
              (p.acceptedAt s)).check s.watchdog p.check p.later := by
      rw [Timer.run, List.foldl_append]
      rfl
    rw [hsplit] at hreached
    -- the strikes went over the limit in this check: it found the deadline passed
    unfold Timer.check at hreached
    by_cases hexp : p.check - (((⟨start, 0⟩ : Timer).run s.watchdog
        (before.map (RxPass.timed s))).sign (p.acceptedAt s)).armedAt > s.watchdog
    · rw [if_pos hexp] at hreached
      have hearly := no_early hclock' hexp
      rw [← List.map_singleton, ← halive] at hearly
      have hmul : K * W ≤ ((((⟨start, 0⟩ : Timer).run s.watchdog
          (before.map (RxPass.timed s))).sign (p.acceptedAt s)).strikes + 1) * s.watchdog :=
        Nat.mul_le_mul_right _ hreached
      exact Nat.lt_of_le_of_lt (Nat.add_le_add_left hmul _) hearly
    · rw [if_neg hexp] at hreached
      exact absurd hreached hbelow
  · intro D hgaps hrunning
    have hbelow : ¬ K ≤ _ := fun hle => by
      have hs := hpost.state
      rw [(hfault _).mpr hle, hrunning] at hs
      nomatch hs
    have hgaps' := gaps_timed s hgaps
    rw [List.map_append] at hclock' hgaps' hbelow halive
    have hlate := no_late (w := s.watchdog) hclock' hgaps'
    rw [← List.map_singleton, ← halive] at hlate
    refine Nat.le_trans hlate (Nat.add_le_add_left (Nat.mul_le_mul_right _ ?_) _)
    rw [List.map_singleton] at hbelow ⊢
    omega

/-- A frame at 1 ms and then silence: with a period of 3 ms the third strike comes at 12 ms. -/
theorem watchdog_timing_bench :
    lastAccepted benchRunning 0 [⟨some (1000000, benchFrame), 1000000, 1000000⟩,
        ⟨none, 4500000, 4500000⟩, ⟨none, 8000000, 8000000⟩, ⟨none, 12000000, 12000000⟩]
        + 3 * 3000000 < 12000000
      ∧ 8000000 ≤ lastAccepted benchRunning 0 [⟨some (1000000, benchFrame), 1000000, 1000000⟩,
          ⟨none, 4500000, 4500000⟩, ⟨none, 8000000, 8000000⟩] + 3 * (3000000 + 2 * 4000000) := by
  constructor
  · exact (watchdog_timing benchRunning 0 [⟨some (1000000, benchFrame), 1000000, 1000000⟩,
      ⟨none, 4500000, 4500000⟩, ⟨none, 8000000, 8000000⟩] ⟨none, 12000000, 12000000⟩ (by decide)
      (by decide) (by decide) (by simp [ClockMonotone])).1 (by decide) (by decide)
  · exact (watchdog_timing benchRunning 0 [⟨some (1000000, benchFrame), 1000000, 1000000⟩,
      ⟨none, 4500000, 4500000⟩] ⟨none, 8000000, 8000000⟩ (by decide) (by decide) (by decide)
      (by simp [ClockMonotone])).2 4000000 (by simp [ChecksApart]) (by decide)

end Profinet.Cyclic
