/-
  CYCLIC: the RT_CLASS_1 controller of one application relation (`CyclicController`).

  The controller keeps its state behind one lock per concern and never holds two of them across
  a call, so a method is a sequence of lock sections.  Every section is a function on `Shared`
  of its own, and a method is their composition:

      processInputFrame     receiveStats, transition, trackCycleCounter, countInvalid or
                            acknowledge and storeInputs
      handleWatchdogTimeout countTimeout, disown, transition
      checkReceiveWatchdog  the elapsed time, handleWatchdogTimeout, rearm
      nextOutputFrame       advanceCounter, commit
      applySafeOutput, setOutputData, start

  The threads take the same sections one at a time (`Threads`), so both views read the same
  definitions.

  An `Instant` is a number of nanoseconds and a method is given the clock readings it makes.
  The `u64` counters are `Nat`; `consecutive_timeouts` is the `u32` of the source.  A callback
  has no result, so a call is an entry in `fired` if a handler is registered.
-/
import Profinet.RtBuilder

namespace Profinet.Cyclic

open Wire Util Rt

/-! ## State machine -/

/-- State machine for the cyclic controller (`CyclicState`). -/
inductive CyclicState
  /-- Initial state, not yet started. -/
  | idle
  /-- Sockets created, threads launching. -/
  | starting
  /-- Active cyclic data exchange. -/
  | running
  /-- Graceful shutdown in progress. -/
  | stopping
  /-- Fully stopped, threads joined. -/
  | stopped
  /-- Communication failure. -/
  | fault
  deriving DecidableEq, Repr

/-- States in which the output image must not be written any more. -/
def outputWritesLocked : CyclicState → Bool
  | .stopping | .fault | .stopped => true
  | _ => false

/-- `as_str`: the name of a state. -/
def CyclicState.asStr : CyclicState → String
  | .idle => "idle"
  | .starting => "starting"
  | .running => "running"
  | .stopping => "stopping"
  | .stopped => "stopped"
  | .fault => "fault"

/-- States from which `start` is permitted. -/
def CyclicState.startable : CyclicState → Bool
  | .idle | .stopped | .fault => true
  | _ => false

/-- Default number of consecutive watchdog timeouts before FAULT. -/
def defaultMaxConsecutiveTimeouts : UInt32 := 3

/-- Number of STOP frames to send during graceful shutdown. -/
def stopFrameCount : Nat := 3

/-! ## Shared data -/

/-- A clock reading, in nanoseconds. -/
abbrev Instant := Nat

/-- `Duration::as_micros` of the time from `a` to `b`. -/
def microsBetween (a b : Instant) : Nat := (b - a) / 1000

/-- `u64::abs_diff`. -/
def absDiff (a b : Nat) : Nat := if a ≤ b then b - a else a - b

/-- Statistics for cyclic communication (`CyclicStats`). -/
structure CyclicStats where
  framesSent : Nat
  framesReceived : Nat
  framesMissed : Nat
  framesInvalid : Nat
  framesDuplicate : Nat
  framesOutOfOrder : Nat
  lastCycleTimeUs : Nat
  maxJitterUs : Nat
  minCycleTimeUs : Nat
  maxCycleTimeUs : Nat
  lastRxIntervalUs : Nat
  maxRxJitterUs : Nat
  minRxIntervalUs : Nat
  maxRxIntervalUs : Nat
  rxIntervalSumUs : Nat
  rxIntervalCount : Nat
  /-- When the receive watchdog was last satisfied or re-armed. -/
  lastReceiveTime : Instant
  /-- Arrival of the last accepted frame. -/
  lastAcceptedTime : Option Instant
  intervalDisturbed : Bool
  /-- Current streak of consecutive watchdog timeouts. -/
  consecutiveTimeouts : UInt32
  cycleTimeSumUs : Nat
  cycleCount : Nat
  deriving DecidableEq, Repr

/-- `CyclicStats::new`, at the instant it reads. -/
def CyclicStats.new (now : Instant) : CyclicStats where
  framesSent := 0
  framesReceived := 0
  framesMissed := 0
  framesInvalid := 0
  framesDuplicate := 0
  framesOutOfOrder := 0
  lastCycleTimeUs := 0
  maxJitterUs := 0
  minCycleTimeUs := 2147483648
  maxCycleTimeUs := 0
  lastRxIntervalUs := 0
  maxRxJitterUs := 0
  minRxIntervalUs := 2147483648
  maxRxIntervalUs := 0
  rxIntervalSumUs := 0
  rxIntervalCount := 0
  lastReceiveTime := now
  lastAcceptedTime := none
  intervalDisturbed := false
  consecutiveTimeouts := 0
  cycleTimeSumUs := 0
  cycleCount := 0

namespace CyclicStats

/-- The interval between an accepted frame and the one before it. -/
def addInterval (st : CyclicStats) (intervalUs targetUs : Nat) : CyclicStats :=
  let st := { st with
    lastRxIntervalUs := intervalUs
    maxRxIntervalUs := max st.maxRxIntervalUs intervalUs }
  if st.intervalDisturbed then st
  else
    { st with
      maxRxJitterUs := max st.maxRxJitterUs (absDiff intervalUs targetUs)
      minRxIntervalUs := min st.minRxIntervalUs intervalUs
      rxIntervalSumUs := st.rxIntervalSumUs + intervalUs
      rxIntervalCount := st.rxIntervalCount + 1 }

/-- The bookkeeping of a received frame: only an accepted one is liveness. -/
def receive (st : CyclicStats) (now : Instant) (targetUs : Nat) (valid : Bool) : CyclicStats :=
  let st := { st with framesReceived := st.framesReceived + 1 }
  if valid then
    let st := match st.lastAcceptedTime with
      | some previous => st.addInterval (microsBetween previous now) targetUs
      | none => st
    { st with
      lastAcceptedTime := some now
      lastReceiveTime := now
      consecutiveTimeouts := 0
      intervalDisturbed := false }
  else { st with intervalDisturbed := true }

/-- The bookkeeping of a watchdog timeout. -/
def countTimeout (st : CyclicStats) : CyclicStats :=
  { st with
    framesMissed := st.framesMissed + 1
    consecutiveTimeouts := st.consecutiveTimeouts + 1
    intervalDisturbed := true }

/-- The bookkeeping of a received cycle counter that has a predecessor. -/
def trackCounter (st : CyclicStats) (prev rxCounter : UInt16) (step : UInt32) : CyclicStats :=
  let expected := ((prev.toUInt32 + step) &&& 0xFFFF).toUInt16
  if rxCounter = prev then { st with framesDuplicate := st.framesDuplicate + 1 }
  else if rxCounter ≠ expected then
    -- forward distance handles the 16-bit wrap
    let forward := (rxCounter - prev).toNat
    if forward > 0x8000 then { st with framesOutOfOrder := st.framesOutOfOrder + 1 }
    else
      let gap := if step = 0 then 0 else forward / step.toNat - 1
      { st with framesMissed := st.framesMissed + gap }
  else st

/-- The bookkeeping of a transmission that is not the first. -/
def addCycle (st : CyclicStats) (actualUs cycleTimeUs : Nat) : CyclicStats :=
  { st with
    lastCycleTimeUs := actualUs
    maxJitterUs := max st.maxJitterUs (absDiff actualUs cycleTimeUs)
    minCycleTimeUs := min st.minCycleTimeUs actualUs
    maxCycleTimeUs := max st.maxCycleTimeUs actualUs
    cycleTimeSumUs := st.cycleTimeSumUs + actualUs
    cycleCount := st.cycleCount + 1 }

end CyclicStats

/-- Latest input payload of a submodule with the provider status sent alongside it
    (`InputEntry`). -/
structure InputEntry where
  data : List UInt8
  iops : UInt8
  deriving DecidableEq, Repr

/-- DataState of a received IOPS byte. -/
def iopsGood (iops : UInt8) : Bool := iops &&& ioxsDataStateGood != 0

/-- Is the provider status GOOD? -/
def InputEntry.isGood (e : InputEntry) : Bool := iopsGood e.iops

/-- A call into a handler, with its arguments. -/
inductive CallbackEvent
  | inputData (slot subslot : UInt16) (data : List UInt8)
  | inputStatus (slot subslot : UInt16) (iops : UInt8)
  | timeout
  | error (message : String)
  | stateChange (old new : CyclicState)
  deriving DecidableEq, Repr

/-- Which handlers are registered (`Callbacks`). -/
structure Callbacks where
  onInputData : Bool
  onInputStatus : Bool
  onTimeout : Bool
  onError : Bool
  onStateChange : Bool
  deriving DecidableEq, Repr

/-- Does the application listen to the event? -/
def Callbacks.handles (c : Callbacks) : CallbackEvent → Bool
  | .inputData .. => c.onInputData
  | .inputStatus .. => c.onInputStatus
  | .timeout => c.onTimeout
  | .error _ => c.onError
  | .stateChange .. => c.onStateChange

/-- Whether a frame is evidence that the link is delivering usable data (`frame_is_alive`). -/
def frameIsAlive (frame : RtFrame) : Bool :=
  frame.isValid && frame.isRunning && !frame.isIgnored && frame.transferStatus == 0

/-- State shared between the controller handle and the TX/RX threads (`Shared`). -/
structure Shared where
  srcMac : Mac
  dstMac : Mac
  inputIocr : IocrConfig
  outputIocr : IocrConfig
  maxConsecutiveTimeouts : UInt32
  state : CyclicState
  running : Bool
  /-- Whether the link has ever been declared dead during this run. -/
  everFaulted : Bool
  cycleCounter : UInt16
  outputBuilder : OutputBuilder
  inputData : UInt16 × UInt16 → Option InputEntry
  lastRxCycleCounter : Option UInt16
  rxCounterStep : UInt32
  txCounterStep : UInt32
  callbacks : Callbacks
  stats : CyclicStats
  /-- Safe output image (slot, subslot, data) applied by every stop path. -/
  safeOutput : Option (UInt16 × UInt16 × List UInt8)
  /-- The calls made into registered handlers, oldest first. -/
  fired : List CallbackEvent

namespace Shared

/-- The shared state of a new controller: IDLE, and all IOPS good. -/
def fresh (srcMac dstMac : Mac) (inputIocr outputIocr : IocrConfig) (fits : outputIocr.Fits)
    (maxConsecutiveTimeouts : UInt32) (now : Instant) : Shared where
  srcMac := srcMac
  dstMac := dstMac
  inputIocr := inputIocr
  outputIocr := outputIocr
  maxConsecutiveTimeouts := maxConsecutiveTimeouts
  state := .idle
  running := false
  everFaulted := false
  cycleCounter := 0
  outputBuilder := OutputBuilder.new outputIocr fits
  inputData := fun _ => none
  lastRxCycleCounter := none
  rxCounterStep := inputIocr.sendClockFactor.toUInt32 * inputIocr.reductionRatio.toUInt32
  txCounterStep := outputIocr.sendClockFactor.toUInt32 * outputIocr.reductionRatio.toUInt32
  callbacks := ⟨false, false, false, false, false⟩
  stats := CyclicStats.new now
  safeOutput := none
  fired := []

/-- `CyclicController::new`: none when the output cycle time is below 1 ms. -/
def new (srcMac dstMac : Mac) (inputIocr outputIocr : IocrConfig) (fits : outputIocr.Fits)
    (maxConsecutiveTimeouts : UInt32) (now : Instant) : Option Shared :=
  if outputIocr.cycleTimeUs < 1000 then none
  else some (fresh srcMac dstMac inputIocr outputIocr fits maxConsecutiveTimeouts now)

/-! ## State changes and callbacks -/

/-- Call the handler of an event, if there is one. -/
def emit (s : Shared) (e : CallbackEvent) : Shared :=
  if s.callbacks.handles e then { s with fired := s.fired ++ [e] } else s

/-- `emit_error`. -/
def emitError (s : Shared) (message : String) : Shared := s.emit (.error message)

/-- First section of `transition`: set the state, unless it is the new one already; gives the
    old state of a change. -/
def moveState (s : Shared) (newState : CyclicState) : Shared × Option CyclicState :=
  if s.state = newState then (s, none) else ({ s with state := newState }, some s.state)

/-- Second section of `transition`, after a change: latch a fault. -/
def latchFault (s : Shared) (newState : CyclicState) : Shared :=
  if newState = .fault then { s with everFaulted := true } else s

/-- Transition to a new state (no-op if unchanged) and fire the state-change callback. -/
def transition (s : Shared) (newState : CyclicState) : Shared :=
  match s.moveState newState with
  | (s, none) => s
  | (s, some old) => (s.latchFault newState).emit (.stateChange old newState)

/-! ## The output image -/

/-- A section under the output builder's lock. -/
def modifyBuilder (s : Shared) (f : OutputBuilder → OutputBuilder) : Shared :=
  { s with outputBuilder := f s.outputBuilder }

/-- Advance the TX cycle counter by its step. -/
def advanceCounter (s : Shared) : Shared :=
  { s with
    cycleCounter := ((s.cycleCounter.toUInt32 + s.txCounterStep) &&& 0xFFFF).toUInt16 }

/-- The data status of a frame of a running provider. -/
def runStatus : UInt8 :=
  dataStatusValid ||| dataStatusProviderRun ||| dataStatusStationOk ||| dataStatusState

/-- ProviderRun is not set: STOP. -/
def stopStatus : UInt8 := dataStatusValid ||| dataStatusStationOk ||| dataStatusState

/-- The Ethernet frame around a payload. -/
def outputFrame (s : Shared) (cycleCounter : UInt16) (dataStatus : Option UInt8)
    (payload : List UInt8) : List UInt8 :=
  buildEthernetFrame s.dstMac s.srcMac
    { frameId := s.outputIocr.frameId
      cycleCounter := cycleCounter
      dataStatus := dataStatus.getD runStatus
      transferStatus := 0x00
      payload := payload }

/-- `next_output_frame`: advance the cycle counter, commit the double buffer and build the next
    complete output Ethernet frame. -/
def nextOutputFrame (s : Shared) (dataStatus : Option UInt8) : List UInt8 × Shared :=
  let s := s.advanceCounter
  let cycleCounter := s.cycleCounter
  let s := s.modifyBuilder OutputBuilder.swap
  (s.outputFrame cycleCounter dataStatus s.outputBuilder.build, s)

/-- Register the safe output image. -/
def setSafeOutput (s : Shared) (slot subslot : UInt16) (data : List UInt8) : Shared :=
  { s with safeOutput := some (slot, subslot, data) }

/-- Force the registered safe output image (if any) into both buffers (`apply_safe_output`). -/
def applySafeOutput (s : Shared) : Shared :=
  match s.safeOutput with
  | none => s
  | some (slot, subslot, data) =>
    match s.outputBuilder.setData slot subslot data with
    | .error e => s.emitError s!"safe output not applied: {e}"
    | .ok b => s.modifyBuilder fun _ => (b.setIops slot subslot ioxsGood).swap

/-- `set_output_data`: refused while output writes are locked. -/
def setOutputData (s : Shared) (slot subslot : UInt16) (data : List UInt8) :
    Except String Shared :=
  if outputWritesLocked s.state then
    .error s!"Cannot set output data in {s.state.asStr} state"
  else
    match s.outputBuilder.setData slot subslot data with
    | .error e => .error e
    | .ok b => .ok (s.modifyBuilder fun _ => b.setIops slot subslot ioxsGood)

/-! ## Receiving -/

/-- The filter in front of `process_input_frame`: a frame of our device for our input IOCR. -/
def inputFrame (s : Shared) (data : List UInt8) : Option RtFrame :=
  if data.length < 18 then none
  else if (data.drop 6).take 6 ≠ s.dstMac.1 then none
  else
    match parseEthernetFrame data with
    | none => none
    | some frame => if frame.frameId ≠ s.inputIocr.frameId then none else some frame

/-- The stats section of a received frame. -/
def receiveStats (s : Shared) (now : Instant) (valid : Bool) : Shared :=
  { s with stats := s.stats.receive now s.inputIocr.cycleTimeUs valid }

/-- Track a received cycle counter for gap/duplicate/out-of-order detection. -/
def trackCycleCounter (s : Shared) (rxCounter : UInt16) : Shared :=
  match s.lastRxCycleCounter with
  | none => { s with lastRxCycleCounter := some rxCounter }
  | some prev =>
    { s with
      stats := s.stats.trackCounter prev rxCounter s.rxCounterStep
      -- a duplicate leaves it, and is the same number
      lastRxCycleCounter := some rxCounter }

/-- One more invalid frame. -/
def countInvalid (s : Shared) : Shared :=
  { s with stats := { s.stats with framesInvalid := s.stats.framesInvalid + 1 } }

/-- Set IOCS to GOOD. -/
def acknowledge (s : Shared) : Shared := s.modifyBuilder fun b => b.setAllIocs ioxsGood

/-- What the extraction loop accumulates: the input map, the status changes and the data
    updates. -/
structure Extraction where
  inputData : UInt16 × UInt16 → Option InputEntry
  statusChanges : List CallbackEvent
  updates : List CallbackEvent

/-- One round of the extraction loop.  An object the payload does not cover is skipped. -/
def extractStep (payload : List UInt8) (x : Extraction) (obj : IoDataObject) : Extraction :=
  if payload.length ≤ obj.iopsOffset ∨ payload.length < obj.frameOffset + obj.dataLength then x
  else
    let iops := payload.getD obj.iopsOffset 0
    let wasGood := ((x.inputData obj.key).map InputEntry.isGood).getD false
    let data := (payload.drop obj.frameOffset).take obj.dataLength
    { inputData := fun k => if k = obj.key then some ⟨data, iops⟩ else x.inputData k
      statusChanges :=
        if iopsGood iops ≠ wasGood then
          x.statusChanges ++ [.inputStatus obj.slot obj.subslot iops]
        else x.statusChanges
      updates :=
        if iopsGood iops then x.updates ++ [.inputData obj.slot obj.subslot data]
        else x.updates }

/-- Extract data per IO object, then call the status handler and the data handler. -/
def storeInputs (s : Shared) (payload : List UInt8) : Shared :=
  let x := s.inputIocr.objects.foldl (extractStep payload) ⟨s.inputData, [], []⟩
  (x.statusChanges ++ x.updates).foldl emit { s with inputData := x.inputData }

/-- Parse and process a received raw Ethernet frame (`process_input_frame`). -/
def processInputFrame (now : Instant) (data : List UInt8) (s : Shared) : Shared :=
  match s.inputFrame data with
  | none => s
  | some frame =>
    let valid := frameIsAlive frame
    let s := s.receiveStats now valid
    -- invalid frames must not mask a dead link
    let s := if valid ∧ s.state = .fault then s.transition .running else s
    let s := s.trackCycleCounter frame.cycleCounter
    if valid then s.acknowledge.storeInputs frame.payload else s.countInvalid

/-! ## The receive watchdog -/

/-- A timeout, in the statistics. -/
def countTimeout (s : Shared) : Shared := { s with stats := s.stats.countTimeout }

/-- IOCS goes BAD only when watchdog faulting is enabled. -/
def disown (s : Shared) : Shared :=
  if s.maxConsecutiveTimeouts > 0 then s.modifyBuilder fun b => b.setAllIocs ioxsBad else s

/-- Handle a watchdog timeout event (`handle_watchdog_timeout`). -/
def handleWatchdogTimeout (s : Shared) : Shared :=
  let s := s.countTimeout
  let consecutive := s.stats.consecutiveTimeouts
  let s := s.disown.emit .timeout
  if s.maxConsecutiveTimeouts > 0 ∧ consecutive ≥ s.maxConsecutiveTimeouts ∧ s.state = .running then
    (s.transition .fault).emitError
      s!"Communication lost: {consecutive} consecutive watchdog timeouts"
  else s

/-- The watchdog counts from here on. -/
def rearm (s : Shared) (now : Instant) : Shared :=
  { s with stats := { s.stats with lastReceiveTime := now } }

/-- `rx_loop`'s watchdog period, in nanoseconds. -/
def watchdog (s : Shared) : Nat := s.inputIocr.watchdogTimeUs * 1000

/-- The watchdog half of one receive-loop pass: the elapsed time is read at `now`, and after a
    timeout the timer is re-armed at `later` (`check_receive_watchdog`). -/
def checkReceiveWatchdog (s : Shared) (watchdog : Nat) (now later : Instant) : Shared :=
  if now - s.stats.lastReceiveTime > watchdog then s.handleWatchdogTimeout.rearm later else s

/-! ## Starting -/

/-- `start` up to the sockets: STARTING, the run flag, fresh statistics and no fault so far. -/
def prepareStart (s : Shared) (now : Instant) : Shared :=
  { s.transition .starting with
    running := true
    stats := CyclicStats.new now
    everFaulted := false
    lastRxCycleCounter := none }

/-- What a `start` whose sockets and threads all come up leaves. -/
def started (s : Shared) (now : Instant) : Shared :=
  ((s.prepareStart now).modifyBuilder OutputBuilder.swap).transition .running

/-- `start`, with its sockets and threads coming up. -/
def start (s : Shared) (now : Instant) : Except String Shared :=
  if s.state.startable then .ok (s.started now)
  else .error s!"Cannot start from {s.state.asStr} state"

end Shared

/-- Cyclic states that mean we are no longer driving the device (`cyclic_abort_reason`). -/
def cyclicAbortReason (state : CyclicState) (everFaulted : Bool) : Option String :=
  if everFaulted then some "cyclic_fault"
  else
    match state with
    | .fault => some "cyclic_fault"
    | .stopped => some "cyclic_stopped"
    | _ => none

/-! ## A bench setup -/

/-- A mixed, an input-only and an output-only submodule. -/
def benchSlots : List Gsdml.IoSlot :=
  [⟨1, 1, 0x10, 0x11, 2, 1⟩, ⟨2, 1, 0x20, 0x21, 4, 0⟩, ⟨1, 2, 0x10, 0x12, 0, 3⟩]

/-- The controller of the examples. -/
def benchController : Mac := ⟨[0x02, 0, 0, 0, 0, 0x01], rfl⟩
/-- The device of the examples. -/
def benchDevice : Mac := ⟨[0x02, 0, 0, 0, 0, 0x02], rfl⟩

/-- A new controller for `benchSlots` with a cycle of 1 ms and a watchdog of 3 ms. -/
def bench : Shared :=
  Shared.fresh benchController benchDevice (inputConfig benchSlots 0xC001 0xC002 32 1 3)
    (outputConfig benchSlots 0xC001 0xC002 32 1 3) (output_fits benchSlots 0xC001 0xC002 32 1 3)
    defaultMaxConsecutiveTimeouts 0

/-- `bench` after `start`. -/
def benchRunning : Shared := bench.started 0

/-- A frame of the device that `bench` accepts. -/
def benchFrame : List UInt8 :=
  buildEthernetFrame benchController benchDevice ⟨0xC001, 1, 0x35, 0x00, List.replicate 40 0x80⟩

end Profinet.Cyclic
