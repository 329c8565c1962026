/-
  THREADS: the controller's threads, one lock section at a time.

  Three kinds of party share the controller's state:

      RX thread   `rx_loop`: a frame or nothing or an error, then the watchdog check
      TX thread   `tx_loop`: a frame a cycle, FAULT included
      owner       the caller of `start`, `stop`, `set_output_data` and `set_safe_output`

  A party's program counter names the section it is about to run; a step runs that section
  whole, on the same `Shared` functions the methods of `Cyclic` are made of.  Between two
  sections anybody may step.  `start` and `stop` take the controller by `&mut`, so the owner
  makes one call at a time, and a call is a sequence of the owner's own steps.

  What a section decides from the outside (a clock reading, what a socket gives) comes with the
  step.  Handlers have no result, so their calls go with the section in front of them.
-/
import Profinet.CyclicEffects

namespace Profinet.Cyclic

open Util Rt

/-! ## The RX thread -/

/-- What `recv_frame` gives. -/
inductive RecvResult
  | frame (data : List UInt8)
  | idle
  | error (e : String)

/-- The section an RX thread is about to run. -/
inductive RxPc
  /-- The loop's first arming of the watchdog. -/
  | arm
  | head
  | recv
  -- process_input_frame
  | stats (frame : RtFrame)
  | readState (frame : RtFrame)
  /-- FAULT was read for a valid frame: `transition(Running)` is next. -/
  | recover (frame : RtFrame)
  | track (frame : RtFrame)
  | invalid
  | iocs (frame : RtFrame)
  | inputs (frame : RtFrame)
  -- a receive error
  | errLoad (e : String)
  | errRead
  /-- RUNNING was read after an error: `transition(Fault)` is next. -/
  | errFault
  | errLatch (old : CyclicState)
  -- check_receive_watchdog and handle_watchdog_timeout
  | check
  | countTimeout
  | badIocs (consecutive : UInt32)
  | timeoutRead (consecutive : UInt32)
  /-- RUNNING was read at the limit: `transition(Fault)` is next. -/
  | timeoutFault (consecutive : UInt32)
  | timeoutLatch (consecutive : UInt32) (old : CyclicState)
  | rearm
  | done
  deriving DecidableEq, Repr

/-- The text of the escalation. -/
def lostMessage (consecutive : UInt32) : String :=
  s!"Communication lost: {consecutive} consecutive watchdog timeouts"

/-- One section of an RX thread; none when it has terminated. -/
def rxStep (now : Instant) (r : RecvResult) (sh : Shared) : RxPc → Option (Shared × RxPc)
  | .arm => some (sh.rearm now, .head)
  | .head => some (sh, if sh.running then .recv else .done)
  | .recv =>
    some (sh,
      match r with
      | .frame data =>
        match sh.inputFrame data with
        | some frame => .stats frame
        | none => .check
      | .idle => .check
      | .error e => .errLoad e)
  | .stats frame =>
    some (sh.receiveStats now (frameIsAlive frame),
      if frameIsAlive frame then .readState frame else .track frame)
  | .readState frame => some (sh, if sh.state = .fault then .recover frame else .track frame)
  | .recover frame =>
    some (match sh.moveState .running with
      | (sh', none) => (sh', .track frame)
      | (sh', some old) => (sh'.emit (.stateChange old .running), .track frame))
  | .track frame =>
    some (sh.trackCycleCounter frame.cycleCounter,
      if frameIsAlive frame then .iocs frame else .invalid)
  | .invalid => some (sh.countInvalid, .check)
  | .iocs frame => some (sh.acknowledge, .inputs frame)
  | .inputs frame => some (sh.storeInputs frame.payload, .check)
  | .errLoad e => some (if sh.running then (sh.emitError s!"RX error: {e}", .errRead) else (sh, .done))
  | .errRead => some (sh, if sh.state = .running then .errFault else .done)
  | .errFault =>
    some (match sh.moveState .fault with
      | (sh', none) => (sh', .done)
      | (sh', some old) => (sh', .errLatch old))
  | .errLatch old => some ((sh.latchFault .fault).emit (.stateChange old .fault), .done)
  | .check =>
    some (sh, if now - sh.stats.lastReceiveTime > sh.watchdog then .countTimeout else .head)
  | .countTimeout => some (sh.countTimeout, .badIocs sh.countTimeout.stats.consecutiveTimeouts)
  | .badIocs n =>
    some (sh.disown.emit .timeout,
      if sh.maxConsecutiveTimeouts > 0 ∧ n ≥ sh.maxConsecutiveTimeouts then .timeoutRead n
      else .rearm)
  | .timeoutRead n => some (sh, if sh.state = .running then .timeoutFault n else .rearm)
  | .timeoutFault n =>
    some (match sh.moveState .fault with
      | (sh', none) => (sh'.emitError (lostMessage n), .rearm)
      | (sh', some old) => (sh', .timeoutLatch n old))
  | .timeoutLatch n old =>
    some (((sh.latchFault .fault).emit (.stateChange old .fault)).emitError (lostMessage n), .rearm)
  | .rearm => some (sh.rearm now, .head)
  | .done => none

/-! ## The TX thread -/

/-- The section a TX thread is about to run. -/
inductive TxPc
  | launch
  | head
  | wait
  | counter (now : Instant)
  | commit (now : Instant) (cycleCounter : UInt16)
  | send (now : Instant)
  | count (now : Instant)
  | pace (now : Instant)
  | done
  deriving DecidableEq, Repr

/-- A TX thread with its local variables. -/
structure TxThread where
  pc : TxPc
  nextSend : Instant
  lastSend : Instant
  firstFrame : Bool
  deriving DecidableEq, Repr

/-- A TX thread before its first step. -/
def TxThread.spawned : TxThread := ⟨.launch, 0, 0, true⟩

/-- The slot after a transmission at `now`: a cycle on, or a cycle from now when behind. -/
def nextSlot (nextSend now cycle : Nat) : Nat :=
  if nextSend + cycle < now then now + cycle else nextSend + cycle

/-- One section of a TX thread, with the frame it builds if it builds one. -/
def txStep (now : Instant) (sendError : Option String) (sh : Shared) (t : TxThread) :
    Option (Shared × TxThread × Option (List UInt8)) :=
  match t.pc with
  | .launch => some (sh, ⟨.head, now, now, true⟩, none)
  | .head => some (sh, { t with pc := if sh.running then .wait else .done }, none)
  | .wait => some (sh, { t with pc := if now ≥ t.nextSend then .counter now else .head }, none)
  | .counter at' =>
    some (sh.advanceCounter, { t with pc := .commit at' sh.advanceCounter.cycleCounter }, none)
  | .commit at' cycleCounter =>
    let sh := sh.modifyBuilder OutputBuilder.swap
    some (sh, { t with pc := .send at' },
      some (sh.outputFrame cycleCounter none sh.outputBuilder.build))
  | .send at' =>
    some (match sendError with
      | some e => sh.emitError s!"TX error: {e}"
      | none => sh, { t with pc := .count at' }, none)
  | .count at' =>
    some ({ sh with stats := { sh.stats with framesSent := sh.stats.framesSent + 1 } },
      { t with pc := .pace at' }, none)
  | .pace at' =>
    some (if t.firstFrame then sh
      else { sh with stats :=
        sh.stats.addCycle (microsBetween t.lastSend at') sh.outputIocr.cycleTimeUs },
      ⟨.head, nextSlot t.nextSend at' (sh.outputIocr.cycleTimeUs * 1000), at', false⟩, none)
  | .done => none

/-! ## The owner -/

/-- A call on the controller. -/
inductive Call
  | start
  | stop
  | setOutputData (slot subslot : UInt16) (data : List UInt8)
  | setSafeOutput (slot subslot : UInt16) (data : List UInt8)

/-- The section the owner is about to run. -/
inductive OwnerPc
  | idle
  | setSafe (slot subslot : UInt16) (data : List UInt8)
  -- set_output_data
  | writeRead (slot subslot : UInt16) (data : List UInt8)
  | writeData (slot subslot : UInt16) (data : List UInt8)
  -- stop: apply_safe_output, the run flag, Stopping, and the threads one after the other
  | safeRead
  | safeApply (safe : Option (UInt16 × UInt16 × List UInt8))
  | stopLoad
  | stopping
  | stopClear
  | joinTx
  -- send_stop_frames: `i` of them are out
  | burstSwap (i : Nat)
  | burstCounter (i : Nat)
  | burstCommit (i : Nat) (cycleCounter : UInt16)
  | burstSend (i : Nat)
  | burstCount (i : Nat)
  | joinRx
  | stopped
  -- start
  | startRead
  | starting
  | startRunning
  | startStats
  | startFault
  | startCounter
  | openTx
  | openRx
  | startSwap
  | spawnTx
  | spawnRx
  | started
  deriving DecidableEq, Repr

/-- The section a call begins with. -/
def Call.entry : Call → OwnerPc
  | .start => .startRead
  | .stop => .safeRead
  | .setOutputData slot subslot data => .writeRead slot subslot data
  | .setSafeOutput slot subslot data => .setSafe slot subslot data

/-- The controller with its owner and every thread it ever spawned. -/
structure Sys where
  sh : Shared
  owner : OwnerPc
  /-- The threads the handles of the controller are about. -/
  txHandle : Option Nat
  rxHandle : Option Nat
  tx : List TxThread
  rx : List RxPc
  /-- The output frames built so far, oldest first. -/
  frames : List (List UInt8)

/-- A new controller. -/
def Sys.init (sh : Shared) : Sys := ⟨sh, .idle, none, none, [], [], []⟩

/-- `transition` by the owner, which holds no lock between its sections either; only FAULT is
    latched in a section of its own, and the owner never moves there. -/
def Sys.moveTo (y : Sys) (newState : CyclicState) (next : OwnerPc) : Sys :=
  match y.sh.moveState newState with
  | (sh, none) => { y with sh := sh, owner := next }
  | (sh, some old) => { y with sh := sh.emit (.stateChange old newState), owner := next }

/-- One section of the owner's call.  `ok` is the outcome of a socket or a spawn.  None when
    there is no call, or a join is waiting. -/
def ownerStep (now : Instant) (ok : Bool) (y : Sys) : Option Sys :=
  match y.owner with
  | .idle => none
  | .setSafe slot subslot data =>
    some { y with sh := y.sh.setSafeOutput slot subslot data, owner := .idle }
  | .writeRead slot subslot data =>
    some { y with
      owner := if outputWritesLocked y.sh.state then .idle else .writeData slot subslot data }
  | .writeData slot subslot data =>
    match y.sh.outputBuilder.setData slot subslot data with
    | .error _ => some { y with owner := .idle }
    | .ok b =>
      some { y with sh := y.sh.modifyBuilder fun _ => b.setIops slot subslot ioxsGood
                    owner := .idle }
  | .safeRead => some { y with owner := .safeApply y.sh.safeOutput }
  | .safeApply none => some { y with owner := .stopLoad }
  | .safeApply (some (slot, subslot, data)) =>
    match y.sh.outputBuilder.setData slot subslot data with
    | .error e =>
      some { y with sh := y.sh.emitError s!"safe output not applied: {e}", owner := .stopLoad }
    | .ok b =>
      some { y with sh := y.sh.modifyBuilder fun _ => (b.setIops slot subslot ioxsGood).swap
                    owner := .stopLoad }
  | .stopLoad => some { y with owner := if y.sh.running then .stopping else .idle }
  | .stopping => some (y.moveTo .stopping .stopClear)
  | .stopClear => some { y with sh := { y.sh with running := false }, owner := .joinTx }
  | .joinTx =>
    match y.txHandle with
    | none => some { y with owner := .joinRx }
    | some i =>
      if (y.tx[i]?.map TxThread.pc) = some .done then
        some { y with txHandle := none, owner := .burstSwap 0 }
      else none
  | .burstSwap i =>
    if i < stopFrameCount then
      some { y with sh := y.sh.modifyBuilder OutputBuilder.swap, owner := .burstCounter i }
    else some { y with owner := .joinRx }
  | .burstCounter i =>
    some { y with sh := y.sh.advanceCounter
                  owner := .burstCommit i y.sh.advanceCounter.cycleCounter }
  | .burstCommit i cycleCounter =>
    let sh := y.sh.modifyBuilder OutputBuilder.swap
    some { y with
      sh := sh
      owner := .burstSend i
      frames := y.frames ++
        [sh.outputFrame cycleCounter (some Shared.stopStatus) sh.outputBuilder.build] }
  | .burstSend i => some { y with owner := if ok then .burstCount i else .joinRx }
  | .burstCount i =>
    some { y with
      sh := { y.sh with stats := { y.sh.stats with framesSent := y.sh.stats.framesSent + 1 } }
      owner := .burstSwap (i + 1) }
  | .joinRx =>
    match y.rxHandle with
    | none => some { y with owner := .stopped }
    | some i =>
      if y.rx[i]? = some .done then some { y with rxHandle := none, owner := .stopped } else none
  | .stopped => some (y.moveTo .stopped .idle)
  | .startRead => some { y with owner := if y.sh.state.startable then .starting else .idle }
  | .starting => some (y.moveTo .starting .startRunning)
  | .startRunning => some { y with sh := { y.sh with running := true }, owner := .startStats }
  | .startStats =>
    some { y with sh := { y.sh with stats := CyclicStats.new now }, owner := .startFault }
  | .startFault => some { y with sh := { y.sh with everFaulted := false }, owner := .startCounter }
  | .startCounter =>
    some { y with sh := { y.sh with lastRxCycleCounter := none }, owner := .openTx }
  | .openTx => some { y with owner := if ok then .openRx else .idle }
  | .openRx => some { y with owner := if ok then .startSwap else .idle }
  | .startSwap =>
    some { y with sh := y.sh.modifyBuilder OutputBuilder.swap, owner := .spawnTx }
  | .spawnTx =>
    if ok then
      some { y with tx := y.tx ++ [.spawned], txHandle := some y.tx.length, owner := .spawnRx }
    else some { y with owner := .idle }
  | .spawnRx =>
    if ok then
      some { y with rx := y.rx ++ [.arm], rxHandle := some y.rx.length, owner := .started }
    else some { y with owner := .idle }
  | .started => some (y.moveTo .running .idle)

/-! ## The system -/

/-- Who steps, and what the outside gives the section. -/
inductive Act
  | call (c : Call)
  | owner (now : Instant) (ok : Bool)
  | rx (i : Nat) (now : Instant) (r : RecvResult)
  | tx (i : Nat) (now : Instant) (sendError : Option String)

/-- One action of the system, where it can be taken. -/
def step (y : Sys) : Act → Option Sys
  | .call c => if y.owner = .idle then some { y with owner := c.entry } else none
  | .owner now ok => ownerStep now ok y
  | .rx i now r =>
    y.rx[i]?.bind fun pc => (rxStep now r y.sh pc).map fun (sh, pc') =>
      { y with sh := sh, rx := y.rx.set i pc' }
  | .tx i now sendError =>
    y.tx[i]?.bind fun t => (txStep now sendError y.sh t).map fun (sh, t', frame) =>
      { y with sh := sh, tx := y.tx.set i t', frames := y.frames ++ frame.toList }

/-- A sequence of steps; none when one of them cannot be taken. -/
def runSys : Sys → List Act → Option Sys
  | y, [] => some y
  | y, a :: as => (step y a).bind fun y' => runSys y' as

theorem runSys_cons {y y' : Sys} {a : Act} {as : List Act} :
    runSys y (a :: as) = some y' ↔ ∃ m, step y a = some m ∧ runSys m as = some y' :=
  Option.bind_eq_some_iff

theorem runSys_append {y y' : Sys} {as bs : List Act} :
    runSys y (as ++ bs) = some y' ↔ ∃ m, runSys y as = some m ∧ runSys m bs = some y' := by
  induction as generalizing y with
  | nil => simp [runSys]
  | cons a as ih =>
    rw [List.cons_append, runSys_cons]
    constructor
    · rintro ⟨m, hm, hrest⟩
      obtain ⟨m', hm', hbs⟩ := ih.mp hrest
      exact ⟨m', runSys_cons.mpr ⟨m, hm, hm'⟩, hbs⟩
    · rintro ⟨m', has, hbs⟩
      obtain ⟨m, hm, hm'⟩ := runSys_cons.mp has
      exact ⟨m, hm, ih.mpr ⟨m', hm', hbs⟩⟩

/-- An invariant of the steps a set of actions allows holds after every run of them. -/
theorem runSys_invariant {P : Sys → Prop} {allowed : Act → Prop}
    (hstep : ∀ y y' a, allowed a → P y → step y a = some y' → P y') {y y' : Sys} {as : List Act}
    (has : ∀ a ∈ as, allowed a) (hy : P y) (hrun : runSys y as = some y') : P y' := by
  induction as generalizing y with
  | nil =>
    obtain rfl : y = y' := Option.some.inj hrun
    exact hy
  | cons a as ih =>
    obtain ⟨m, hm, hrest⟩ := runSys_cons.mp hrun
    exact ih (fun b hb => has b (List.mem_cons_of_mem a hb))
      (hstep y m a (has a List.mem_cons_self) hy hm) hrest

/-- Reached from a new controller. -/
def Reachable (sh : Shared) (y : Sys) : Prop := ∃ as, runSys (Sys.init sh) as = some y

/-- On the bench: a start that comes up. -/
def benchStart : List Act := .call .start :: List.replicate 12 (.owner 0 true)

/-! ## The threads run the methods -/

/-- An RX thread alone, for `n` sections with the same outside. -/
def rxAlone (now : Instant) (r : RecvResult) : Nat → Shared × RxPc → Option (Shared × RxPc)
  | 0, p => some p
  | n + 1, p => (rxStep now r p.1 p.2).bind (rxAlone now r n)

/-- **Undisturbed, the sections of a received frame are `process_input_frame`.** -/
theorem rxAlone_frame (now : Instant) (data : List UInt8) (sh : Shared) :
    ∃ n, rxAlone now (.frame data) n (sh, .recv) = some (sh.processInputFrame now data, .check) := by
  unfold Shared.processInputFrame
  cases hframe : sh.inputFrame data with
  | none => exact ⟨1, by simp [rxAlone, rxStep, hframe]⟩
  | some frame =>
    cases halive : frameIsAlive frame with
    | false => exact ⟨4, by simp [rxAlone, rxStep, hframe, halive]⟩
    | true =>
      by_cases hfault : (sh.receiveStats now true).state = .fault
      · refine ⟨7, ?_⟩
        simp [rxAlone, rxStep, hframe, halive, hfault, Shared.transition, Shared.moveState,
          Shared.latchFault]
      · exact ⟨6, by simp [rxAlone, rxStep, hframe, halive, hfault]⟩

theorem rxAlone_next {now : Instant} {r : RecvResult} {p q t : Shared × RxPc} {n : Nat}
    (hstep : rxStep now r p.1 p.2 = some q) (hrest : rxAlone now r n q = some t) :
    rxAlone now r (n + 1) p = some t := by
  show (rxStep now r p.1 p.2).bind (rxAlone now r n) = some t
  rw [hstep]
  exact hrest

/-- **Undisturbed, the sections of a check are `check_receive_watchdog`.** -/
theorem rxAlone_check (now : Instant) (r : RecvResult) (sh : Shared) :
    ∃ n, rxAlone now r n (sh, .check)
      = some (sh.checkReceiveWatchdog sh.watchdog now now, .head) := by
  unfold Shared.checkReceiveWatchdog
  by_cases hexp : now - sh.stats.lastReceiveTime > sh.watchdog
  · rw [if_pos hexp]
    unfold Shared.handleWatchdogTimeout
    -- the limit and the state as read after the timeout was counted
    have hlimit : (sh.countTimeout.disown.emit .timeout).maxConsecutiveTimeouts
        = sh.maxConsecutiveTimeouts := by
      obtain ⟨log, heq⟩ := sh.countTimeout.disown.emit_eq .timeout
      rw [heq]
      unfold Shared.disown
      split <;> rfl
    have hlimit' : sh.countTimeout.maxConsecutiveTimeouts = sh.maxConsecutiveTimeouts := rfl
    have hcheck : rxStep now r sh .check = some (sh, .countTimeout) := by
      simp only [rxStep, if_pos hexp]
    by_cases hreached : sh.maxConsecutiveTimeouts > 0
        ∧ sh.countTimeout.stats.consecutiveTimeouts ≥ sh.maxConsecutiveTimeouts
    · have hbad : rxStep now r sh.countTimeout (.badIocs sh.countTimeout.stats.consecutiveTimeouts)
          = some (sh.countTimeout.disown.emit .timeout,
              .timeoutRead sh.countTimeout.stats.consecutiveTimeouts) := by
        simp only [rxStep, hlimit', if_pos hreached]
      by_cases hrunning : (sh.countTimeout.disown.emit .timeout).state = .running
      · refine ⟨7, ?_⟩
        rw [if_pos ⟨by rw [hlimit]; exact hreached.1, by rw [hlimit]; exact hreached.2, hrunning⟩]
        refine rxAlone_next hcheck (rxAlone_next rfl (rxAlone_next hbad ?_))
        refine rxAlone_next (by simp only [rxStep, if_pos hrunning]; rfl) ?_
        have hmove : (sh.countTimeout.disown.emit .timeout).moveState .fault
            = ({ sh.countTimeout.disown.emit .timeout with state := .fault }, some .running) := by
          unfold Shared.moveState
          rw [hrunning, if_neg (by decide)]
        refine rxAlone_next (by simp only [rxStep, hmove]; rfl) ?_
        refine rxAlone_next rfl (rxAlone_next rfl ?_)
        unfold Shared.transition
        rw [hmove]
        rfl
      · refine ⟨5, ?_⟩
        rw [if_neg (fun h => hrunning h.2.2)]
        refine rxAlone_next hcheck (rxAlone_next rfl (rxAlone_next hbad ?_))
        exact rxAlone_next (by simp only [rxStep, if_neg hrunning]; rfl) (rxAlone_next rfl rfl)
    · refine ⟨4, ?_⟩
      rw [if_neg (fun h => hreached ⟨by rw [← hlimit]; exact h.1, by rw [← hlimit]; exact h.2.1⟩)]
      refine rxAlone_next hcheck (rxAlone_next rfl ?_)
      exact rxAlone_next (by simp only [rxStep, hlimit', if_neg hreached]; rfl)
        (rxAlone_next rfl rfl)
  · exact ⟨1, by simp [rxAlone, rxStep, hexp]⟩

end Profinet.Cyclic
