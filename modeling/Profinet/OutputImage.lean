/-
  OUTPUT IMAGE: what the double buffer is for, without the double buffer.

  `PlainOutput` is the controller's output side as a single image: writes and status changes go
  into the image, and a frame is built from the image as it stands.  `PlainOutput.step` says so
  for everything that can happen to a controller (`CtlEvent`): received frames, timeouts, output
  writes, safe-output applications, state changes, starts and frame builds.

  The controller refines it (`refines_step`) for every `swap` that leaves the send buffer equal
  to the write buffer (`Commits`).  The dirty-flag-guarded swap is one because a well-formed
  builder that is clean has equal buffers; the unconditional copy is one by definition.  So both
  build the same frames, and every statement about frames can be made about the image:

      same_frames          the guard cannot be told from the plain copy
      consumer_status      the IOCS bytes of every frame, from the history of events
-/
import Profinet.Watchdog

namespace Profinet.Cyclic

open Buffer Pack Wire Gsdml Util Rt CyclicDataBuilder

/-! ## Everything that can happen

  The events that touch the shared state, whichever thread they come from; each is one section of
  a lock. -/

/-- What happens to a controller, from the network, its loops and its caller. -/
inductive CtlEvent
  | link (e : LinkEvent)
  | write (slot subslot : UInt16) (data : List UInt8)
  | setSafe (slot subslot : UInt16) (data : List UInt8)
  | applySafe
  | move (newState : CyclicState)
  | start (now : Instant)
  | build (dataStatus : Option UInt8)

/-- A way to bring the send buffer up to date. -/
abbrev Swap := OutputBuilder → OutputBuilder

/-- It leaves the send buffer equal to the write buffer, which it does not touch. -/
structure Commits (sw : Swap) : Prop where
  config : ∀ b, (sw b).1.config = b.1.config
  write : ∀ b, (sw b).1.writeBuffer = b.1.writeBuffer
  send : ∀ b, (sw b).1.sendBuffer = b.1.writeBuffer

/-- The swap of the source, guarded by the dirty flag. -/
theorem commits_swap : Commits OutputBuilder.swap where
  config := fun b => b.swap_facts.1
  write := fun b => b.swap_facts.2.1
  send := fun b => b.swap_facts.2.2.1

/-- The swap without the guard: copy, whatever the flag says. -/
def copyAlways (b : OutputBuilder) : OutputBuilder :=
  ⟨{ b.1 with sendBuffer := b.1.writeBuffer },
    ⟨b.2.fits, b.2.writeLength, b.2.writeLength, fun _ => rfl⟩⟩

/-- A swap that always copies commits. -/
theorem commits_copyAlways : Commits copyAlways :=
  ⟨fun _ => rfl, fun _ => rfl, fun _ => rfl⟩

namespace Shared

/-- `next_output_frame`, with the swap as a parameter. -/
def nextOutputFrameBy (sw : Swap) (s : Shared) (dataStatus : Option UInt8) :
    List UInt8 × Shared :=
  let s := s.advanceCounter
  let cycleCounter := s.cycleCounter
  let s := s.modifyBuilder sw
  (s.outputFrame cycleCounter dataStatus s.outputBuilder.build, s)

/-- `apply_safe_output`, with the swap as a parameter. -/
def applySafeOutputBy (sw : Swap) (s : Shared) : Shared :=
  match s.safeOutput with
  | none => s
  | some (slot, subslot, data) =>
    match s.outputBuilder.setData slot subslot data with
    | .error e => s.emitError s!"safe output not applied: {e}"
    | .ok b => s.modifyBuilder fun _ => sw (b.setIops slot subslot ioxsGood)

/-- What `start` leaves, with the swap as a parameter. -/
def startedBy (sw : Swap) (s : Shared) (now : Instant) : Shared :=
  ((s.prepareStart now).modifyBuilder sw).transition .running

/-- With the swap of the source these are the source's. -/
theorem by_swap (s : Shared) :
    s.nextOutputFrameBy OutputBuilder.swap = s.nextOutputFrame
      ∧ s.applySafeOutputBy OutputBuilder.swap = s.applySafeOutput
      ∧ s.startedBy OutputBuilder.swap = s.started :=
  ⟨rfl, rfl, rfl⟩

end Shared

/-- One event: the state it leaves and the frame it builds.  A refused write leaves the state as
    it is. -/
def CtlEvent.step (sw : Swap) (s : Shared) : CtlEvent → Shared × Option (List UInt8)
  | .link e => (e.apply s, none)
  | .write slot subslot data => ((s.setOutputData slot subslot data).toOption.getD s, none)
  | .setSafe slot subslot data => (s.setSafeOutput slot subslot data, none)
  | .applySafe => (s.applySafeOutputBy sw, none)
  | .move newState => (s.transition newState, none)
  | .start now => (if s.state.startable then s.startedBy sw now else s, none)
  | .build dataStatus =>
    ((s.nextOutputFrameBy sw dataStatus).2, some (s.nextOutputFrameBy sw dataStatus).1)

/-- A sequence of events: the state it leaves and the frames it builds, oldest first. -/
def runCtl (sw : Swap) : Shared → List CtlEvent → Shared × List (List UInt8)
  | s, [] => (s, [])
  | s, e :: es =>
    ((runCtl sw (e.step sw s).1 es).1,
      (e.step sw s).2.toList ++ (runCtl sw (e.step sw s).1 es).2)

/-! ## A single image

  The image and what each event does to it.  There is no second buffer, so a frame is the image
  with its header. -/

/-- The output side of a controller as a single image. -/
structure PlainOutput where
  state : CyclicState
  streak : UInt32
  cycleCounter : UInt16
  safeOutput : Option (UInt16 × UInt16 × List UInt8)
  image : List UInt8
  deriving DecidableEq, Repr

/-- Put data into the window of a submodule and mark it good; none for an unknown one. -/
def put (c : IocrConfig) (image : List UInt8) (slot subslot : UInt16) (data : List UInt8) :
    Option (List UInt8) :=
  (c.find slot subslot).map fun o =>
    stamp (written image o.frameOffset (data.take o.dataLength)) (iopsPlaces c slot subslot)
      ioxsGood

namespace PlainOutput

variable (base : Shared)

/-- An accepted frame. -/
def accept (m : PlainOutput) : PlainOutput :=
  { m with
    state := if m.state = .fault then .running else m.state
    streak := 0
    image := stamp m.image base.outputBuilder.1.config.iocsOffsets ioxsGood }

/-- What the RX side does to the plain output: an accepted frame, or a timeout. -/
def link (m : PlainOutput) : LinkEvent → PlainOutput
  | .frame _ data => if (base.accepted data).isSome then m.accept base else m
  | .timeout _ =>
    { m with
      state :=
        if base.maxConsecutiveTimeouts > 0 ∧ m.streak + 1 ≥ base.maxConsecutiveTimeouts
          ∧ m.state = .running then .fault
        else m.state
      streak := m.streak + 1
      image :=
        if base.maxConsecutiveTimeouts > 0 then
          stamp m.image base.outputBuilder.1.config.iocsOffsets ioxsBad
        else m.image }

/-- Put data into the image, if the submodule is known. -/
def putData (m : PlainOutput) (slot subslot : UInt16) (data : List UInt8) : PlainOutput :=
  { m with
    image := (put base.outputBuilder.1.config m.image slot subslot data).getD m.image }

/-- One event on the plain output, and the frame it sends. -/
def step (m : PlainOutput) : CtlEvent → PlainOutput × Option (List UInt8)
  | .link e => (m.link base e, none)
  | .write slot subslot data =>
    (if outputWritesLocked m.state then m else m.putData base slot subslot data, none)
  | .setSafe slot subslot data => ({ m with safeOutput := some (slot, subslot, data) }, none)
  | .applySafe =>
    (match m.safeOutput with
      | none => m
      | some (slot, subslot, data) => m.putData base slot subslot data, none)
  | .move newState => ({ m with state := newState }, none)
  | .start _ => (if m.state.startable then { m with state := .running, streak := 0 } else m, none)
  | .build dataStatus =>
    let counter := ((m.cycleCounter.toUInt32 + base.txCounterStep) &&& 0xFFFF).toUInt16
    ({ m with cycleCounter := counter }, some (base.outputFrame counter dataStatus m.image))

/-- Events on the plain output, and the frames sent. -/
def run : PlainOutput → List CtlEvent → PlainOutput × List (List UInt8)
  | m, [] => (m, [])
  | m, e :: es =>
    ((run (m.step base e).1 es).1, (m.step base e).2.toList ++ (run (m.step base e).1 es).2)

end PlainOutput

/-! ## The controller refines it

  One lemma per event, then all of them: the single image takes the same step, and sends the same
  frame. -/

/-- The controller and the single image agree.  `base` holds what never changes. -/
structure Refines (base s : Shared) (m : PlainOutput) : Prop where
  srcMac : s.srcMac = base.srcMac
  dstMac : s.dstMac = base.dstMac
  inputIocr : s.inputIocr = base.inputIocr
  outputIocr : s.outputIocr = base.outputIocr
  limit : s.maxConsecutiveTimeouts = base.maxConsecutiveTimeouts
  txStep : s.txCounterStep = base.txCounterStep
  config : s.outputBuilder.1.config = base.outputBuilder.1.config
  state : s.state = m.state
  streak : s.stats.consecutiveTimeouts = m.streak
  cycleCounter : s.cycleCounter = m.cycleCounter
  safeOutput : s.safeOutput = m.safeOutput
  image : s.outputBuilder.1.writeBuffer = m.image

/-- The image of a controller. -/
def Shared.plain (s : Shared) : PlainOutput :=
  ⟨s.state, s.stats.consecutiveTimeouts, s.cycleCounter, s.safeOutput,
    s.outputBuilder.1.writeBuffer⟩

/-- A state refines its own plain output. -/
theorem refines_plain (s : Shared) : Refines s s s.plain :=
  ⟨rfl, rfl, rfl, rfl, rfl, rfl, rfl, rfl, rfl, rfl, rfl, rfl⟩

section Refinement

variable {base s : Shared} {m : PlainOutput}

/-- What `set_data` followed by `set_iops(GOOD)` does to a builder. -/
theorem setData_put (b : OutputBuilder) (slot subslot : UInt16) (data : List UInt8) :
    match put b.1.config b.1.writeBuffer slot subslot data with
    | none => ∃ e, b.setData slot subslot data = .error e
    | some image => ∃ b', b.setData slot subslot data = .ok b'
        ∧ (b'.setIops slot subslot ioxsGood).1.config = b.1.config
        ∧ (b'.setIops slot subslot ioxsGood).1.writeBuffer = image
        ∧ (b'.setIops slot subslot ioxsGood).1.sendBuffer = b.1.sendBuffer := by
  unfold put
  cases ho : b.1.config.find slot subslot with
  | none => exact ⟨_, b.setData_unknown ho data⟩
  | some o =>
    obtain ⟨b', hset, hkept, hbuf⟩ := b.setData_known ho data
    obtain ⟨hkept', hst⟩ := b'.setIops_facts slot subslot ioxsGood
    refine ⟨b', hset, hkept'.config.trans hkept.config, ?_, hkept'.send.trans hkept.send⟩
    rw [hst.eq_stamp, hbuf, hkept.config]

/-- Stamping the consumer statuses writes the offsets of the configuration and nothing else. -/
theorem setAllIocs_image (b : OutputBuilder) (status : UInt8) :
    (b.setAllIocs status).1.config = b.1.config
      ∧ (b.setAllIocs status).1.writeBuffer
        = stamp b.1.writeBuffer b.1.config.iocsOffsets status := by
  obtain ⟨hkept, hst⟩ := b.setAllIocs_facts status
  exact ⟨hkept.config, hst.eq_stamp⟩

/-- A received frame is refined by the plain output's step. -/
theorem refines_frame (h : Refines base s m) (now : Instant) (data : List UInt8) :
    Refines base (s.processInputFrame now data) (m.link base (.frame now data)) := by
  have hacc := accepted_congr h.dstMac h.inputIocr data
  show Refines base _ (if (base.accepted data).isSome then m.accept base else m)
  -- accepted, not accepted but a frame for us, or nothing: only the first touches the image
  cases hb : base.accepted data with
  | none =>
    rw [hb] at hacc
    rw [if_neg (by simp)]
    cases hframe : s.inputFrame data with
    | none =>
      rw [s.processInputFrame_ignored hframe]
      exact h
    | some frame =>
      have hdead : frameIsAlive frame = false := by
        simpa [Shared.accepted, hframe, Option.filter] using hacc
      obtain ⟨st, heq, -, hc⟩ := s.processInputFrame_disowned hframe hdead now
      rw [heq]
      exact ⟨h.srcMac, h.dstMac, h.inputIocr, h.outputIocr, h.limit, h.txStep, h.config, h.state,
        hc.trans h.streak, h.cycleCounter, h.safeOutput, h.image⟩
  | some frame =>
    rw [hb] at hacc
    obtain ⟨hframe, halive⟩ := Option.filter_eq_some_iff.mp hacc
    obtain ⟨st, inputs, log, heq, -, hc⟩ := s.processInputFrame_accepted hframe halive now
    obtain ⟨hcfg, himg⟩ := setAllIocs_image s.outputBuilder ioxsGood
    rw [heq, if_pos Option.isSome_some]
    refine ⟨h.srcMac, h.dstMac, h.inputIocr, h.outputIocr, h.limit, h.txStep,
      hcfg.trans h.config, ?_, hc, h.cycleCounter, h.safeOutput, ?_⟩
    · show (if s.state = .fault then .running else s.state) = if m.state = .fault then _ else _
      rw [h.state]
    · show (s.outputBuilder.setAllIocs ioxsGood).1.writeBuffer = stamp m.image _ _
      rw [himg, h.image, h.config]

/-- A watchdog timeout is refined by the plain output's step. -/
theorem refines_timeout (h : Refines base s m) (rearmAt : Option Instant) (later : Instant) :
    Refines base (s.handleWatchdogTimeout.rearm later) (m.link base (.timeout rearmAt)) := by
  obtain ⟨log, heq⟩ := s.handleWatchdogTimeout_eq
  obtain ⟨hcfg, himg⟩ := setAllIocs_image s.outputBuilder ioxsBad
  -- both sides escalate under the same condition
  have hesc : s.escalates = true ↔ base.maxConsecutiveTimeouts > 0
      ∧ m.streak + 1 ≥ base.maxConsecutiveTimeouts ∧ m.state = .running := by
    unfold Shared.escalates
    rw [h.limit, h.streak, h.state]
    simp only [Bool.and_eq_true, decide_eq_true_eq, and_assoc]
  rw [heq]
  refine ⟨h.srcMac, h.dstMac, h.inputIocr, h.outputIocr, h.limit, h.txStep, ?_, ?_, ?_,
    h.cycleCounter, h.safeOutput, ?_⟩
  · show (if _ then _ else _ : OutputBuilder).1.config = _
    by_cases hmax : s.maxConsecutiveTimeouts > 0
    · rw [if_pos hmax]
      exact hcfg.trans h.config
    · rw [if_neg hmax]
      exact h.config
  · show (if s.escalates = true then .fault else s.state) = if _ then _ else _
    by_cases he : s.escalates = true
    · rw [if_pos he, if_pos (hesc.mp he)]
    · rw [if_neg he, if_neg (fun hc => he (hesc.mpr hc))]
      exact h.state
  -- the streak counts whether or not timeouts escalate
  · show s.stats.consecutiveTimeouts + 1 = m.streak + 1
    rw [h.streak]
  · show (if _ then _ else _ : OutputBuilder).1.writeBuffer = if _ then _ else _
    rw [← h.limit]
    by_cases hmax : s.maxConsecutiveTimeouts > 0
    · rw [if_pos hmax, if_pos hmax, himg, h.image, h.config]
    · rw [if_neg hmax, if_neg hmax]
      exact h.image

/-- So is every event of the RX side. -/
theorem refines_link (h : Refines base s m) (e : LinkEvent) :
    Refines base (e.apply s) (m.link base e) := by
  cases e with
  | frame now data => exact refines_frame h now data
  | timeout rearmAt =>
    cases rearmAt with
    | none =>
      have ht := refines_timeout h none s.stats.lastReceiveTime
      rwa [handleWatchdogTimeout_rearm_same] at ht
    | some later => exact refines_timeout h (some later) later

/-- A change of the state, with whatever else no frame depends on. -/
theorem refines_transition (h : Refines base s m) (newState : CyclicState) :
    Refines base (s.transition newState) { m with state := newState } := by
  obtain ⟨log, heq⟩ := s.transition_eq newState
  rw [heq]
  exact ⟨h.srcMac, h.dstMac, h.inputIocr, h.outputIocr, h.limit, h.txStep, h.config, rfl,
    h.streak, h.cycleCounter, h.safeOutput, h.image⟩

/-- A builder with the same layout and the new image. -/
theorem refines_builder (h : Refines base s m) {b : OutputBuilder} {image : List UInt8}
    (hconfig : b.1.config = s.outputBuilder.1.config) (himage : b.1.writeBuffer = image) :
    Refines base (s.modifyBuilder fun _ => b) { m with image := image } :=
  ⟨h.srcMac, h.dstMac, h.inputIocr, h.outputIocr, h.limit, h.txStep, hconfig.trans h.config,
    h.state, h.streak, h.cycleCounter, h.safeOutput, himage⟩

/-- A write is refined by the plain output's step, accepted or refused. -/
theorem refines_write (h : Refines base s m) (slot subslot : UInt16) (data : List UInt8) :
    Refines base ((s.setOutputData slot subslot data).toOption.getD s)
      (if outputWritesLocked m.state then m else m.putData base slot subslot data) := by
  have hput := setData_put s.outputBuilder slot subslot data
  rw [h.config, h.image] at hput
  unfold Shared.setOutputData PlainOutput.putData
  rw [h.state]
  by_cases hlocked : outputWritesLocked m.state = true
  · rw [if_pos hlocked, if_pos hlocked]
    exact h
  · rw [if_neg hlocked, if_neg hlocked]
    cases hp : put base.outputBuilder.1.config m.image slot subslot data with
    | none =>
      rw [hp] at hput
      obtain ⟨e, he⟩ := hput
      rw [he]
      exact h
    | some image =>
      rw [hp] at hput
      obtain ⟨b', hset, hconfig, himage, -⟩ := hput
      rw [hset]
      exact refines_builder h (hconfig.trans h.config.symm) himage

/-- Writing the safe output is refined by the plain output's step. -/
theorem refines_applySafe {sw : Swap} (hsw : Commits sw) (h : Refines base s m) :
    Refines base (s.applySafeOutputBy sw) (m.step base .applySafe).1 := by
  unfold Shared.applySafeOutputBy PlainOutput.step
  rw [h.safeOutput]
  cases hsafe : m.safeOutput with
  | none => exact h
  -- a safe output that does not fit is reported and changes nothing
  | some r =>
    obtain ⟨slot, subslot, data⟩ := r
    have hput := setData_put s.outputBuilder slot subslot data
    rw [h.config, h.image] at hput
    show Refines base _ (m.putData base slot subslot data)
    unfold PlainOutput.putData
    cases hp : put base.outputBuilder.1.config m.image slot subslot data with
    | none =>
      rw [hp] at hput
      obtain ⟨e, he⟩ := hput
      simp only [he]
      obtain ⟨log, hlog⟩ := s.emit_eq (.error s!"safe output not applied: {e}")
      show Refines base (s.emit _) m
      rw [hlog]
      exact ⟨h.srcMac, h.dstMac, h.inputIocr, h.outputIocr, h.limit, h.txStep, h.config, h.state,
        h.streak, h.cycleCounter, h.safeOutput, h.image⟩
    | some image =>
      rw [hp] at hput
      obtain ⟨b', hset, hconfig, himage, -⟩ := hput
      simp only [hset]
      refine refines_builder h ?_ ?_
      · rw [hsw.config, hconfig, h.config]
      · rw [hsw.write, himage]
        rfl

/-- A start is refined by the plain output's step. -/
theorem refines_start {sw : Swap} (hsw : Commits sw) (h : Refines base s m) (now : Instant) :
    Refines base (if s.state.startable then s.startedBy sw now else s)
      (m.step base (.start now)).1 := by
  show Refines base _ (if m.state.startable then { m with state := .running, streak := 0 } else m)
  rw [h.state]
  by_cases hst : m.state.startable = true
  · rw [if_pos hst, if_pos hst]
    have hprep : Refines base ((s.prepareStart now).modifyBuilder sw)
        { m with state := .starting, streak := 0 } := by
      obtain ⟨log, heq⟩ := s.transition_eq .starting
      unfold Shared.prepareStart
      rw [heq]
      exact ⟨h.srcMac, h.dstMac, h.inputIocr, h.outputIocr, h.limit, h.txStep,
        (hsw.config _).trans h.config, rfl, rfl, h.cycleCounter, h.safeOutput,
        (hsw.write _).trans h.image⟩
    exact refines_transition hprep .running
  · rw [if_neg hst, if_neg hst]
    exact h

/-- **One event.**  Whatever commits the send buffer, the controller does what the single image
    does, and builds the same frame. -/
theorem refines_step {sw : Swap} (hsw : Commits sw) (h : Refines base s m) (e : CtlEvent) :
    Refines base (e.step sw s).1 (m.step base e).1 ∧ (e.step sw s).2 = (m.step base e).2 := by
  cases e with
  | link e => exact ⟨refines_link h e, rfl⟩
  | write slot subslot data => exact ⟨refines_write h slot subslot data, rfl⟩
  | setSafe slot subslot data =>
    exact ⟨⟨h.srcMac, h.dstMac, h.inputIocr, h.outputIocr, h.limit, h.txStep, h.config, h.state,
      h.streak, h.cycleCounter, rfl, h.image⟩, rfl⟩
  | applySafe => exact ⟨refines_applySafe hsw h, rfl⟩
  | move newState => exact ⟨refines_transition h newState, rfl⟩
  | start now => exact ⟨refines_start hsw h now, rfl⟩
  | build dataStatus =>
    have hcounter : s.advanceCounter.cycleCounter
        = ((m.cycleCounter.toUInt32 + base.txCounterStep) &&& 0xFFFF).toUInt16 := by
      show ((s.cycleCounter.toUInt32 + s.txCounterStep) &&& 0xFFFF).toUInt16 = _
      rw [h.cycleCounter, h.txStep]
    refine ⟨⟨h.srcMac, h.dstMac, h.inputIocr, h.outputIocr, h.limit, h.txStep,
      (hsw.config _).trans h.config, h.state, h.streak, hcounter, h.safeOutput,
      (hsw.write _).trans h.image⟩, ?_⟩
    -- the frame carries the send buffer, which is the image
    have hpayload : (sw s.outputBuilder).build = m.image := (hsw.send _).trans h.image
    show some (s.outputFrame s.advanceCounter.cycleCounter dataStatus (sw s.outputBuilder).build)
      = some _
    rw [hcounter, hpayload]
    unfold Shared.outputFrame
    rw [h.srcMac, h.dstMac, h.outputIocr]

/-- **Every run.** -/
theorem refines_run {sw : Swap} (hsw : Commits sw) (h : Refines base s m) (es : List CtlEvent) :
    Refines base (runCtl sw s es).1 (m.run base es).1
      ∧ (runCtl sw s es).2 = (m.run base es).2 := by
  induction es generalizing s m with
  | nil => exact ⟨h, rfl⟩
  | cons e es ih =>
    obtain ⟨hstep, hframe⟩ := refines_step hsw h e
    obtain ⟨hrun, hframes⟩ := ih hstep
    refine ⟨hrun, ?_⟩
    show (e.step sw s).2.toList ++ _ = (m.step base e).2.toList ++ _
    rw [hframe, hframes]

end Refinement

/-- The guard cannot be told from the plain copy: both swaps build the same frames. -/
theorem same_frames (s : Shared) (es : List CtlEvent) :
    (runCtl OutputBuilder.swap s es).2 = (runCtl copyAlways s es).2 := by
  rw [(refines_run commits_swap (refines_plain s) es).2,
    (refines_run commits_copyAlways (refines_plain s) es).2]

/-! ## What a write leaves in the image

  A write that succeeds fills the window of its object and nothing else, and stamps the object's
  provider status. -/

/-- The provider status stands behind the data of an object that has any. -/
theorem iopsPlaces_found {c : IocrConfig} {slot subslot : UInt16} {o : IoDataObject}
    (ho : c.find slot subslot = some o) : iopsPlaces c slot subslot
      = if 0 < o.dataLength then [o.iopsOffset] else [] := by
  unfold iopsPlaces
  rw [ho]

section Put

variable {c : IocrConfig} {image image' : List UInt8} {slot subslot : UInt16} {data : List UInt8}

/-- A write that succeeds has found its object. -/
theorem put_eq_some (h : put c image slot subslot data = some image') :
    ∃ o ∈ c.objects, c.find slot subslot = some o
      ∧ image' = stamp (written image o.frameOffset (data.take o.dataLength))
          (iopsPlaces c slot subslot) ioxsGood := by
  obtain ⟨o, ho, rfl⟩ := Option.map_eq_some_iff.mp h
  exact ⟨o, (IocrConfig.find_mem ho).1, ho, rfl⟩

/-- A write stays in its submodule's window and IOPS byte: the length of the image and every
    other byte are as before. -/
theorem put_outside (hfits : c.Fits) (hlen : image.length = c.dataLength) {o : IoDataObject}
    (ho : c.find slot subslot = some o) (h : put c image slot subslot data = some image') :
    image'.length = image.length
      ∧ ∀ p, ¬ (o.frameOffset ≤ p ∧ p < o.frameOffset + o.dataLength) →
          (0 < o.dataLength → p ≠ o.iopsOffset) → image'[p]? = image[p]? := by
  obtain ⟨o', hmem, ho', rfl⟩ := put_eq_some h
  obtain rfl : o = o' := Option.some.inj (ho.symm.trans ho')
  have hwin := hfits.window o hmem
  have hfit : o.frameOffset + (data.take o.dataLength).length ≤ image.length := by
    rw [hlen, List.length_take]
    omega
  have hst := stamped_stamp (written image o.frameOffset (data.take o.dataLength))
    (iopsPlaces c slot subslot) ioxsGood
  refine ⟨hst.1.trans (written_length hfit), ?_⟩
  intro p hout hiops
  rw [hst.getElem?_of_notMem, written_getElem?_outside hfit]
  · rw [List.length_take]
    omega
  · rw [iopsPlaces_found ho]
    by_cases hpos : 0 < o.dataLength
    · rw [if_pos hpos]
      exact fun hm => hiops hpos (List.mem_singleton.mp hm)
    · rw [if_neg hpos]
      exact List.not_mem_nil

/-- What a write covers of the window is what was written, and the IOPS byte is GOOD. -/
theorem put_inside (hfits : c.Fits) (hiso : c.Isolated) (hlen : image.length = c.dataLength)
    {o : IoDataObject} (ho : c.find slot subslot = some o)
    (h : put c image slot subslot data = some image') :
    (∀ i, i < data.length → i < o.dataLength → image'[o.frameOffset + i]? = data[i]?)
      ∧ (0 < o.dataLength → image'[o.iopsOffset]? = some ioxsGood) := by
  obtain ⟨o', hmem, ho', rfl⟩ := put_eq_some h
  obtain rfl : o = o' := Option.some.inj (ho.symm.trans ho')
  have hwin := hfits.window o hmem
  -- the data is cut to the object, so it stays within the image
  have hfit : o.frameOffset + (data.take o.dataLength).length ≤ image.length := by
    rw [hlen, List.length_take]
    omega
  have hst := stamped_stamp (written image o.frameOffset (data.take o.dataLength))
    (iopsPlaces c slot subslot) ioxsGood
  rw [iopsPlaces_found ho] at hst ⊢
  constructor
  -- the status byte stands outside the object's own data
  · intro i hi hio
    have hpos : 0 < o.dataLength := by omega
    rw [hst.getElem?_of_notMem, written_getElem?_inside hfit (by rw [List.length_take]; omega),
      List.getElem?_take_of_lt hio]
    rw [if_pos hpos]
    exact fun hm => hiso.window_iops hmem hmem hpos (p := o.frameOffset + i)
      ⟨Nat.le_add_right _ _, by omega⟩ (List.mem_singleton.mp hm)
  · intro hpos
    have hlt := hfits.iops o hmem hpos
    refine hst.getElem?_of_mem ?_ (by rw [written_length hfit]; omega)
    rw [if_pos hpos]
    exact List.mem_singleton.mpr rfl

/-- A write leaves the consumer status bytes alone. -/
theorem put_iocs (hfits : c.Fits) (hiso : c.Isolated) (hlen : image.length = c.dataLength)
    (h : put c image slot subslot data = some image') :
    image'.length = image.length ∧ ∀ p ∈ c.iocsOffsets, image'[p]? = image[p]? := by
  obtain ⟨o, hmem, ho, -⟩ := put_eq_some h
  obtain ⟨hlen', hout⟩ := put_outside hfits hlen ho h
  exact ⟨hlen', fun p hp => hout p (hiso.window_iocs hmem hp) fun hpos =>
    hiso.iops_iocs hmem hpos hp⟩

end Put

/-! ## Receiving and transmitting

  Neither frames and timeouts nor transmissions write data: every byte outside the status offsets
  stays. -/

/-- Receiving and transmitting: everything but the caller's own operations. -/
def CtlEvent.passive : CtlEvent → Bool
  | .link _ | .build _ => true
  | _ => false

/-- Passive events leave the data alone. -/
theorem keepsData_passive (s : Shared) {e : CtlEvent} (he : e.passive = true) :
    KeepsData s.outputBuilder (e.step OutputBuilder.swap s).1.outputBuilder := by
  have h := (refines_step commits_swap (refines_plain s) e).1
  refine ⟨h.config, ?_⟩
  intro p hp
  -- a stamp writes status offsets only, and `p` is none of them
  have hstamp : ∀ x, (stamp s.outputBuilder.1.writeBuffer s.outputBuilder.1.config.iocsOffsets x)[p]?
      = s.outputBuilder.1.writeBuffer[p]? :=
    fun x => (stamped_stamp _ _ x).getElem?_of_notMem hp
  rw [h.image]
  cases e with
  | link e =>
    cases e with
    | frame now data =>
      show (if (s.accepted data).isSome = true then s.plain.accept s else s.plain).image[p]? = _
      by_cases hacc : (s.accepted data).isSome = true
      · rw [if_pos hacc]
        exact hstamp ioxsGood
      · rw [if_neg hacc]
        rfl
    | timeout rearmAt =>
      show (if s.maxConsecutiveTimeouts > 0 then _ else _ : List UInt8)[p]? = _
      by_cases hmax : s.maxConsecutiveTimeouts > 0
      · rw [if_pos hmax]
        exact hstamp ioxsBad
      · rw [if_neg hmax]
        rfl
  | build dataStatus => rfl
  | _ => nomatch he

/-- Events that write no data keep the data of every object. -/
theorem keepsData_run (s : Shared) {es : List CtlEvent} (hes : ∀ e ∈ es, e.passive = true) :
    KeepsData s.outputBuilder (runCtl OutputBuilder.swap s es).1.outputBuilder := by
  induction es generalizing s with
  | nil => exact .refl _
  | cons e es ih =>
    exact (keepsData_passive s (hes e List.mem_cons_self)).trans
      (ih _ fun e' he' => hes e' (List.mem_cons_of_mem e he'))

/-! ## The consumer status bytes, from the history

  The consumer status is the verdict on the last frame or timeout, if timeouts count; if they do
  not, it is GOOD from the first accepted frame on. -/

namespace CtlEvent

/-- Is it an accepted frame? -/
def isAccepted (base : Shared) : CtlEvent → Bool
  | .link e => e.isAccepted base
  | _ => false

/-- Is it a timeout? -/
def isTimeout : CtlEvent → Bool
  | .link e => e.isTimeout
  | _ => false

end CtlEvent

/-- The last event that was an accepted frame or a watchdog timeout. -/
def lastVerdict (base : Shared) (es : List CtlEvent) : Option CtlEvent :=
  es.reverse.find? fun e => e.isAccepted base || e.isTimeout

/-- The consumer status the history calls for. -/
def statusAfter (base : Shared) (x : UInt8) (es : List CtlEvent) : UInt8 :=
  es.foldl (fun x e =>
    if e.isAccepted base then ioxsGood
    else if e.isTimeout && base.maxConsecutiveTimeouts > 0 then ioxsBad
    else x) x

/-- The consumer status after one more event. -/
theorem statusAfter_snoc (base : Shared) (x : UInt8) (es : List CtlEvent) (e : CtlEvent) :
    statusAfter base x (es ++ [e])
      = if e.isAccepted base then ioxsGood
        else if e.isTimeout && base.maxConsecutiveTimeouts > 0 then ioxsBad
        else statusAfter base x es := by
  rw [statusAfter, List.foldl_append]
  rfl

/-- The last verdict after one more event. -/
theorem lastVerdict_snoc (base : Shared) (es : List CtlEvent) (e : CtlEvent) :
    lastVerdict base (es ++ [e])
      = if e.isAccepted base || e.isTimeout then some e else lastVerdict base es := by
  unfold lastVerdict
  rw [List.reverse_append, List.reverse_singleton, List.singleton_append, List.find?_cons]
  cases e.isAccepted base || e.isTimeout <;> rfl

/-- With faulting enabled the status is GOOD when the last verdict was an accepted frame. -/
theorem statusAfter_enabled (base : Shared) (hmax : base.maxConsecutiveTimeouts > 0)
    (es : List CtlEvent) :
    statusAfter base ioxsBad es
      = if (lastVerdict base es).any (fun e => e.isAccepted base) then ioxsGood else ioxsBad := by
  induction es using List.reverseRecOn with
  | nil => rfl
  | append_singleton es e ih =>
    rw [statusAfter_snoc, lastVerdict_snoc]
    by_cases hacc : e.isAccepted base = true
    · simp [hacc]
    · by_cases ht : e.isTimeout = true
      · simp [hacc, ht, hmax]
      · simp [hacc, ht, ih]

/-- With faulting disabled it is GOOD from the first accepted frame on. -/
theorem statusAfter_disabled (base : Shared) (hmax : base.maxConsecutiveTimeouts = 0)
    (es : List CtlEvent) :
    statusAfter base ioxsBad es
      = if es.any (fun e => e.isAccepted base) then ioxsGood else ioxsBad := by
  induction es using List.reverseRecOn with
  | nil => rfl
  | append_singleton es e ih =>
    rw [statusAfter_snoc, List.any_append, ih]
    by_cases hacc : e.isAccepted base = true
    · simp [hacc]
    · simp [hacc, hmax]

/-- The image is as long as the frame's payload, and its consumer status bytes are all `x`. -/
structure Status (c : IocrConfig) (x : UInt8) (image : List UInt8) : Prop where
  length : image.length = c.dataLength
  iocs : ∀ p ∈ c.iocsOffsets, image[p]? = some x

section Runs

variable {base : Shared}

/-- Stamping the consumer statuses sets them. -/
theorem Status.stamped {c : IocrConfig} (hfits : c.Fits) {x : UInt8} {image : List UInt8}
    (h : Status c x image) (y : UInt8) : Status c y (stamp image c.iocsOffsets y) := by
  have hst := stamped_stamp image c.iocsOffsets y
  exact ⟨hst.1.trans h.length, fun p hp =>
    hst.getElem?_of_mem hp (by rw [h.length]; exact hfits.iocs p hp)⟩

/-- A write of data leaves the consumer statuses alone. -/
theorem Status.putData {x : UInt8} {m : PlainOutput}
    (hiso : base.outputBuilder.1.config.Isolated)
    (h : Status base.outputBuilder.1.config x m.image) (slot subslot : UInt16)
    (data : List UInt8) :
    Status base.outputBuilder.1.config x (m.putData base slot subslot data).image := by
  unfold PlainOutput.putData
  cases hp : put base.outputBuilder.1.config m.image slot subslot data with
  | none => exact h
  | some image =>
    obtain ⟨hlen, hiocs⟩ := put_iocs base.outputBuilder.2.fits hiso h.length hp
    exact ⟨hlen.trans h.length, fun p hp => (hiocs p hp).trans (h.iocs p hp)⟩

/-- One event leaves the consumer status bytes at what its verdict calls for. -/
theorem Status.step {x : UInt8} {m : PlainOutput} (hiso : base.outputBuilder.1.config.Isolated)
    (h : Status base.outputBuilder.1.config x m.image) (e : CtlEvent) :
    Status base.outputBuilder.1.config (statusAfter base x [e]) (m.step base e).1.image := by
  have hfits := base.outputBuilder.2.fits
  -- accepted frames and timeouts stamp; writes leave the status offsets alone
  cases e with
  | link e =>
    cases e with
    | frame now data =>
      show Status _ (if (base.accepted data).isSome = true then _ else _)
        (if (base.accepted data).isSome = true then m.accept base else m).image
      by_cases hacc : (base.accepted data).isSome = true
      · rw [if_pos hacc, if_pos hacc]
        exact h.stamped hfits ioxsGood
      · rw [if_neg hacc, if_neg hacc]
        exact h
    | timeout rearmAt =>
      show Status _ (if (decide (base.maxConsecutiveTimeouts > 0)) = true then ioxsBad else x)
        (if base.maxConsecutiveTimeouts > 0 then _ else _)
      by_cases hmax : base.maxConsecutiveTimeouts > 0
      · rw [if_pos (decide_eq_true hmax), if_pos hmax]
        exact h.stamped hfits ioxsBad
      · rw [if_neg (by simpa using hmax), if_neg hmax]
        exact h
  | write slot subslot data =>
    show Status _ x (if outputWritesLocked m.state then m
      else m.putData base slot subslot data).image
    by_cases hlocked : outputWritesLocked m.state = true
    · rw [if_pos hlocked]
      exact h
    · rw [if_neg hlocked]
      exact h.putData hiso slot subslot data
  | setSafe slot subslot data => exact h
  | applySafe =>
    unfold PlainOutput.step
    cases m.safeOutput with
    | none => exact h
    | some r => exact h.putData hiso r.1 r.2.1 r.2.2
  | move newState => exact h
  | start now =>
    show Status _ x (if m.state.startable then _ else m).image
    by_cases hst : m.state.startable = true
    · rw [if_pos hst]
      exact h
    · rw [if_neg hst]
      exact h
  | build dataStatus => exact h

/-- **The consumer status bytes of the image follow the history of events.** -/
theorem Status.run {x : UInt8} {m : PlainOutput} (hiso : base.outputBuilder.1.config.Isolated)
    (h : Status base.outputBuilder.1.config x m.image) (es : List CtlEvent) :
    Status base.outputBuilder.1.config (statusAfter base x es) (m.run base es).1.image := by
  induction es generalizing x m with
  | nil => exact h
  | cons e es ih => exact ih (h.step hiso e)

end Runs

/-- The IOCS bytes of a new builder are BAD. -/
theorem status_new {c : IocrConfig} (hfits : c.Fits) (hiso : c.Isolated) :
    Status c ioxsBad (OutputBuilder.new c hfits).1.writeBuffer := by
  obtain ⟨-, hst⟩ := OutputBuilder.new_facts c hfits
  refine ⟨hst.1.trans List.length_replicate, ?_⟩
  intro p hp
  have hiops : p ∉ c.iopsOffsets := by
    intro hm
    obtain ⟨o, ho, hpos, hop⟩ := IocrConfig.mem_iopsOffsets.mp hm
    exact hiso.iops_iocs ho hpos hp hop.symm
  rw [hst.getElem?_of_notMem hiops, List.getElem?_replicate, if_pos (hfits.iocs p hp)]
  rfl

/-- A new controller has the layout it was given, faulting as asked, and all IOCS bytes BAD. -/
theorem new_facts {srcMac dstMac : Mac} {inputIocr outputIocr : IocrConfig}
    {hfits : outputIocr.Fits} {maxConsecutiveTimeouts : UInt32} {now : Instant} {s : Shared}
    (hnew : Shared.new srcMac dstMac inputIocr outputIocr hfits maxConsecutiveTimeouts now = some s)
    (hiso : outputIocr.Isolated) :
    s.outputBuilder.1.config = outputIocr
      ∧ s.maxConsecutiveTimeouts = maxConsecutiveTimeouts
      ∧ Status outputIocr ioxsBad s.outputBuilder.1.writeBuffer := by
  unfold Shared.new at hnew
  split at hnew
  · nomatch hnew
  · obtain rfl := Option.some.inj hnew
    exact ⟨(OutputBuilder.new_facts _ hfits).1, rfl, status_new hfits hiso⟩

/-- A frame carries the image: payload byte `p` is byte `20 + p` of it. -/
theorem outputFrame_byte (s : Shared) (counter : UInt16) (dataStatus : Option UInt8)
    {payload : List UInt8} {p : Nat} (hp : p < payload.length) :
    (s.outputFrame counter dataStatus payload)[20 + p]? = payload[p]? :=
  buildEthernetFrame_payload _ _ _ hp

/-- The IOCS bytes of the next frame are what the history calls for. -/
theorem nextFrame_iocs {s : Shared} (hiso : s.outputBuilder.1.config.Isolated)
    (hstart : Status s.outputBuilder.1.config ioxsBad s.outputBuilder.1.writeBuffer)
    (es : List CtlEvent) (dataStatus : Option UInt8) {p : Nat}
    (hp : p ∈ s.outputBuilder.1.config.iocsOffsets) :
    (((runCtl OutputBuilder.swap s es).1.nextOutputFrame dataStatus).1)[20 + p]?
      = some (statusAfter s ioxsBad es) := by
  have hrun := Status.run (m := s.plain) hiso hstart es
  have hframe := (refines_step commits_swap (refines_run commits_swap (refines_plain s) es).1
    (.build dataStatus)).2
  have hf : ((runCtl OutputBuilder.swap s es).1.nextOutputFrame dataStatus).1
      = s.outputFrame _ dataStatus (s.plain.run s es).1.image := Option.some.inj hframe
  rw [hf, outputFrame_byte _ _ _ (by rw [hrun.length]; exact s.outputBuilder.2.fits.iocs p hp),
    hrun.iocs p hp]

/-- **Consumer status and double buffer.**  On every output layout built from a slot list, from
    the new controller on and after any sequence of events, every IOCS byte of the next frame is
    GOOD exactly when the history ends well: with faulting enabled, when the last accepted frame
    has seen no timeout since; with faulting disabled, when there was an accepted frame.  And
    copying without the dirty flag builds the same frames. -/
theorem consumer_status (slots : List IoSlot) (inputFrameId outputFrameId sendClockFactor
    reductionRatio watchdogFactor : UInt16) (srcMac dstMac : Mac)
    (maxConsecutiveTimeouts : UInt32) (now : Instant) {s : Shared}
    (hnew : Shared.new srcMac dstMac
      (inputConfig slots inputFrameId outputFrameId sendClockFactor reductionRatio watchdogFactor)
      (outputConfig slots inputFrameId outputFrameId sendClockFactor reductionRatio watchdogFactor)
      (output_fits slots inputFrameId outputFrameId sendClockFactor reductionRatio watchdogFactor)
      maxConsecutiveTimeouts now = some s)
    (es : List CtlEvent) (dataStatus : Option UInt8) :
    let t := (runCtl OutputBuilder.swap s es).1
    let frame := (t.nextOutputFrame dataStatus).1
    (∀ p ∈ (outputConfig slots inputFrameId outputFrameId sendClockFactor reductionRatio
        watchdogFactor).iocsOffsets,
      (frame[20 + p]? = some ioxsGood ∨ frame[20 + p]? = some ioxsBad)
      ∧ (maxConsecutiveTimeouts > 0 → (frame[20 + p]? = some ioxsGood
          ↔ ∃ e, lastVerdict s es = some e ∧ e.isAccepted s = true))
      ∧ (maxConsecutiveTimeouts = 0 → (frame[20 + p]? = some ioxsGood
          ↔ ∃ e ∈ es, e.isAccepted s = true)))
    ∧ (runCtl OutputBuilder.swap s es).2 = (runCtl copyAlways s es).2 := by
  intro t frame
  refine ⟨?_, same_frames s es⟩
  intro p hp
  have hiso := output_isolated slots inputFrameId outputFrameId sendClockFactor reductionRatio
    watchdogFactor
  obtain ⟨hconfig, hmax, hstart⟩ := new_facts hnew hiso
  -- at a status offset the frame carries the last stamp
  have hbyte : frame[20 + p]? = some (statusAfter s ioxsBad es) :=
    nextFrame_iocs (by rw [hconfig]; exact hiso) (by rw [hconfig]; exact hstart) es dataStatus
      (by rw [hconfig]; exact hp)
  have hne : (some ioxsBad : Option UInt8) ≠ some ioxsGood := by decide
  refine ⟨?_, ?_, ?_⟩
  · rw [hbyte]
    have hstatus : statusAfter s ioxsBad es = ioxsGood ∨ statusAfter s ioxsBad es = ioxsBad := by
      by_cases hpos : s.maxConsecutiveTimeouts > 0
      · rw [statusAfter_enabled s hpos]
        exact ite_eq_or_eq _ _ _
      · have hzero : s.maxConsecutiveTimeouts = 0 := by
          simpa using hpos
        rw [statusAfter_disabled s hzero]
        exact ite_eq_or_eq _ _ _
    rcases hstatus with h | h
    · exact .inl (by rw [h])
    · exact .inr (by rw [h])
  · intro hpos
    -- with timeouts counted the last verdict decides; without them, whether there was one at all
    rw [hbyte, statusAfter_enabled s (by rw [hmax]; exact hpos)]
    cases hv : lastVerdict s es with
    | none => simpa using hne
    | some e =>
      by_cases hacc : e.isAccepted s = true
      · simp [hacc]
      · simpa [hacc] using hne
  · intro hzero
    rw [hbyte, statusAfter_disabled s (by rw [hmax]; exact hzero)]
    by_cases hany : es.any (fun e => e.isAccepted s) = true
    · rw [if_pos hany]
      exact iff_of_true rfl (by simpa using hany)
    · rw [if_neg hany]
      exact iff_of_false hne (by simpa using hany)

/-- On the bench the input-only submodule has its IOCS byte at payload byte 6: a frame after a
    timeout acknowledges it. -/
theorem consumer_status_bench :
    (((runCtl OutputBuilder.swap bench [.link (.timeout none),
      .link (.frame 5 benchFrame)]).1.nextOutputFrame none).1)[20 + 6]? = some ioxsGood := by
  have hnew : Shared.new benchController benchDevice (inputConfig benchSlots 0xC001 0xC002 32 1 3)
      (outputConfig benchSlots 0xC001 0xC002 32 1 3)
      (output_fits benchSlots 0xC001 0xC002 32 1 3) 3 0 = some bench := if_neg (by decide)
  have h := (consumer_status benchSlots 0xC001 0xC002 32 1 3 benchController benchDevice 3 0 hnew
    [.link (.timeout none), .link (.frame 5 benchFrame)] none).1 6 (by decide)
  exact (h.2.1 (by decide)).mpr ⟨.link (.frame 5 benchFrame), rfl, by decide⟩

end Profinet.Cyclic
