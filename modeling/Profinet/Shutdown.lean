/-
  SHUTDOWN: what `stop` is against the threads it has not joined yet.

  `stop` moves the state to Stopping, clears the run flag, joins the TX thread, sends the STOP
  frames, joins the RX thread and moves the state to Stopped.  An RX thread reads the state in
  one section and moves it in the next, so a thread that has read RUNNING (or FAULT) before the
  Stopping transition and moves after it overwrites Stopping.

  Nothing else does: `shutDown_step` is the invariant of everything that follows a Stopping
  transition no such thread was around for, up to the next `start`.  `shutdown_final` says that
  this is the exact condition.
-/
import Profinet.OwnerEffects

namespace Profinet.Cyclic

open Util Rt

/-! ## The phases after Stopping

  The positions of the owner from the transition to Stopping to the end of its call, and what the
  state is there. -/

/-- The sections of `stop` behind the cleared run flag. -/
inductive OwnerPc.Closing : OwnerPc → Prop
  | joinTx : Closing .joinTx
  | burstSwap (i : Nat) : Closing (.burstSwap i)
  | burstCounter (i : Nat) : Closing (.burstCounter i)
  | burstCommit (i : Nat) (cycleCounter : UInt16) : Closing (.burstCommit i cycleCounter)
  | burstSend (i : Nat) : Closing (.burstSend i)
  | burstCount (i : Nat) : Closing (.burstCount i)
  | joinRx : Closing .joinRx
  | stopped : Closing .stopped

/-- The sections of a call on a controller that is not running, `start` aside. -/
inductive OwnerPc.Resting : OwnerPc → Prop
  | idle : Resting .idle
  | setSafe (slot subslot : UInt16) (data : List UInt8) : Resting (.setSafe slot subslot data)
  | writeRead (slot subslot : UInt16) (data : List UInt8) : Resting (.writeRead slot subslot data)
  | writeData (slot subslot : UInt16) (data : List UInt8) : Resting (.writeData slot subslot data)
  | safeRead : Resting .safeRead
  | safeApply (safe : Option (UInt16 × UInt16 × List UInt8)) : Resting (.safeApply safe)
  | stopLoad : Resting .stopLoad

theorem OwnerPc.Closing.not_starts {pc : OwnerPc} (h : pc.Closing) : pc.starts = false := by
  cases h <;> rfl

theorem OwnerPc.Resting.not_starts {pc : OwnerPc} (h : pc.Resting) : pc.starts = false := by
  cases h <;> rfl

/-- The phase of a shutdown: the owner's section with the state and the run flag it goes with. -/
inductive Phase (y : Sys) : Prop
  | begun (owner : y.owner = .stopClear) (state : y.sh.state = .stopping)
  | closing (owner : y.owner.Closing) (state : y.sh.state = .stopping)
      (running : y.sh.running = false)
  | closed (owner : y.owner.Resting) (state : y.sh.state = .stopped)
      (running : y.sh.running = false)

/-- A shutdown nobody can undo: its phase, and no RX thread about to move the state. -/
structure ShutDown (y : Sys) : Prop where
  phase : Phase y
  undecided : ∀ pc ∈ y.rx, pc.decided = false

/-- No fault is latched, and no RX thread is about to latch one. -/
structure Faultless (y : Sys) : Prop where
  everFaulted : y.sh.everFaulted = false
  latchFree : ∀ pc ∈ y.rx, pc.latches = false

theorem Phase.state {y : Sys} (h : Phase y) :
    y.sh.state = .stopping ∨ y.sh.state = .stopped := by
  cases h with
  | begun _ hs => exact .inl hs
  | closing _ hs _ => exact .inl hs
  | closed _ hs _ => exact .inr hs

theorem Phase.not_starts {y : Sys} (h : Phase y) : y.owner.starts = false := by
  cases h with
  | begun howner _ => rw [howner]; rfl
  | closing howner _ _ => exact howner.not_starts
  | closed howner _ _ => exact howner.not_starts

/-- What a thread does not touch keeps the phase. -/
theorem Phase.of_eq {y y' : Sys} (h : Phase y) (howner : y'.owner = y.owner)
    (hstate : y'.sh.state = y.sh.state) (hrunning : y'.sh.running = y.sh.running) : Phase y' := by
  cases h with
  | begun ho hs => exact .begun (howner.trans ho) (hstate.trans hs)
  | closing ho hs hr => exact .closing (howner ▸ ho) (hstate.trans hs) (hrunning.trans hr)
  | closed ho hs hr => exact .closed (howner ▸ ho) (hstate.trans hs) (hrunning.trans hr)

/-! ## One step

  A step of the owner goes on through the phases; a step of a loop leaves the state alone, unless
  it had decided before. -/

/-- A section of `stop` behind the cleared run flag: the next one, or the end in Stopped. -/
theorem ownerStep_closing {now : Instant} {ok : Bool} {y y' : Sys} (hpc : y.owner.Closing)
    (hstate : y.sh.state = .stopping) (hrunning : y.sh.running = false)
    (h : ownerStep now ok y = some y') : Phase y' := by
  unfold ownerStep at h
  generalize howner : y.owner = pc at hpc h
  -- one step of `stop`, from the first join to the last write of the state
  cases hpc with
  | joinTx =>
    dsimp only at h
    split at h
    · cases h
      exact .closing .joinRx hstate hrunning
    · split at h
      · cases h
        exact .closing (.burstSwap 0) hstate hrunning
      · nomatch h
  | burstSwap i =>
    dsimp only at h
    split at h
    · cases h
      exact .closing (.burstCounter i) hstate hrunning
    · cases h
      exact .closing .joinRx hstate hrunning
  | burstCounter i =>
    cases h
    exact .closing (.burstCommit i _) hstate hrunning
  | burstCommit i cycleCounter =>
    cases h
    exact .closing (.burstSend i) hstate hrunning
  | burstSend i =>
    cases h
    cases ok with
    | true => exact .closing (.burstCount i) hstate hrunning
    | false => exact .closing .joinRx hstate hrunning
  | burstCount i =>
    cases h
    exact .closing (.burstSwap (i + 1)) hstate hrunning
  | joinRx =>
    dsimp only at h
    split at h
    · cases h
      exact .closing .stopped hstate hrunning
    · split at h
      · cases h
        exact .closing .stopped hstate hrunning
      · nomatch h
  | stopped =>
    cases h
    obtain ⟨h1, h2, h3, -⟩ := moveTo_effect y .stopped .idle
    exact .closed (by rw [h1]; exact .idle) h2 (h3.trans hrunning)

/-- A section of a call on a controller that is not running leaves the state; a `stop` among
    them ends at the run flag. -/
theorem ownerStep_resting {now : Instant} {ok : Bool} {y y' : Sys} (hpc : y.owner.Resting)
    (hrunning : y.sh.running = false) (h : ownerStep now ok y = some y') :
    y'.owner.Resting ∧ y'.sh.state = y.sh.state ∧ y'.sh.running = y.sh.running := by
  unfold ownerStep at h
  -- the owner rests: `start` and `stop` end at their first test
  generalize howner : y.owner = pc at hpc h
  cases hpc with
  | idle => nomatch h
  | setSafe slot subslot data =>
    cases h
    exact ⟨.idle, rfl, rfl⟩
  | writeRead slot subslot data =>
    cases h
    refine ⟨?_, rfl, rfl⟩
    show OwnerPc.Resting (if _ then _ else _)
    split
    · exact .idle
    · exact .writeData slot subslot data
  | writeData slot subslot data =>
    dsimp only at h
    split at h
    · cases h
      exact ⟨.idle, rfl, rfl⟩
    · cases h
      exact ⟨.idle, rfl, rfl⟩
  | safeRead =>
    cases h
    exact ⟨.safeApply _, rfl, rfl⟩
  | safeApply safe =>
    cases safe with
    | none =>
      cases h
      exact ⟨.stopLoad, rfl, rfl⟩
    | some entry =>
      obtain ⟨slot, subslot, data⟩ := entry
      dsimp only at h
      split at h
      · cases h
        exact ⟨.stopLoad, (quiet_emit y.sh _).state, (quiet_emit y.sh _).running⟩
      · cases h
        exact ⟨.stopLoad, rfl, rfl⟩
  | stopLoad =>
    cases h
    refine ⟨?_, rfl, rfl⟩
    show OwnerPc.Resting (if y.sh.running then _ else _)
    rw [hrunning]
    exact .idle

/-- A step of the owner keeps the phases in order. -/
theorem Phase.owner_step {now : Instant} {ok : Bool} {y y' : Sys} (hy : Phase y)
    (h : ownerStep now ok y = some y') : Phase y' := by
  cases hy with
  | begun howner hstate =>
    unfold ownerStep at h
    rw [howner] at h
    cases h
    exact .closing .joinTx hstate rfl
  | closing howner hstate hrunning => exact ownerStep_closing howner hstate hrunning h
  | closed howner hstate hrunning =>
    obtain ⟨h1, h2, h3⟩ := ownerStep_resting howner hrunning h
    exact .closed h1 (h2.trans hstate) (h3.trans hrunning)

/-- Calls other than `start` are taken after the end only. -/
theorem Phase.call_step {y y' : Sys} {c : Call} (hy : Phase y) (hc : c ≠ .start)
    (h : step y (.call c) = some y') : Phase y' := by
  obtain ⟨hidle, rfl⟩ := step_call h
  cases hy with
  | begun howner _ =>
    rw [hidle] at howner
    nomatch howner
  | closing howner _ _ =>
    rw [hidle] at howner
    nomatch howner
  | closed _ hstate hrunning =>
    refine .closed ?_ hstate hrunning
    cases c with
    | start => exact absurd rfl hc
    | stop => exact .safeRead
    | setOutputData slot subslot data => exact .writeRead slot subslot data
    | setSafeOutput slot subslot data => exact .setSafe slot subslot data

/-- In Stopping and Stopped there is nothing to decide: the sections that read the state look
    for RUNNING or FAULT. -/
theorem RxEffect.undecided {sh sh' : Shared} {pc pc' : RxPc} (he : RxEffect sh sh' pc pc')
    (hs : sh.state = .stopping ∨ sh.state = .stopped) : pc'.decided = false := by
  cases hdec : pc'.decided with
  | false => rfl
  | true =>
    rcases he.decides hdec with h | h <;> rcases hs with hs | hs <;> rw [h] at hs <;> nomatch hs

/-- **No step but a `start` gets out of a shutdown.** -/
theorem shutDown_step {y y' : Sys} {a : Act} (ha : a ≠ .call .start) (hy : ShutDown y)
    (h : step y a = some y') : ShutDown y' := by
  cases a with
  | call c =>
    have hph := hy.phase.call_step (fun hc => ha (by rw [hc])) h
    obtain ⟨-, rfl⟩ := step_call h
    exact ⟨hph, hy.undecided⟩
  | owner now ok =>
    refine ⟨hy.phase.owner_step h, ?_⟩
    rw [(ownerStep_effect h).rx hy.phase.not_starts]
    exact hy.undecided
  | rx i now r =>
    obtain ⟨pc, sh, pc', hpc, hstep, rfl⟩ := step_rx h
    -- the loop had not decided on a state, so it leaves the state alone
    have he := rxStep_effect hstep
    have hpc0 := hy.undecided pc (List.mem_of_getElem? hpc)
    refine ⟨hy.phase.of_eq rfl (he.state hpc0) he.running, ?_⟩
    intro q hq
    rcases List.mem_or_eq_of_mem_set hq with hq | rfl
    · exact hy.undecided q hq
    · exact he.undecided hy.phase.state
  | tx i now sendError =>
    obtain ⟨t, sh, t', frame, hstep, rfl⟩ := step_tx h
    rcases txStep_effect hstep with ⟨hq, -⟩ | ⟨rfl, -⟩
    · exact ⟨hy.phase.of_eq rfl hq.state hq.running, hy.undecided⟩
    · exact ⟨hy.phase.of_eq rfl rfl rfl, hy.undecided⟩

/-- Stopped is the last phase. -/
theorem stopped_step {y y' : Sys} {a : Act} (ha : a ≠ .call .start) (hy : ShutDown y)
    (hs : y.sh.state = .stopped) (h : step y a = some y') : y'.sh.state = .stopped := by
  cases a with
  | call c =>
    obtain ⟨-, rfl⟩ := step_call h
    exact hs
  | owner now ok =>
    cases hy.phase with
    | begun _ hs' =>
      rw [hs] at hs'
      nomatch hs'
    | closing _ hs' _ =>
      rw [hs] at hs'
      nomatch hs'
    | closed howner hstate hrunning =>
      exact (ownerStep_resting howner hrunning h).2.1.trans hs
  | rx i now r =>
    obtain ⟨pc, sh, pc', hpc, hstep, rfl⟩ := step_rx h
    exact ((rxStep_effect hstep).state (hy.undecided pc (List.mem_of_getElem? hpc))).trans hs
  | tx i now sendError =>
    obtain ⟨t, sh, t', frame, hstep, rfl⟩ := step_tx h
    rcases txStep_effect hstep with ⟨hq, -⟩ | ⟨rfl, -⟩
    · exact hq.state.trans hs
    · exact hs

/-- A shutdown latches no fault. -/
theorem faultless_step {y y' : Sys} {a : Act} (hy : ShutDown y) (hf : Faultless y)
    (h : step y a = some y') : Faultless y' := by
  cases a with
  | call c =>
    obtain ⟨-, rfl⟩ := step_call h
    exact ⟨hf.everFaulted, hf.latchFree⟩
  | owner now ok =>
    have he := ownerStep_effect h
    have hstarts := hy.phase.not_starts
    exact ⟨(he.everFaulted hstarts).trans hf.everFaulted, by
      rw [he.rx hstarts]
      exact hf.latchFree⟩
  | rx i now r =>
    obtain ⟨pc, sh, pc', hpc, hstep, rfl⟩ := step_rx h
    have he := rxStep_effect hstep
    have hmem := List.mem_of_getElem? hpc
    -- only a decided loop owes a latch
    refine ⟨(he.everFaulted (hf.latchFree pc hmem)).trans hf.everFaulted, ?_⟩
    intro q hq
    rcases List.mem_or_eq_of_mem_set hq with hq | rfl
    · exact hf.latchFree q hq
    · cases hl : q.latches with
      | false => rfl
      | true =>
        have hdec := he.owes hl
        rw [hy.undecided pc hmem] at hdec
        nomatch hdec
  | tx i now sendError =>
    obtain ⟨t, sh, t', frame, hstep, rfl⟩ := step_tx h
    rcases txStep_effect hstep with ⟨hq, -⟩ | ⟨rfl, -⟩
    · exact ⟨hq.everFaulted.trans hf.everFaulted, hf.latchFree⟩
    · exact ⟨hf.everFaulted, hf.latchFree⟩

/-! ## Whole runs

  Up to the next `start` the phases are kept, so a loop that overwrites Stopping had read the
  state before it was written. -/

/-- A run that does not start the controller again. -/
def NoStart (as : List Act) : Prop := ∀ a ∈ as, a ≠ .call .start

theorem shutDown_run {y z : Sys} {as : List Act} (has : NoStart as) (hy : ShutDown y)
    (h : runSys y as = some z) : ShutDown z :=
  runSys_invariant (fun _ _ _ ha hm hs => shutDown_step ha hm hs) has hy h

theorem stopped_run {y z : Sys} {as : List Act} (has : NoStart as) (hy : ShutDown y)
    (hs : y.sh.state = .stopped) (h : runSys y as = some z) : z.sh.state = .stopped :=
  (runSys_invariant (P := fun m => ShutDown m ∧ m.sh.state = .stopped)
    (fun _ _ _ ha hm hst => ⟨shutDown_step ha hm.1 hst, stopped_step ha hm.1 hm.2 hst⟩) has ⟨hy, hs⟩ h).2

theorem faultless_run {y z : Sys} {as : List Act} (has : NoStart as) (hy : ShutDown y)
    (hf : Faultless y) (h : runSys y as = some z) : Faultless z :=
  (runSys_invariant (P := fun m => ShutDown m ∧ Faultless m)
    (fun _ _ _ ha hm hst => ⟨shutDown_step ha hm.1 hst, faultless_step hm.1 hm.2 hst⟩) has ⟨hy, hf⟩ h).2

/-- Only a call of `start` gets the owner there, and only `start` resets the fault latch. -/
theorem latched_step {y y' : Sys} {a : Act} (ha : a ≠ .call .start)
    (howner : y.owner.starts = false) (h : step y a = some y') :
    y'.owner.starts = false ∧ (y.sh.everFaulted = true → y'.sh.everFaulted = true) := by
  cases a with
  | call c =>
    obtain ⟨-, rfl⟩ := step_call h
    cases c with
    | start => exact absurd rfl ha
    | _ => exact ⟨rfl, id⟩
  | owner now ok =>
    have he := ownerStep_effect h
    exact ⟨he.stays howner, (he.everFaulted howner).trans⟩
  | rx i now r =>
    obtain ⟨pc, sh, pc', -, hstep, rfl⟩ := step_rx h
    exact ⟨howner, (rxStep_effect hstep).latched⟩
  | tx i now sendError =>
    obtain ⟨t, sh, t', frame, hstep, rfl⟩ := step_tx h
    rcases txStep_effect hstep with ⟨hq, -⟩ | ⟨rfl, -⟩
    · exact ⟨howner, hq.everFaulted.trans⟩
    · exact ⟨howner, id⟩

theorem not_starts_run {y z : Sys} {as : List Act} (has : NoStart as)
    (howner : y.owner.starts = false) (h : runSys y as = some z) : z.owner.starts = false :=
  runSys_invariant (fun _ _ _ ha hm hst => (latched_step ha hm hst).1) has howner h

theorem latched_run {y z : Sys} {as : List Act} (has : NoStart as)
    (howner : y.owner.starts = false) (hev : y.sh.everFaulted = true)
    (h : runSys y as = some z) : z.sh.everFaulted = true :=
  (runSys_invariant (P := fun m => m.owner.starts = false ∧ m.sh.everFaulted = true)
    (fun _ _ _ ha hm hst =>
      ⟨(latched_step ha hm.1 hst).1, (latched_step ha hm.1 hst).2 hm.2⟩) has ⟨howner, hev⟩ h).2

/-- From `y` on, until the next `start`, the state is Stopping and then Stopped. -/
def Final (y : Sys) : Prop :=
  ∀ as bs m z, NoStart as → NoStart bs → runSys y as = some m → runSys m bs = some z →
    (m.sh.state = .stopping ∨ m.sh.state = .stopped)
      ∧ (m.sh.state = .stopped → z.sh.state = .stopped)

/-- From `y` on, until the next `start`, no fault is latched. -/
def NeverLatches (y : Sys) : Prop :=
  ∀ as m, NoStart as → runSys y as = some m → m.sh.everFaulted = false

/-- A decided section can be taken, and moves the state out of a shutdown. -/
theorem rxStep_decided {pc : RxPc} (now : Instant) (r : RecvResult) (sh : Shared)
    (hdec : pc.decided = true) :
    ∃ sh' pc', rxStep now r sh pc = some (sh', pc')
      ∧ (sh'.state = .running ∨ sh'.state = .fault) := by
  -- the three places from which a loop writes the state it has decided on
  cases pc with
  | recover frame =>
    obtain ⟨-, -, -, -, hstate⟩ := moveState_effect sh .running
    refine ⟨_, _, rfl, .inl ?_⟩
    cases hmove : sh.moveState .running with
    | mk moved old =>
      rw [hmove] at hstate
      cases old with
      | none => exact hstate
      | some old => exact (quiet_emit _ _).state.trans hstate
  | errFault =>
    obtain ⟨-, -, -, -, hstate⟩ := moveState_effect sh .fault
    refine ⟨_, _, rfl, .inr ?_⟩
    cases hmove : sh.moveState .fault with
    | mk moved old =>
      rw [hmove] at hstate
      cases old with
      | none => exact hstate
      | some old => exact hstate
  | timeoutFault n =>
    obtain ⟨-, -, -, -, hstate⟩ := moveState_effect sh .fault
    refine ⟨_, _, rfl, .inr ?_⟩
    cases hmove : sh.moveState .fault with
    | mk moved old =>
      rw [hmove] at hstate
      cases old with
      | none => exact (quiet_emit _ _).state.trans hstate
      | some old => exact hstate
  | _ => nomatch hdec

/-- A latching section can be taken, and latches. -/
theorem rxStep_latches {pc : RxPc} (now : Instant) (r : RecvResult) (sh : Shared)
    (hlatch : pc.latches = true) :
    ∃ sh' pc', rxStep now r sh pc = some (sh', pc') ∧ sh'.everFaulted = true := by
  cases pc with
  | errLatch old => exact ⟨_, _, rfl, (quiet_emit _ _).everFaulted⟩
  | timeoutLatch n old =>
    exact ⟨_, _, rfl, ((quiet_emit _ _).trans (quiet_emit _ _)).everFaulted⟩
  | _ => nomatch hlatch

/-- One step of the RX thread whose next section is `pc`. -/
theorem runSys_rx {y : Sys} {pc pc' : RxPc} {sh : Shared} (hmem : pc ∈ y.rx)
    (h : rxStep 0 .idle y.sh pc = some (sh, pc')) :
    ∃ as m, NoStart as ∧ runSys y as = some m ∧ m.sh = sh := by
  obtain ⟨i, hi⟩ := List.mem_iff_getElem?.mp hmem
  refine ⟨[.rx i 0 .idle], { y with sh := sh, rx := y.rx.set i pc' }, ?_, ?_, rfl⟩
  · intro a ha
    obtain rfl := List.mem_singleton.mp ha
    nofun
  · refine runSys_cons.mpr ⟨_, ?_, rfl⟩
    simp only [step, hi, Option.bind_some, h, Option.map_some]

/-- The state stays shut down exactly when no RX thread has decided on a move. -/
theorem final_iff {y : Sys} (hphase : Phase y) :
    Final y ↔ ∀ pc ∈ y.rx, pc.decided = false := by
  constructor
  · intro hfinal pc hmem
    cases hdec : pc.decided with
    | false => rfl
    | true =>
      obtain ⟨sh, pc', hrx, hmoved⟩ := rxStep_decided 0 .idle y.sh hdec
      obtain ⟨as, m, has, hm, rfl⟩ := runSys_rx hmem hrx
      obtain ⟨hin, -⟩ := hfinal as [] m m has nofun hm rfl
      rcases hmoved with hr | hf <;> rcases hin with hs | hs
      · nomatch hr.symm.trans hs
      · nomatch hr.symm.trans hs
      · nomatch hf.symm.trans hs
      · nomatch hf.symm.trans hs
  · intro hundecided as bs m z has hbs hm hz
    have hmid := shutDown_run has ⟨hphase, hundecided⟩ hm
    exact ⟨hmid.phase.state, fun hs => stopped_run hbs hmid hs hz⟩

/-- In a shutdown nobody undoes, no fault is latched exactly when none is and none is due. -/
theorem neverLatches_iff {y : Sys} (hy : ShutDown y) : NeverLatches y ↔ Faultless y := by
  constructor
  · intro hnever
    refine ⟨hnever [] y nofun rfl, ?_⟩
    intro pc hmem
    cases hl : pc.latches with
    | false => rfl
    | true =>
      obtain ⟨sh, pc', hrx, hset⟩ := rxStep_latches 0 .idle y.sh hl
      obtain ⟨as, m, has, hm, rfl⟩ := runSys_rx hmem hrx
      nomatch hset.symm.trans (hnever as m has hm)
  · intro hf as m has hm
    exact (faultless_run has hy hf hm).everFaulted

/-- **Shutdown is final exactly when no RX thread straddles it.**  A stop called at `y0` enters
    Stopping with the owner's step at `y`.  Whatever the threads and later calls do from there,
    the state is Stopping and then Stopped, and a stop called in RUNNING on a link without a fault
    has latched none at any moment since the call, if and only if at `y` no RX thread has decided
    on a move and, for the latch, the link has not been declared dead since the call. -/
theorem shutdown_final {y0 y y' : Sys} {as : List Act} {now : Instant} {ok : Bool}
    (hcall : y0.owner = .safeRead) (has : NoStart as) (hrun : runSys y0 as = some y)
    (hpc : y.owner = .stopping) (hstep : step y (.owner now ok) = some y') :
    (Final y' ∧ (y0.sh.state = .running ∧ y0.sh.everFaulted = false →
        (∀ bs m, bs <+: as → runSys y0 bs = some m → m.sh.everFaulted = false)
          ∧ NeverLatches y'))
      ↔ (∀ pc ∈ y.rx, pc.decided = false)
        ∧ (y0.sh.state = .running ∧ y0.sh.everFaulted = false → Faultless y) := by
  have hy' : y' = y.moveTo .stopping .stopClear := by
    simp only [step, ownerStep, hpc] at hstep
    exact (Option.some.inj hstep).symm
  obtain ⟨howner, hstate, -, hev, -, -, hrx, -⟩ := moveTo_effect y .stopping .stopClear
  rw [← hy'] at howner hstate hev hrx
  have hphase : Phase y' := .begun howner hstate
  rw [final_iff hphase, hrx]
  refine and_congr_right fun hundecided => imp_congr_right ?_
  intro _
  rw [neverLatches_iff ⟨hphase, hrx ▸ hundecided⟩]
  constructor
  · rintro ⟨-, hf⟩
    exact ⟨hev.symm.trans hf.everFaulted, hrx ▸ hf.latchFree⟩
  · intro hf
    refine ⟨?_, ⟨hev.trans hf.everFaulted, hrx ▸ hf.latchFree⟩⟩
    intro bs m hbs hm
    -- a fault latched on the way would still be latched
    obtain ⟨cs, rfl⟩ := hbs
    obtain ⟨m', hm', hrest⟩ := runSys_append.mp hrun
    obtain rfl : m = m' := Option.some.inj (hm.symm.trans hm')
    have hm_owner : m.owner.starts = false :=
      not_starts_run (fun a ha => has a (List.mem_append_left cs ha)) (by rw [hcall]; rfl) hm
    cases hlatched : m.sh.everFaulted with
    | false => rfl
    | true =>
      have hy_latched := latched_run (fun a ha => has a (List.mem_append_right bs ha)) hm_owner
        hlatched hrest
      nomatch hy_latched.symm.trans hf.everFaulted

/-! ## Two stops on the bench

  A stop right after the start, which is final, and one whose Stopping an RX thread overwrites. -/

/-- `stop` up to its Stopping transition. -/
def benchStop : List Act := List.replicate 3 (.owner 0 true)

/-- Three checks of the first RX thread, 4 ms apart and without a frame; the last one has read
    RUNNING at the limit. -/
def benchLost : List Act :=
  .rx 0 0 .idle :: (List.replicate 6 (.rx 0 4000000 .idle)
    ++ List.replicate 6 (.rx 0 8000000 .idle) ++ List.replicate 6 (.rx 0 12000000 .idle))

/-- A stop right after the start, up to its Stopping transition. -/
theorem benchStop_run :
    ∃ y0 y y', runSys (Sys.init bench) (benchStart ++ [.call .stop]) = some y0
      ∧ runSys y0 benchStop = some y ∧ step y (.owner 0 true) = some y'
      ∧ y0.owner = .safeRead ∧ y0.sh.state = .running ∧ y0.sh.everFaulted = false
      ∧ y.owner = .stopping ∧ y.sh.everFaulted = false ∧ y.rx = [.arm] :=
  ⟨_, _, _, rfl, rfl, rfl, rfl, rfl, rfl, rfl, rfl, rfl⟩

/-- It is final. -/
theorem shutdown_final_bench :
    ∃ y0 y y', runSys (Sys.init bench) (benchStart ++ [.call .stop]) = some y0
      ∧ runSys y0 benchStop = some y ∧ step y (.owner 0 true) = some y'
      ∧ Final y' ∧ NeverLatches y' := by
  obtain ⟨y0, y, y', hy0, hy, hy', hcall, hstate, hev, howner, hev', hrx⟩ := benchStop_run
  have has : NoStart benchStop := by
    intro a ha
    rw [List.eq_of_mem_replicate ha]
    nofun
  have hrx_arm : ∀ pc ∈ y.rx, pc = .arm := by
    rw [hrx]
    exact fun pc hmem => List.mem_singleton.mp hmem
  obtain ⟨hfinal, hnever⟩ := (shutdown_final hcall has hy howner hy').mpr
    ⟨fun pc hmem => by rw [hrx_arm pc hmem]; rfl,
      fun _ => ⟨hev', fun pc hmem => by rw [hrx_arm pc hmem]; rfl⟩⟩
  exact ⟨y0, y, y', hy0, hy, hy', hfinal, (hnever ⟨hstate, hev⟩).2⟩

/-- **Stopping can be overwritten.**  The escalation of the third timeout straddles the Stopping
    transition of a stop that was called in RUNNING on a link without a fault: FAULT follows
    Stopping and is latched. -/
theorem stopping_overwritten :
    ∃ y0 y y' z, runSys (Sys.init bench) (benchStart ++ benchLost ++ [.call .stop]) = some y0
      ∧ y0.sh.state = .running ∧ y0.sh.everFaulted = false
      ∧ runSys y0 benchStop = some y ∧ y.owner = .stopping
      ∧ step y (.owner 0 true) = some y' ∧ y'.sh.state = .stopping
      ∧ runSys y' (List.replicate 2 (.rx 0 12000000 .idle)) = some z
      ∧ z.sh.state = .fault ∧ z.sh.everFaulted = true :=
  ⟨_, _, _, _, rfl, rfl, rfl, rfl, rfl, rfl, rfl, rfl, rfl, rfl⟩

end Profinet.Cyclic
