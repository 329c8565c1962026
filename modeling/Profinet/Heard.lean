/-
  HEARD: from which states of the controller the loss of a receiver is reported.

  A caller that samples `cyclic_abort_reason` is told of a fault by the latch, or by a state that is
  FAULT or STOPPED.  `Heard` says that this goes on until the next `start` begins; `heard_iff_onRecord`
  says exactly when it does, whatever section each thread is in:

      Latched        the latch is set, and no `start` is about to reset it
      StaysFault     FAULT, and no RX loop can recover before it latches a fault
      StaysClosed    STOPPED, or on its way there, and no RX loop can undo that unlatched

  In every other state some run of the threads, by themselves, comes to RUNNING without a latched
  fault, or back to a caller whose sample has no reason (`Deafens`, `owner_returns`).
-/
import Profinet.RxRecovery
import Profinet.ThreadPair

namespace Profinet.Cyclic

open Util Rt

/-! ## Until the next start

  Runs of the threads in which no `start` begins.  What is heard has to last for all of them. -/

/-- With this step a `start` begins: its first section looks at the state. -/
def Begins (y : Sys) (a : Act) : Prop := y.owner = .startRead ∧ ∃ now ok, a = .owner now ok

theorem not_begins_rx {y : Sys} {i : Nat} {now : Instant} {r : RecvResult} :
    ¬ Begins y (.rx i now r) := by
  rintro ⟨-, now', ok, h⟩
  nomatch h

/-- No `start` begins in this run. -/
def Unstarted (y : Sys) (as : List Act) : Prop := EachStep y as fun m a _ => ¬ Begins m a

theorem unstarted_nil (y : Sys) : Unstarted y [] := by
  intro bs a m m' hpre
  nomatch List.append_eq_nil_iff.mp (List.prefix_nil.mp hpre)

theorem unstarted_cons {y y' : Sys} {a : Act} {as : List Act} (hb : ¬ Begins y a)
    (h : step y a = some y') (has : Unstarted y' as) : Unstarted y (a :: as) := by
  refine eachStep_cons (fun _ _ => hb) fun z hz => ?_
  obtain rfl : y' = z := Option.some.inj (h.symm.trans hz)
  exact has

/-- The first part of a run without a start. -/
theorem Unstarted.front {y : Sys} {as bs : List Act} (h : Unstarted y (as ++ bs)) :
    Unstarted y as := fun cs a m m' hpre => h cs a m m' (hpre.trans (List.prefix_append _ _))

/-- The rest of it. -/
theorem Unstarted.rest {y m : Sys} {as bs : List Act} (h : Unstarted y (as ++ bs))
    (hm : runSys y as = some m) : Unstarted m bs := by
  intro cs a n n' hpre hn
  refine h (as ++ cs) a n n' ?_ (runSys_append.mpr ⟨m, hm, hn⟩)
  rw [List.append_assoc]
  exact (List.prefix_append_right_inj as).mpr hpre

/-- What every step but the beginning of a start keeps, a run without one keeps. -/
theorem Unstarted.keeps {P : Sys → Prop}
    (hstep : ∀ {m m' a}, ¬ Begins m a → P m → step m a = some m' → P m') {y z : Sys}
    {as : List Act} (has : Unstarted y as) (hy : P y) (h : runSys y as = some z) : P z :=
  throughout_of_steps hy
    (fun bs a m m' hpre hm hs hp => hstep (has bs a m m' hpre hm hs) hp hs) as z
    (List.prefix_refl _) h

/-- From a moment on, until the next `start` begins: RUNNING only with the latch set, and a reason
    in every sample between two calls, which reads the state first and the latch at some later
    moment. -/
def Heard (y : Sys) : Prop :=
  (∀ as z, Unstarted y as → runSys y as = some z → z.sh.state = .running →
    z.sh.everFaulted = true)
  ∧ ∀ as bs m z, Unstarted y (as ++ bs) → runSys y as = some m → runSys m bs = some z →
    m.owner = .idle → cyclicAbortReason m.sh.state z.sh.everFaulted ≠ none

/-! ## The owner's sections

  The owner walks through the sections of one call.  `StopEffect` says what a section outside
  `start` can do to what a caller samples: the state moves to STOPPING or STOPPED or not at all,
  and `running` only falls. -/

/-- `start` has looked at the state and is on its way to RUNNING. -/
def OwnerPc.begun : OwnerPc → Bool
  | .starting | .startRunning | .startStats | .startFault | .startCounter | .openTx | .openRx
  | .startSwap | .spawnTx | .spawnRx | .started => true
  | _ => false

/-- `start` is on its way, and has yet to reset the fault latch. -/
def OwnerPc.resets : OwnerPc → Bool
  | .starting | .startRunning | .startStats | .startFault => true
  | _ => false

/-- `stop` is on its way to STOPPED; up to the section that looks at the run flag it depends on
    that whether it goes there. -/
def OwnerPc.stops (running : Bool) : OwnerPc → Bool
  | .safeRead | .safeApply _ | .stopLoad => running
  | .stopping | .stopClear | .joinTx | .burstSwap _ | .burstCounter _ | .burstCommit .. | .burstSend _
  | .burstCount _ | .joinRx | .stopped => true
  | _ => false

theorem OwnerPc.resets_of_begun {pc : OwnerPc} (h : pc.begun = false) : pc.resets = false := by
  cases pc with
  | starting | startRunning | startStats | startFault => nomatch h
  | _ => rfl

theorem OwnerPc.begun_of_starts {pc : OwnerPc} (h : pc.starts = false) : pc.begun = false := by
  cases pc with
  | starting | startRunning | startStats | startFault | startCounter | openTx | openRx | startSwap
  | spawnTx | spawnRx | started => nomatch h
  | _ => rfl

/-- Outside `start`, its first section aside. -/
theorem OwnerPc.starts_of_begun {pc : OwnerPc} (h : pc.begun = false) (hread : pc ≠ .startRead) :
    pc.starts = false := by
  cases pc with
  | startRead => exact absurd rfl hread
  | starting | startRunning | startStats | startFault | startCounter | openTx | openRx | startSwap
  | spawnTx | spawnRx | started => nomatch h
  | _ => rfl

/-- The state is STOPPED, or will be before the caller samples it again, or a start begins first. -/
def Closes (y : Sys) : Prop :=
  y.sh.state = .stopped ∨ y.owner.stops y.sh.running = true ∨ y.owner = .startRead

/-- What a section outside `start` does to the state and the run flag: the state is as before, or
    what `stop` makes of it, and the way of a `stop` to STOPPED is not left. -/
structure StopEffect (y y' : Sys) : Prop where
  running : y'.sh.running = true → y.sh.running = true
  state : y'.sh.state = y.sh.state ∨ (y'.sh.state = .stopping ∧ y'.owner.stops false = true)
    ∨ y'.sh.state = .stopped
  past : y.owner.stops false = true → y'.owner.stops false = true ∨ y'.sh.state = .stopped
  closes : Closes y → Closes y'

/-- Behind the run flag a `stop` goes to STOPPED in any case. -/
theorem OwnerPc.stops_past {pc : OwnerPc} (h : pc.stops false = true) (running : Bool) :
    pc.stops running = true := by
  cases pc with
  | stopping | stopClear | joinTx | burstSwap | burstCounter | burstCommit | burstSend | burstCount
  | joinRx | stopped => rfl
  | _ => nomatch h

/-- A state that `stop` makes is on its way to STOPPED, or that. -/
theorem StopEffect.moved {y y' : Sys} (h : StopEffect y y') (hne : y'.sh.state ≠ y.sh.state) :
    (y'.sh.state = .stopping ∨ y'.sh.state = .stopped) ∧ Closes y' := by
  rcases h.state with hs | ⟨hs, hpast⟩ | hs
  · exact absurd hs hne
  · exact ⟨.inl hs, .inr (.inl (OwnerPc.stops_past hpast _))⟩
  · exact ⟨.inr hs, .inl hs⟩

/-- A section that leaves the state and the run flag alone. -/
theorem StopEffect.same {y y' : Sys} (hstate : y'.sh.state = y.sh.state)
    (hrun : y'.sh.running = y.sh.running) (hread : y.owner ≠ .startRead)
    (hstops : ∀ running, (running = true → y.sh.running = true) →
      y.owner.stops running = true → y'.owner.stops running = true) :
    StopEffect y y' := by
  refine ⟨hrun.symm.trans, .inl hstate, fun hp => .inl (hstops false nofun hp), ?_⟩
  rintro (h | h | h)
  · exact .inl (hstate.trans h)
  · exact .inr (.inl (by rw [hrun]; exact hstops _ id h))
  · exact absurd h hread

/-- **Every section outside `start`.** -/
theorem ownerStep_stops {now : Instant} {ok : Bool} {y y' : Sys} (hpc : y.owner.starts = false)
    (h : ownerStep now ok y = some y') : StopEffect y y' := by
  have hread : y.owner ≠ .startRead := by
    intro hr
    rw [hr] at hpc
    nomatch hpc
  -- the owner's position and the two flags decide; a step that touches neither is `same`
  unfold ownerStep at h
  cases howner : y.owner with
  | idle =>
    rw [howner] at h
    nomatch h
  | setSafe slot subslot data =>
    rw [howner] at h
    cases h
    exact .same rfl rfl hread fun _ _ hs => by rw [howner] at hs; nomatch hs
  | writeRead slot subslot data =>
    rw [howner] at h
    cases h
    exact .same rfl rfl hread fun _ _ hs => by rw [howner] at hs; nomatch hs
  | writeData slot subslot data =>
    rw [howner] at h
    dsimp only at h
    split at h
    · cases h
      exact .same rfl rfl hread fun _ _ hs => by rw [howner] at hs; nomatch hs
    · cases h
      exact .same rfl rfl hread fun _ _ hs => by rw [howner] at hs; nomatch hs
  | safeRead =>
    rw [howner] at h
    cases h
    exact .same rfl rfl hread fun _ _ hs => by rw [howner] at hs; exact hs
  | safeApply safe =>
    rw [howner] at h
    cases safe with
    | none =>
      cases h
      exact .same rfl rfl hread fun _ _ hs => by rw [howner] at hs; exact hs
    | some entry =>
      obtain ⟨slot, subslot, data⟩ := entry
      dsimp only at h
      split at h
      · rename_i e hset
        cases h
        have hq := quiet_emit y.sh (.error s!"safe output not applied: {e}")
        exact .same hq.state hq.running hread fun _ _ hs => by rw [howner] at hs; exact hs
      · cases h
        exact .same rfl rfl hread fun _ _ hs => by rw [howner] at hs; exact hs
  -- with `running` down `stop` ends here, so `stops` asks for it
  | stopLoad =>
    rw [howner] at h
    cases h
    refine .same rfl rfl hread fun running hset hs => ?_
    rw [howner] at hs
    have hrun : y.sh.running = true := hset hs
    simp only [hrun, if_true]
    rfl
  | stopping =>
    rw [howner] at h
    cases h
    obtain ⟨hnext, hstate, hrun, -⟩ := moveTo_effect y .stopping .stopClear
    have hpast : (y.moveTo .stopping .stopClear).owner.stops false = true := by
      rw [hnext]
      rfl
    exact ⟨hrun.symm.trans, .inr (.inl ⟨hstate, hpast⟩), fun _ => .inl hpast,
      fun _ => .inr (.inl (OwnerPc.stops_past hpast _))⟩
  | stopClear =>
    rw [howner] at h
    cases h
    exact ⟨nofun, .inl rfl, fun _ => .inl rfl, fun _ => .inr (.inl rfl)⟩
  | joinTx | joinRx =>
    rw [howner] at h
    dsimp only at h
    split at h
    · cases h
      exact .same rfl rfl hread fun _ _ _ => rfl
    · split at h
      · cases h
        exact .same rfl rfl hread fun _ _ _ => rfl
      · nomatch h
  | burstSwap i =>
    rw [howner] at h
    dsimp only at h
    split at h
    · cases h
      exact .same rfl rfl hread fun _ _ _ => rfl
    · cases h
      exact .same rfl rfl hread fun _ _ _ => rfl
  | burstCounter i | burstCommit i cycleCounter | burstCount i =>
    rw [howner] at h
    cases h
    exact .same rfl rfl hread fun _ _ _ => rfl
  | burstSend i =>
    rw [howner] at h
    cases h
    refine .same rfl rfl hread fun _ _ _ => ?_
    cases ok with
    | true => rfl
    | false => rfl
  | stopped =>
    rw [howner] at h
    cases h
    obtain ⟨-, hstate, hrun, -⟩ := moveTo_effect y .stopped .idle
    exact ⟨hrun.symm.trans, .inr (.inr hstate), fun _ => .inr hstate, fun _ => .inl hstate⟩
  | startRead | starting | startRunning | startStats | startFault | startCounter | openTx | openRx
  | startSwap | spawnTx | spawnRx | started =>
    rw [howner] at hpc
    nomatch hpc

/-! ## What is on record

  Three records, each kept by every step up to the next `start`.  The first two are about the
  latch and about FAULT, the third about a stop that has begun. -/

/-- The fault is latched, and only a `start` that has yet to begin can change that. -/
structure Latched (y : Sys) : Prop where
  owner : y.owner.resets = false
  everFaulted : y.sh.everFaulted = true

/-- FAULT, and no RX loop recovers from it unlatched. -/
structure StaysFault (y : Sys) : Prop where
  state : y.sh.state = .fault
  stuck : ∀ pc ∈ y.rx, pc.recovers y.sh.running = false

/-- The state is or will be STOPPED; no RX loop is about to make it RUNNING, and beside one that is
    about to make it FAULT no other can recover from that. -/
structure StaysClosed (y : Sys) : Prop where
  running : y.sh.state ≠ .running
  fault : y.sh.state ≠ .fault
  closes : Closes y
  calm : ∀ pc ∈ y.rx, pc.recovering = false
  lone : ∀ (k j : Nat) pc pc', y.rx[k]? = some pc → pc.faulting = true → j ≠ k →
    y.rx[j]? = some pc' → pc'.recovers y.sh.running = false

/-- The state itself tells of the loss, for good. -/
structure Stays (y : Sys) : Prop where
  owner : y.owner.begun = false
  state : StaysFault y ∨ StaysClosed y

/-- The loss is on record: in the latch, or in a state that stays. -/
def OnRecord (y : Sys) : Prop := Latched y ∨ Stays y

/-- The latch outlives every section of the owner, but the first one of a `start`. -/
theorem latched_owner {now : Instant} {ok : Bool} {y y' : Sys} (hread : y.owner ≠ .startRead)
    (hy : Latched y) (h : ownerStep now ok y = some y') : Latched y' := by
  -- behind the reset of the latch no step of a start takes it back
  cases hstarts : y.owner.starts with
  | false =>
    have he := ownerStep_effect h
    exact ⟨OwnerPc.resets_of_begun (OwnerPc.begun_of_starts (he.stays hstarts)),
      (he.everFaulted hstarts).trans hy.everFaulted⟩
  | true =>
    have hpc := hy.owner
    unfold ownerStep at h
    generalize howner : y.owner = pc at hstarts hpc hread h
    cases pc with
    | startCounter | startSwap =>
      cases h
      exact ⟨rfl, hy.everFaulted⟩
    | openTx | openRx =>
      cases h
      cases ok with
      | true => exact ⟨rfl, hy.everFaulted⟩
      | false => exact ⟨rfl, hy.everFaulted⟩
    | spawnTx | spawnRx =>
      cases ok with
      | true =>
        cases h
        exact ⟨rfl, hy.everFaulted⟩
      | false =>
        cases h
        exact ⟨rfl, hy.everFaulted⟩
    | started =>
      cases h
      obtain ⟨hidle, -, -, hev, -⟩ := moveTo_effect y .running .idle
      exact ⟨by rw [hidle]; rfl, hev.trans hy.everFaulted⟩
    | startRead => exact absurd rfl hread
    | starting | startRunning | startStats | startFault => nomatch hpc
    | _ => nomatch hstarts

theorem latched_kept {y y' : Sys} {a : Act} (hb : ¬ Begins y a) (hy : Latched y)
    (h : step y a = some y') : Latched y' := by
  cases a with
  | call c =>
    obtain ⟨-, rfl⟩ := step_call h
    refine ⟨?_, hy.everFaulted⟩
    cases c with
    | _ => rfl
  | owner now ok => exact latched_owner (fun hr => hb ⟨hr, now, ok, rfl⟩) hy h
  | rx i now r =>
    obtain ⟨pc, sh, pc', -, hstep, rfl⟩ := step_rx h
    exact ⟨hy.owner, (rxStep_effect hstep).latched hy.everFaulted⟩
  | tx i now sendError =>
    obtain ⟨t, sh, t', frame, hstep, rfl⟩ := step_tx h
    rcases txStep_effect hstep with ⟨hq, -⟩ | ⟨rfl, -⟩
    · exact ⟨hy.owner, hq.everFaulted.trans hy.everFaulted⟩
    · exact ⟨hy.owner, hy.everFaulted⟩

/-- What a step leaves alone of the loops, the state and the run flag. -/
theorem Stays.of_same {y y' : Sys} (hy : Stays y) (howner : y'.owner = y.owner)
    (hrx : y'.rx = y.rx) (hstate : y'.sh.state = y.sh.state)
    (hrun : y'.sh.running = y.sh.running) : Stays y' := by
  refine ⟨howner ▸ hy.owner, ?_⟩
  rcases hy.state with hf | hc
  · exact .inl ⟨hstate.trans hf.state, by rw [hrx, hrun]; exact hf.stuck⟩
  · refine .inr ⟨by rw [hstate]; exact hc.running, by rw [hstate]; exact hc.fault, ?_,
      by rw [hrx]; exact hc.calm, by rw [hrx, hrun]; exact hc.lone⟩
    unfold Closes
    rw [hstate, howner, hrun]
    exact hc.closes

/-- A section of the owner outside `start`. -/
theorem stays_owner {now : Instant} {ok : Bool} {y y' : Sys} (hread : y.owner ≠ .startRead)
    (hy : Stays y) (h : ownerStep now ok y = some y') : Stays y' := by
  have hstarts := OwnerPc.starts_of_begun hy.owner hread
  have he := ownerStep_effect h
  have hstop := ownerStep_stops hstarts h
  have hrx := he.rx hstarts
  refine ⟨OwnerPc.begun_of_starts (he.stays hstarts), ?_⟩
  rcases hy.state with hf | hc
  · have hstuck : ∀ pc ∈ y'.rx, pc.recovers y'.sh.running = false := by
      intro pc hpc
      rw [hrx] at hpc
      exact RxPc.recovers_mono hstop.running (hf.stuck pc hpc)
    by_cases hsame : y'.sh.state = y.sh.state
    · exact .inl ⟨hsame.trans hf.state, hstuck⟩
    · -- a stop has moved FAULT on, and no loop can take that back
      obtain ⟨hmoved, hcloses⟩ := hstop.moved hsame
      refine .inr ⟨?_, ?_, hcloses, fun pc hpc => RxPc.not_recovering (hstuck pc hpc), ?_⟩
      · rcases hmoved with hs | hs <;> rw [hs] <;> exact nofun
      · rcases hmoved with hs | hs <;> rw [hs] <;> exact nofun
      · intro k j pc pc' _ _ _ hj
        exact hstuck pc' (List.mem_of_getElem? hj)
  · refine .inr ⟨?_, ?_, hstop.closes hc.closes, by rw [hrx]; exact hc.calm, ?_⟩
    · rcases hstop.state with hs | ⟨hs, -⟩ | hs <;> rw [hs]
      · exact hc.running
      · exact nofun
      · exact nofun
    · rcases hstop.state with hs | ⟨hs, -⟩ | hs <;> rw [hs]
      · exact hc.fault
      · exact nofun
      · exact nofun
    · intro k j pc pc' hk hfault hne hj
      rw [hrx] at hk hj
      exact RxPc.recovers_mono hstop.running (hc.lone k j pc pc' hk hfault hne hj)

/-- A section of an RX loop: it leaves the state on record, or latches it. -/
theorem stays_rx {y : Sys} {i : Nat} {now : Instant} {r : RecvResult} {pc pc' : RxPc} {sh : Shared}
    (hy : Stays y) (hpc : y.rx[i]? = some pc) (hstep : rxStep now r y.sh pc = some (sh, pc')) :
    OnRecord { y with sh := sh, rx := y.rx.set i pc' } := by
  have he := rxStep_effect hstep
  have hmem := List.mem_of_getElem? hpc
  cases hlatch : pc.latches with
  | true =>
    -- a section that owes a latch pays it
    obtain ⟨sh', q, hstep', hev⟩ := rxStep_latches now r y.sh hlatch
    obtain ⟨rfl, -⟩ := Prod.mk.inj (Option.some.inj (hstep.symm.trans hstep'))
    exact .inl ⟨OwnerPc.resets_of_begun hy.owner, hev⟩
  | false =>
    refine .inr ⟨hy.owner, ?_⟩
    rcases hy.state with hf | hc
    · -- in FAULT the loop is none that recovers, and stays so
      have hstuck := hf.stuck pc hmem
      refine .inl ⟨?_, ?_⟩
      · cases hfault : pc.faulting with
        | true => exact (rxStep_faulting hstep hfault).1
        | false =>
          have hdec : pc.decided = false := by
            rw [RxPc.decided_eq, RxPc.not_recovering hstuck, hfault]
            rfl
          exact (he.state hdec).trans hf.state
      · intro q hq
        show q.recovers sh.running = false
        rw [he.running]
        rcases List.mem_or_eq_of_mem_set hq with hold | rfl
        · exact hf.stuck q hold
        · exact rxStep_recovers hstep hstuck hlatch
    · have hcalm := hc.calm pc hmem
      cases hfault : pc.faulting with
      | true =>
        -- it makes the state FAULT: no other loop recovers, and this one owes a latch first
        obtain ⟨hstate, howes⟩ := rxStep_faulting hstep hfault
        refine .inl ⟨hstate, ?_⟩
        intro q hq
        show q.recovers sh.running = false
        obtain ⟨j, hj⟩ := List.mem_iff_getElem?.mp hq
        by_cases hji : j = i
        · subst hji
          rw [List.getElem?_set_self (List.getElem?_eq_some_iff.mp hpc).1] at hj
          obtain rfl : pc' = q := Option.some.inj hj
          exact RxPc.not_recovers_of_latches (howes hc.fault) _
        · rw [List.getElem?_set_ne (Ne.symm hji)] at hj
          rw [he.running]
          exact hc.lone i j pc q hpc hfault hji hj
      | false =>
        have hdec : pc.decided = false := by
          rw [RxPc.decided_eq, hcalm, hfault]
          rfl
        have hstate := he.state hdec
        have hdec' : pc'.decided = false := by
          cases hd : pc'.decided with
          | false => rfl
          | true =>
            rcases he.decides hd with hs | hs
            · exact absurd hs hc.fault
            · exact absurd hs hc.running
        obtain ⟨hcalm', hfault'⟩ : pc'.recovering = false ∧ pc'.faulting = false :=
          Bool.or_eq_false_iff.mp ((RxPc.decided_eq pc').symm.trans hdec')
        refine .inr ⟨?_, ?_, ?_, ?_, ?_⟩
        · rw [hstate]
          exact hc.running
        · rw [hstate]
          exact hc.fault
        · unfold Closes
          rw [hstate, he.running]
          exact hc.closes
        · intro q hq
          rcases List.mem_or_eq_of_mem_set hq with hold | rfl
          · exact hc.calm q hold
          · exact hcalm'
        · intro k j p p' hk hpf hne hj
          show p'.recovers sh.running = false
          rw [he.running]
          have hki : k ≠ i := by
            rintro rfl
            have hk' : (y.rx.set k pc')[k]? = some p := hk
            rw [List.getElem?_set_self (List.getElem?_eq_some_iff.mp hpc).1] at hk'
            obtain rfl : pc' = p := Option.some.inj hk'
            nomatch hfault'.symm.trans hpf
          have hk' : y.rx[k]? = some p := (List.getElem?_set_ne (Ne.symm hki)).symm.trans hk
          by_cases hji : j = i
          · subst hji
            have hj' : (y.rx.set j pc')[j]? = some p' := hj
            rw [List.getElem?_set_self (List.getElem?_eq_some_iff.mp hpc).1] at hj'
            obtain rfl : pc' = p' := Option.some.inj hj'
            exact rxStep_recovers hstep (hc.lone k j p pc hk' hpf hne hpc) hlatch
          · have hj' : y.rx[j]? = some p' := (List.getElem?_set_ne (Ne.symm hji)).symm.trans hj
            exact hc.lone k j p p' hk' hpf hne hj'

/-- **Every step but the beginning of a start keeps the loss on record.** -/
theorem onRecord_step {y y' : Sys} {a : Act} (hb : ¬ Begins y a) (hy : OnRecord y)
    (h : step y a = some y') : OnRecord y' := by
  rcases hy with hl | hs
  · exact .inl (latched_kept hb hl h)
  · cases a with
    | call c =>
      obtain ⟨hidle, rfl⟩ := step_call h
      refine .inr ⟨?_, ?_⟩
      · cases c with
        | _ => rfl
      · rcases hs.state with hf | hc
        · exact .inl ⟨hf.state, hf.stuck⟩
        · refine .inr ⟨hc.running, hc.fault, ?_, hc.calm, hc.lone⟩
          -- between two calls a shutdown is over
          rcases hc.closes with hstopped | hstops | hread
          · exact .inl hstopped
          · rw [hidle] at hstops
            nomatch hstops
          · nomatch hidle.symm.trans hread
    | owner now ok => exact .inr (stays_owner (fun hr => hb ⟨hr, now, ok, rfl⟩) hs h)
    | rx i now r =>
      obtain ⟨pc, sh, pc', hpc, hstep, rfl⟩ := step_rx h
      exact stays_rx hs hpc hstep
    | tx i now sendError =>
      obtain ⟨t, sh, t', frame, hstep, rfl⟩ := step_tx h
      rcases txStep_effect hstep with ⟨hq, -⟩ | ⟨rfl, -⟩
      · exact .inr (hs.of_same rfl rfl hq.state hq.running)
      · exact .inr (hs.of_same rfl rfl rfl rfl)

theorem onRecord_run {y z : Sys} {as : List Act} (has : Unstarted y as) (hy : OnRecord y)
    (h : runSys y as = some z) : OnRecord z := has.keeps onRecord_step hy h

theorem OnRecord.not_deaf {y : Sys} (hy : OnRecord y) (hrun : y.sh.state = .running) :
    y.sh.everFaulted = true := by
  rcases hy with hl | hs
  · exact hl.everFaulted
  · rcases hs.state with hf | hc
    · nomatch hf.state.symm.trans hrun
    · exact absurd hrun hc.running

/-- A sample that finds the latch set has a reason. -/
theorem abortReason_latched (state : CyclicState) : cyclicAbortReason state true ≠ none := nofun

theorem OnRecord.heard {y : Sys} (hy : OnRecord y) : Heard y := by
  refine ⟨fun as z has h => (onRecord_run has hy h).not_deaf, ?_⟩
  intro as bs m z has hm hz hidle
  rcases onRecord_run has.front hy hm with hl | hs
  · have hz' : Latched z := (has.rest hm).keeps latched_kept hl hz
    rw [hz'.everFaulted]
    exact abortReason_latched _
  · -- between two calls the state is FAULT or STOPPED
    have hreason (state : CyclicState) (h : state = .fault ∨ state = .stopped) (ev : Bool) :
        cyclicAbortReason state ev ≠ none := by
      rcases h with rfl | rfl
      · cases ev <;> nofun
      · cases ev <;> nofun
    refine hreason _ ?_ _
    rcases hs.state with hf | hc
    · exact .inl hf.state
    · rcases hc.closes with hstopped | hstops | hread
      · exact .inr hstopped
      · rw [hidle] at hstops
        nomatch hstops
      · nomatch hidle.symm.trans hread

/-! ## Every other state

  Where none of the records holds, a run is given that ends deaf: the owner finishes its call by
  itself, and an RX loop that may recover does so. -/

/-- Some run before the next start comes to RUNNING without a latched fault. -/
def Deafens (y : Sys) : Prop :=
  ∃ as z, Unstarted y as ∧ runSys y as = some z ∧ z.sh.state = .running
    ∧ z.sh.everFaulted = false

theorem Deafens.not_heard {y : Sys} (hy : Deafens y) : ¬ Heard y := by
  rintro ⟨hrunning, -⟩
  obtain ⟨as, z, has, hz, hstate, hev⟩ := hy
  nomatch hev.symm.trans (hrunning as z has hz hstate)

theorem deafens_of_step {y y' : Sys} {a : Act} (hb : ¬ Begins y a) (h : step y a = some y')
    (hd : Deafens y') : Deafens y := by
  obtain ⟨as, z, has, hz, hstate, hev⟩ := hd
  exact ⟨a :: as, z, unstarted_cons hb h has, runSys_cons.mpr ⟨y', h, hz⟩, hstate, hev⟩

/-- A loop that gets to RUNNING by itself deafens an unlatched controller. -/
theorem deafens_of_toRunning {sh : Shared} {pc : RxPc} (h : ToRunning sh pc) {y : Sys} {k : Nat}
    (hsh : y.sh = sh) (hk : y.rx[k]? = some pc) (hev : y.sh.everFaulted = false) : Deafens y := by
  induction h generalizing y with
  | reached hrun => exact ⟨[], y, unstarted_nil y, rfl, by rw [hsh]; exact hrun, hev⟩
  | @next sh sh' pc pc' now r h hkeep hrest ih =>
    subst hsh
    have hstep : step y (.rx k now r) = some { y with sh := sh', rx := y.rx.set k pc' } := by
      simp only [step, hk, Option.bind_some, h, Option.map_some]
    exact deafens_of_step not_begins_rx hstep
      (ih rfl (List.getElem?_set_self (List.getElem?_eq_some_iff.mp hk).1) (hkeep.trans hev))

/-- A step of the owner that begins no start. -/
theorem deafens_of_owner {y : Sys} {pc : OwnerPc} (y' : Sys) (howner : y.owner = pc)
    (hpc : pc ≠ .startRead) (h : ownerStep 0 true y = some y') (hd : Deafens y') : Deafens y := by
  refine deafens_of_step ?_ (show step y (.owner 0 true) = some y' from h) hd
  exact fun hb => hpc (howner.symm.trans hb.1)

/-- **A `start` that has begun deafens**, if it has yet to reset the latch or finds it reset: by
    itself it goes on to RUNNING. -/
theorem deafens_of_begun {y : Sys} (hb : y.owner.begun = true)
    (hlatch : y.owner.resets = true ∨ y.sh.everFaulted = false) : Deafens y := by
  -- from the last section backwards
  have hstarted (y : Sys) (ho : y.owner = .started) (hev : y.sh.everFaulted = false) : Deafens y := by
    obtain ⟨-, hstate, -, hev', -⟩ := moveTo_effect y .running .idle
    exact deafens_of_owner (y.moveTo .running .idle) ho (by simp) (by simp only [ownerStep, ho])
      ⟨[], _, unstarted_nil _, rfl, hstate, hev'.trans hev⟩
  have hspawnRx (y : Sys) (ho : y.owner = .spawnRx) (hev : y.sh.everFaulted = false) : Deafens y :=
    deafens_of_owner
      { y with rx := y.rx ++ [.arm], rxHandle := some y.rx.length, owner := .started } ho (by simp)
      (by simp only [ownerStep, ho]; rfl) (hstarted _ rfl hev)
  have hspawnTx (y : Sys) (ho : y.owner = .spawnTx) (hev : y.sh.everFaulted = false) : Deafens y :=
    deafens_of_owner
      { y with tx := y.tx ++ [.spawned], txHandle := some y.tx.length, owner := .spawnRx } ho (by simp)
      (by simp only [ownerStep, ho]; rfl) (hspawnRx _ rfl hev)
  have hswap (y : Sys) (ho : y.owner = .startSwap) (hev : y.sh.everFaulted = false) : Deafens y :=
    deafens_of_owner { y with sh := y.sh.modifyBuilder OutputBuilder.swap, owner := .spawnTx } ho
      (by simp) (by simp only [ownerStep, ho]) (hspawnTx _ rfl hev)
  have hopenRx (y : Sys) (ho : y.owner = .openRx) (hev : y.sh.everFaulted = false) : Deafens y :=
    deafens_of_owner { y with owner := .startSwap } ho (by simp) (by simp only [ownerStep, ho]; rfl)
      (hswap _ rfl hev)
  have hopenTx (y : Sys) (ho : y.owner = .openTx) (hev : y.sh.everFaulted = false) : Deafens y :=
    deafens_of_owner { y with owner := .openRx } ho (by simp) (by simp only [ownerStep, ho]; rfl)
      (hopenRx _ rfl hev)
  have hcounter (y : Sys) (ho : y.owner = .startCounter) (hev : y.sh.everFaulted = false) :
      Deafens y :=
    deafens_of_owner { y with sh := { y.sh with lastRxCycleCounter := none }, owner := .openTx } ho
      (by simp) (by simp only [ownerStep, ho]) (hopenTx _ rfl hev)
  have hfault (y : Sys) (ho : y.owner = .startFault) : Deafens y :=
    deafens_of_owner { y with sh := { y.sh with everFaulted := false }, owner := .startCounter } ho
      (by simp) (by simp only [ownerStep, ho]) (hcounter _ rfl rfl)
  have hstats (y : Sys) (ho : y.owner = .startStats) : Deafens y :=
    deafens_of_owner { y with sh := { y.sh with stats := CyclicStats.new 0 }, owner := .startFault }
      ho (by simp) (by simp only [ownerStep, ho]) (hfault _ rfl)
  have hrunning (y : Sys) (ho : y.owner = .startRunning) : Deafens y :=
    deafens_of_owner { y with sh := { y.sh with running := true }, owner := .startStats } ho (by simp)
      (by simp only [ownerStep, ho]) (hstats _ rfl)
  have hstarting (y : Sys) (ho : y.owner = .starting) : Deafens y :=
    deafens_of_owner (y.moveTo .starting .startRunning) ho (by simp) (by simp only [ownerStep, ho])
      (hrunning _ (moveTo_effect y .starting .startRunning).1)
  have hunlatched (h : y.owner.resets = false) : y.sh.everFaulted = false := by
    rcases hlatch with hr | hev
    · cases h.symm.trans hr
    · exact hev
  cases ho : y.owner with
  | starting => exact hstarting y ho
  | startRunning => exact hrunning y ho
  | startStats => exact hstats y ho
  | startFault => exact hfault y ho
  | startCounter => exact hcounter y ho (hunlatched (by rw [ho]; rfl))
  | openTx => exact hopenTx y ho (hunlatched (by rw [ho]; rfl))
  | openRx => exact hopenRx y ho (hunlatched (by rw [ho]; rfl))
  | startSwap => exact hswap y ho (hunlatched (by rw [ho]; rfl))
  | spawnTx => exact hspawnTx y ho (hunlatched (by rw [ho]; rfl))
  | spawnRx => exact hspawnRx y ho (hunlatched (by rw [ho]; rfl))
  | started => exact hstarted y ho (hunlatched (by rw [ho]; rfl))
  | _ =>
    rw [ho] at hb
    cases hb

/-- By itself the owner comes back to its caller. -/
def Returns (y : Sys) : Prop :=
  ∃ as m, Unstarted y as ∧ runSys y as = some m ∧ m.owner = .idle ∧ m.sh.state = y.sh.state
    ∧ m.sh.everFaulted = y.sh.everFaulted

theorem returns_of_owner {y : Sys} {pc : OwnerPc} (y' : Sys) (howner : y.owner = pc)
    (hpc : pc ≠ .startRead) (h : ownerStep 0 true y = some y') (hstate : y'.sh.state = y.sh.state)
    (hev : y'.sh.everFaulted = y.sh.everFaulted) (hr : Returns y') : Returns y := by
  obtain ⟨as, m, has, hm, hidle, hs, he⟩ := hr
  refine ⟨.owner 0 true :: as, m, ?_, runSys_cons.mpr ⟨y', h, hm⟩, hidle, hs.trans hstate,
    he.trans hev⟩
  exact unstarted_cons (fun hb => hpc (howner.symm.trans hb.1)) h has

/-- **A call that neither starts nor stops returns**, with the state and the latch as they are; so
    does a `stop` that finds the run flag cleared. -/
theorem owner_returns {y : Sys} (hb : y.owner.begun = false) (hread : y.owner ≠ .startRead)
    (hstops : y.owner.stops y.sh.running = false) : Returns y := by
  -- the steps of a call that ends by itself, from the last one up
  have hidle (y : Sys) (ho : y.owner = .idle) : Returns y :=
    ⟨[], y, unstarted_nil y, rfl, ho, rfl, rfl⟩
  have hwrite (y : Sys) (slot subslot : UInt16) (data : List UInt8)
      (ho : y.owner = .writeData slot subslot data) : Returns y := by
    cases hset : y.sh.outputBuilder.setData slot subslot data with
    | error e =>
      exact returns_of_owner { y with owner := .idle } ho (by simp) (by simp only [ownerStep, ho, hset])
        rfl rfl (hidle _ rfl)
    | ok b =>
      exact returns_of_owner
        { y with
          sh := y.sh.modifyBuilder fun _ => b.setIops slot subslot ioxsGood
          owner := .idle } ho (by simp)
        (by simp only [ownerStep, ho, hset]) rfl rfl (hidle _ rfl)
  have hload (y : Sys) (ho : y.owner = .stopLoad) (hrun : y.sh.running = false) : Returns y :=
    returns_of_owner { y with owner := .idle } ho (by simp) (by simp only [ownerStep, ho, hrun]; rfl) rfl
      rfl (hidle _ rfl)
  have happly (y : Sys) (safe : Option (UInt16 × UInt16 × List UInt8))
      (ho : y.owner = .safeApply safe) (hrun : y.sh.running = false) : Returns y := by
    cases safe with
    | none =>
      exact returns_of_owner { y with owner := .stopLoad } ho (by simp) (by simp only [ownerStep, ho]) rfl
        rfl (hload _ rfl hrun)
    | some entry =>
      obtain ⟨slot, subslot, data⟩ := entry
      cases hset : y.sh.outputBuilder.setData slot subslot data with
      | error e =>
        have hq := quiet_emit y.sh (.error s!"safe output not applied: {e}")
        exact returns_of_owner
          { y with
            sh := y.sh.emit (.error s!"safe output not applied: {e}")
            owner := .stopLoad } ho (by simp)
          (by simp only [ownerStep, ho, hset]; rfl) hq.state hq.everFaulted
          (hload _ rfl (hq.running.trans hrun))
      | ok b =>
        exact returns_of_owner
          { y with
            sh := y.sh.modifyBuilder fun _ => (b.setIops slot subslot ioxsGood).swap
            owner := .stopLoad } ho (by simp)
          (by simp only [ownerStep, ho, hset]) rfl rfl (hload _ rfl hrun)
  -- a stop that has begun and a start that has begun do not return without more
  cases ho : y.owner with
  | idle => exact hidle y ho
  | setSafe slot subslot data =>
    exact returns_of_owner { y with sh := y.sh.setSafeOutput slot subslot data, owner := .idle } ho
      (by simp) (by simp only [ownerStep, ho]) rfl rfl (hidle _ rfl)
  | writeRead slot subslot data =>
    cases hlocked : outputWritesLocked y.sh.state with
    | true =>
      exact returns_of_owner { y with owner := .idle } ho (by simp)
        (by simp only [ownerStep, ho, hlocked]; rfl) rfl rfl (hidle _ rfl)
    | false =>
      exact returns_of_owner { y with owner := .writeData slot subslot data } ho (by simp)
        (by simp only [ownerStep, ho, hlocked]; rfl) rfl rfl (hwrite _ slot subslot data rfl)
  | writeData slot subslot data => exact hwrite y slot subslot data ho
  | safeRead =>
    rw [ho] at hstops
    exact returns_of_owner { y with owner := .safeApply y.sh.safeOutput } ho (by simp)
      (by simp only [ownerStep, ho]) rfl rfl (happly _ y.sh.safeOutput rfl hstops)
  | safeApply safe =>
    rw [ho] at hstops
    exact happly y safe ho hstops
  | stopLoad =>
    rw [ho] at hstops
    exact hload y ho hstops
  | startRead => exact absurd ho hread
  | stopping | stopClear | joinTx | burstSwap | burstCounter | burstCommit | burstSend | burstCount
  | joinRx | stopped =>
    rw [ho] at hstops
    cases hstops
  | starting | startRunning | startStats | startFault | startCounter | openTx | openRx | startSwap
  | spawnTx | spawnRx | started =>
    rw [ho] at hb
    cases hb

/-- The caller's sample has no reason. -/
theorem Returns.not_heard {y : Sys} (hr : Returns y) (hev : y.sh.everFaulted = false)
    (hfault : y.sh.state ≠ .fault) (hstopped : y.sh.state ≠ .stopped) : ¬ Heard y := by
  rintro ⟨-, hsample⟩
  obtain ⟨as, m, has, hm, hidle, hs, he⟩ := hr
  refine hsample as [] m m (by rw [List.append_nil]; exact has) hm rfl hidle ?_
  rw [hs, he, hev]
  cases hstate : y.sh.state with
  | fault => exact absurd hstate hfault
  | stopped => exact absurd hstate hstopped
  | _ => rfl

/-- A loop that makes the state FAULT, and one that recovers from it before that is latched. -/
theorem deafens_of_pair {y : Sys} {k j : Nat} {pc pc' : RxPc} (hk : y.rx[k]? = some pc)
    (hfault : pc.faulting = true) (hne : j ≠ k) (hj : y.rx[j]? = some pc')
    (hrec : pc'.recovers y.sh.running = true) (hev : y.sh.everFaulted = false) : Deafens y := by
  obtain ⟨sh, q, hstep⟩ : ∃ sh q, rxStep 0 .idle y.sh pc = some (sh, q) := by
    cases pc with
    | errFault | timeoutFault => exact ⟨_, _, rfl⟩
    | _ => nomatch hfault
  have he := rxStep_effect hstep
  have hlatch : pc.latches = false := by
    cases pc with
    | errFault | timeoutFault => rfl
    | _ => nomatch hfault
  have hmoved : step y (.rx k 0 .idle) = some { y with sh := sh, rx := y.rx.set k q } := by
    simp only [step, hk, Option.bind_some, hstep, Option.map_some]
  have hother : (y.rx.set k q)[j]? = some pc' := (List.getElem?_set_ne (Ne.symm hne)).trans hj
  have hleads : ToRunning sh pc' :=
    toRunning_of_recovers (rxStep_faulting hstep hfault).1 (he.running.symm ▸ hrec)
  exact deafens_of_step not_begins_rx hmoved
    (deafens_of_toRunning hleads rfl hother ((he.everFaulted hlatch).trans hev))

/-- **A loss is heard of exactly while it is on record.** -/
theorem heard_iff_onRecord (y : Sys) : Heard y ↔ OnRecord y := by
  refine ⟨fun hheard => ?_, OnRecord.heard⟩
  by_contra hrecord
  have hnot : ¬ Deafens y := fun hd => hd.not_heard hheard
  cases hb : y.owner.begun with
  | true =>
    -- a start has begun: only the latch behind its reset would do
    refine hnot (deafens_of_begun hb ?_)
    cases hr : y.owner.resets with
    | true => exact .inl rfl
    | false =>
      right
      by_contra hev
      exact hrecord (.inl ⟨hr, Bool.eq_true_of_not_eq_false hev⟩)
  | false =>
    have hev : y.sh.everFaulted = false := by
      by_contra hev
      exact hrecord (.inl ⟨OwnerPc.resets_of_begun hb, Bool.eq_true_of_not_eq_false hev⟩)
    have hrunning : y.sh.state ≠ .running :=
      fun hs => hnot ⟨[], y, unstarted_nil y, rfl, hs, hev⟩
    by_cases hfault : y.sh.state = .fault
    · refine hrecord (.inr ⟨hb, .inl ⟨hfault, ?_⟩⟩)
      intro pc hpc
      by_contra hrec
      obtain ⟨k, hk⟩ := List.mem_iff_getElem?.mp hpc
      exact hnot (deafens_of_toRunning
        (toRunning_of_recovers hfault (Bool.eq_true_of_not_eq_false hrec)) rfl hk hev)
    · refine hrecord (.inr ⟨hb, .inr ⟨hrunning, hfault, ?_, ?_, ?_⟩⟩)
      · by_contra hcloses
        obtain ⟨hstopped, hstops, hread⟩ : y.sh.state ≠ .stopped
            ∧ ¬ y.owner.stops y.sh.running = true ∧ y.owner ≠ .startRead :=
          ⟨fun h => hcloses (.inl h), fun h => hcloses (.inr (.inl h)),
            fun h => hcloses (.inr (.inr h))⟩
        exact (owner_returns hb hread (Bool.eq_false_of_not_eq_true hstops)).not_heard hev hfault
          hstopped hheard
      · intro pc hpc
        obtain ⟨k, hk⟩ := List.mem_iff_getElem?.mp hpc
        cases pc with
        | recover frame =>
          exact absurd (deafens_of_toRunning (toRunning_recover y.sh frame) rfl hk hev) hnot
        | _ => rfl
      · intro k j pc pc' hk hpf hne hj
        by_contra hrec
        exact hnot (deafens_of_pair hk hpf hne hj (Bool.eq_true_of_not_eq_false hrec) hev)

end Profinet.Cyclic
