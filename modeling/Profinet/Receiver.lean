/-
  RECEIVER: who learns that the RX loop is gone.

  A receive error ends the RX loop, and with it the watchdog.  On its way out the loop reads the
  state and, where that is RUNNING, moves it to FAULT and latches that; in any other state it just
  leaves.  A caller that samples `cyclic_abort_reason` then learns of the loss from the latch, or
  from a state that is the end anyway.

      errRead    RUNNING  -->  errFault    not FAULT  -->  errLatch  -->  gone, latched
                 else     -->  gone        FAULT      -->  gone

  The loop is already running while `start` has yet to publish RUNNING.  An error path that reads
  STARTING in that window latches nothing, and the last transition of `start` makes the state
  RUNNING without a receiver (`deaf_running`).  `no_deaf_running` says that this is all that can go
  wrong for the one RX loop of a `start`; and for several loops, which a `start` from FAULT leaves
  behind, it says exactly what the controller without the lost loop has to be like.
-/
import Profinet.Heard

namespace Profinet.Cyclic

open Util Rt

/-! ## Leaving on a receive error

  The last step of a loop on the error path, and the three sections it can be made from. -/

/-- The sections of an RX thread that took a receive error while the run flag was set. -/
def RxPc.failing : RxPc → Bool
  | .errRead | .errFault | .errLatch _ => true
  | _ => false

/-- With this step RX loop `i` is gone on a receive error. -/
def GivesUp (y : Sys) (a : Act) (y' : Sys) (i : Nat) : Prop :=
  ∃ now r pc, a = .rx i now r ∧ y.rx[i]? = some pc ∧ pc.failing = true ∧ y'.rx[i]? = some .done

/-- The controller with RX loop `i` gone, and all else as it is. -/
def Sys.without (y : Sys) (i : Nat) : Sys := { y with rx := y.rx.set i .done }

/-- RX loop `i` may leave.  Either its error path has read RUNNING and has moved the state to FAULT,
    or a fault is latched already, and no `start` is about to reset that; or the state the controller
    is left in without the loop tells of the loss for good. -/
def Settled (y : Sys) (i : Nat) : Prop :=
  (y.owner.resets = false ∧ (y.sh.everFaulted = true ∨ ∃ old, y.rx[i]? = some (.errLatch old)))
    ∨ Stays (y.without i)

/-- Everything a loop can be about when it leaves: it latches the fault it has moved to, or it has
    read another state than RUNNING, or has found FAULT where it was going to move to it; then the
    rest of the controller is as before. -/
theorem givesUp_cases {y y' : Sys} {a : Act} {i : Nat} (hg : GivesUp y a y' i)
    (h : step y a = some y') :
    (∃ old, y.rx[i]? = some (.errLatch old) ∧ y'.owner = y.owner ∧ y'.sh.everFaulted = true)
    ∨ (y' = y.without i
      ∧ ((y.rx[i]? = some .errRead ∧ y.sh.state ≠ .running)
        ∨ (y.rx[i]? = some .errFault ∧ y.sh.state = .fault))) := by
  obtain ⟨now, r, pc, rfl, hpc, hfail, hdone⟩ := hg
  obtain ⟨pc', sh, q, hpc', hstep, rfl⟩ := step_rx h
  obtain rfl : pc = pc' := Option.some.inj (hpc.symm.trans hpc')
  have hq : q = .done := by
    have hset : (y.rx.set i q)[i]? = some .done := hdone
    rw [List.getElem?_set_self (List.getElem?_eq_some_iff.mp hpc).1] at hset
    exact Option.some.inj hset
  subst hq
  -- only three sections lead out of a loop on the error path
  cases pc with
  | errLatch old =>
    obtain ⟨rfl, -⟩ := Prod.mk.inj (Option.some.inj hstep)
    exact .inl ⟨old, hpc, rfl, (quiet_emit _ _).everFaulted⟩
  | errRead =>
    obtain ⟨rfl, hto⟩ := Prod.mk.inj (Option.some.inj hstep)
    refine .inr ⟨rfl, .inl ⟨hpc, ?_⟩⟩
    intro hrun
    rw [if_pos hrun] at hto
    cases hto
  | errFault =>
    by_cases hs : y.sh.state = .fault
    · have hmove : y.sh.moveState .fault = (y.sh, none) := if_pos hs
      simp only [rxStep, hmove] at hstep
      obtain ⟨rfl, -⟩ := Prod.mk.inj (Option.some.inj hstep)
      exact .inr ⟨rfl, .inr ⟨hpc, hs⟩⟩
    · have hmove : y.sh.moveState .fault = ({ y.sh with state := .fault }, some y.sh.state) := if_neg hs
      simp only [rxStep, hmove] at hstep
      cases (Prod.mk.inj (Option.some.inj hstep)).2
  | _ => cases hfail

/-- **A loop that leaves is heard of exactly if it may leave.** -/
theorem heard_iff_settled {y y' : Sys} {a : Act} {i : Nat} (hg : GivesUp y a y' i)
    (h : step y a = some y') : Heard y' ↔ Settled y i := by
  rw [heard_iff_onRecord]
  rcases givesUp_cases hg h with ⟨old, hpc, howner, hev⟩ | ⟨rfl, hpc⟩
  · -- it latches: that holds unless a start resets it
    constructor
    · intro hrecord
      refine .inl ⟨?_, .inr ⟨old, hpc⟩⟩
      rw [← howner]
      rcases hrecord with hl | hs
      · exact hl.owner
      · exact OwnerPc.resets_of_begun hs.owner
    · intro hset
      refine .inl ⟨?_, hev⟩
      rw [howner]
      rcases hset with ⟨hr, -⟩ | hs
      · exact hr
      · exact OwnerPc.resets_of_begun hs.owner
  · constructor
    · rintro (hl | hs)
      · exact .inl ⟨hl.owner, .inl hl.everFaulted⟩
      · exact .inr hs
    · rintro (⟨hr, hev | ⟨old, hold⟩⟩ | hs)
      · exact .inl ⟨hr, hev⟩
      · rcases hpc with ⟨hpc, -⟩ | ⟨hpc, -⟩
        · nomatch hpc.symm.trans hold
        · nomatch hpc.symm.trans hold
      · exact .inr hs

/-! ## One RX loop at a time

  `Lone` is kept by every step in which no loop is started beside a live one.  It ties the state
  and the latch to how far the owner has come, which is what the error path reads. -/

/-- A `start` that the state lets in finds every RX loop of an earlier one terminated. -/
def StartsAlone (y : Sys) (a : Act) : Prop :=
  Begins y a → y.sh.state.startable = true → ∀ i, ¬ RxLive y i

/-- The error path of RX loop `i` is about to read STARTING. -/
def ReadsStarting (y : Sys) (i : Nat) : Prop :=
  y.rx[i]? = some .errRead ∧ y.sh.state = .starting

/-- What holds while every start finds the loops of the earlier ones terminated. -/
structure Lone (y : Sys) : Prop where
  one : ∀ i j, RxLive y i → RxLive y j → i = j
  /-- Up to the spawn of its RX loop, a start has none. -/
  early : y.owner.begun = true → y.owner ≠ .started → ∀ i, ¬ RxLive y i
  launch : y.owner.begun = true → y.owner ≠ .starting → y.sh.state = .starting
  fresh : y.owner.begun = true → y.owner.resets = false → y.sh.everFaulted = false
  undecided : y.owner.begun = true → ∀ pc ∈ y.rx, pc.decided = false ∧ pc.latches = false
  fault : y.sh.state = .fault → y.sh.everFaulted = true ∨ ∃ pc ∈ y.rx, pc.latches = true
  stopping : y.sh.state = .stopping → y.owner.stops false = true
  idle : y.sh.state = .idle → ∀ i, ¬ RxLive y i
  starting : y.sh.state = .starting → ∀ i, RxLive y i → y.owner = .started

/-- With no loop live, every loop has terminated. -/
theorem done_of_not_live {y : Sys} (h : ∀ i, ¬ RxLive y i) : ∀ pc ∈ y.rx, pc = .done := by
  intro pc hpc
  obtain ⟨i, hi⟩ := List.mem_iff_getElem?.mp hpc
  by_contra hne
  exact h i ⟨pc, hi, hne⟩

theorem lone_init {sh : Shared} (hsh : NeverStarted sh) : Lone (Sys.init sh) := by
  have hnone (i : Nat) : ¬ RxLive (Sys.init sh) i := by
    rintro ⟨pc, hpc, -⟩
    nomatch hpc
  have hstate {s : CyclicState} (h : (Sys.init sh).sh.state = s) (hne : .idle ≠ s) {p : Prop} : p :=
    absurd (hsh.state.symm.trans h) hne
  exact ⟨fun i _ hi => absurd hi (hnone i), nofun, nofun, nofun, nofun,
    fun h => hstate h nofun, fun h => hstate h nofun, fun _ => hnone,
    fun _ i hi => absurd hi (hnone i)⟩

/-- A section behind the first transition of a start that spawns no RX loop. -/
theorem Lone.launching {y y' : Sys} (hy : Lone y) (hb : y.owner.begun = true)
    (hnot : y.owner ≠ .started) (hstate : y'.sh.state = .starting) (hrx : y'.rx = y.rx)
    (hfresh : y'.owner.begun = true → y'.owner.resets = false → y'.sh.everFaulted = false) :
    Lone y' := by
  have hnone (i : Nat) : ¬ RxLive y' i := by
    rw [RxLive, hrx]
    exact hy.early hb hnot i
  have hother {s : CyclicState} (h : y'.sh.state = s) (hne : .starting ≠ s) {p : Prop} : p :=
    absurd (hstate.symm.trans h) hne
  refine ⟨fun i _ hi => absurd hi (hnone i), fun _ _ => hnone, fun _ _ => hstate, hfresh, ?_,
    fun h => hother h (by simp), fun h => hother h (by simp), fun _ => hnone,
    fun _ i hi => absurd hi (hnone i)⟩
  intro _ pc hpc
  rw [hrx] at hpc
  rw [done_of_not_live (hy.early hb hnot) pc hpc]
  exact ⟨rfl, rfl⟩

/-- A section outside `start`. -/
theorem lone_outside {now : Instant} {ok : Bool} {y y' : Sys} (hy : Lone y)
    (hstarts : y.owner.starts = false) (h : ownerStep now ok y = some y') : Lone y' := by
  have he := ownerStep_effect h
  have hstop := ownerStep_stops hstarts h
  have hrx := he.rx hstarts
  have hbegun := OwnerPc.begun_of_starts (he.stays hstarts)
  have hnot {p : Prop} (hb : y'.owner.begun = true) : p := by cases hbegun.symm.trans hb
  -- a state that no stop makes is the one before
  have hsame {s : CyclicState} (hs : y'.sh.state = s) (h1 : s ≠ .stopping) (h2 : s ≠ .stopped) :
      y.sh.state = s := by
    rcases hstop.state with heq | ⟨heq, -⟩ | heq
    · exact heq.symm.trans hs
    · exact absurd (hs.symm.trans heq) h1
    · exact absurd (hs.symm.trans heq) h2
  have hlive (i : Nat) : RxLive y' i ↔ RxLive y i := by
    rw [RxLive, RxLive, hrx]
  constructor
  · intro i j hi hj
    exact hy.one i j ((hlive i).mp hi) ((hlive j).mp hj)
  · exact fun hb => hnot hb
  · exact fun hb => hnot hb
  · exact fun hb => hnot hb
  · exact fun hb => hnot hb
  · intro hs
    rw [he.everFaulted hstarts, hrx]
    exact hy.fault (hsame hs (by simp) (by simp))
  · intro hs
    rcases hstop.state with heq | ⟨-, hpast⟩ | heq
    · rcases hstop.past (hy.stopping (heq.symm.trans hs)) with hpast | hstopped
      · exact hpast
      · cases hs.symm.trans hstopped
    · exact hpast
    · cases hs.symm.trans heq
  · intro hs i hi
    exact hy.idle (hsame hs (by simp) (by simp)) i ((hlive i).mp hi)
  · intro hs i hi
    have ho := hy.starting (hsame hs (by simp) (by simp)) i ((hlive i).mp hi)
    rw [ho] at hstarts
    cases hstarts

/-- A section of `start`. -/
theorem lone_start {now : Instant} {ok : Bool} {y y' : Sys} (hy : Lone y)
    (hfree : StartsAlone y (.owner now ok)) (hstarts : y.owner.starts = true)
    (h : ownerStep now ok y = some y') : Lone y' := by
  have hidle {p : Prop} (hb : OwnerPc.idle.begun = true) : p := by cases hb
  unfold ownerStep at h
  cases ho : y.owner with
  | startRead =>
    rw [ho] at h
    cases h
    have hpast : ¬ y.sh.state = .stopping := by
      intro hs
      have hp := hy.stopping hs
      rw [ho] at hp
      cases hp
    have hnot : y.sh.state = .starting → ∀ i, ¬ RxLive y i := by
      intro hs i hi
      nomatch ho.symm.trans (hy.starting hs i hi)
    cases hst : y.sh.state.startable with
    | true =>
      have hnone := hfree ⟨ho, now, ok, rfl⟩ hst
      refine ⟨hy.one, fun _ _ => hnone, fun _ hne => absurd rfl hne, fun _ hr => (by cases hr), ?_,
        hy.fault, fun hs => absurd hs hpast, hy.idle, fun hs i hi => absurd hi (hnot hs i)⟩
      intro _ pc hpc
      rw [done_of_not_live hnone pc hpc]
      exact ⟨rfl, rfl⟩
    | false =>
      exact ⟨hy.one, fun hb => hidle hb, fun hb => hidle hb, fun hb => hidle hb, fun hb => hidle hb,
        hy.fault, fun hs => absurd hs hpast, hy.idle, fun hs i hi => absurd hi (hnot hs i)⟩
  | starting =>
    rw [ho] at h
    cases h
    obtain ⟨hnext, hstate, -, -, -, -, hrx, -⟩ := moveTo_effect y .starting .startRunning
    refine hy.launching (by rw [ho]; rfl) (by rw [ho]; simp) hstate hrx ?_
    intro _ hr
    rw [hnext] at hr
    cases hr
  | startRunning | startStats =>
    rw [ho] at h
    cases h
    exact hy.launching (by rw [ho]; rfl) (by rw [ho]; simp)
      (hy.launch (by rw [ho]; rfl) (by rw [ho]; simp)) rfl fun _ hr => by cases hr
  | startFault =>
    rw [ho] at h
    cases h
    exact hy.launching (by rw [ho]; rfl) (by rw [ho]; simp)
      (hy.launch (by rw [ho]; rfl) (by rw [ho]; simp)) rfl fun _ _ => rfl
  | startCounter | startSwap =>
    rw [ho] at h
    cases h
    exact hy.launching (by rw [ho]; rfl) (by rw [ho]; simp)
      (hy.launch (by rw [ho]; rfl) (by rw [ho]; simp)) rfl
      fun _ _ => hy.fresh (by rw [ho]; rfl) (by rw [ho]; rfl)
  | openTx | openRx | spawnTx =>
    rw [ho] at h
    have hstate := hy.launch (by rw [ho]; rfl) (by rw [ho]; simp)
    have hfresh := hy.fresh (by rw [ho]; rfl) (by rw [ho]; rfl)
    cases ok with
    | true =>
      cases h
      exact hy.launching (by rw [ho]; rfl) (by rw [ho]; simp) hstate rfl fun _ _ => hfresh
    | false =>
      cases h
      exact hy.launching (by rw [ho]; rfl) (by rw [ho]; simp) hstate rfl fun hb => hidle hb
  | spawnRx =>
    rw [ho] at h
    have hstate := hy.launch (by rw [ho]; rfl) (by rw [ho]; simp)
    have hfresh := hy.fresh (by rw [ho]; rfl) (by rw [ho]; rfl)
    have hnone := hy.early (by rw [ho]; rfl) (by rw [ho]; simp)
    cases ok with
    | true =>
      cases h
      -- the new loop is the only live one
      have hnew {i : Nat} (hi : RxLive { y with
          rx := y.rx ++ [.arm], rxHandle := some y.rx.length, owner := .started } i) :
          i = y.rx.length := by
        obtain ⟨pc, hpc, hlive⟩ := hi
        rcases getElem?_spawned hpc with hold | hlen
        · exact absurd ⟨pc, hold, hlive⟩ (hnone i)
        · exact hlen
      have hother {s : CyclicState} (h : y.sh.state = s) (hne : .starting ≠ s) {p : Prop} : p :=
        absurd (hstate.symm.trans h) hne
      refine ⟨fun i j hi hj => (hnew hi).trans (hnew hj).symm, fun _ hne => absurd rfl hne,
        fun _ _ => hstate, fun _ _ => hfresh, ?_, fun h => hother h (by simp),
        fun h => hother h (by simp), fun h => hother h (by simp), fun _ _ _ => rfl⟩
      intro _ pc hpc
      rcases List.mem_append.mp hpc with hold | hnew
      · rw [done_of_not_live hnone pc hold]
        exact ⟨rfl, rfl⟩
      · rw [List.mem_singleton.mp hnew]
        exact ⟨rfl, rfl⟩
    | false =>
      cases h
      exact hy.launching (by rw [ho]; rfl) (by rw [ho]; simp) hstate rfl fun hb => hidle hb
  | started =>
    rw [ho] at h
    cases h
    obtain ⟨hnext, hstate, -, -, -, -, hrx, -⟩ := moveTo_effect y .running .idle
    have hother {s : CyclicState} (h : (y.moveTo .running .idle).sh.state = s) (hne : .running ≠ s)
        {p : Prop} : p := absurd (hstate.symm.trans h) hne
    have hnot {p : Prop} (hb : (y.moveTo .running .idle).owner.begun = true) : p := by
      rw [hnext] at hb
      cases hb
    refine ⟨?_, fun hb => hnot hb, fun hb => hnot hb, fun hb => hnot hb, fun hb => hnot hb,
      fun h => hother h (by simp), fun h => hother h (by simp), fun h => hother h (by simp),
      fun h => hother h (by simp)⟩
    intro i j hi hj
    exact hy.one i j (by rwa [RxLive, hrx] at hi) (by rwa [RxLive, hrx] at hj)
  | _ =>
    rw [ho] at hstarts
    cases hstarts

/-- The move to RUNNING. -/
theorem rxStep_recovering {now : Instant} {r : RecvResult} {sh sh' : Shared} {pc pc' : RxPc}
    (h : rxStep now r sh pc = some (sh', pc')) (hpc : pc.recovering = true) :
    sh'.state = .running := by
  obtain ⟨-, -, -, -, hstate⟩ := moveState_effect sh .running
  cases pc with
  | recover frame =>
    have hm := Option.some.inj h
    rcases hmove : sh.moveState .running with ⟨moved, old | old⟩
    · rw [hmove] at hm hstate
      obtain ⟨rfl, -⟩ := Prod.mk.inj hm
      exact hstate
    · rw [hmove] at hm hstate
      obtain ⟨rfl, -⟩ := Prod.mk.inj hm
      exact (quiet_emit _ _).state.trans hstate
  | _ => nomatch hpc

/-- A section of an RX loop. -/
theorem lone_rx {y : Sys} {i : Nat} {now : Instant} {r : RecvResult} {pc pc' : RxPc} {sh : Shared}
    (hy : Lone y) (hpc : y.rx[i]? = some pc) (hstep : rxStep now r y.sh pc = some (sh, pc')) :
    Lone { y with sh := sh, rx := y.rx.set i pc' } := by
  have he := rxStep_effect hstep
  have hlive : RxLive y i := ⟨pc, hpc, rxStep_live hstep⟩
  have hkept {j : Nat} (hj : RxLive { y with sh := sh, rx := y.rx.set i pc' } j) : RxLive y j :=
    rxLive_of_set hpc (rxStep_live hstep) rfl hj
  have hmem := List.mem_of_getElem? hpc
  -- a state that no loop makes is the one before
  have hsame {s : CyclicState} (hs : sh.state = s) (h1 : s ≠ .fault) (h2 : s ≠ .running) :
      y.sh.state = s := by
    cases hrec : pc.recovering with
    | true => exact absurd (hs.symm.trans (rxStep_recovering hstep hrec)) h2
    | false =>
      cases hfault : pc.faulting with
      | true => exact absurd (hs.symm.trans (rxStep_faulting hstep hfault).1) h1
      | false =>
        have hdec : pc.decided = false := by
          rw [RxPc.decided_eq, hrec, hfault]
          rfl
        exact (he.state hdec).symm.trans hs
  -- a live loop in a start that has begun is the new one
  have hstarted (hb : y.owner.begun = true) : y.owner = .started := by
    by_contra hne
    exact hy.early hb hne i hlive
  constructor
  · intro j k hj hk
    exact hy.one j k (hkept hj) (hkept hk)
  · intro hb hne
    exact absurd (hstarted hb) hne
  · intro hb hne
    exact (he.state (hy.undecided hb pc hmem).1).trans (hy.launch hb hne)
  · intro hb hr
    exact (he.everFaulted (hy.undecided hb pc hmem).2).trans (hy.fresh hb hr)
  · intro hb q hq
    rcases List.mem_or_eq_of_mem_set hq with hold | rfl
    · exact hy.undecided hb q hold
    · have hstate := hy.launch hb (by rw [hstarted hb]; nofun)
      refine ⟨?_, ?_⟩
      · cases hd : q.decided with
        | false => rfl
        | true => rcases he.decides hd with hs | hs <;> nomatch hstate.symm.trans hs
      · cases hl : q.latches with
        | false => rfl
        | true => nomatch (hy.undecided hb pc hmem).1.symm.trans (he.owes hl)
  · intro hs
    have hs : sh.state = .fault := hs
    -- the fault there was before: latched, or still owed by the loop that owed it
    have hbefore (hf : y.sh.state = .fault) :
        sh.everFaulted = true ∨ ∃ q ∈ y.rx.set i pc', q.latches = true := by
      rcases hy.fault hf with hev | ⟨q, hq, hl⟩
      · exact .inl (he.latched hev)
      · obtain ⟨k, hk⟩ := List.mem_iff_getElem?.mp hq
        by_cases hki : k = i
        · subst hki
          obtain rfl : q = pc := Option.some.inj (hk.symm.trans hpc)
          obtain ⟨sh', q', hstep', hev⟩ := rxStep_latches now r y.sh hl
          obtain ⟨rfl, -⟩ := Prod.mk.inj (Option.some.inj (hstep.symm.trans hstep'))
          exact .inl hev
        · exact .inr ⟨q, List.mem_of_getElem? ((List.getElem?_set_ne (Ne.symm hki)).trans hk), hl⟩
    by_cases hf : y.sh.state = .fault
    · exact hbefore hf
    · right
      have hrec : pc.recovering = false := by
        cases hr : pc.recovering with
        | false => rfl
        | true => nomatch hs.symm.trans (rxStep_recovering hstep hr)
      have hfault : pc.faulting = true := by
        cases hf' : pc.faulting with
        | true => rfl
        | false =>
          have hdec : pc.decided = false := by
            rw [RxPc.decided_eq, hrec, hf']
            rfl
          exact absurd ((he.state hdec).symm.trans hs) hf
      exact ⟨pc', List.mem_set (List.getElem?_eq_some_iff.mp hpc).1 pc',
        (rxStep_faulting hstep hfault).2 hf⟩
  · exact fun hs => hy.stopping (hsame hs nofun nofun)
  · exact fun hs => absurd hlive (hy.idle (hsame hs nofun nofun) i)
  · exact fun hs j hj => hy.starting (hsame hs nofun nofun) j (hkept hj)

/-- **Every step keeps it**, as long as the starts find the earlier loops terminated. -/
theorem lone_step {y y' : Sys} {a : Act} (hy : Lone y) (hfree : StartsAlone y a)
    (h : step y a = some y') : Lone y' := by
  cases a with
  | call c =>
    obtain ⟨hidle, rfl⟩ := step_call h
    -- no call begins in the middle of a start
    have hnot {p : Prop} (hb : c.entry.begun = true) : p := by
      cases c with
      | _ => nomatch hb
    refine ⟨hy.one, fun hb => hnot hb, fun hb => hnot hb, fun hb => hnot hb, fun hb => hnot hb,
      hy.fault, ?_, hy.idle, ?_⟩
    · intro hs
      have hp := hy.stopping hs
      rw [hidle] at hp
      nomatch hp
    · intro hs i hi
      nomatch hidle.symm.trans (hy.starting hs i hi)
  | owner now ok =>
    cases hstarts : y.owner.starts with
    | false => exact lone_outside hy hstarts h
    | true => exact lone_start hy hfree hstarts h
  | rx i now r =>
    obtain ⟨pc, sh, pc', hpc, hstep, rfl⟩ := step_rx h
    exact lone_rx hy hpc hstep
  | tx i now sendError =>
    obtain ⟨t, sh, t', frame, hstep, rfl⟩ := step_tx h
    have hsame : sh.state = y.sh.state ∧ sh.everFaulted = y.sh.everFaulted := by
      rcases txStep_effect hstep with ⟨hq, -⟩ | ⟨rfl, -⟩
      · exact ⟨hq.state, hq.everFaulted⟩
      · exact ⟨rfl, rfl⟩
    obtain ⟨hstate, hev⟩ := hsame
    exact ⟨hy.one, hy.early, fun hb hne => hstate.trans (hy.launch hb hne),
      fun hb hr => hev.trans (hy.fresh hb hr), hy.undecided,
      fun hs => by rw [hev]; exact hy.fault (hstate.symm.trans hs),
      fun hs => hy.stopping (hstate.symm.trans hs), fun hs => hy.idle (hstate.symm.trans hs),
      fun hs => hy.starting (hstate.symm.trans hs)⟩

/-- **Of one RX loop at a time, it is the state its error path reads that decides.** -/
theorem settled_iff_lone {y y' : Sys} {a : Act} {i : Nat} (hy : Lone y) (hg : GivesUp y a y' i)
    (h : step y a = some y') : Settled y i ↔ ¬ ReadsStarting y i := by
  have hlive : RxLive y i := by
    obtain ⟨now, r, pc, -, hpc, hfail, -⟩ := hg
    refine ⟨pc, hpc, ?_⟩
    rintro rfl
    nomatch hfail
  have hbegun (hb : y.owner.begun = true) : y.owner = .started ∧ y.sh.state = .starting := by
    have ho : y.owner = .started := by
      by_contra hne
      exact hy.early hb hne i hlive
    exact ⟨ho, hy.launch hb (by rw [ho]; nofun)⟩
  have hresets : y.owner.resets = false := by
    cases hb : y.owner.begun with
    | false => exact OwnerPc.resets_of_begun hb
    | true =>
      rw [(hbegun hb).1]
      rfl
  -- FAULT is latched: no other loop is there that could owe the latch
  have hfault (hs : y.sh.state = .fault) (hnot : ∀ old, y.rx[i]? ≠ some (.errLatch old)) :
      y.sh.everFaulted = true := by
    rcases hy.fault hs with hev | ⟨q, hq, hl⟩
    · exact hev
    · obtain ⟨k, hk⟩ := List.mem_iff_getElem?.mp hq
      have hki : k = i := hy.one k i ⟨q, hk, by rintro rfl; nomatch hl⟩ hlive
      subst hki
      obtain ⟨now, r, pc, -, hpc, hfail, -⟩ := hg
      obtain rfl : q = pc := Option.some.inj (hk.symm.trans hpc)
      cases q with
      | errLatch old => exact absurd hk (hnot old)
      | timeoutLatch => nomatch hfail
      | _ => nomatch hl
  rcases givesUp_cases hg h with ⟨old, hpc, -⟩ | ⟨-, ⟨hpc, hne⟩ | ⟨hpc, hs⟩⟩
  · refine iff_of_true (.inl ⟨hresets, .inr ⟨old, hpc⟩⟩) ?_
    rintro ⟨hread, -⟩
    nomatch hpc.symm.trans hread
  · have hnot (old : CyclicState) : y.rx[i]? ≠ some (.errLatch old) := by
      intro hold
      nomatch hpc.symm.trans hold
    constructor
    · rintro (⟨-, hev | ⟨old, hold⟩⟩ | hst) ⟨-, hs⟩
      · -- in STARTING the start behind it has reset the latch
        have ho := hy.starting hs i hlive
        nomatch (hy.fresh (by rw [ho]; rfl) hresets).symm.trans hev
      · exact hnot old hold
      · have ho := hy.starting hs i hlive
        have hb : y.owner.begun = false := hst.owner
        rw [ho] at hb
        nomatch hb
    · intro hread
      cases hs : y.sh.state with
      | starting => exact absurd ⟨hpc, hs⟩ hread
      | running => exact absurd hs hne
      | idle => exact absurd hlive (hy.idle hs i)
      | fault => exact .inl ⟨hresets, .inl (hfault hs hnot)⟩
      | stopping | stopped =>
        -- a shutdown, with no other loop that could undo it
        have hdone : ∀ pc ∈ (y.without i).rx, pc = .done := by
          intro q hq
          obtain ⟨k, hk⟩ := List.mem_iff_getElem?.mp hq
          have hk : (y.rx.set i .done)[k]? = some q := hk
          by_cases hki : k = i
          · subst hki
            rw [List.getElem?_set_self (List.getElem?_eq_some_iff.mp hpc).1] at hk
            exact (Option.some.inj hk).symm
          · rw [List.getElem?_set_ne (Ne.symm hki)] at hk
            by_contra hqd
            exact hki (hy.one k i ⟨q, hk, hqd⟩ hlive)
        refine .inr ⟨?_, .inr ⟨?_, ?_, ?_, ?_, ?_⟩⟩
        · cases hb : y.owner.begun with
          | false => exact hb
          | true => nomatch (hbegun hb).2.symm.trans hs
        · show y.sh.state ≠ .running
          rw [hs]
          nofun
        · show y.sh.state ≠ .fault
          rw [hs]
          nofun
        · first
            | exact .inl hs
            | exact .inr (.inl (OwnerPc.stops_past (hy.stopping hs) _))
        · intro q hq
          rw [hdone q hq]
          rfl
        · intro k j q q' _ _ _ hj
          rw [hdone q' (List.mem_of_getElem? hj)]
          rfl
  · refine iff_of_true (.inl ⟨hresets, .inl (hfault hs ?_)⟩) ?_
    · intro old hold
      nomatch hpc.symm.trans hold
    · rintro ⟨hread, -⟩
      nomatch hpc.symm.trans hread

/-! ## Over a run

  Along a run, step by step; a run without such a start has one loop at a time. -/

/-- Where the parts of a run agree, so does the run. -/
theorem eachStep_congr {y : Sys} {as : List Act} {P Q : Sys → Act → Sys → Prop}
    (h : EachStep y as fun m a m' => (P m a m' ↔ Q m a m')) : EachStep y as P ↔ EachStep y as Q :=
  ⟨fun hp bs a m m' hpre hm hs => (h bs a m m' hpre hm hs).mp (hp bs a m m' hpre hm hs),
    fun hq bs a m m' hpre hm hs => (h bs a m m' hpre hm hs).mpr (hq bs a m m' hpre hm hs)⟩

/-- **No deaf RUNNING.**  In a run of the controller, in whatever order the threads and the owner
    step, every RX loop that leaves on a receive error is heard of, until the next `start` begins, if
    and only if each of them may leave (`Settled`), whatever other loops there are.  Where every start
    finds the loops of the earlier ones terminated, this is so if and only if no error path reads
    STARTING. -/
theorem no_deaf_running {sh : Shared} {as : List Act} :
    ((EachStep (Sys.init sh) as fun m a m' => ∀ i, GivesUp m a m' i → Heard m')
      ↔ EachStep (Sys.init sh) as fun m a m' => ∀ i, GivesUp m a m' i → Settled m i)
    ∧ (NeverStarted sh → (EachStep (Sys.init sh) as fun m a _ => StartsAlone m a) →
      ((EachStep (Sys.init sh) as fun m a m' => ∀ i, GivesUp m a m' i → Heard m')
        ↔ EachStep (Sys.init sh) as fun m a m' => ∀ i, GivesUp m a m' i → ¬ ReadsStarting m i)) := by
  have hexact : (EachStep (Sys.init sh) as fun m a m' => ∀ i, GivesUp m a m' i → Heard m')
      ↔ EachStep (Sys.init sh) as fun m a m' => ∀ i, GivesUp m a m' i → Settled m i :=
    eachStep_congr fun _ _ _ _ _ _ hs =>
      forall_congr' fun _ => imp_congr_right fun hg => heard_iff_settled hg hs
  refine ⟨hexact, fun hsh hfree => hexact.trans ?_⟩
  have hlone : Throughout (Sys.init sh) as Lone :=
    throughout_of_steps (lone_init hsh) fun bs a m m' hpre hm hs hy =>
      lone_step hy (hfree bs a m m' hpre hm hs) hs
  exact eachStep_congr fun bs a m m' hpre hm hs =>
    forall_congr' fun i => imp_congr_right fun hg =>
      settled_iff_lone (hlone bs m ((List.prefix_append bs [a]).trans hpre) hm) hg hs

/-! ## Receive errors on the bench

  A loop that leaves latched, one that leaves unheard, and two loops of which one leaves
  settled. -/

/-- A receive error of the first RX loop, from its first section to the end of its error path. -/
def benchError (n : Nat) : List Act := List.replicate n (.rx 0 0 (.error "down"))

/-- **Deaf RUNNING.**  The error comes before `start` publishes RUNNING: the loop is gone, the state
    is RUNNING, no fault is latched, and there is no reason to abort. -/
theorem deaf_running :
    ∃ m m' z, runSys (Sys.init bench)
        (.call .start :: List.replicate 11 (.owner 0 true) ++ benchError 4) = some m
      ∧ step m (.rx 0 0 (.error "down")) = some m'
      ∧ GivesUp m (.rx 0 0 (.error "down")) m' 0 ∧ m.sh.running = true
      ∧ step m' (.owner 0 true) = some z
      ∧ z.owner = .idle ∧ z.rx = [.done] ∧ z.sh.state = .running ∧ z.sh.everFaulted = false
      ∧ cyclicAbortReason z.sh.state z.sh.everFaulted = none :=
  ⟨_, _, _, rfl, rfl, ⟨_, _, _, rfl, rfl, rfl, rfl⟩, rfl, rfl, rfl, rfl, rfl, rfl, rfl⟩

/-- Two loops, after a restart from FAULT.  The second takes an error and reads RUNNING; the first
    loses the device and moves the state to FAULT. -/
def benchRace : List Act :=
  benchRestart ++ List.replicate 5 (.rx 1 12000000 (.error "down"))
    ++ .rx 0 12000000 .idle :: (List.replicate 6 (.rx 0 16000000 .idle)
      ++ List.replicate 6 (.rx 0 20000000 .idle) ++ List.replicate 7 (.rx 0 24000000 .idle))

/-- A check of each step of a run, along it. -/
def alongSys (check : Sys → Act → Bool) : Sys → List Act → Bool
  | _, [] => true
  | y, a :: as =>
    check y a
    && match step y a with
      | none => true
      | some y' => alongSys check y' as

theorem eachStep_of_along {check : Sys → Act → Bool} {P : Sys → Act → Sys → Prop}
    (hcheck : ∀ m a m', step m a = some m' → check m a = true → P m a m') {y : Sys} {as : List Act}
    (h : alongSys check y as = true) : EachStep y as P := by
  induction as generalizing y with
  | nil =>
    intro bs a m m' hpre
    nomatch List.append_eq_nil_iff.mp (List.prefix_nil.mp hpre)
  | cons a as ih =>
    obtain ⟨hhead, htail⟩ := Bool.and_eq_true_iff.mp h
    refine eachStep_cons (fun y' hs => hcheck y a y' hs hhead) ?_
    intro y' hy'
    rw [hy'] at htail
    exact ih htail

/-- `StartsAlone`, computed. -/
def startsAlone (y : Sys) (a : Act) : Bool :=
  match a with
  | .owner .. => y.owner != .startRead || !y.sh.state.startable || y.rx.all (· == .done)
  | _ => true

theorem startsAlone_spec {y : Sys} {a : Act} (h : startsAlone y a = true) : StartsAlone y a := by
  rintro ⟨howner, now, ok, rfl⟩ hst i ⟨pc, hpc, hlive⟩
  simp only [startsAlone, howner, hst, bne_self_eq_false, Bool.not_true, Bool.or_self,
    Bool.false_or, List.all_eq_true, beq_iff_eq] at h
  exact hlive (h pc (List.mem_of_getElem? hpc))

/-- No loop that steps is about to read STARTING on its error path. -/
def readsOther (y : Sys) (a : Act) : Bool :=
  match a with
  | .rx i .. => y.rx[i]? != some .errRead || y.sh.state != .starting
  | _ => true

theorem readsOther_spec {y y' : Sys} {a : Act} (h : readsOther y a = true) (i : Nat)
    (hg : GivesUp y a y' i) : ¬ ReadsStarting y i := by
  obtain ⟨now, r, pc, rfl, -⟩ := hg
  rintro ⟨hread, hs⟩
  simp [readsOther, hread, hs] at h

/-- Whether a step is a loop's last on a receive error. -/
def givesUp (y : Sys) : Act → Bool
  | .rx i now r =>
    y.rx[i]?.any RxPc.failing
      && (step y (.rx i now r)).any fun y' => y'.rx[i]? == some .done
  | _ => false

/-- A loop that leaves does so with the latch set, or in FAULT beside loops that stay there. -/
def leavesSettled (y : Sys) (a : Act) : Bool :=
  !givesUp y a
    || match a with
      | .rx i .. => !y.owner.begun && (y.sh.everFaulted || (y.sh.state == .fault
        && (y.rx.set i .done).all fun pc => !pc.recovers y.sh.running))
      | _ => true

theorem leavesSettled_spec {y y' : Sys} {a : Act} (h : step y a = some y')
    (hsettled : leavesSettled y a = true) (i : Nat) (hg : GivesUp y a y' i) : Settled y i := by
  obtain ⟨now, r, pc, rfl, hpc, hfail, hdone⟩ := hg
  have hgives : givesUp y (.rx i now r) = true := by
    simp [givesUp, hpc, hfail, h, hdone]
  simp only [leavesSettled, hgives, Bool.not_true, Bool.false_or, Bool.and_eq_true,
    Bool.or_eq_true, Bool.not_eq_true', beq_iff_eq, List.all_eq_true] at hsettled
  obtain ⟨hb, hev | ⟨hs, hstuck⟩⟩ := hsettled
  · exact .inl ⟨OwnerPc.resets_of_begun hb, .inl hev⟩
  · exact .inr ⟨hb, .inl ⟨hs, hstuck⟩⟩

/-- **What the bench shows.**  An error after `start` has returned is heard of; and so is one of the
    second of two loops that finds FAULT where it was going to move to it, before the first loop has
    latched that. -/
theorem no_deaf_running_bench :
    ((∃ m m', runSys (Sys.init bench) (benchStart ++ benchError 6) = some m
        ∧ step m (.rx 0 0 (.error "down")) = some m'
        ∧ GivesUp m (.rx 0 0 (.error "down")) m' 0)
      ∧ EachStep (Sys.init bench) (benchStart ++ benchError 7)
        fun m a m' => ∀ i, GivesUp m a m' i → Heard m')
    ∧ (∃ m m', runSys (Sys.init bench) benchRace = some m
        ∧ step m (.rx 1 24000000 .idle) = some m' ∧ GivesUp m (.rx 1 24000000 .idle) m' 1
        ∧ m'.sh.state = .fault ∧ m'.sh.everFaulted = false)
      ∧ EachStep (Sys.init bench) (benchRace ++ [.rx 1 24000000 .idle])
        fun m a m' => ∀ i, GivesUp m a m' i → Heard m' := by
  have halone : EachStep (Sys.init bench) (benchStart ++ benchError 7)
      fun m a _ => StartsAlone m a := by
    refine eachStep_of_along ?_ (show alongSys startsAlone (Sys.init bench) _ = true from rfl)
    exact fun _ _ _ _ h => startsAlone_spec h
  have hother : EachStep (Sys.init bench) (benchStart ++ benchError 7)
      fun m a m' => ∀ i, GivesUp m a m' i → ¬ ReadsStarting m i := by
    refine eachStep_of_along ?_ (show alongSys readsOther (Sys.init bench) _ = true from rfl)
    exact fun _ _ _ _ h i hg => readsOther_spec h i hg
  have hsettled : EachStep (Sys.init bench) (benchRace ++ [.rx 1 24000000 .idle])
      fun m a m' => ∀ i, GivesUp m a m' i → Settled m i := by
    refine eachStep_of_along ?_ (show alongSys leavesSettled (Sys.init bench) _ = true from rfl)
    exact fun _ _ _ hs h i hg => leavesSettled_spec hs h i hg
  have hnever : NeverStarted bench := neverStarted_fresh benchController benchDevice _ _
    (output_fits benchSlots 0xC001 0xC002 32 1 3) _ 0
  exact ⟨⟨⟨_, _, rfl, rfl, _, _, _, rfl, rfl, rfl, rfl⟩, (no_deaf_running.2 hnever halone).mpr hother⟩,
    ⟨_, _, rfl, rfl, ⟨_, _, _, rfl, rfl, rfl, rfl⟩, rfl, rfl⟩, no_deaf_running.1.mpr hsettled⟩

end Profinet.Cyclic
