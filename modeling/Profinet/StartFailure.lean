/-
  START FAILURE: what a `start` that returns Err leaves behind.

  `start` moves the state to STARTING and sets the run flag before it asks for anything that may
  fail: two sockets, then two threads.  An error returns from the middle (`?`), and nothing that
  was done before it is taken back.  `failed_start` says what that comes to from IDLE or STOPPED,
  for every point of failure and whatever the threads do meanwhile:

      the run flag stays set and the state stays STARTING, from which `start` is refused;
      a TX loop that was spawned before the RX thread failed stays live;
      nothing but a `stop` gets the controller out of STARTING again.
-/
import Profinet.ThreadPair

namespace Profinet.Cyclic

open Util Rt

/-! ## Inside a start from rest

  From rest there is no loop, so up to its last section a `start` meets none but the TX loop it
  has spawned.  `Launching` is that state of affairs, section by section. -/

/-- `start` has not published STARTING yet. -/
def OwnerPc.waits : OwnerPc → Bool
  | .startRead | .starting => true
  | _ => false

/-- A `start` from rest before its last section: no RX loop, and a TX loop only once it has been
    spawned. -/
structure Launching (y : Sys) : Prop where
  rx : ∀ i, ¬ RxLive y i
  tx : y.owner ≠ .spawnRx → ∀ i, ¬ TxLive y i
  spawned : y.owner = .spawnRx → ∃ i, TxLive y i
  atRest : y.owner.waits = true → y.sh.state = .idle ∨ y.sh.state = .stopped
  published : y.owner.waits = false → y.sh.state = .starting
  running : y.owner.launching = true → y.sh.running = true

/-- The sections of `start` that can fail. -/
inductive OwnerPc.Fallible : OwnerPc → Prop
  | openTx : Fallible .openTx
  | openRx : Fallible .openRx
  | spawnTx : Fallible .spawnTx
  | spawnRx : Fallible .spawnRx

theorem OwnerPc.Fallible.facts {pc : OwnerPc} (h : pc.Fallible) :
    pc.launching = true ∧ pc.waits = false := by
  cases h <;> exact ⟨rfl, rfl⟩

/-- No call is made, as none can be while `start` is at it. -/
def NoCall (as : List Act) : Prop := ∀ a ∈ as, ∀ c, a ≠ .call c

/-- A section of `start` that concerns no loop. -/
theorem Launching.pass {y y' : Sys} (hy : Launching y) (htx : y'.tx = y.tx) (hrx : y'.rx = y.rx)
    (hpc : y.owner ≠ .spawnRx) (hpc' : decide (y'.owner = .spawnRx) = false) (hwaits : y'.owner.waits = false)
    (hstate : y'.sh.state = .starting) (hrun : y'.sh.running = true) : Launching y' where
  rx := by
    intro i hi
    exact hy.rx i (by rwa [RxLive, hrx] at hi)
  tx := by
    intro _ i hi
    exact hy.tx hpc i (by rwa [TxLive, htx] at hi)
  spawned := fun h => absurd h (of_decide_eq_false hpc')
  atRest := fun h => nomatch hwaits.symm.trans h
  published := fun _ => hstate
  running := fun _ => hrun

/-- The sections of `start` up to the last thread. -/
def OwnerPc.preparing : OwnerPc → Bool
  | .started => false
  | pc => pc.starts

/-- A section of a `start` from rest: the next one, or out of the part that can fail. -/
theorem launching_owner {now : Instant} {ok : Bool} {y y' : Sys} (hy : Launching y)
    (hpc : y.owner.preparing = true) (h : ownerStep now ok y = some y') :
    Launching y' ∧ y'.owner.preparing = true ∨ y'.owner = .started ∨ y'.owner = .idle := by
  unfold ownerStep at h
  generalize howner : y.owner = pc at hpc h
  have hpub (hw : pc.waits = false) : y.sh.state = .starting :=
    hy.published (by rw [howner]; exact hw)
  have hrun (hl : pc.launching = true) : y.sh.running = true :=
    hy.running (by rw [howner]; exact hl)
  have hne (hp : decide (pc = .spawnRx) = false) : y.owner ≠ .spawnRx := by
    rw [howner]
    exact of_decide_eq_false hp
  cases pc with
  | startRead =>
    have hrest := hy.atRest (by rw [howner]; rfl)
    have hstart : y.sh.state.startable = true := by
      rcases hrest with hs | hs
      · rw [hs]; rfl
      · rw [hs]; rfl
    dsimp only at h
    rw [if_pos hstart] at h
    cases h
    exact .inl ⟨⟨hy.rx, fun _ => hy.tx (hne rfl), by rintro ⟨⟩, fun _ => hrest, by rintro ⟨⟩, by rintro ⟨⟩⟩,
      rfl⟩
  | starting =>
    cases h
    obtain ⟨hnext, hstate, -⟩ := moveTo_effect y .starting .startRunning
    obtain ⟨htx, hrx, -⟩ := moveTo_threads y .starting .startRunning
    refine .inl ⟨⟨?_, ?_, ?_, ?_, fun _ => hstate, ?_⟩, by rw [hnext]; rfl⟩
    · intro i hi
      exact hy.rx i (by rwa [RxLive, hrx] at hi)
    · intro _ i hi
      exact hy.tx (hne rfl) i (by rwa [TxLive, htx] at hi)
    all_goals
      rw [hnext]
      rintro ⟨⟩
  | startRunning =>
    cases h
    exact .inl ⟨hy.pass rfl rfl (hne rfl) rfl rfl (hpub rfl) rfl, rfl⟩
  | startStats =>
    cases h
    exact .inl ⟨hy.pass rfl rfl (hne rfl) rfl rfl (hpub rfl) (hrun rfl), rfl⟩
  | startFault =>
    cases h
    exact .inl ⟨hy.pass rfl rfl (hne rfl) rfl rfl (hpub rfl) (hrun rfl), rfl⟩
  | startCounter =>
    cases h
    exact .inl ⟨hy.pass rfl rfl (hne rfl) rfl rfl (hpub rfl) (hrun rfl), rfl⟩
  | openTx =>
    cases h
    cases ok with
    | true => exact .inl ⟨hy.pass rfl rfl (hne rfl) rfl rfl (hpub rfl) (hrun rfl), rfl⟩
    | false => exact .inr (.inr rfl)
  | openRx =>
    cases h
    cases ok with
    | true => exact .inl ⟨hy.pass rfl rfl (hne rfl) rfl rfl (hpub rfl) (hrun rfl), rfl⟩
    | false => exact .inr (.inr rfl)
  | startSwap =>
    cases h
    exact .inl ⟨hy.pass rfl rfl (hne rfl) rfl rfl (hpub rfl) (hrun rfl), rfl⟩
  | spawnTx =>
    cases ok with
    | false =>
      cases h
      exact .inr (.inr rfl)
    | true =>
      cases h
      refine .inl ⟨⟨hy.rx, fun hp => absurd rfl hp, ?_, by rintro ⟨⟩, fun _ => hpub rfl,
        fun _ => hrun rfl⟩, rfl⟩
      intro _
      exact ⟨y.tx.length, .spawned, List.getElem?_concat_length, by rintro ⟨⟩⟩
  | spawnRx =>
    cases ok with
    | false =>
      cases h
      exact .inr (.inr rfl)
    | true =>
      cases h
      exact .inr (.inl rfl)
  | _ => cases hpc

/-- A TX loop steps on while the run flag is set, and stays live. -/
theorem txLive_step {y y' : Sys} {i j : Nat} {now : Instant} {sendError : Option String}
    (hrun : y.sh.running = true) (h : step y (.tx i now sendError) = some y') (hj : TxLive y j) :
    TxLive y' j := by
  obtain ⟨t, sh, t', frame, ht, hstep, rfl⟩ := step_txAt h
  obtain ⟨q, hq, hqlive⟩ := hj
  by_cases hji : j = i
  · subst hji
    refine ⟨t', List.getElem?_set_self (List.getElem?_eq_some_iff.mp hq).1, ?_⟩
    intro hd
    nomatch ((txStep_done hstep).2 hd).symm.trans hrun
  · exact ⟨q, (List.getElem?_set_ne (Ne.symm hji)).trans hq, hqlive⟩

/-- What a TX thread leaves alone: the owner, the RX loops, the state and the run flag. -/
theorem step_tx_keeps {y y' : Sys} {i : Nat} {now : Instant} {sendError : Option String}
    (h : step y (.tx i now sendError) = some y') :
    y'.owner = y.owner ∧ y'.rx = y.rx ∧ y'.sh.state = y.sh.state
      ∧ y'.sh.running = y.sh.running := by
  obtain ⟨t, sh, t', frame, hstep, rfl⟩ := step_tx h
  rcases txStep_effect hstep with ⟨hq, -⟩ | ⟨rfl, -⟩
  · exact ⟨rfl, rfl, hq.state, hq.running⟩
  · exact ⟨rfl, rfl, rfl, rfl⟩

/-- An RX thread that steps is a live one. -/
theorem rxLive_of_step {y y' : Sys} {i : Nat} {now : Instant} {r : RecvResult}
    (h : step y (.rx i now r) = some y') : RxLive y i := by
  obtain ⟨pc, sh, pc', hpc, hstep, -⟩ := step_rx h
  exact ⟨pc, hpc, rxStep_live hstep⟩

/-- **One step of a start from rest.**  Only the loop it has spawned runs meanwhile. -/
theorem launching_step {y y' : Sys} {a : Act} (ha : ∀ c, a ≠ .call c)
    (hy : (Launching y ∧ y.owner.preparing = true) ∨ y.owner = .started ∨ y.owner = .idle)
    (h : step y a = some y') :
    (Launching y' ∧ y'.owner.preparing = true) ∨ y'.owner = .started ∨ y'.owner = .idle := by
  -- while the start prepares no receiver lives, and the one sender is the one just spawned
  rcases hy with ⟨hy, hpc⟩ | hpc
  · cases a with
    | call c => exact absurd rfl (ha c)
    | owner now ok => exact launching_owner hy hpc h
    | rx i now r => exact absurd (rxLive_of_step h) (hy.rx i)
    | tx i now sendError =>
      obtain ⟨howner, hrx, hstate, hrun⟩ := step_tx_keeps h
      obtain ⟨t, sh, t', frame, ht, hstep, rfl⟩ := step_txAt h
      have hlive : TxLive y i := ⟨t, ht, (txStep_done hstep).1⟩
      have hlast : y.owner = .spawnRx := by
        by_contra hne
        exact hy.tx hne i hlive
      have hset := hy.running (by rw [hlast]; rfl)
      refine .inl ⟨⟨hy.rx, fun hne => absurd hlast hne, ?_, ?_, ?_, ?_⟩, hpc⟩
      · intro _
        obtain ⟨j, hj⟩ := hy.spawned hlast
        exact ⟨j, txLive_step hset h hj⟩
      · intro hw
        exact hstate.symm ▸ hy.atRest hw
      · intro hw
        exact hstate.trans (hy.published hw)
      · intro hl
        exact hrun.trans (hy.running hl)
  -- the start is over: the owner is at its last step, or idle
  · refine .inr ?_
    cases a with
    | call c => exact absurd rfl (ha c)
    | owner now ok =>
      rcases hpc with hpc | hpc
      · simp only [step, ownerStep, hpc] at h
        cases h
        exact .inr (moveTo_effect y .running .idle).1
      · simp only [step, ownerStep, hpc] at h
        cases h
    | rx i now r =>
      obtain ⟨pc, sh, pc', -, -, rfl⟩ := step_rx h
      exact hpc
    | tx i now sendError =>
      rw [(step_tx_keeps h).1]
      exact hpc

/-! ## After the failure

  What the failed call leaves behind is stable: without a `stop` no step takes the controller out
  of STARTING, since no RX loop is there to do it. -/

/-- What a failed `start` would leave if it took back what it did: no live loop, the run flag
    cleared, and a state from which the next `start` comes up. -/
structure Restored (y : Sys) : Prop where
  loops : AllDone y
  running : y.sh.running = false
  state : y.sh.state.startable = true
  again : ∀ now, ∃ z, runSys y (.call .start :: List.replicate 12 (.owner now true)) = some z
    ∧ z.sh.state = .running

/-- STARTING without an RX loop, and no `stop` under way. -/
structure Stranded (y : Sys) : Prop where
  state : y.sh.state = .starting
  rx : ∀ i, ¬ RxLive y i
  owner : y.owner = .startRead ∨ y.owner.Resting ∧ y.owner ≠ .safeRead
    ∧ (∀ safe, y.owner ≠ .safeApply safe) ∧ y.owner ≠ .stopLoad

/-- **Only a `stop` leaves STARTING.** -/
theorem stranded_step {y y' : Sys} {a : Act} (ha : a ≠ .call .stop) (hy : Stranded y)
    (h : step y a = some y') : Stranded y' := by
  cases a with
  | call c =>
    obtain ⟨-, rfl⟩ := step_call h
    refine ⟨hy.state, hy.rx, ?_⟩
    cases c with
    | stop => exact absurd rfl ha
    | start => exact .inl rfl
    | setOutputData slot subslot data => exact .inr ⟨.writeRead _ _ _, by rintro ⟨⟩, by rintro _ ⟨⟩, by rintro ⟨⟩⟩
    | setSafeOutput slot subslot data => exact .inr ⟨.setSafe _ _ _, by rintro ⟨⟩, by rintro _ ⟨⟩, by rintro ⟨⟩⟩
  | owner now ok =>
    have hidle : OwnerPc.idle.Resting ∧ OwnerPc.idle ≠ .safeRead
        ∧ (∀ safe, OwnerPc.idle ≠ .safeApply safe) ∧ OwnerPc.idle ≠ .stopLoad :=
      ⟨.idle, by rintro ⟨⟩, by rintro _ ⟨⟩, by rintro ⟨⟩⟩
    -- a start that is let in ends at the test of the state; the other calls end where they began
    rcases hy.owner with hpc | ⟨hrest, hns, hna, hnl⟩
    · simp only [step, ownerStep, hpc, hy.state, CyclicState.startable] at h
      cases h
      exact ⟨hy.state, hy.rx, .inr hidle⟩
    · change ownerStep now ok y = some y' at h
      unfold ownerStep at h
      generalize howner : y.owner = pc at hrest hns hna hnl h
      cases hrest with
      | idle => cases h
      | setSafe slot subslot data =>
        cases h
        exact ⟨hy.state, hy.rx, .inr hidle⟩
      | writeRead slot subslot data =>
        cases h
        refine ⟨hy.state, hy.rx, .inr ?_⟩
        cases hlocked : outputWritesLocked y.sh.state with
        | true => exact hidle
        | false => exact ⟨.writeData _ _ _, by rintro ⟨⟩, by rintro _ ⟨⟩, by rintro ⟨⟩⟩
      | writeData slot subslot data =>
        dsimp only at h
        split at h
        · cases h
          exact ⟨hy.state, hy.rx, .inr hidle⟩
        · cases h
          exact ⟨hy.state, hy.rx, .inr hidle⟩
      | safeRead => exact absurd rfl hns
      | safeApply safe => exact absurd rfl (hna safe)
      | stopLoad => exact absurd rfl hnl
  | rx i now r => exact absurd (rxLive_of_step h) (hy.rx i)
  | tx i now sendError =>
    obtain ⟨howner, hrx, hstate, -⟩ := step_tx_keeps h
    refine ⟨hstate.trans hy.state, ?_, ?_⟩
    · intro j hj
      exact hy.rx j (by rwa [RxLive, hrx] at hj)
    · rw [howner]
      exact hy.owner

/-- A run without a `stop`. -/
def NoStop (as : List Act) : Prop := ∀ a ∈ as, a ≠ .call .stop

theorem stranded_run {y z : Sys} {as : List Act} (has : NoStop as) (hy : Stranded y)
    (h : runSys y as = some z) : Stranded z :=
  runSys_invariant (fun _ _ _ ha hm hs => stranded_step ha hm hs) has hy h

/-- **A failed start takes nothing back.**  A `start` called at `y` in IDLE or STOPPED with no
    live loop fails at `m`, at one of the two sockets or the two threads, whatever ran in between.
    The run flag is set, the state is STARTING and stays so until a `stop`, whatever is called; a
    TX loop is live exactly if it was the RX thread that failed. -/
theorem failed_start {y m y' : Sys} {as : List Act} {now : Instant} (hcall : y.owner = .startRead)
    (hstate : y.sh.state = .idle ∨ y.sh.state = .stopped) (hdone : AllDone y) (has : NoCall as)
    (hrun : runSys y as = some m) (hpc : m.owner.Fallible)
    (hstep : step m (.owner now false) = some y') :
    ¬ Restored y' ∧ y'.sh.running = true
      ∧ (∀ bs z, NoStop bs → runSys y' bs = some z → z.sh.state = .starting)
      ∧ (AllDone y' ↔ m.owner ≠ .spawnRx) := by
  have hy : Launching y := by
    have hw : y.owner.waits = true := by rw [hcall]; rfl
    refine ⟨hdone.rx, fun _ => hdone.tx, ?_, fun _ => hstate, ?_, ?_⟩
    · intro hs
      cases hcall.symm.trans hs
    · intro h
      cases hw.symm.trans h
    · intro h
      rw [hcall] at h
      cases h
  have hm := runSys_invariant (P := fun q => (Launching q ∧ q.owner.preparing = true)
      ∨ q.owner = .started ∨ q.owner = .idle)
    (fun _ _ _ ha hq hs => launching_step ha hq hs) has
    (.inl ⟨hy, by rw [hcall]; rfl⟩) hrun
  have hm : Launching m := by
    rcases hm with hm | hm | hm
    · exact hm.1
    · rw [hm] at hpc
      cases hpc
    · rw [hm] at hpc
      cases hpc
  -- whichever it was, the call returns and everything else is as it was
  have hy' : y' = { m with owner := .idle } := by
    cases howner : m.owner with
    | openTx | openRx | spawnTx | spawnRx =>
      simp only [step, ownerStep, howner] at hstep
      exact (Option.some.inj hstep).symm
    | _ =>
      rw [howner] at hpc
      cases hpc
  have hset : m.sh.running = true := hm.running hpc.facts.1
  have hstarting : m.sh.state = .starting := hm.published hpc.facts.2
  subst hy'
  refine ⟨?_, hset, ?_, ?_⟩
  · intro hr
    cases hset.symm.trans hr.running
  · intro bs z hbs hz
    have hstranded : Stranded { m with owner := .idle } :=
      ⟨hstarting, hm.rx, .inr ⟨.idle, by rintro ⟨⟩, by rintro _ ⟨⟩, by rintro ⟨⟩⟩⟩
    exact (stranded_run hbs hstranded hz).state
  · constructor
    · intro hall hs
      obtain ⟨i, hi⟩ := hm.spawned hs
      exact hall.tx i hi
    · intro hs
      exact ⟨hm.tx hs, hm.rx⟩

/-! ## A start without a capture on the bench

  The second of the two threads fails to be spawned: the one that has begun goes on. -/

/-- A start of a new controller whose RX thread cannot be spawned. -/
theorem benchFailed_run :
    ∃ y m y', runSys (Sys.init bench) [.call .start] = some y
      ∧ runSys y (List.replicate 10 (.owner 0 true)) = some m
      ∧ step m (.owner 0 false) = some y' ∧ y.owner = .startRead ∧ y.sh.state = .idle
      ∧ y.tx = [] ∧ y.rx = [] ∧ m.owner = .spawnRx ∧ y'.owner = .idle ∧ y'.sh.running = true
      ∧ y'.sh.state = .starting ∧ y'.tx.map TxThread.pc = [.launch] :=
  ⟨_, _, _, rfl, rfl, rfl, rfl, rfl, rfl, rfl, rfl, rfl, rfl, rfl, rfl⟩

/-- **The failure is not taken back.**  After the Err the run flag is set, the state is STARTING
    and the TX loop is live. -/
theorem start_not_taken_back :
    ∃ y', runSys (Sys.init bench) (.call .start :: List.replicate 10 (.owner 0 true)
        ++ [.owner 0 false]) = some y'
      ∧ y'.owner = .idle ∧ y'.sh.running = true ∧ y'.sh.state.startable = false ∧ ¬ AllDone y'
      ∧ ¬ Restored y' := by
  obtain ⟨y, m, y', hy, hm, hy', -, -, -, -, -, hidle, hrun, hstate, htx⟩ := benchFailed_run
  refine ⟨y', ?_, hidle, hrun, by rw [hstate]; rfl, ?_, ?_⟩
  · exact runSys_append.mpr ⟨m, runSys_append.mpr ⟨y, hy, hm⟩, runSys_cons.mpr ⟨y', hy', rfl⟩⟩
  · intro hall
    obtain ⟨t, ht, hpc⟩ : ∃ t, y'.tx[0]? = some t ∧ t.pc = .launch := by
      cases htl : y'.tx with
      | nil =>
        rw [htl] at htx
        nomatch htx
      | cons t l =>
        rw [htl] at htx
        exact ⟨t, rfl, (List.cons.inj htx).1⟩
    exact hall.tx 0 ⟨t, ht, by rw [hpc]; nofun⟩
  · intro hr
    nomatch hrun.symm.trans hr.running

theorem failed_start_bench :
    ∃ y m y', runSys (Sys.init bench) [.call .start] = some y
      ∧ runSys y (List.replicate 10 (.owner 0 true)) = some m
      ∧ step m (.owner 0 false) = some y' ∧ ¬ Restored y' ∧ ¬ AllDone y' := by
  obtain ⟨y, m, y', hy, hm, hy', hcall, hstate, htx, hrx, hpc, -⟩ := benchFailed_run
  have hdone : AllDone y := by
    constructor
    · rintro i ⟨t, ht, -⟩
      rw [htx] at ht
      nomatch ht
    · rintro i ⟨pc, hpc, -⟩
      rw [hrx] at hpc
      nomatch hpc
  have has : NoCall (List.replicate 10 (.owner 0 true)) := by
    intro a ha c
    rw [List.eq_of_mem_replicate ha]
    nofun
  obtain ⟨hnot, -, -, hloops⟩ :=
    failed_start hcall (.inl hstate) hdone has hm (hpc ▸ .spawnRx) hy'
  exact ⟨y, m, y', hy, hm, hy', hnot, fun hall => hloops.mp hall hpc⟩

end Profinet.Cyclic
