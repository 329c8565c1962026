/-
  THREAD PAIR: which loops are live, and what the join handles know of them.

  The controller reaches its loops through two join handles and stops them by one run flag.
  `Paired` says when that is enough: a live loop is the one its handle is about, and a cleared
  run flag goes with handles that are empty or about to be joined.

  `start` is also let in from FAULT, where the loops of the earlier start are running.  It then
  overwrites their handles, and two pairs follow one run flag.  `one_thread_pair` says that this
  is the only way out of `Paired`: a run keeps to one pair, and its stops leave no loop behind,
  exactly when none of its TX loops is spawned over a stored handle.
-/
import Mathlib.Data.List.Induction
import Profinet.Shutdown

namespace Profinet.Cyclic

open Util Rt

/-! ## Live loops

  A loop is live up to its last section.  Steps of a loop keep it live or end it; the owner adds
  loops and joins them. -/

/-- TX loop `i` was spawned and has not terminated. -/
def TxLive (y : Sys) (i : Nat) : Prop := ∃ t, y.tx[i]? = some t ∧ t.pc ≠ .done

/-- RX loop `i` was spawned and has not terminated. -/
def RxLive (y : Sys) (i : Nat) : Prop := ∃ pc, y.rx[i]? = some pc ∧ pc ≠ .done

/-- At most one TX loop and at most one RX loop are live. -/
structure OnePair (y : Sys) : Prop where
  tx : ∀ i j, TxLive y i → TxLive y j → i = j
  rx : ∀ i j, RxLive y i → RxLive y j → i = j

/-- Every loop the controller ever spawned has terminated. -/
structure AllDone (y : Sys) : Prop where
  tx : ∀ i, ¬ TxLive y i
  rx : ∀ i, ¬ RxLive y i

/-- The section of a live RX thread leaves the others as they are. -/
theorem rxLive_of_set {y y' : Sys} {i : Nat} {pc pc' : RxPc} (hpc : y.rx[i]? = some pc)
    (hlive : pc ≠ .done) (hrx : y'.rx = y.rx.set i pc') {j : Nat} (h : RxLive y' j) :
    RxLive y j := by
  obtain ⟨q, hq, hqd⟩ := h
  by_cases hji : j = i
  · subst hji
    exact ⟨pc, hpc, hlive⟩
  · rw [hrx, List.getElem?_set_ne (Ne.symm hji)] at hq
    exact ⟨q, hq, hqd⟩

/-- The same for a TX thread. -/
theorem txLive_of_set {y y' : Sys} {i : Nat} {t t' : TxThread} (ht : y.tx[i]? = some t)
    (hlive : t.pc ≠ .done) (htx : y'.tx = y.tx.set i t') {j : Nat} (h : TxLive y' j) :
    TxLive y j := by
  obtain ⟨q, hq, hqd⟩ := h
  by_cases hji : j = i
  · subst hji
    exact ⟨t, ht, hlive⟩
  · rw [htx, List.getElem?_set_ne (Ne.symm hji)] at hq
    exact ⟨q, hq, hqd⟩

/-- A member of a list with one more at its end is an old one, or the new one. -/
theorem getElem?_spawned {α : Type} {l : List α} {a b : α} {i : Nat} (h : (l ++ [a])[i]? = some b) :
    l[i]? = some b ∨ i = l.length := by
  rcases Nat.lt_trichotomy i l.length with hlt | heq | hgt
  · exact .inl ((List.getElem?_append_left hlt).symm.trans h)
  · exact .inr heq
  · have hlen : (l ++ [a]).length ≤ i := by
      rw [List.length_append, List.length_singleton]
      omega
    cases (List.getElem?_eq_none hlen).symm.trans h

/-- A TX thread terminates at the loop head, and only on a cleared run flag. -/
theorem txStep_done {now : Instant} {sendError : Option String} {sh sh' : Shared}
    {t t' : TxThread} {frame : Option (List UInt8)}
    (h : txStep now sendError sh t = some (sh', t', frame)) :
    t.pc ≠ .done ∧ (t'.pc = .done → sh.running = false) := by
  obtain ⟨pc, nextSend, lastSend, firstFrame⟩ := t
  -- a sender thread ends at its head only, and only where `running` is down
  cases pc with
  | head =>
    cases Option.some.inj h
    refine ⟨nofun, ?_⟩
    intro hdone
    cases hrun : sh.running with
    | false => rfl
    | true =>
      rw [hrun] at hdone
      nomatch hdone
  | wait =>
    cases Option.some.inj h
    refine ⟨nofun, ?_⟩
    intro hdone
    dsimp only at hdone
    split at hdone <;> nomatch hdone
  | done => nomatch h
  | _ =>
    cases Option.some.inj h
    exact ⟨nofun, nofun⟩

theorem rxStep_live {now : Instant} {r : RecvResult} {sh sh' : Shared} {pc pc' : RxPc}
    (h : rxStep now r sh pc = some (sh', pc')) : pc ≠ .done := by
  rintro rfl
  nomatch h

/-- A step of a TX thread, with the thread it is about. -/
theorem step_txAt {y y' : Sys} {i : Nat} {now : Instant} {sendError : Option String}
    (h : step y (.tx i now sendError) = some y') :
    ∃ t sh t' frame, y.tx[i]? = some t ∧ txStep now sendError y.sh t = some (sh, t', frame)
      ∧ y' = { y with sh := sh, tx := y.tx.set i t', frames := y.frames ++ frame.toList } := by
  obtain ⟨t, ht, h⟩ := Option.bind_eq_some_iff.mp h
  obtain ⟨⟨sh, t', frame⟩, hstep, heq⟩ := Option.map_eq_some_iff.mp h
  exact ⟨t, sh, t', frame, ht, hstep, heq.symm⟩

/-! ## Handles and the run flag

  `Paired`, and the steps that leave it alone: those outside `start` and `stop`, and the sections
  of a stop, in which the handles are emptied one after the other. -/

/-- The section in which a cleared run flag may go with a TX handle. -/
def OwnerPc.holdsTx : OwnerPc → Bool
  | .joinTx => true
  | _ => false

/-- The sections in which a cleared run flag may go with an RX handle. -/
def OwnerPc.holdsRx : OwnerPc → Bool
  | .joinTx | .burstSwap _ | .burstCounter _ | .burstCommit .. | .burstSend _ | .burstCount _
  | .joinRx => true
  | _ => false

/-- The sections that neither join a loop nor follow the spawn of one. -/
def OwnerPc.outside : OwnerPc → Bool
  | .joinTx | .burstSwap _ | .burstCounter _ | .burstCommit .. | .burstSend _ | .burstCount _
  | .joinRx | .stopped | .spawnRx => false
  | _ => true

/-- The sections of `start` behind the set run flag. -/
def OwnerPc.launching : OwnerPc → Bool
  | .startStats | .startFault | .startCounter | .openTx | .openRx | .startSwap | .spawnTx
  | .spawnRx | .started => true
  | _ => false

theorem OwnerPc.outside_facts {pc : OwnerPc} (h : pc.outside = true) :
    ¬ pc.Closing ∧ pc.holdsTx = false ∧ pc.holdsRx = false ∧ pc ≠ .spawnRx := by
  cases pc with
  | joinTx | joinRx | stopped | spawnRx => nomatch h
  | burstSwap | burstCounter | burstCommit | burstSend | burstCount => nomatch h
  | _ => exact ⟨nofun, rfl, rfl, nofun⟩

theorem OwnerPc.Closing.not_launching {pc : OwnerPc} (h : pc.Closing) : pc.launching = false := by
  cases h <;> rfl

/-- **Every live loop is known by its handle.** -/
structure Paired (y : Sys) : Prop where
  tx : ∀ i, TxLive y i → y.txHandle = some i
  rx : ∀ i, RxLive y i → y.rxHandle = some i
  /-- A TX loop lives as long as the run flag is set. -/
  up : y.sh.running = true → ∀ i, y.txHandle = some i → TxLive y i
  closing : y.owner.Closing → y.sh.running = false
  launching : y.owner.launching = true → y.sh.running = true
  freedTx : y.sh.running = false → y.owner.holdsTx = false → y.txHandle = none
  freedRx : y.sh.running = false → y.owner.holdsRx = false → y.rxHandle = none
  /-- The TX loop is spawned first. -/
  order : ¬ y.owner.Closing → y.txHandle = none → y.rxHandle = none
  spawning : y.owner = .spawnRx → y.rxHandle = none ∧ y.txHandle ≠ none

theorem Paired.onePair {y : Sys} (h : Paired y) : OnePair y := by
  constructor
  · intro i j hi hj
    exact Option.some.inj ((h.tx i hi).symm.trans (h.tx j hj))
  · intro i j hi hj
    exact Option.some.inj ((h.rx i hi).symm.trans (h.rx j hj))

/-- With the run flag cleared and nobody joining, no loop is live. -/
theorem Paired.allDone {y : Sys} (h : Paired y) (hrun : y.sh.running = false)
    (hpc : y.owner.holdsRx = false) : AllDone y := by
  have hpc' : y.owner.holdsTx = false := by
    cases howner : y.owner with
    | joinTx =>
      rw [howner] at hpc
      nomatch hpc
    | _ => rfl
  constructor
  · intro i hi
    nomatch (h.freedTx hrun hpc').symm.trans (h.tx i hi)
  · intro i hi
    nomatch (h.freedRx hrun hpc).symm.trans (h.rx i hi)

/-- A section that has nothing to do with loops, handles and run flag. -/
theorem Paired.pass {y y' : Sys} (hy : Paired y) (htx : y'.tx = y.tx) (hrx : y'.rx = y.rx)
    (htxh : y'.txHandle = y.txHandle) (hrxh : y'.rxHandle = y.rxHandle)
    (hrun : y'.sh.running = y.sh.running) (hpc : y.owner.outside = true)
    (hpc' : y'.owner.outside = true)
    (hlaunch : y'.owner.launching = true → y.owner.launching = true) : Paired y' := by
  obtain ⟨hc, htxf, hrxf, -⟩ := OwnerPc.outside_facts hpc
  obtain ⟨hc', -, -, hns⟩ := OwnerPc.outside_facts hpc'
  -- threads, handles and `running` are the same, and the owner is outside `start` and `stop`
  constructor
  · intro i hi
    rw [htxh]
    exact hy.tx i (by rwa [TxLive, htx] at hi)
  · intro i hi
    rw [hrxh]
    exact hy.rx i (by rwa [RxLive, hrx] at hi)
  · intro h i hi
    rw [TxLive, htx]
    exact hy.up (hrun.symm.trans h) i (htxh.symm.trans hi)
  · intro h
    exact absurd h hc'
  · intro h
    exact hrun.trans (hy.launching (hlaunch h))
  · intro h _
    exact htxh.trans (hy.freedTx (hrun.symm.trans h) htxf)
  · intro h _
    exact hrxh.trans (hy.freedRx (hrun.symm.trans h) hrxf)
  · intro _ h
    exact hrxh.trans (hy.order hc (htxh.symm.trans h))
  · intro h
    exact absurd h hns

/-- A section of `stop` that waits for nobody. -/
theorem Paired.passClosing {y y' : Sys} (hy : Paired y) (htx : y'.tx = y.tx) (hrx : y'.rx = y.rx)
    (htxh : y'.txHandle = y.txHandle) (hrxh : y'.rxHandle = y.rxHandle)
    (hrun : y'.sh.running = false) (hpc' : y'.owner.Closing)
    (hfreed : y'.txHandle = none) (hfreed' : y'.owner.holdsRx = false → y'.rxHandle = none) :
    Paired y' := by
  -- while closing `running` is down, so what is asked of a running pair is empty
  constructor
  · intro i hi
    rw [htxh]
    exact hy.tx i (by rwa [TxLive, htx] at hi)
  · intro i hi
    rw [hrxh]
    exact hy.rx i (by rwa [RxLive, hrx] at hi)
  · intro h
    nomatch hrun.symm.trans h
  · intro _
    exact hrun
  · intro h
    rw [hpc'.not_launching] at h
    nomatch h
  · intro _ _
    exact hfreed
  · intro _
    exact hfreed'
  · intro h
    exact absurd hpc' h
  · intro h
    rw [h] at hpc'
    nomatch hpc'

theorem moveTo_threads (y : Sys) (newState : CyclicState) (next : OwnerPc) :
    (y.moveTo newState next).tx = y.tx ∧ (y.moveTo newState next).rx = y.rx
      ∧ (y.moveTo newState next).txHandle = y.txHandle
      ∧ (y.moveTo newState next).rxHandle = y.rxHandle := by
  unfold Sys.moveTo
  cases hmove : y.sh.moveState newState with
  | mk sh old =>
    cases old with
    | none => exact ⟨rfl, rfl, rfl, rfl⟩
    | some old => exact ⟨rfl, rfl, rfl, rfl⟩

/-- A transition of the owner, joins aside. -/
theorem Paired.moveTo {y : Sys} (hy : Paired y) (newState : CyclicState) {next : OwnerPc}
    (hpc : y.owner.outside = true) (hnext : next.outside = true)
    (hlaunch : next.launching = true → y.owner.launching = true) :
    Paired (y.moveTo newState next) := by
  obtain ⟨howner, -, hrun, -⟩ := moveTo_effect y newState next
  obtain ⟨h1, h2, h3, h4⟩ := moveTo_threads y newState next
  exact hy.pass h1 h2 h3 h4 hrun hpc (by rw [howner]; exact hnext)
    (by rw [howner]; exact hlaunch)

/-- The loop a handle is about is the only one that can be live: when it is done, none is. -/
theorem Paired.deadTx {y : Sys} (hy : Paired y) {i : Nat} (hh : y.txHandle = some i)
    (hdone : y.tx[i]?.map TxThread.pc = some .done) (j : Nat) : ¬ TxLive y j := by
  intro hj
  obtain rfl : i = j := Option.some.inj (hh.symm.trans (hy.tx j hj))
  obtain ⟨t, ht, hlive⟩ := hj
  rw [ht] at hdone
  exact hlive (Option.some.inj hdone)

theorem Paired.deadRx {y : Sys} (hy : Paired y) {i : Nat} (hh : y.rxHandle = some i)
    (hdone : y.rx[i]? = some .done) (j : Nat) : ¬ RxLive y j := by
  intro hj
  obtain rfl : i = j := Option.some.inj (hh.symm.trans (hy.rx j hj))
  obtain ⟨pc, hpc, hlive⟩ := hj
  rw [hpc] at hdone
  exact hlive (Option.some.inj hdone)

/-- The spawn of a TX loop where no handle is stored: it is the only live one. -/
theorem Paired.spawnTx {y : Sys} (hy : Paired y) (hpc : y.owner = .spawnTx)
    (hnone : y.txHandle = none) :
    Paired { y with tx := y.tx ++ [.spawned], txHandle := some y.tx.length, owner := .spawnRx } := by
  have hrun : y.sh.running = true := hy.launching (by rw [hpc]; rfl)
  have hnorx : y.rxHandle = none := hy.order (by rw [hpc]; nofun) hnone
  have hdown {p : Prop} (hr : y.sh.running = false) : p := nomatch hrun.symm.trans hr
  refine ⟨?_, hy.rx, ?_, nofun, fun _ => hrun, hdown, hdown, nofun, fun _ => ⟨hnorx, nofun⟩⟩
  · rintro i ⟨t, ht, hlive⟩
    rcases getElem?_spawned ht with ht' | rfl
    · nomatch hnone.symm.trans (hy.tx i ⟨t, ht', hlive⟩)
    · rfl
  · intro _ i hi
    obtain rfl := Option.some.inj hi
    exact ⟨.spawned, List.getElem?_concat_length, nofun⟩

/-- The spawn of an RX loop: no handle of an earlier one is stored. -/
theorem Paired.spawnRx {y : Sys} (hy : Paired y) (hpc : y.owner = .spawnRx) :
    Paired { y with rx := y.rx ++ [.arm], rxHandle := some y.rx.length, owner := .started } := by
  have hrun : y.sh.running = true := hy.launching (by rw [hpc]; rfl)
  obtain ⟨hnorx, htxh⟩ := hy.spawning hpc
  have hdown {p : Prop} (hr : y.sh.running = false) : p := nomatch hrun.symm.trans hr
  refine ⟨hy.tx, ?_, hy.up, nofun, fun _ => hrun, hdown, hdown, ?_, nofun⟩
  · rintro i ⟨pc, hpc', hlive⟩
    rcases getElem?_spawned hpc' with hold | rfl
    · nomatch hnorx.symm.trans (hy.rx i ⟨pc, hold, hlive⟩)
    · rfl
  · intro _ hnone
    exact absurd hnone htxh

/-- The last section of a `stop`: both joins are behind it. -/
theorem Paired.stopped {y : Sys} (hy : Paired y) (hpc : y.owner = .stopped) :
    Paired (y.moveTo .stopped .idle) := by
  have hclosed : y.sh.running = false := hy.closing (by rw [hpc]; exact .stopped)
  obtain ⟨hidle, -, hrun, -⟩ := moveTo_effect y .stopped .idle
  obtain ⟨htx, hrx, htxh, hrxh⟩ := moveTo_threads y .stopped .idle
  have hrunning := hrun.trans hclosed
  have hnotx := htxh.trans (hy.freedTx hclosed (by rw [hpc]; rfl))
  have hnorx := hrxh.trans (hy.freedRx hclosed (by rw [hpc]; rfl))
  have hdone := hy.allDone hclosed (by rw [hpc]; rfl)
  refine ⟨?_, ?_, ?_, fun _ => hrunning, ?_, fun _ _ => hnotx, fun _ _ => hnorx,
    fun _ _ => hnorx, ?_⟩
  · intro i hi
    exact absurd (by rwa [TxLive, htx] at hi) (hdone.tx i)
  · intro i hi
    exact absurd (by rwa [RxLive, hrx] at hi) (hdone.rx i)
  · intro hr
    nomatch hrunning.symm.trans hr
  · intro hl
    rw [hidle] at hl
    nomatch hl
  · intro hs
    rw [hidle] at hs
    nomatch hs

/-! ## One step

  The owner's sections one by one, then the loops'.  Only the two spawns add a loop, and they ask
  for an empty handle. -/

/-- The sections of `stop` behind the flag: both loops see it clear, and each handle is gone once it
    was joined. -/
theorem paired_closing {now : Instant} {ok : Bool} {y y' : Sys} (hy : Paired y)
    (hc : y.owner.Closing) (h : ownerStep now ok y = some y') : Paired y' := by
  have hclear : y.sh.running = false := hy.closing hc
  unfold ownerStep at h
  generalize howner : y.owner = pc at h hc
  have hfreedTx (hh : pc.holdsTx = false) : y.txHandle = none :=
    hy.freedTx hclear (by rw [howner]; exact hh)
  -- a join frees the handle of a thread that is done; every other step keeps threads and handles
  cases hc with
  | joinTx =>
    dsimp only at h
    split at h
    · rename_i hnone
      cases h
      exact hy.passClosing rfl rfl rfl rfl hclear .joinRx hnone nofun
    · rename_i i hsome
      split at h
      · rename_i hdone
        -- the joined thread was the only one with this handle
        cases h
        have hdead := hy.deadTx hsome hdone
        refine ⟨fun j hj => absurd hj (hdead j), hy.rx, ?_, fun _ => hclear, nofun,
          fun _ _ => rfl, nofun, ?_, nofun⟩
        · intro hr
          nomatch hclear.symm.trans hr
        · intro hc
          exact absurd (OwnerPc.Closing.burstSwap 0) hc
      · nomatch h
  | burstSwap i =>
    dsimp only at h
    split at h
    · cases h
      exact hy.passClosing rfl rfl rfl rfl hclear (.burstCounter i) (hfreedTx rfl) nofun
    · cases h
      exact hy.passClosing rfl rfl rfl rfl hclear .joinRx (hfreedTx rfl) nofun
  | burstCounter i =>
    cases h
    exact hy.passClosing rfl rfl rfl rfl hclear (.burstCommit i _) (hfreedTx rfl) nofun
  | burstCommit i cycleCounter =>
    cases h
    exact hy.passClosing rfl rfl rfl rfl hclear (.burstSend i) (hfreedTx rfl) nofun
  | burstSend i =>
    cases h
    cases ok with
    | true =>
      exact hy.passClosing rfl rfl rfl rfl hclear (.burstCount i) (hfreedTx rfl) nofun
    | false =>
      exact hy.passClosing rfl rfl rfl rfl hclear .joinRx (hfreedTx rfl) nofun
  | burstCount i =>
    cases h
    exact hy.passClosing rfl rfl rfl rfl hclear (.burstSwap (i + 1)) (hfreedTx rfl) nofun
  | joinRx =>
    dsimp only at h
    split at h
    · rename_i hnone
      cases h
      exact hy.passClosing rfl rfl rfl rfl hclear .stopped (hfreedTx rfl) fun _ => hnone
    · rename_i i hsome
      split at h
      · rename_i hdone
        cases h
        have hdead := hy.deadRx hsome hdone
        refine ⟨hy.tx, fun j hj => absurd hj (hdead j), ?_, fun _ => hclear, nofun,
          fun _ _ => hfreedTx rfl, fun _ _ => rfl, ?_, nofun⟩
        · intro hr
          nomatch hclear.symm.trans hr
        · intro hc
          exact absurd OwnerPc.Closing.stopped hc
      · nomatch h
  | stopped =>
    cases h
    exact hy.stopped howner

/-- A section of the owner keeps the pair together, unless it spawns a TX loop over a stored
    handle. -/
theorem paired_owner {now : Instant} {ok : Bool} {y y' : Sys} (hy : Paired y)
    (hspawn : y.owner = .spawnTx → ok = true → y.txHandle = none)
    (h : ownerStep now ok y = some y') : Paired y' := by
  have hstep := h
  unfold ownerStep at h
  generalize howner : y.owner = pc at h
  have hpc (hout : pc.outside = true) : y.owner.outside = true := by rw [howner]; exact hout
  have hup (hl : pc.launching = true) : y.owner.launching = true := by rw [howner]; exact hl
  cases pc with
  | idle => nomatch h
  | setSafe slot subslot data | safeRead =>
    cases h
    exact hy.pass rfl rfl rfl rfl rfl (hpc rfl) rfl nofun
  | writeRead slot subslot data =>
    cases h
    cases hlocked : outputWritesLocked y.sh.state with
    | true => exact hy.pass rfl rfl rfl rfl rfl (hpc rfl) rfl nofun
    | false => exact hy.pass rfl rfl rfl rfl rfl (hpc rfl) rfl nofun
  | writeData slot subslot data =>
    dsimp only at h
    split at h
    · cases h
      exact hy.pass rfl rfl rfl rfl rfl (hpc rfl) rfl nofun
    · cases h
      exact hy.pass rfl rfl rfl rfl rfl (hpc rfl) rfl nofun
  | safeApply safe =>
    cases safe with
    | none =>
      cases h
      exact hy.pass rfl rfl rfl rfl rfl (hpc rfl) rfl nofun
    | some entry =>
      obtain ⟨slot, subslot, data⟩ := entry
      dsimp only at h
      split at h
      · cases h
        exact hy.pass rfl rfl rfl rfl (quiet_emit y.sh _).running (hpc rfl) rfl nofun
      · cases h
        exact hy.pass rfl rfl rfl rfl rfl (hpc rfl) rfl nofun
  | stopLoad =>
    cases h
    cases hrun : y.sh.running with
    | true => exact hy.pass rfl rfl rfl rfl rfl (hpc rfl) rfl nofun
    | false => exact hy.pass rfl rfl rfl rfl rfl (hpc rfl) rfl nofun
  | stopping =>
    cases h
    exact hy.moveTo .stopping (hpc rfl) rfl nofun
  | stopClear =>
    cases h
    refine ⟨hy.tx, hy.rx, nofun, fun _ => rfl, nofun, nofun, nofun, ?_, nofun⟩
    intro hc
    exact absurd OwnerPc.Closing.joinTx hc
  | joinTx => exact paired_closing hy (howner ▸ .joinTx) hstep
  | burstSwap i => exact paired_closing hy (howner ▸ .burstSwap i) hstep
  | burstCounter i => exact paired_closing hy (howner ▸ .burstCounter i) hstep
  | burstCommit i cycleCounter => exact paired_closing hy (howner ▸ .burstCommit i cycleCounter) hstep
  | burstSend i => exact paired_closing hy (howner ▸ .burstSend i) hstep
  | burstCount i => exact paired_closing hy (howner ▸ .burstCount i) hstep
  | joinRx => exact paired_closing hy (howner ▸ .joinRx) hstep
  | stopped => exact paired_closing hy (howner ▸ .stopped) hstep
  | startRead =>
    cases h
    cases hst : y.sh.state.startable with
    | true => exact hy.pass rfl rfl rfl rfl rfl (hpc rfl) rfl nofun
    | false => exact hy.pass rfl rfl rfl rfl rfl (hpc rfl) rfl nofun
  | starting =>
    cases h
    exact hy.moveTo .starting (hpc rfl) rfl nofun
  | startRunning =>
    cases h
    obtain ⟨hnc, htxf, -, -⟩ := OwnerPc.outside_facts (hpc rfl)
    refine ⟨hy.tx, hy.rx, ?_, nofun, fun _ => rfl, nofun, nofun, fun _ => hy.order hnc, nofun⟩
    intro _ i hi
    -- a flag that was clear goes with no handle
    cases hrun : y.sh.running with
    | true => exact hy.up hrun i hi
    | false => nomatch (hy.freedTx hrun htxf).symm.trans hi
  | startStats | startFault | startCounter | startSwap =>
    cases h
    exact hy.pass rfl rfl rfl rfl rfl (hpc rfl) rfl fun _ => hup rfl
  | openTx | openRx =>
    cases h
    cases ok with
    | true => exact hy.pass rfl rfl rfl rfl rfl (hpc rfl) rfl fun _ => hup rfl
    | false => exact hy.pass rfl rfl rfl rfl rfl (hpc rfl) rfl nofun
  | spawnTx =>
    cases ok with
    | false =>
      cases h
      exact hy.pass rfl rfl rfl rfl rfl (hpc rfl) rfl nofun
    | true =>
      cases h
      exact hy.spawnTx howner (hspawn howner rfl)
  | spawnRx =>
    cases ok with
    | false =>
      cases h
      have hrun := hy.launching (hup rfl)
      have hdown {p : Prop} (hr : y.sh.running = false) : p := nomatch hrun.symm.trans hr
      exact ⟨hy.tx, hy.rx, hy.up, nofun, fun _ => hrun, hdown, hdown,
        fun _ _ => (hy.spawning howner).1, nofun⟩
    | true =>
      cases h
      exact hy.spawnRx howner
  | started =>
    cases h
    exact hy.moveTo .running (hpc rfl) rfl nofun

/-- The spawn of a TX loop finds no stored handle. -/
def SpawnsFree (y : Sys) (a : Act) : Prop :=
  y.owner = .spawnTx → (∃ now, a = .owner now true) → y.txHandle = none

/-- `SpawnsFree` for every step of a run, computed along it. -/
def spawnsFreeAlong : Sys → List Act → Bool
  | _, [] => true
  | y, a :: as =>
    (match a with
      | .owner _ true => y.owner != .spawnTx || y.txHandle.isNone
      | _ => true)
    && match step y a with
      | none => true
      | some y' => spawnsFreeAlong y' as

/-- **Every other step keeps the pair together.** -/
theorem paired_step {y y' : Sys} {a : Act} (hy : Paired y) (hfree : SpawnsFree y a)
    (h : step y a = some y') : Paired y' := by
  -- calls and loops touch no handle, so what is to show is about the threads that live
  cases a with
  | call c =>
    obtain ⟨hidle, rfl⟩ := step_call h
    refine hy.pass rfl rfl rfl rfl rfl (by rw [hidle]; rfl) ?_ ?_
    · cases c <;> rfl
    · cases c <;> nofun
  | owner now ok =>
    refine paired_owner hy ?_ h
    rintro hpc rfl
    exact hfree hpc ⟨now, rfl⟩
  | rx i now r =>
    obtain ⟨pc, sh, pc', hpc, hstep, rfl⟩ := step_rx h
    have hrun := (rxStep_effect hstep).running
    refine ⟨hy.tx, ?_, fun hr => hy.up (hrun.symm.trans hr), fun hc => hrun.trans (hy.closing hc),
      fun hl => hrun.trans (hy.launching hl), fun hr => hy.freedTx (hrun.symm.trans hr),
      fun hr => hy.freedRx (hrun.symm.trans hr), hy.order, hy.spawning⟩
    intro j hj
    exact hy.rx j (rxLive_of_set hpc (rxStep_live hstep) rfl hj)
  | tx i now sendError =>
    obtain ⟨t, sh, t', frame, ht, hstep, rfl⟩ := step_txAt h
    obtain ⟨hlive, hdone⟩ := txStep_done hstep
    have hrun : sh.running = y.sh.running := by
      rcases txStep_effect hstep with ⟨hq, -⟩ | ⟨rfl, -⟩
      · exact hq.running
      · rfl
    refine ⟨?_, hy.rx, ?_, fun hc => hrun.trans (hy.closing hc),
      fun hl => hrun.trans (hy.launching hl), fun hr => hy.freedTx (hrun.symm.trans hr),
      fun hr => hy.freedRx (hrun.symm.trans hr), hy.order, hy.spawning⟩
    · intro j hj
      -- a sender that ends has read `running` down
      exact hy.tx j (txLive_of_set ht hlive rfl hj)
    · intro hr j hj
      have hr' := hrun.symm.trans hr
      obtain ⟨q, hq, hqlive⟩ := hy.up hr' j hj
      by_cases hji : j = i
      · subst hji
        refine ⟨t', by rw [List.getElem?_set_self (List.getElem?_eq_some_iff.mp hq).1], ?_⟩
        intro hd
        nomatch (hdone hd).symm.trans hr'
      · exact ⟨q, by rw [List.getElem?_set_ne (Ne.symm hji)]; exact hq, hqlive⟩

/-! ## Along a run

  A run keeps to one pair as long as its spawns find the handles empty, and conversely: the first
  spawn over a stored handle leaves a loop that no handle knows. -/

/-- `P` holds at every moment of a run. -/
def Throughout (y : Sys) (as : List Act) (P : Sys → Prop) : Prop :=
  ∀ bs m, bs <+: as → runSys y bs = some m → P m

/-- `P` holds of every step of a run. -/
def EachStep (y : Sys) (as : List Act) (P : Sys → Act → Sys → Prop) : Prop :=
  ∀ bs a m m', bs ++ [a] <+: as → runSys y bs = some m → step m a = some m' → P m a m'

/-- What holds at the start and is kept by every step of the run holds throughout. -/
theorem throughout_of_steps {y : Sys} {as : List Act} {P : Sys → Prop} (hy : P y)
    (hstep : EachStep y as fun m _ m' => P m → P m') : Throughout y as P := by
  intro bs
  induction bs using List.reverseRecOn with
  | nil =>
    intro m _ hrun
    obtain rfl : y = m := Option.some.inj hrun
    exact hy
  | append_singleton bs a ih =>
    intro m' hpre hrun
    obtain ⟨m, hm, hlast⟩ := runSys_append.mp hrun
    obtain ⟨m'', hm'', hnil⟩ := runSys_cons.mp hlast
    obtain rfl : m'' = m' := Option.some.inj hnil
    exact hstep bs a m m'' hpre hm hm'' (ih m ((List.prefix_append bs [a]).trans hpre) hm)

theorem eachStep_cons {y : Sys} {a : Act} {as : List Act} {P : Sys → Act → Sys → Prop}
    (hhead : ∀ y', step y a = some y' → P y a y')
    (htail : ∀ y', step y a = some y' → EachStep y' as P) : EachStep y (a :: as) P := by
  intro bs b m m' hpre hm hstep
  cases bs with
  | nil =>
    obtain rfl : y = m := Option.some.inj hm
    obtain ⟨rfl, -⟩ := List.cons_prefix_cons.mp hpre
    exact hhead m' hstep
  | cons c cs =>
    obtain ⟨rfl, hrest⟩ := List.cons_prefix_cons.mp hpre
    obtain ⟨y', hy', hcs⟩ := runSys_cons.mp hm
    exact htail y' hy' cs b m m' hrest hcs hstep

theorem eachStep_of_spawnsFreeAlong {y : Sys} {as : List Act} (h : spawnsFreeAlong y as = true) :
    EachStep y as fun m a _ => SpawnsFree m a := by
  induction as generalizing y with
  | nil =>
    intro bs a m m' hpre
    nomatch List.append_eq_nil_iff.mp (List.prefix_nil.mp hpre)
  | cons a as ih =>
    obtain ⟨hhead, htail⟩ := Bool.and_eq_true_iff.mp h
    refine eachStep_cons ?_ ?_
    · rintro y' - hpc ⟨now, rfl⟩
      rw [hpc] at hhead
      exact Option.isNone_iff_eq_none.mp hhead
    · intro y' hy'
      rw [hy'] at htail
      exact ih htail

/-- The owner's section is the last of a `stop`. -/
def StopReturns (y : Sys) (a : Act) (y' : Sys) : Prop :=
  (∃ now ok, a = .owner now ok) ∧ (y.owner = .stopLoad ∨ y.owner = .stopped) ∧ y'.owner = .idle

/-- A stop that returns with the pair together leaves nothing behind. -/
theorem stopReturns_allDone {y y' : Sys} {a : Act} (hy : Paired y) (hret : StopReturns y a y')
    (h : step y a = some y') : AllDone y' := by
  obtain ⟨⟨now, ok, rfl⟩, hpc, hidle⟩ := hret
  have hy' : Paired y' := by
    refine paired_owner hy ?_ h
    intro hs
    rcases hpc with hpc | hpc <;> cases hpc.symm.trans hs
  refine hy'.allDone ?_ (by rw [hidle]; rfl)
  rcases hpc with hpc | hpc
  · -- a `stop` that ends at the run flag has found it cleared
    simp only [step, ownerStep, hpc] at h
    cases h
    cases hrun : y.sh.running with
    | false => rfl
    | true =>
      rw [hrun] at hidle
      cases hidle
  · have hclosed := hy.closing (hpc.symm ▸ .stopped)
    simp only [step, ownerStep, hpc] at h
    cases h
    exact (moveTo_effect y .stopped .idle).2.2.1.trans hclosed

/-- The flags of a controller that was never started. -/
structure NeverStarted (sh : Shared) : Prop where
  state : sh.state = .idle
  running : sh.running = false
  everFaulted : sh.everFaulted = false

theorem neverStarted_fresh (srcMac dstMac : Mac) (inputIocr outputIocr : IocrConfig)
    (fits : outputIocr.Fits) (maxConsecutiveTimeouts : UInt32) (now : Instant) :
    NeverStarted (.fresh srcMac dstMac inputIocr outputIocr fits maxConsecutiveTimeouts now) :=
  ⟨rfl, rfl, rfl⟩

theorem paired_init {sh : Shared} (hsh : NeverStarted sh) : Paired (Sys.init sh) := by
  have hnone {i : Nat} {p : Prop} : TxLive (Sys.init sh) i → p := by
    rintro ⟨t, ht, -⟩
    nomatch ht
  have hnone' {i : Nat} {p : Prop} : RxLive (Sys.init sh) i → p := by
    rintro ⟨pc, hpc, -⟩
    nomatch hpc
  exact ⟨fun _ => hnone, fun _ => hnone', nofun, fun _ => hsh.running, nofun, fun _ _ => rfl,
    fun _ _ => rfl, fun _ _ => rfl, nofun⟩

/-- A TX loop spawned over a stored handle is the second live one. -/
theorem second_tx {y y' : Sys} {now : Instant} {i : Nat} (hy : Paired y)
    (hpc : y.owner = .spawnTx) (hi : y.txHandle = some i)
    (h : step y (.owner now true) = some y') : ¬ OnePair y' := by
  have hrun := hy.launching (by rw [hpc]; rfl)
  obtain ⟨t, ht, hlive⟩ := hy.up hrun i hi
  simp only [step, ownerStep, hpc, if_true] at h
  cases h
  intro hone
  have hlt := (List.getElem?_eq_some_iff.mp ht).1
  have hold : i = y.tx.length :=
    hone.tx i y.tx.length ⟨t, (List.getElem?_append_left hlt).trans ht, hlive⟩
      ⟨.spawned, List.getElem?_concat_length, by rintro ⟨⟩⟩
  omega

/-- Keeping to one pair means spawning no TX loop over a stored handle. -/
theorem spawnsFree_of_onePair {y m m' : Sys} {as bs : List Act} {a : Act}
    (hone : Throughout y as OnePair) (hpre : bs ++ [a] <+: as) (hm : runSys y bs = some m)
    (hstep : step m a = some m') (hy : Paired m) : SpawnsFree m a := by
  rintro hpc ⟨now, rfl⟩
  cases hi : m.txHandle with
  | none => rfl
  | some i =>
    have hrun : runSys y (bs ++ [.owner now true]) = some m' :=
      runSys_append.mpr ⟨m, hm, runSys_cons.mpr ⟨m', hstep, rfl⟩⟩
    exact absurd (hone _ m' hpre hrun) (second_tx hy hpc hi hstep)

/-- **One thread pair, exactly when no TX loop is spawned over a stored handle.**  In a run of a
    new controller, whatever the calls and however the threads step in between: at most one TX
    loop and one RX loop are live at any moment and every `stop` that returns leaves none, if and
    only if each TX loop is spawned while the controller stores no handle of an earlier one. -/
theorem one_thread_pair {sh : Shared} (hsh : NeverStarted sh) (as : List Act) :
    (Throughout (Sys.init sh) as OnePair
      ∧ EachStep (Sys.init sh) as fun m a m' => StopReturns m a m' → AllDone m')
    ↔ EachStep (Sys.init sh) as fun m a _ => SpawnsFree m a := by
  constructor
  · rintro ⟨hone, -⟩
    have hpaired : Throughout (Sys.init sh) as Paired :=
      throughout_of_steps (paired_init hsh) fun bs a m m' hpre hm hstep hy =>
        paired_step hy (spawnsFree_of_onePair hone hpre hm hstep hy) hstep
    intro bs a m m' hpre hm hstep
    have hy := hpaired bs m ((List.prefix_append bs [a]).trans hpre) hm
    exact spawnsFree_of_onePair hone hpre hm hstep hy
  · intro hfree
    have hpaired : Throughout (Sys.init sh) as Paired :=
      throughout_of_steps (paired_init hsh) fun bs a m m' hpre hm hstep hy =>
        paired_step hy (hfree bs a m m' hpre hm hstep) hstep
    refine ⟨fun bs m hpre hm => (hpaired bs m hpre hm).onePair, ?_⟩
    intro bs a m m' hpre hm hstep hret
    exact stopReturns_allDone (hpaired bs m ((List.prefix_append bs [a]).trans hpre) hm) hret hstep

/-! ## A restart on the bench

  Out of FAULT a `start` is let in; the loops before it are still live when it spawns its own, and
  the `stop` behind it joins the new ones only. -/

/-- Up to FAULT, and a start from there. -/
def benchRestart : List Act :=
  benchStart ++ benchLost ++ List.replicate 2 (.rx 0 12000000 .idle) ++ benchStart

/-- A stop of the second pair, up to its last section. -/
def benchRestartStop : List Act :=
  benchRestart ++ .call .stop :: List.replicate 5 (.owner 0 true)
    ++ List.replicate 2 (.tx 1 0 none) ++ List.replicate 17 (.owner 0 true)
    ++ List.replicate 2 (.rx 1 0 .idle) ++ [.owner 0 true]

theorem benchRestart_run :
    ∃ m, runSys (Sys.init bench) benchRestart = some m
      ∧ m.tx.map TxThread.pc = [.launch, .launch] ∧ m.rx = [.rearm, .arm] :=
  ⟨_, rfl, rfl, rfl⟩

theorem benchRestartStop_run :
    ∃ m m', runSys (Sys.init bench) benchRestartStop = some m
      ∧ step m (.owner 0 true) = some m' ∧ m.owner = .stopped ∧ m'.owner = .idle
      ∧ m'.rx = [.rearm, .done] :=
  ⟨_, _, rfl, rfl, rfl, rfl, rfl⟩

/-- **A start from FAULT doubles the loops.**  The old pair is still live when the new one is, and
    the stop that follows returns while the old RX loop is. -/
theorem restart_doubles :
    ¬ Throughout (Sys.init bench) benchRestart OnePair
      ∧ ¬ EachStep (Sys.init bench) (benchRestartStop ++ [.owner 0 true]) fun m a m' =>
        StopReturns m a m' → AllDone m' := by
  constructor
  · intro hone
    obtain ⟨m, hm, -, hrx⟩ := benchRestart_run
    have h := (hone _ m (List.prefix_refl _) hm).rx 0 1 ⟨.rearm, by rw [hrx]; rfl, nofun⟩
      ⟨.arm, by rw [hrx]; rfl, nofun⟩
    nomatch h
  · intro hstops
    obtain ⟨m, m', hm, hstep, hpc, hidle, hrx⟩ := benchRestartStop_run
    have h := hstops benchRestartStop (.owner 0 true) m m' (List.prefix_refl _) hm hstep
      ⟨⟨0, true, rfl⟩, .inr hpc, hidle⟩
    exact h.rx 0 ⟨.rearm, by rw [hrx]; rfl, nofun⟩

/-- A start, a stop and another start. -/
def benchCycle : List Act :=
  benchStart ++ .call .stop :: List.replicate 5 (.owner 0 true)
    ++ List.replicate 2 (.tx 0 0 none) ++ List.replicate 17 (.owner 0 true)
    ++ List.replicate 2 (.rx 0 0 .idle) ++ List.replicate 2 (.owner 0 true) ++ benchStart

/-- The loops of `benchCycle` follow one another. -/
theorem one_thread_pair_cycle :
    (∃ m, runSys (Sys.init bench) benchCycle = some m ∧ m.tx.map TxThread.pc = [.done, .launch]
        ∧ m.rx = [.done, .arm])
      ∧ Throughout (Sys.init bench) benchCycle OnePair
      ∧ EachStep (Sys.init bench) benchCycle fun m a m' => StopReturns m a m' → AllDone m' :=
  ⟨⟨_, rfl, rfl, rfl⟩, (one_thread_pair (neverStarted_fresh benchController benchDevice _ _
    (output_fits benchSlots 0xC001 0xC002 32 1 3) _ 0) benchCycle).mpr
    (eachStep_of_spawnsFreeAlong rfl)⟩

end Profinet.Cyclic
