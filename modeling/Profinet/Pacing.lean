/-
  PACING: when a TX loop transmits.

  A pass of `tx_loop` reads the clock and transmits if the reading is not before `next_send`, the
  slot.  The slot after it is a cycle on; or a cycle after the pass, if that is past already.  So a
  stall is not made up for:

      the slot of a transmission is never after it
      the next slot is a cycle or more behind the slot, and not before the transmission

  Both hold for the loop by itself, whatever the other threads do and however its sections are
  interleaved with theirs: the slots are local to it, and nothing writes the cycle time.  The bound on
  the transmissions in a window of time is `Spaced.window_count`.
-/
import Profinet.Lib.History
import Profinet.Lib.Spaced
import Profinet.ThreadPair

namespace Profinet.Cyclic

open Util Rt History Spaced

/-! ## What nothing writes

  The cycle time of the output is set when the controller is made; no section of any thread writes
  it. -/

section Unwritten

variable (s : Shared)

@[simp] theorem emit_outputIocr (e : CallbackEvent) : (s.emit e).outputIocr = s.outputIocr := by
  obtain ⟨log, heq⟩ := s.emit_eq e
  rw [heq]

@[simp] theorem emitError_outputIocr (message : String) :
    (s.emitError message).outputIocr = s.outputIocr := emit_outputIocr s _

@[simp] theorem moveState_outputIocr (newState : CyclicState) :
    (s.moveState newState).1.outputIocr = s.outputIocr := by
  unfold Shared.moveState
  split
  · rfl
  · rfl

theorem moved_outputIocr {newState : CyclicState} {moved : Shared} {old : Option CyclicState}
    (h : s.moveState newState = (moved, old)) : moved.outputIocr = s.outputIocr := by
  rw [← moveState_outputIocr s newState, h]

@[simp] theorem latchFault_outputIocr (newState : CyclicState) :
    (s.latchFault newState).outputIocr = s.outputIocr := by
  unfold Shared.latchFault
  split
  · rfl
  · rfl

@[simp] theorem trackCycleCounter_outputIocr (c : UInt16) :
    (s.trackCycleCounter c).outputIocr = s.outputIocr := by
  obtain ⟨st, heq, -⟩ := s.trackCycleCounter_eq c
  rw [heq]

@[simp] theorem storeInputs_outputIocr (payload : List UInt8) :
    (s.storeInputs payload).outputIocr = s.outputIocr := by
  obtain ⟨inputs, log, heq⟩ := s.storeInputs_eq payload
  rw [heq]

@[simp] theorem disown_outputIocr : s.disown.outputIocr = s.outputIocr := by
  unfold Shared.disown
  split
  · rfl
  · rfl

end Unwritten

theorem rxStep_outputIocr {now : Instant} {r : RecvResult} {sh sh' : Shared} {pc pc' : RxPc}
    (h : rxStep now r sh pc = some (sh', pc')) : sh'.outputIocr = sh.outputIocr := by
  -- no section of the loop writes the output IOCR
  cases pc with
  | recover frame =>
    cases hm : sh.moveState .running with
    | mk moved old =>
      have hmove := moved_outputIocr sh hm
      simp only [rxStep, hm] at h
      cases old with
      | none =>
        cases h
        exact hmove
      | some old =>
        cases h
        exact (emit_outputIocr _ _).trans hmove
  | errFault =>
    cases hm : sh.moveState .fault with
    | mk moved old =>
      have hmove := moved_outputIocr sh hm
      simp only [rxStep, hm] at h
      cases old with
      | none =>
        cases h
        exact hmove
      | some old =>
        cases h
        exact hmove
  | timeoutFault n =>
    cases hm : sh.moveState .fault with
    | mk moved old =>
      have hmove := moved_outputIocr sh hm
      simp only [rxStep, hm] at h
      cases old with
      | none =>
        cases h
        exact (emitError_outputIocr _ _).trans hmove
      | some old =>
        cases h
        exact hmove
  | errLoad e =>
    cases hrun : sh.running with
    | true =>
      simp only [rxStep, hrun] at h
      cases h
      exact emitError_outputIocr _ _
    | false =>
      simp only [rxStep, hrun] at h
      cases h
      rfl
  | track frame =>
    cases Option.some.inj h
    exact trackCycleCounter_outputIocr _ _
  | inputs frame =>
    cases Option.some.inj h
    exact storeInputs_outputIocr _ _
  | errLatch old =>
    cases Option.some.inj h
    simp
  | timeoutLatch n old =>
    cases Option.some.inj h
    simp
  | badIocs n =>
    cases Option.some.inj h
    simp
  | done => cases h
  | _ =>
    cases Option.some.inj h
    rfl

theorem txStep_outputIocr {now : Instant} {sendError : Option String} {sh sh' : Shared}
    {t t' : TxThread} {frame : Option (List UInt8)}
    (h : txStep now sendError sh t = some (sh', t', frame)) : sh'.outputIocr = sh.outputIocr := by
  obtain ⟨pc, nextSend, lastSend, firstFrame⟩ := t
  cases pc with
  | send at' =>
    cases Option.some.inj h
    cases sendError with
    | none => rfl
    | some e => exact emitError_outputIocr _ _
  | pace at' =>
    cases Option.some.inj h
    cases firstFrame
    · rfl
    · rfl
  | done => cases h
  | _ =>
    cases Option.some.inj h
    rfl

theorem moveTo_outputIocr (y : Sys) (newState : CyclicState) (next : OwnerPc) :
    (y.moveTo newState next).sh.outputIocr = y.sh.outputIocr := by
  unfold Sys.moveTo
  cases hm : y.sh.moveState newState with
  | mk sh old =>
    have hmove := moved_outputIocr y.sh hm
    cases old with
    | none => exact hmove
    | some old => exact (emit_outputIocr _ _).trans hmove

/-- The owner may spawn a TX loop; it touches none that there is. -/
theorem ownerStep_spawns {now : Instant} {ok : Bool} {y y' : Sys}
    (h : ownerStep now ok y = some y') :
    y'.sh.outputIocr = y.sh.outputIocr ∧ (y'.tx = y.tx ∨ y'.tx = y.tx ++ [.spawned]) := by
  have moved : ∀ newState next, y' = y.moveTo newState next →
      y'.sh.outputIocr = y.sh.outputIocr ∧ (y'.tx = y.tx ∨ y'.tx = y.tx ++ [.spawned]) := by
    rintro newState next rfl
    exact ⟨moveTo_outputIocr y newState next, .inl (moveTo_threads y newState next).1⟩
  have kept : y'.sh.outputIocr = y.sh.outputIocr → y'.tx = y.tx →
      y'.sh.outputIocr = y.sh.outputIocr ∧ (y'.tx = y.tx ∨ y'.tx = y.tx ++ [.spawned]) :=
    fun hsh htx => ⟨hsh, .inl htx⟩
  unfold ownerStep at h
  generalize y.owner = pc at h
  -- threads are only ever added, by `spawnTx`
  cases pc with
  | idle => nomatch h
  | writeData slot subslot data =>
    dsimp only at h
    split at h
    · cases h
      exact kept rfl rfl
    · cases h
      exact kept rfl rfl
  | safeApply safe =>
    cases safe with
    | none =>
      cases h
      exact kept rfl rfl
    | some entry =>
      dsimp only at h
      split at h
      · cases h
        exact kept (emitError_outputIocr _ _) rfl
      · cases h
        exact kept rfl rfl
  | stopping => exact moved .stopping .stopClear (Option.some.inj h).symm
  | stopped => exact moved .stopped .idle (Option.some.inj h).symm
  | starting => exact moved .starting .startRunning (Option.some.inj h).symm
  | started => exact moved .running .idle (Option.some.inj h).symm
  | joinTx | joinRx =>
    dsimp only at h
    split at h
    · cases h
      exact kept rfl rfl
    · split at h
      · cases h
        exact kept rfl rfl
      · nomatch h
  | burstSwap i =>
    dsimp only at h
    split at h
    · cases h
      exact kept rfl rfl
    · cases h
      exact kept rfl rfl
  | spawnTx =>
    cases ok with
    | true =>
      cases h
      exact ⟨rfl, .inr rfl⟩
    | false =>
      cases h
      exact kept rfl rfl
  | spawnRx =>
    cases ok with
    | true =>
      cases h
      exact kept rfl rfl
    | false =>
      cases h
      exact kept rfl rfl
  | _ =>
    cases h
    exact kept rfl rfl

/-! ## The transmissions of a loop

  What one section of a TX loop does to its own slot.  Only the send transmits, and it stands
  behind a test of the clock. -/

/-- A frame handed to the socket: the slot it was due at, and the pass that sent it. -/
structure Transmission where
  slot : Instant
  time : Instant
  deriving DecidableEq, Repr

/-- What a loop transmits in its next section. -/
def TxThread.transmits (t : TxThread) : Option Transmission :=
  match t.pc with
  | .send at' => some ⟨t.nextSend, at'⟩
  | _ => none

/-- What TX loop `i` transmits in a step. -/
def transmission (i : Nat) (y : Sys) : Act → Option Transmission
  | .tx j _ _ => if j = i then y.tx[i]?.bind TxThread.transmits else none
  | _ => none

/-- What TX loop `i` transmits in a run. -/
def transmissions (i : Nat) : Sys → List Act → List Transmission
  | _, [] => []
  | y, a :: as =>
    (transmission i y a).toList ++
      match step y a with
      | some y' => transmissions i y' as
      | none => []

/-- The pass that has decided to transmit and has not done it yet. -/
def TxPc.sending : TxPc → Option Instant
  | .counter at' | .commit at' _ | .send at' => some at'
  | _ => none

/-- The slot of the next transmission, once those begun are made. -/
def TxThread.due (cycle : Nat) (t : TxThread) : Nat :=
  match t.pc with
  | .count at' | .pace at' => nextSlot t.nextSend at' cycle
  | _ => t.nextSend

theorem nextSlot_facts (nextSend now cycle : Nat) :
    nextSend + cycle ≤ nextSlot nextSend now cycle ∧ now ≤ nextSlot nextSend now cycle := by
  unfold nextSlot
  split
  · omega
  · omega

/-- What the transmissions of a loop so far and the loop itself satisfy. -/
structure Paces (cycle : Nat) (sent : List Transmission) (t : TxThread) : Prop where
  due : ∀ x ∈ sent, x.slot ≤ x.time
  follows : sent.Pairwise (Follows Transmission.slot Transmission.time cycle)
  next : ∀ x ∈ sent, x.slot + cycle ≤ t.due cycle ∧ x.time ≤ t.due cycle
  decided : ∀ at', t.pc.sending = some at' → t.nextSend ≤ at'
  launched : t.pc = .launch → sent = []

/-- A loop that was just spawned. -/
theorem paces_spawned (cycle : Nat) : Paces cycle [] .spawned where
  due := fun x hx => by cases hx
  follows := .nil
  next := fun x hx => by cases hx
  decided := fun at' h => by cases h
  launched := fun _ => rfl

/-- A section that transmits nothing and leaves the slot where it is. -/
theorem Paces.pass {cycle : Nat} {sent : List Transmission} {t t' : TxThread}
    {now : Option Transmission} (h : Paces cycle sent t) (hsilent : now = none)
    (hdue : t'.due cycle = t.due cycle)
    (hdecided : ∀ at', t'.pc.sending = some at' → t'.nextSend ≤ at')
    (hlaunch : t'.pc ≠ .launch) : Paces cycle (sent ++ now.toList) t' := by
  rw [hsilent, Option.toList_none, List.append_nil]
  refine ⟨h.due, h.follows, fun x hx => ?_, hdecided, fun hl => absurd hl hlaunch⟩
  rw [hdue]
  exact h.next x hx

/-- The section that transmits: the decision was made at its slot or later. -/
theorem Paces.transmit {cycle : Nat} {sent : List Transmission} {t t' : TxThread} {at' : Instant}
    (h : Paces cycle sent t) (hpc : t.pc = .send at')
    (ht' : t' = { t with pc := .count at' }) :
    Paces cycle (sent ++ [⟨t.nextSend, at'⟩]) t' := by
  have hdecided : t.nextSend ≤ at' := h.decided at' (by rw [hpc]; rfl)
  have hdue : t.due cycle = t.nextSend := by
    unfold TxThread.due
    rw [hpc]
  obtain ⟨hspaced, hafter⟩ := nextSlot_facts t.nextSend at' cycle
  subst ht'
  refine ⟨?_, ?_, ?_, nofun, nofun⟩
  · exact forall_mem_snoc h.due hdecided
  · refine List.pairwise_append.mpr ⟨h.follows, List.pairwise_singleton _ _, ?_⟩
    intro x hx y hy
    rw [List.mem_singleton.mp hy]
    have hnext := h.next x hx
    rw [hdue] at hnext
    exact hnext
  · -- the slot of the next transmission is behind the one that was due
    refine forall_mem_snoc (fun x hx => ?_) ⟨hspaced, hafter⟩
    show x.slot + cycle ≤ nextSlot t.nextSend at' cycle ∧ x.time ≤ nextSlot t.nextSend at' cycle
    have hnext := h.next x hx
    rw [hdue] at hnext
    have hlater : t.nextSend ≤ nextSlot t.nextSend at' cycle :=
      Nat.le_trans (Nat.le_add_right _ _) hspaced
    exact ⟨Nat.le_trans hnext.1 hlater, Nat.le_trans hnext.2 hlater⟩

/-- **One section of a TX loop.** -/
theorem Paces.section {sent : List Transmission} {now : Instant} {sendError : Option String}
    {sh sh' : Shared} {t t' : TxThread} {frame : Option (List UInt8)}
    (h : Paces (sh.outputIocr.cycleTimeUs * 1000) sent t)
    (hstep : txStep now sendError sh t = some (sh', t', frame)) :
    Paces (sh.outputIocr.cycleTimeUs * 1000) (sent ++ t.transmits.toList) t' := by
  obtain ⟨pc, nextSend, lastSend, firstFrame⟩ := t
  cases pc with
  | launch =>
    cases Option.some.inj hstep
    rw [h.launched rfl]
    exact ⟨nofun, List.Pairwise.nil, nofun, nofun, fun _ => rfl⟩
  | head =>
    cases Option.some.inj hstep
    cases sh.running with
    | true => exact h.pass rfl rfl nofun nofun
    | false => exact h.pass rfl rfl nofun nofun
  | wait =>
    cases Option.some.inj hstep
    by_cases hdue : now ≥ nextSend
    · -- the pass decides to transmit
      simp only [if_pos hdue]
      refine h.pass rfl rfl ?_ nofun
      intro at' hat
      cases hat
      exact hdue
    · simp only [if_neg hdue]
      exact h.pass rfl rfl nofun nofun
  | counter at' | commit at' counter =>
    -- the decision stands until the frame is handed over
    cases Option.some.inj hstep
    exact h.pass rfl rfl (fun a ha => h.decided a ha) nofun
  | send at' =>
    cases Option.some.inj hstep
    exact h.transmit rfl rfl
  | count at' | pace at' =>
    cases Option.some.inj hstep
    exact h.pass rfl rfl nofun nofun
  | done => cases hstep

/-! ## Whole runs

  The steps of all other threads leave the loop alone, so its slots follow from its own steps. -/

/-- The transmissions of TX loop `i` so far, in a system with this cycle. -/
structure LoopPaces (cycle i : Nat) (sent : List Transmission) (y : Sys) : Prop where
  period : y.sh.outputIocr.cycleTimeUs * 1000 = cycle
  absent : y.tx[i]? = none → sent = []
  loop : ∀ t, y.tx[i]? = some t → Paces cycle sent t

/-- A step that leaves the loops alone, or spawns one more. -/
theorem LoopPaces.other {cycle i : Nat} {sent : List Transmission} {y y' : Sys}
    {now : Option Transmission} (h : LoopPaces cycle i sent y) (hsilent : now = none)
    (hsh : y'.sh.outputIocr = y.sh.outputIocr)
    (htx : y'.tx = y.tx ∨ y'.tx = y.tx ++ [.spawned]) :
    LoopPaces cycle i (sent ++ now.toList) y' := by
  rw [hsilent, Option.toList_none, List.append_nil]
  have hcycle : y'.sh.outputIocr.cycleTimeUs * 1000 = cycle := by
    rw [hsh]
    exact h.period
  -- a thread spawned in this step has sent nothing and keeps the pace from the start
  rcases htx with hsame | hspawn
  · exact ⟨hcycle, fun hnone => h.absent (by rw [← hsame]; exact hnone),
      fun t ht => h.loop t (by rw [← hsame]; exact ht)⟩
  · refine ⟨hcycle, ?_, ?_⟩
    · intro hnone
      rw [hspawn, List.getElem?_eq_none_iff, List.length_append] at hnone
      exact h.absent (List.getElem?_eq_none (by omega))
    · intro t ht
      rw [hspawn] at ht
      rcases getElem?_spawned ht with hold | hnew
      · exact h.loop t hold
      · subst hnew
        have hspawned : t = .spawned := by
          rw [List.getElem?_concat_length] at ht
          exact (Option.some.inj ht).symm
        rw [hspawned, h.absent (List.getElem?_eq_none (Nat.le_refl _))]
        exact paces_spawned cycle

/-- **One step of the system.** -/
theorem LoopPaces.step {cycle i : Nat} {sent : List Transmission} {y y' : Sys} {a : Act}
    (h : LoopPaces cycle i sent y) (hstep : Cyclic.step y a = some y') :
    LoopPaces cycle i (sent ++ (transmission i y a).toList) y' := by
  cases a with
  | call c =>
    obtain ⟨-, rfl⟩ := step_call hstep
    exact h.other rfl rfl (.inl rfl)
  | owner now ok =>
    obtain ⟨hsh, htx⟩ := ownerStep_spawns hstep
    exact h.other rfl hsh htx
  | rx j now r =>
    obtain ⟨pc, sh, pc', -, hrx, rfl⟩ := step_rx hstep
    exact h.other rfl (rxStep_outputIocr hrx) (.inl rfl)
  | tx j now sendError =>
    obtain ⟨t, sh, t', frame, ht, htx, rfl⟩ := step_txAt hstep
    have hcycle : sh.outputIocr.cycleTimeUs * 1000 = cycle := by
      rw [txStep_outputIocr htx]
      exact h.period
    have hlt : j < y.tx.length := (List.getElem?_eq_some_iff.mp ht).1
    by_cases hji : j = i
    · -- the loop's own section
      subst hji
      have hloop := h.loop t ht
      rw [← h.period] at hloop
      have hnext := hloop.section htx
      rw [h.period] at hnext
      have htrans : transmission j y (.tx j now sendError) = t.transmits := by
        show (if j = j then y.tx[j]?.bind TxThread.transmits else none) = _
        rw [if_pos rfl, ht]
        rfl
      rw [htrans]
      refine ⟨hcycle, ?_, ?_⟩
      · intro hnone
        simp only [List.getElem?_set_self hlt] at hnone
        cases hnone
      · intro q hq
        simp only [List.getElem?_set_self hlt] at hq
        cases hq
        exact hnext
    · -- a section of another loop
      have htrans : transmission i y (.tx j now sendError) = none := if_neg hji
      rw [htrans, Option.toList_none, List.append_nil]
      refine ⟨hcycle, ?_, ?_⟩
      · intro hnone
        simp only [List.getElem?_set_ne hji] at hnone
        exact h.absent hnone
      · intro q hq
        simp only [List.getElem?_set_ne hji] at hq
        exact h.loop q hq

/-- **A whole run.** -/
theorem LoopPaces.run {cycle i : Nat} {sent : List Transmission} {y z : Sys} {as : List Act}
    (h : LoopPaces cycle i sent y) (hrun : runSys y as = some z) :
    LoopPaces cycle i (sent ++ transmissions i y as) z := by
  induction as generalizing sent y with
  | nil =>
    obtain rfl : y = z := Option.some.inj hrun
    rw [show transmissions i y [] = [] from rfl, List.append_nil]
    exact h
  | cons a as ih =>
    obtain ⟨m, hm, hrest⟩ := runSys_cons.mp hrun
    have hnext := ih (h.step hm) hrest
    unfold transmissions
    rw [hm]
    rw [List.append_assoc] at hnext
    exact hnext

/-- **Transmit pacing never bursts.**  In every run of the controller with its threads, whatever
    stalls there are, TX loop `i` transmits nothing before its slot, its slots are a cycle or more
    apart, no slot lies before the transmission in front of it, that of the next transmission
    included, and a window of length `T` has at most `T / cycle + 2` transmissions. -/
theorem transmit_pacing (sh : Shared) (as : List Act) {y : Sys}
    (hrun : runSys (Sys.init sh) as = some y) (i : Nat) :
    let cycle := sh.outputIocr.cycleTimeUs * 1000
    let sent := transmissions i (Sys.init sh) as
    (∀ x ∈ sent, x.slot ≤ x.time)
    ∧ List.IsChain (fun x x' => x.slot + cycle ≤ x'.slot ∧ x.time ≤ x'.slot) sent
    ∧ (∀ t, y.tx[i]? = some t → ∀ x ∈ sent,
      x.slot + cycle ≤ t.due cycle ∧ x.time ≤ t.due cycle)
    ∧ (0 < cycle → ∀ a T : Nat,
      (sent.filter fun x => a ≤ x.time ∧ x.time ≤ a + T).length ≤ T / cycle + 2) := by
  intro cycle sent
  have hinit : LoopPaces cycle i [] (Sys.init sh) := ⟨rfl, fun _ => rfl, nofun⟩
  have hend : LoopPaces cycle i sent y := hinit.run hrun
  -- a thread that is not there has sent nothing
  cases ht : y.tx[i]? with
  | none =>
    have hnone : sent = [] := hend.absent ht
    rw [hnone]
    refine ⟨nofun, List.IsChain.nil, nofun, ?_⟩
    intro _ a T
    exact Nat.zero_le _
  | some t =>
    have hpaces := hend.loop t ht
    refine ⟨hpaces.due, hpaces.follows.isChain, ?_, ?_⟩
    · intro t' ht'
      cases ht'
      exact hpaces.next
    · intro hcycle a T
      exact window_count _ _ hcycle hpaces.follows hpaces.due a T

/-- On the bench: a start, the first pass of its TX loop up to the transmission, a stall over two
    slots, and the pass after it. -/
def benchTransmit : List Act :=
  benchStart ++ (List.replicate 6 (.tx 0 0 none) ++ (List.replicate 7 (.tx 0 3500000 none)
    ++ List.replicate 7 (.tx 0 4600000 none)))

/-- The slots that were missed are not made up for. -/
example : transmissions 0 (Sys.init bench) benchTransmit
    = [⟨0, 0⟩, ⟨1000000, 3500000⟩, ⟨4500000, 4600000⟩] := by decide +kernel

theorem transmit_pacing_bench :
    List.IsChain (fun x x' => x.slot + 1000000 ≤ x'.slot ∧ x.time ≤ x'.slot)
        (transmissions 0 (Sys.init bench) benchTransmit)
      ∧ ((transmissions 0 (Sys.init bench) benchTransmit).filter fun x =>
        3500000 ≤ x.time ∧ x.time ≤ 3500000 + 1500000).length ≤ 1500000 / 1000000 + 2 := by
  have hrun : (runSys (Sys.init bench) benchTransmit).isSome = true := by decide +kernel
  obtain ⟨y, hy⟩ := Option.isSome_iff_exists.mp hrun
  obtain ⟨-, hchain, -, hwindow⟩ := transmit_pacing bench benchTransmit hy 0
  exact ⟨hchain, hwindow (by decide) 3500000 1500000⟩

end Profinet.Cyclic
