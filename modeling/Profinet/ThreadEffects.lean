/-
  THREAD EFFECTS: what a section can do to the state, the fault latch and the output builder.

  `stop` competes with the RX and TX threads for three things: the state, `ever_faulted` and the
  output builder.  `rxStep_effect` and `txStep_effect` say once, for every section of a thread,
  what it does to them:

      the state moves only in a section that was decided before (`RxPc.decided`), on a state read
      in an earlier section; the latch is set only right after such a move (`RxPc.latches`);
      the builder is left alone, or has its IOCS bytes set, or is swapped.

  What `stop` guarantees (`Shutdown`, `StopFrames`) is derived from these.
-/
import Profinet.Threads

namespace Profinet.Cyclic

open Util Rt

/-- The thread has read the state and is about to move it. -/
def RxPc.decided : RxPc → Bool
  | .recover _ | .errFault | .timeoutFault _ => true
  | _ => false

/-- The thread has moved the state to FAULT and is about to latch that. -/
def RxPc.latches : RxPc → Bool
  | .errLatch _ | .timeoutLatch .. => true
  | _ => false

/-- The parts of the shared state that a stop is about are as before. -/
structure Quiet (sh sh' : Shared) : Prop where
  running : sh'.running = sh.running
  safeOutput : sh'.safeOutput = sh.safeOutput
  builder : sh'.outputBuilder = sh.outputBuilder
  state : sh'.state = sh.state
  everFaulted : sh'.everFaulted = sh.everFaulted

theorem Quiet.refl (sh : Shared) : Quiet sh sh := ⟨rfl, rfl, rfl, rfl, rfl⟩

theorem Quiet.trans {a b c : Shared} (h : Quiet a b) (h' : Quiet b c) : Quiet a c :=
  ⟨h'.running.trans h.running, h'.safeOutput.trans h.safeOutput, h'.builder.trans h.builder,
    h'.state.trans h.state, h'.everFaulted.trans h.everFaulted⟩

theorem quiet_emit (sh : Shared) (e : CallbackEvent) : Quiet sh (sh.emit e) := by
  obtain ⟨log, heq⟩ := sh.emit_eq e
  rw [heq]
  exact ⟨rfl, rfl, rfl, rfl, rfl⟩

theorem quiet_track (sh : Shared) (c : UInt16) : Quiet sh (sh.trackCycleCounter c) := by
  obtain ⟨st, heq, -⟩ := sh.trackCycleCounter_eq c
  rw [heq]
  exact ⟨rfl, rfl, rfl, rfl, rfl⟩

theorem quiet_storeInputs (sh : Shared) (payload : List UInt8) :
    Quiet sh (sh.storeInputs payload) := by
  obtain ⟨inputs, log, heq⟩ := sh.storeInputs_eq payload
  rw [heq]
  exact ⟨rfl, rfl, rfl, rfl, rfl⟩

/-- A change of the statistics only. -/
theorem quiet_stats (sh : Shared) (st : CyclicStats) : Quiet sh { sh with stats := st } :=
  ⟨rfl, rfl, rfl, rfl, rfl⟩

/-- What one section of an RX thread can do. -/
structure RxEffect (sh sh' : Shared) (pc pc' : RxPc) : Prop where
  running : sh'.running = sh.running
  safeOutput : sh'.safeOutput = sh.safeOutput
  builder : sh'.outputBuilder = sh.outputBuilder
    ∨ ∃ x, sh'.outputBuilder = sh.outputBuilder.setAllIocs x
  state : pc.decided = false → sh'.state = sh.state
  everFaulted : pc.latches = false → sh'.everFaulted = sh.everFaulted
  /-- The latch is never reset. -/
  latched : sh.everFaulted = true → sh'.everFaulted = true
  /-- A decision is made on a state of a live link. -/
  decides : pc'.decided = true → sh.state = .fault ∨ sh.state = .running
  /-- A latch is owed only by a move. -/
  owes : pc'.latches = true → pc.decided = true

theorem Quiet.effect {sh sh' : Shared} {pc pc' : RxPc} (h : Quiet sh sh')
    (hdecides : pc'.decided = true → sh.state = .fault ∨ sh.state = .running)
    (howes : pc'.latches = true → pc.decided = true) : RxEffect sh sh' pc pc' :=
  ⟨h.running, h.safeOutput, .inl h.builder, fun _ => h.state, fun _ => h.everFaulted,
    h.everFaulted.trans, hdecides, howes⟩

/-- A section that neither decides anything nor owes a latch. -/
theorem Quiet.plain {sh sh' : Shared} {pc pc' : RxPc} (h : Quiet sh sh')
    (hdec : pc'.decided = false) (hlatch : pc'.latches = false) : RxEffect sh sh' pc pc' :=
  h.effect (fun hd => by rw [hdec] at hd; nomatch hd) (fun hl => by rw [hlatch] at hl; nomatch hl)

/-- A decided move: the state changes, and nothing else a stop is about. -/
theorem moveState_effect (sh : Shared) (newState : CyclicState) :
    (sh.moveState newState).1.running = sh.running
      ∧ (sh.moveState newState).1.safeOutput = sh.safeOutput
      ∧ (sh.moveState newState).1.outputBuilder = sh.outputBuilder
      ∧ (sh.moveState newState).1.everFaulted = sh.everFaulted
      ∧ (sh.moveState newState).1.state = newState := by
  unfold Shared.moveState
  by_cases h : sh.state = newState
  · rw [if_pos h]
    exact ⟨rfl, rfl, rfl, rfl, h⟩
  · rw [if_neg h]
    exact ⟨rfl, rfl, rfl, rfl, rfl⟩

/-- The section after a decision: whatever follows it, it is the move. -/
theorem move_effect {sh sh' : Shared} {newState : CyclicState} {pc pc' : RxPc}
    (hdec : pc.decided = true) (hq : Quiet (sh.moveState newState).1 sh')
    (hpc' : pc'.decided = false) : RxEffect sh sh' pc pc' := by
  obtain ⟨h1, h2, h3, h4, -⟩ := moveState_effect sh newState
  refine ⟨hq.running.trans h1, hq.safeOutput.trans h2, .inl (hq.builder.trans h3), ?_,
    fun _ => hq.everFaulted.trans h4, (hq.everFaulted.trans h4).trans, ?_, fun _ => hdec⟩
  · intro h
    rw [hdec] at h
    nomatch h
  · intro h
    rw [hpc'] at h
    nomatch h

/-- Disowning the inputs is at most a change of the IOCS bytes. -/
theorem disown_keeps (sh : Shared) :
    (sh.disown.running = sh.running ∧ sh.disown.safeOutput = sh.safeOutput
      ∧ sh.disown.state = sh.state ∧ sh.disown.everFaulted = sh.everFaulted)
    ∧ (sh.disown.outputBuilder = sh.outputBuilder
      ∨ ∃ x, sh.disown.outputBuilder = sh.outputBuilder.setAllIocs x) := by
  unfold Shared.disown
  by_cases hmax : sh.maxConsecutiveTimeouts > 0
  · rw [if_pos hmax]
    exact ⟨⟨rfl, rfl, rfl, rfl⟩, .inr ⟨_, rfl⟩⟩
  · rw [if_neg hmax]
    exact ⟨⟨rfl, rfl, rfl, rfl⟩, .inl rfl⟩

/-- **Every section of an RX thread.** -/
theorem rxStep_effect {now : Instant} {r : RecvResult} {sh sh' : Shared} {pc pc' : RxPc}
    (h : rxStep now r sh pc = some (sh', pc')) : RxEffect sh sh' pc pc' := by
  -- one case per section; most are quiet, and those that write the state are moves
  cases pc with
  | arm =>
    obtain ⟨rfl, rfl⟩ := Prod.mk.inj (Option.some.inj h)
    exact (quiet_stats _ _).plain rfl rfl
  | head =>
    obtain ⟨rfl, rfl⟩ := Prod.mk.inj (Option.some.inj h)
    cases sh.running
    · exact (Quiet.refl _).plain rfl rfl
    · exact (Quiet.refl _).plain rfl rfl
  | recv =>
    obtain ⟨rfl, rfl⟩ := Prod.mk.inj (Option.some.inj h)
    cases r with
    | frame data =>
      cases hframe : sh.inputFrame data
      · exact (Quiet.refl _).plain (by simp only [hframe]; rfl) (by simp only [hframe]; rfl)
      · exact (Quiet.refl _).plain (by simp only [hframe]; rfl) (by simp only [hframe]; rfl)
    | idle => exact (Quiet.refl _).plain rfl rfl
    | error e => exact (Quiet.refl _).plain rfl rfl
  | stats frame =>
    obtain ⟨rfl, rfl⟩ := Prod.mk.inj (Option.some.inj h)
    cases frameIsAlive frame
    · exact (quiet_stats _ _).plain rfl rfl
    · exact (quiet_stats _ _).plain rfl rfl
  | readState frame =>
    obtain ⟨rfl, rfl⟩ := Prod.mk.inj (Option.some.inj h)
    by_cases hf : sh.state = .fault
    · exact (Quiet.refl _).effect (fun _ => .inl hf) (by rw [if_pos hf]; exact nofun)
    · exact (Quiet.refl _).plain (by rw [if_neg hf]; rfl) (by rw [if_neg hf]; rfl)
  | recover frame =>
    have hm := Option.some.inj h
    cases hmove : sh.moveState .running with
    | mk moved old =>
      rw [hmove] at hm
      cases old with
      | none =>
        obtain ⟨rfl, rfl⟩ := Prod.mk.inj hm
        exact move_effect rfl (by rw [hmove]; exact Quiet.refl _) rfl
      | some old =>
        obtain ⟨rfl, rfl⟩ := Prod.mk.inj hm
        exact move_effect rfl (by rw [hmove]; exact quiet_emit _ _) rfl
  | track frame =>
    obtain ⟨rfl, rfl⟩ := Prod.mk.inj (Option.some.inj h)
    cases frameIsAlive frame
    · exact (quiet_track _ _).plain rfl rfl
    · exact (quiet_track _ _).plain rfl rfl
  | invalid =>
    obtain ⟨rfl, rfl⟩ := Prod.mk.inj (Option.some.inj h)
    exact (quiet_stats _ _).plain rfl rfl
  | iocs frame =>
    obtain ⟨rfl, rfl⟩ := Prod.mk.inj (Option.some.inj h)
    exact ⟨rfl, rfl, .inr ⟨_, rfl⟩, fun _ => rfl, fun _ => rfl, id, nofun, nofun⟩
  | inputs frame =>
    obtain ⟨rfl, rfl⟩ := Prod.mk.inj (Option.some.inj h)
    exact (quiet_storeInputs _ _).plain rfl rfl
  | errLoad e =>
    have hl := Option.some.inj h
    by_cases hr : sh.running = true
    · rw [if_pos hr] at hl
      obtain ⟨rfl, rfl⟩ := Prod.mk.inj hl
      exact (quiet_emit _ _).plain rfl rfl
    · rw [if_neg hr] at hl
      obtain ⟨rfl, rfl⟩ := Prod.mk.inj hl
      exact (Quiet.refl _).plain rfl rfl
  | errRead =>
    obtain ⟨rfl, rfl⟩ := Prod.mk.inj (Option.some.inj h)
    by_cases hf : sh.state = .running
    · exact (Quiet.refl _).effect (fun _ => .inr hf) (by rw [if_pos hf]; exact nofun)
    · exact (Quiet.refl _).plain (by rw [if_neg hf]; rfl) (by rw [if_neg hf]; rfl)
  | errFault =>
    have hm := Option.some.inj h
    cases hmove : sh.moveState .fault with
    | mk moved old =>
      rw [hmove] at hm
      cases old with
      | none =>
        obtain ⟨rfl, rfl⟩ := Prod.mk.inj hm
        exact move_effect rfl (by rw [hmove]; exact Quiet.refl _) rfl
      | some old =>
        obtain ⟨rfl, rfl⟩ := Prod.mk.inj hm
        exact move_effect rfl (by rw [hmove]; exact Quiet.refl _) rfl
  | errLatch old =>
    obtain ⟨rfl, rfl⟩ := Prod.mk.inj (Option.some.inj h)
    have hq := quiet_emit (sh.latchFault .fault) (.stateChange old .fault)
    exact ⟨hq.running, hq.safeOutput, .inl hq.builder, fun _ => hq.state, nofun,
      fun _ => hq.everFaulted, nofun, nofun⟩
  | check =>
    obtain ⟨rfl, rfl⟩ := Prod.mk.inj (Option.some.inj h)
    by_cases hexp : now - sh.stats.lastReceiveTime > sh.watchdog
    · exact (Quiet.refl _).plain (by rw [if_pos hexp]; rfl) (by rw [if_pos hexp]; rfl)
    · exact (Quiet.refl _).plain (by rw [if_neg hexp]; rfl) (by rw [if_neg hexp]; rfl)
  | countTimeout =>
    obtain ⟨rfl, rfl⟩ := Prod.mk.inj (Option.some.inj h)
    exact (quiet_stats _ _).plain rfl rfl
  | badIocs n =>
    obtain ⟨rfl, rfl⟩ := Prod.mk.inj (Option.some.inj h)
    have hq := quiet_emit sh.disown .timeout
    obtain ⟨⟨h1, h2, h3, h4⟩, hb⟩ := disown_keeps sh
    -- whichever way the timeout goes on, nothing is decided yet
    have hpc : (if sh.maxConsecutiveTimeouts > 0 ∧ n ≥ sh.maxConsecutiveTimeouts then
        RxPc.timeoutRead n else .rearm).decided = false
        ∧ (if sh.maxConsecutiveTimeouts > 0 ∧ n ≥ sh.maxConsecutiveTimeouts then
        RxPc.timeoutRead n else .rearm).latches = false := by
      split <;> exact ⟨rfl, rfl⟩
    refine ⟨hq.running.trans h1, hq.safeOutput.trans h2, ?_, fun _ => hq.state.trans h3,
      fun _ => hq.everFaulted.trans h4, (hq.everFaulted.trans h4).trans, ?_, ?_⟩
    · rw [hq.builder]
      exact hb
    · rw [hpc.1]
      nofun
    · rw [hpc.2]
      nofun
  | timeoutRead n =>
    obtain ⟨rfl, rfl⟩ := Prod.mk.inj (Option.some.inj h)
    by_cases hf : sh.state = .running
    · exact (Quiet.refl _).effect (fun _ => .inr hf) (by rw [if_pos hf]; exact nofun)
    · exact (Quiet.refl _).plain (by rw [if_neg hf]; rfl) (by rw [if_neg hf]; rfl)
  | timeoutFault n =>
    have hm := Option.some.inj h
    cases hmove : sh.moveState .fault with
    | mk moved old =>
      rw [hmove] at hm
      cases old with
      | none =>
        obtain ⟨rfl, rfl⟩ := Prod.mk.inj hm
        exact move_effect rfl (by rw [hmove]; exact quiet_emit _ _) rfl
      | some old =>
        obtain ⟨rfl, rfl⟩ := Prod.mk.inj hm
        exact move_effect rfl (by rw [hmove]; exact Quiet.refl _) rfl
  | timeoutLatch n old =>
    obtain ⟨rfl, rfl⟩ := Prod.mk.inj (Option.some.inj h)
    have hq := (quiet_emit (sh.latchFault .fault) (.stateChange old .fault)).trans
      (quiet_emit _ (.error (lostMessage n)))
    exact ⟨hq.running, hq.safeOutput, .inl hq.builder, fun _ => hq.state, nofun,
      fun _ => hq.everFaulted, nofun, nofun⟩
  | rearm =>
    obtain ⟨rfl, rfl⟩ := Prod.mk.inj (Option.some.inj h)
    exact (quiet_stats _ _).plain rfl rfl
  | done => nomatch h

/-- What one section of a TX thread can do: nothing a stop is about, or a swap and a frame of
    the swapped image. -/
theorem txStep_effect {now : Instant} {sendError : Option String} {sh sh' : Shared}
    {t t' : TxThread} {frame : Option (List UInt8)}
    (h : txStep now sendError sh t = some (sh', t', frame)) :
    (Quiet sh sh' ∧ frame = none)
      ∨ (sh' = sh.modifyBuilder OutputBuilder.swap
        ∧ ∃ counter dataStatus, frame
          = some (sh'.outputFrame counter dataStatus sh'.outputBuilder.build)) := by
  obtain ⟨pc, nextSend, lastSend, firstFrame⟩ := t
  cases pc with
  | launch =>
    cases Option.some.inj h
    exact .inl ⟨Quiet.refl _, rfl⟩
  | head =>
    cases Option.some.inj h
    exact .inl ⟨Quiet.refl _, rfl⟩
  | wait =>
    cases Option.some.inj h
    exact .inl ⟨Quiet.refl _, rfl⟩
  | counter at' =>
    cases Option.some.inj h
    exact .inl ⟨⟨rfl, rfl, rfl, rfl, rfl⟩, rfl⟩
  | commit at' counter =>
    cases Option.some.inj h
    exact .inr ⟨rfl, counter, none, rfl⟩
  | send at' =>
    cases Option.some.inj h
    cases sendError with
    | none => exact .inl ⟨Quiet.refl _, rfl⟩
    | some e => exact .inl ⟨quiet_emit _ _, rfl⟩
  | count at' =>
    cases Option.some.inj h
    exact .inl ⟨quiet_stats _ _, rfl⟩
  | pace at' =>
    cases Option.some.inj h
    cases firstFrame
    · exact .inl ⟨quiet_stats _ _, rfl⟩
    · exact .inl ⟨Quiet.refl _, rfl⟩
  | done => nomatch h

/-- The owner's transitions move the state, and nothing else a stop is about. -/
theorem moveTo_effect (y : Sys) (newState : CyclicState) (next : OwnerPc) :
    (y.moveTo newState next).owner = next
      ∧ (y.moveTo newState next).sh.state = newState
      ∧ (y.moveTo newState next).sh.running = y.sh.running
      ∧ (y.moveTo newState next).sh.everFaulted = y.sh.everFaulted
      ∧ (y.moveTo newState next).sh.safeOutput = y.sh.safeOutput
      ∧ (y.moveTo newState next).sh.outputBuilder = y.sh.outputBuilder
      ∧ (y.moveTo newState next).rx = y.rx
      ∧ (y.moveTo newState next).frames = y.frames := by
  obtain ⟨h1, h2, h3, h4, h5⟩ := moveState_effect y.sh newState
  unfold Sys.moveTo
  cases hmove : y.sh.moveState newState with
  | mk sh old =>
    rw [hmove] at h1 h2 h3 h4 h5
    cases old with
    | none => exact ⟨rfl, h5, h1, h4, h2, h3, rfl, rfl⟩
    | some old =>
      have hq := quiet_emit sh (.stateChange old newState)
      exact ⟨rfl, hq.state.trans h5, hq.running.trans h1, hq.everFaulted.trans h4,
        hq.safeOutput.trans h2, hq.builder.trans h3, rfl, rfl⟩

/-! ## Steps of the system -/

/-- A step of an RX thread is a section of its own. -/
theorem step_rx {y y' : Sys} {i : Nat} {now : Instant} {r : RecvResult}
    (h : step y (.rx i now r) = some y') :
    ∃ pc sh pc', y.rx[i]? = some pc ∧ rxStep now r y.sh pc = some (sh, pc')
      ∧ y' = { y with sh := sh, rx := y.rx.set i pc' } := by
  obtain ⟨pc, hpc, h⟩ := Option.bind_eq_some_iff.mp h
  obtain ⟨⟨sh, pc'⟩, hstep, heq⟩ := Option.map_eq_some_iff.mp h
  exact ⟨pc, sh, pc', hpc, hstep, heq.symm⟩

/-- A step of a TX thread is a section of its own. -/
theorem step_tx {y y' : Sys} {i : Nat} {now : Instant} {sendError : Option String}
    (h : step y (.tx i now sendError) = some y') :
    ∃ t sh t' frame, txStep now sendError y.sh t = some (sh, t', frame)
      ∧ y' = { y with sh := sh, tx := y.tx.set i t', frames := y.frames ++ frame.toList } := by
  obtain ⟨t, -, h⟩ := Option.bind_eq_some_iff.mp h
  obtain ⟨⟨sh, t', frame⟩, hstep, heq⟩ := Option.map_eq_some_iff.mp h
  exact ⟨t, sh, t', frame, hstep, heq.symm⟩

/-- A call is taken by an idle owner, and does nothing yet. -/
theorem step_call {y y' : Sys} {c : Call} (h : step y (.call c) = some y') :
    y.owner = .idle ∧ y' = { y with owner := c.entry } := by
  by_cases hidle : y.owner = .idle
  · exact ⟨hidle, (Option.some.inj ((if_pos hidle).symm.trans h)).symm⟩
  · cases (if_neg hidle).symm.trans h

end Profinet.Cyclic
