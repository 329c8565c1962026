/-
  RX RECOVERY: which RX loops can still lead the controller out of FAULT.

  `process_input_frame` recovers the link: a loop that takes a valid frame and reads FAULT moves the
  state to RUNNING.  Whether a loop can still get there depends on the section it is in and on the
  run flag alone (`RxPc.recovers`):

      recv .. recover     the frame at hand, or the next one, is enough; the flag is not read again
      the other sections  as long as the flag is set, the loop comes round to `recv`
      an error path, and a timeout that has yet to be latched: not before it has latched, if ever

  `toRunning_of_recovers` runs such a loop alone; `rxStep_recovers` says that no other loop ever
  becomes one, but by latching a fault first.
-/
import Profinet.ThreadEffects
import Profinet.VlanTags

namespace Profinet.Cyclic

open Wire Util Rt

/-! ## The sections -/

/-- From FAULT, and with the run flag as it is, an RX thread can get from here to RUNNING without
    latching a fault on its way. -/
def RxPc.recovers (running : Bool) : RxPc → Bool
  | .recv | .readState _ | .recover _ => true
  -- a frame the device disowns is counted and leads back to the loop head
  | .stats frame => frameIsAlive frame || running
  | .errLoad _ | .errRead | .errFault | .errLatch _ | .timeoutLatch .. | .done => false
  | .arm | .head | .track _ | .invalid | .iocs _ | .inputs _ | .check | .countTimeout | .badIocs _
  | .timeoutRead _ | .timeoutFault _ | .rearm => running

/-- The thread has read FAULT for a valid frame: the move to RUNNING is next. -/
def RxPc.recovering : RxPc → Bool
  | .recover _ => true
  | _ => false

/-- The thread has read RUNNING: the move to FAULT is next. -/
def RxPc.faulting : RxPc → Bool
  | .errFault | .timeoutFault _ => true
  | _ => false

/-- A decision is one or the other. -/
theorem RxPc.decided_eq (pc : RxPc) : pc.decided = (pc.recovering || pc.faulting) := by
  cases pc with
  | _ => rfl

/-- Clearing the run flag gives no thread a way back. -/
theorem RxPc.recovers_mono {pc : RxPc} {running running' : Bool}
    (hrun : running' = true → running = true) (h : pc.recovers running = false) :
    pc.recovers running' = false := by
  cases running' with
  | true =>
    rw [hrun rfl] at h
    exact h
  | false =>
    cases running with
    | false => exact h
    | true =>
      cases pc with
      | stats frame =>
        show (frameIsAlive frame || false) = false
        rw [(Bool.or_eq_false_iff.mp h).1]
        rfl
      | recv | readState | recover => nomatch h
      | _ => rfl

/-- Who is about to recover, can. -/
theorem RxPc.not_recovering {pc : RxPc} {running : Bool} (h : pc.recovers running = false) :
    pc.recovering = false := by
  cases pc with
  | recover frame => nomatch h
  | _ => rfl

/-- Who owes a latch has no way back before it. -/
theorem RxPc.not_recovers_of_latches {pc : RxPc} (h : pc.latches = true) (running : Bool) :
    pc.recovers running = false := by
  cases pc with
  | errLatch | timeoutLatch => rfl
  | _ => nomatch h

/-! ## A loop that cannot recover -/

/-- **No section opens a way back**, unless it latches a fault. -/
theorem rxStep_recovers {now : Instant} {r : RecvResult} {sh sh' : Shared} {pc pc' : RxPc}
    (h : rxStep now r sh pc = some (sh', pc')) (hpc : pc.recovers sh.running = false)
    (hlatch : pc.latches = false) : pc'.recovers sh.running = false := by
  -- one case per section; the sections of the error path may stop in FAULT, but not for the
  -- recovery
  cases pc with
  | recv | readState | recover => nomatch hpc
  | done => nomatch h
  | errLatch | timeoutLatch => nomatch hlatch
  | stats frame =>
    obtain ⟨hdead, hrun⟩ := Bool.or_eq_false_iff.mp hpc
    obtain ⟨-, rfl⟩ := Prod.mk.inj (Option.some.inj h)
    rw [hdead]
    exact hrun
  | head =>
    obtain ⟨-, rfl⟩ := Prod.mk.inj (Option.some.inj h)
    have hrun : sh.running = false := hpc
    rw [hrun]
    rfl
  | track frame =>
    obtain ⟨-, rfl⟩ := Prod.mk.inj (Option.some.inj h)
    cases frameIsAlive frame with
    | true => exact hpc
    | false => exact hpc
  | errLoad e =>
    have hl := Option.some.inj h
    cases hrun : sh.running with
    | true =>
      rw [hrun, if_pos rfl] at hl
      obtain ⟨-, rfl⟩ := Prod.mk.inj hl
      rfl
    | false =>
      rw [hrun, if_neg Bool.false_ne_true] at hl
      obtain ⟨-, rfl⟩ := Prod.mk.inj hl
      rfl
  | errRead =>
    obtain ⟨-, rfl⟩ := Prod.mk.inj (Option.some.inj h)
    by_cases hs : sh.state = .running
    · rw [if_pos hs]
      rfl
    · rw [if_neg hs]
      rfl
  | errFault =>
    have hm := Option.some.inj h
    rcases hmove : sh.moveState .fault with ⟨moved, old | old⟩
    · rw [hmove] at hm
      obtain ⟨-, rfl⟩ := Prod.mk.inj hm
      rfl
    · rw [hmove] at hm
      obtain ⟨-, rfl⟩ := Prod.mk.inj hm
      rfl
  | check =>
    obtain ⟨-, rfl⟩ := Prod.mk.inj (Option.some.inj h)
    split
    · exact hpc
    · exact hpc
  | badIocs n =>
    obtain ⟨-, rfl⟩ := Prod.mk.inj (Option.some.inj h)
    split
    · exact hpc
    · exact hpc
  | timeoutRead n =>
    obtain ⟨-, rfl⟩ := Prod.mk.inj (Option.some.inj h)
    split
    · exact hpc
    · exact hpc
  | timeoutFault n =>
    have hm := Option.some.inj h
    rcases hmove : sh.moveState .fault with ⟨moved, old | old⟩
    · rw [hmove] at hm
      obtain ⟨-, rfl⟩ := Prod.mk.inj hm
      exact hpc
    · rw [hmove] at hm
      obtain ⟨-, rfl⟩ := Prod.mk.inj hm
      rfl
  | arm | invalid | iocs | inputs | countTimeout | rearm =>
    obtain ⟨-, rfl⟩ := Prod.mk.inj (Option.some.inj h)
    exact hpc

/-- The move to FAULT: it is there afterwards, and a latch is owed if it was not there before. -/
theorem rxStep_faulting {now : Instant} {r : RecvResult} {sh sh' : Shared} {pc pc' : RxPc}
    (h : rxStep now r sh pc = some (sh', pc')) (hpc : pc.faulting = true) :
    sh'.state = .fault ∧ (sh.state ≠ .fault → pc'.latches = true) := by
  obtain ⟨-, -, -, -, hstate⟩ := moveState_effect sh .fault
  -- a write of FAULT that changes the state owes the latch
  have hold : sh.state ≠ .fault → (sh.moveState .fault).2 ≠ none := by
    intro hne
    unfold Shared.moveState
    rw [if_neg hne]
    exact nofun
  cases pc with
  | errFault =>
    have hm := Option.some.inj h
    rcases hmove : sh.moveState .fault with ⟨moved, old | old⟩
    · rw [hmove] at hm hstate hold
      obtain ⟨rfl, -⟩ := Prod.mk.inj hm
      exact ⟨hstate, fun hne => absurd rfl (hold hne)⟩
    · rw [hmove] at hm hstate
      obtain ⟨rfl, rfl⟩ := Prod.mk.inj hm
      exact ⟨hstate, fun _ => rfl⟩
  | timeoutFault n =>
    have hm := Option.some.inj h
    rcases hmove : sh.moveState .fault with ⟨moved, old | old⟩
    · rw [hmove] at hm hstate hold
      obtain ⟨rfl, -⟩ := Prod.mk.inj hm
      exact ⟨(quiet_emit _ _).state.trans hstate, fun hne => absurd rfl (hold hne)⟩
    · rw [hmove] at hm hstate
      obtain ⟨rfl, rfl⟩ := Prod.mk.inj hm
      exact ⟨hstate, fun _ => rfl⟩
  | _ => nomatch hpc

/-! ## A loop that can -/

/-- A frame that any configuration accepts as its device's. -/
def acceptedFrame (s : Shared) : RtFrame := ⟨s.inputIocr.frameId, 0, 0x35, 0, []⟩

theorem inputFrame_accepted (s : Shared) :
    s.inputFrame (bareFrame s.srcMac s.dstMac (acceptedFrame s)) = some (acceptedFrame s)
      ∧ frameIsAlive (acceptedFrame s) = true := by
  refine ⟨inputFrame_eq_some.mpr ⟨?_, ?_, parse_bareFrame _ _ _, rfl⟩, ?_⟩
  · rw [bareFrame_length]
    omega
  · unfold bareFrame
    rw [drop_append_exact s.srcMac.2, take_append_exact s.dstMac.2]
  · simp only [frameIsAlive, RtFrame.isValid, RtFrame.isRunning, RtFrame.isIgnored, acceptedFrame]
    decide

/-- Some sections of an RX thread alone lead from here to RUNNING, and leave the latch alone. -/
inductive ToRunning : Shared → RxPc → Prop where
  | reached {sh : Shared} {pc : RxPc} (h : sh.state = .running) : ToRunning sh pc
  | next {sh sh' : Shared} {pc pc' : RxPc} (now : Instant) (r : RecvResult)
      (h : rxStep now r sh pc = some (sh', pc')) (hev : sh'.everFaulted = sh.everFaulted)
      (hrest : ToRunning sh' pc') : ToRunning sh pc

/-- In FAULT, with the run flag set or not. -/
structure InFault (running : Bool) (sh : Shared) : Prop where
  state : sh.state = .fault
  running : sh.running = running

/-- From FAULT, and with the run flag so, the section leads to RUNNING. -/
def Leads (running : Bool) (pc : RxPc) : Prop := ∀ sh, InFault running sh → ToRunning sh pc

/-- A section that decides and latches nothing leads where the next one leads. -/
theorem leads_of_step {running : Bool} {pc pc' : RxPc} (hdec : pc.decided = false)
    (hlatch : pc.latches = false)
    (hstep : ∀ sh, InFault running sh → ∃ now r sh', rxStep now r sh pc = some (sh', pc'))
    (hnext : Leads running pc') : Leads running pc := by
  intro sh hsh
  obtain ⟨now, r, sh', h⟩ := hstep sh hsh
  have he := rxStep_effect h
  exact .next now r h (he.everFaulted hlatch)
    (hnext sh' ⟨(he.state hdec).trans hsh.state, he.running.trans hsh.running⟩)

/-- The move itself, whatever the state is by then. -/
theorem toRunning_recover (sh : Shared) (frame : RtFrame) : ToRunning sh (.recover frame) := by
  obtain ⟨-, -, -, hev, hstate⟩ := moveState_effect sh .running
  rcases hmove : sh.moveState .running with ⟨moved, old | old⟩
  · rw [hmove] at hev hstate
    exact .next 0 .idle (by simp only [rxStep, hmove]; rfl) hev (.reached hstate)
  · rw [hmove] at hev hstate
    have hq := quiet_emit moved (.stateChange old .running)
    exact .next 0 .idle (by simp only [rxStep, hmove]; rfl) (hq.everFaulted.trans hev)
      (.reached (hq.state.trans hstate))

section

variable {running : Bool}

theorem leads_readState (frame : RtFrame) : Leads running (.readState frame) :=
  leads_of_step rfl rfl
    (fun sh hsh => ⟨0, .idle, sh, by simp only [rxStep, if_pos hsh.state]⟩)
    fun sh _ => toRunning_recover sh frame

theorem leads_stats {frame : RtFrame} (halive : frameIsAlive frame = true) :
    Leads running (.stats frame) :=
  leads_of_step rfl rfl (fun _ _ => ⟨0, .idle, _, by simp only [rxStep, halive]; rfl⟩)
    (leads_readState frame)

/-- Waiting for a frame: a valid one may be the next. -/
theorem leads_recv : Leads running .recv := by
  intro sh hsh
  obtain ⟨hframe, halive⟩ := inputFrame_accepted sh
  have hstep : rxStep 0 (.frame (bareFrame sh.srcMac sh.dstMac (acceptedFrame sh))) sh .recv
      = some (sh, .stats (acceptedFrame sh)) := by
    simp only [rxStep, hframe]
  exact .next 0 _ hstep rfl (leads_stats halive sh hsh)

/-- With the run flag set the loop goes round. -/
theorem leads_head : Leads true .head :=
  leads_of_step rfl rfl (fun sh hsh => ⟨0, .idle, sh, by simp only [rxStep, hsh.running]; rfl⟩)
    leads_recv

theorem leads_check : Leads true .check := by
  -- a check at the zero of the clock finds nothing overdue
  have hearly (sh : Shared) : ¬ 0 - sh.stats.lastReceiveTime > sh.watchdog := by
    rw [Nat.zero_sub]
    exact Nat.not_lt_zero _
  exact leads_of_step rfl rfl
    (fun sh _ => ⟨0, .idle, sh, by simp only [rxStep, if_neg (hearly sh)]⟩) leads_head

theorem leads_rearm : Leads true .rearm :=
  leads_of_step rfl rfl (fun _ _ => ⟨0, .idle, _, rfl⟩) leads_head

theorem leads_timeoutRead (n : UInt32) : Leads true (.timeoutRead n) := by
  refine leads_of_step rfl rfl (fun sh hsh => ⟨0, .idle, sh, ?_⟩) leads_rearm
  have hne : sh.state ≠ .running := by
    rw [hsh.state]
    exact nofun
  simp only [rxStep, if_neg hne]

theorem leads_badIocs (n : UInt32) : Leads true (.badIocs n) := by
  intro sh hsh
  have he := rxStep_effect (show rxStep 0 .idle sh (.badIocs n) = some (_, _) from rfl)
  refine .next 0 .idle rfl (he.everFaulted rfl) ?_
  have hnext : InFault true (sh.disown.emit .timeout) :=
    ⟨(he.state rfl).trans hsh.state, he.running.trans hsh.running⟩
  split
  · exact leads_timeoutRead n _ hnext
  · exact leads_rearm _ hnext

theorem leads_countTimeout : Leads true .countTimeout := by
  intro sh hsh
  exact .next 0 .idle rfl rfl (leads_badIocs _ _ ⟨hsh.state, hsh.running⟩)

/-- FAULT is there already: there is nothing to latch, and the loop goes on. -/
theorem leads_timeoutFault (n : UInt32) : Leads true (.timeoutFault n) := by
  intro sh hsh
  have hmove : sh.moveState .fault = (sh, none) := by
    unfold Shared.moveState
    rw [if_pos hsh.state]
  have hq := quiet_emit sh (.error (lostMessage n))
  refine .next 0 .idle (by simp only [rxStep, hmove]; rfl) hq.everFaulted
    (leads_rearm _ ⟨hq.state.trans hsh.state, hq.running.trans hsh.running⟩)

theorem leads_invalid : Leads true .invalid :=
  leads_of_step rfl rfl (fun _ _ => ⟨0, .idle, _, rfl⟩) leads_check

theorem leads_inputs (frame : RtFrame) : Leads true (.inputs frame) :=
  leads_of_step rfl rfl (fun _ _ => ⟨0, .idle, _, rfl⟩) leads_check

theorem leads_iocs (frame : RtFrame) : Leads true (.iocs frame) :=
  leads_of_step rfl rfl (fun _ _ => ⟨0, .idle, _, rfl⟩) (leads_inputs frame)

theorem leads_track (frame : RtFrame) : Leads true (.track frame) := by
  cases halive : frameIsAlive frame with
  | true =>
    exact leads_of_step rfl rfl (fun _ _ => ⟨0, .idle, _, by simp only [rxStep, halive]; rfl⟩)
      (leads_iocs frame)
  | false =>
    exact leads_of_step rfl rfl (fun _ _ => ⟨0, .idle, _, by simp only [rxStep, halive]; rfl⟩)
      leads_invalid

end

/-- **A loop that can recover does so when it runs alone** and the device sends a valid frame. -/
theorem toRunning_of_recovers {sh : Shared} {pc : RxPc} (hs : sh.state = .fault)
    (hpc : pc.recovers sh.running = true) : ToRunning sh pc := by
  have hsh : InFault sh.running sh := ⟨hs, rfl⟩
  -- with `running` up every way leads back to the next frame; down, only a frame already in hand
  -- does
  cases hrun : sh.running with
  | true =>
    rw [hrun] at hsh
    cases pc with
    | arm => exact leads_of_step rfl rfl (fun _ _ => ⟨0, .idle, _, rfl⟩) leads_head sh hsh
    | head => exact leads_head sh hsh
    | recv => exact leads_recv sh hsh
    | stats frame =>
      cases halive : frameIsAlive frame with
      | true => exact leads_stats halive sh hsh
      | false =>
        exact leads_of_step rfl rfl
          (fun _ _ => ⟨0, .idle, _, by simp only [rxStep, halive]; rfl⟩) (leads_track frame) sh hsh
    | readState frame => exact leads_readState frame sh hsh
    | recover frame => exact toRunning_recover sh frame
    | track frame => exact leads_track frame sh hsh
    | invalid => exact leads_invalid sh hsh
    | iocs frame => exact leads_iocs frame sh hsh
    | inputs frame => exact leads_inputs frame sh hsh
    | check => exact leads_check sh hsh
    | countTimeout => exact leads_countTimeout sh hsh
    | badIocs n => exact leads_badIocs n sh hsh
    | timeoutRead n => exact leads_timeoutRead n sh hsh
    | timeoutFault n => exact leads_timeoutFault n sh hsh
    | rearm => exact leads_rearm sh hsh
    | errLoad | errRead | errFault | errLatch | timeoutLatch | done => cases hpc
  | false =>
    rw [hrun] at hsh hpc
    cases pc with
    | recv => exact leads_recv sh hsh
    | stats frame => exact leads_stats ((Bool.or_false _).symm.trans hpc) sh hsh
    | readState frame => exact leads_readState frame sh hsh
    | recover frame => exact toRunning_recover sh frame
    | _ => cases hpc

end Profinet.Cyclic
