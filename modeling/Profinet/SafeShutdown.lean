/-
  SAFE SHUTDOWN: how a commanding session ends (`safe_shutdown`).

  Up to three rounds: command 0x00 with up to three attempts, hold it for some cycles, read the
  output record back up to three times.  A record that shows our 0x00 in effect ends the rounds.

  `Outside` is what the shutdown calls; the trace is what it called, with the results.

      commandSafe_commanded  a round attempts the write until it is accepted, or three times
      verifySafe_seen        reads that verify end with a record that shows the safe byte
      safe_shutdown_seen     so a verified shutdown has commanded and seen it, in one round

  A write is refused while output writes are locked, and a refusal is logged and no more: what a
  verified shutdown knows of the output is what the device reports (`verified_without_write`).
-/
import Profinet.OutputImage
import Profinet.ProcessImage

namespace Profinet

open Buffer Pack Wire Gsdml Util Rt Cyclic CyclicDataBuilder

/-! ## The shutdown -/

/-- What a shutdown calls: the controller, the connection and the clock. -/
structure Outside (σ : Type) where
  setOutputData : (slot subslot : UInt16) → (data : List UInt8) → σ → Except String Unit × σ
  readRaw : (index slot subslot : UInt16) → (maxLength : UInt32) → σ →
    Except String (List UInt8) × σ
  sleep : (ms : Nat) → σ → σ

/-- A call of the shutdown with its result, or a line it emits. -/
inductive ShutdownStep
  | sleep (ms : Nat)
  | write (r : Except String Unit)
  | read (r : Except String (List UInt8))
  | report (reason : String) (verified : Bool) (readback : List UInt8)
  | alarm (reason : String) (readback : List UInt8)
  | stopSafe
  | release

/-- The result of a write attempt. -/
def ShutdownStep.written : ShutdownStep → Option (Except String Unit)
  | .write r => some r
  | _ => none

/-- The result of a read. -/
def ShutdownStep.readResult : ShutdownStep → Option (Except String (List UInt8))
  | .read r => some r
  | _ => none

@[simp] theorem written_write (r : Except String Unit) :
    (ShutdownStep.write r).written = some r := rfl
@[simp] theorem written_read (r : Except String (List UInt8)) :
    (ShutdownStep.read r).written = none := rfl
@[simp] theorem readResult_write (r : Except String Unit) :
    (ShutdownStep.write r).readResult = none := rfl

section Shutdown

variable {σ : Type} (w : Outside σ) (outSlot outSubslot : UInt16)

/-- The pause in front of every attempt but the first. -/
def pause (ms attempt : Nat) (s : σ) : List ShutdownStep × σ :=
  if attempt > 0 then ([.sleep ms], w.sleep ms s) else ([], s)

/-- Command the safe image, retrying a refused write. -/
def commandSafe : List Nat → σ → List ShutdownStep × σ
  | [], s => ([], s)
  | attempt :: attempts, s =>
    let (paused, s) := pause w 50 attempt s
    match w.setOutputData outSlot outSubslot [0x00] s with
    | (.ok (), s) => (paused ++ [.write (.ok ())], s)
    | (.error e, s) =>
      let (steps, s) := commandSafe attempts s
      (paused ++ .write (.error e) :: steps, s)

/-- What the rounds leave.  The record last read is kept for the report. -/
structure Rounds (σ : Type) where
  verified : Bool
  readback : List UInt8
  trace : List ShutdownStep
  after : σ

/-- Read the output record until it shows our safe byte in effect. -/
def verifySafe : List Nat → List UInt8 → σ → Rounds σ
  | [], readback, s => ⟨false, readback, [], s⟩
  | attempt :: attempts, readback, s =>
    let (paused, s) := pause w 100 attempt s
    match w.readRaw 0x8029 outSlot outSubslot 128 s with
    | (.ok d, s) =>
      if !outputSubstituteActive d && parseOutputControlByte d == some safeOutputByte then
        ⟨true, d, paused ++ [.read (.ok d)], s⟩
      else
        let r := verifySafe attempts d s
        { r with trace := paused ++ .read (.ok d) :: r.trace }
    | (.error e, s) =>
      let r := verifySafe attempts readback s
      { r with trace := paused ++ .read (.error e) :: r.trace }

/-- At least 3 output cycles of the safe image on the wire, with a floor for tiny cycles. -/
def holdMs (cycleMs : UInt16) : Nat := max (cycleMs.toNat * 5) 100

/-- The rounds, while nothing is verified. -/
def safeRounds (cycleMs : UInt16) : Nat → List UInt8 → σ → Rounds σ
  | 0, readback, s => ⟨false, readback, [], s⟩
  | n + 1, readback, s =>
    let (command, s) := commandSafe w outSlot outSubslot (List.range 3) s
    let r := verifySafe w outSlot outSubslot (List.range 3) readback (w.sleep (holdMs cycleMs) s)
    if r.verified then { r with trace := command ++ .sleep (holdMs cycleMs) :: r.trace }
    else
      let rest := safeRounds cycleMs n r.readback r.after
      { rest with trace := command ++ .sleep (holdMs cycleMs) :: r.trace ++ rest.trace }

/-- Commanded safe shutdown: whether the safe output was verified, and everything it did. -/
def safeShutdown (cycleMs : UInt16) (reason : String) (s : σ) : Bool × List ShutdownStep :=
  let r := safeRounds w outSlot outSubslot cycleMs 3 [] s
  let alarm := if r.verified then [] else [.alarm reason r.readback]
  (r.verified, r.trace ++ .report reason r.verified r.readback :: alarm ++ [.stopSafe, .release])

end Shutdown

/-! ## What a verified shutdown has seen -/

/-- The write attempts of a round of `n`: refused until one is accepted, or all of them. -/
def Commanded (n : Nat) (steps : List ShutdownStep) : Prop :=
  steps.filterMap ShutdownStep.readResult = [] ∧ ∃ refused : List String,
    (refused.length < n
        ∧ steps.filterMap ShutdownStep.written = refused.map Except.error ++ [.ok ()])
      ∨ (refused.length = n
        ∧ steps.filterMap ShutdownStep.written = refused.map Except.error)

section Seen

variable {σ : Type} (w : Outside σ) (outSlot outSubslot : UInt16)

/-- A pause neither writes nor reads. -/
theorem pause_quiet (ms attempt : Nat) (s : σ) :
    (pause w ms attempt s).1.filterMap ShutdownStep.written = []
      ∧ (pause w ms attempt s).1.filterMap ShutdownStep.readResult = [] := by
  unfold pause
  split
  · exact ⟨rfl, rfl⟩
  · exact ⟨rfl, rfl⟩

theorem commandSafe_accepted {attempt : Nat} {s s' : σ} (attempts : List Nat)
    (h : w.setOutputData outSlot outSubslot [0x00] (pause w 50 attempt s).2 = (.ok (), s')) :
    commandSafe w outSlot outSubslot (attempt :: attempts) s
      = ((pause w 50 attempt s).1 ++ [.write (.ok ())], s') := by
  simp only [commandSafe, h]

theorem commandSafe_refused {attempt : Nat} {s s' : σ} {e : String} (attempts : List Nat)
    (h : w.setOutputData outSlot outSubslot [0x00] (pause w 50 attempt s).2 = (.error e, s')) :
    commandSafe w outSlot outSubslot (attempt :: attempts) s
      = ((pause w 50 attempt s).1
            ++ .write (.error e) :: (commandSafe w outSlot outSubslot attempts s').1,
          (commandSafe w outSlot outSubslot attempts s').2) := by
  simp only [commandSafe, h]

theorem commandSafe_commanded (attempts : List Nat) (s : σ) :
    Commanded attempts.length (commandSafe w outSlot outSubslot attempts s).1 := by
  induction attempts generalizing s with
  | nil => exact ⟨rfl, [], .inr ⟨rfl, rfl⟩⟩
  | cons attempt attempts ih =>
    obtain ⟨hw, hr⟩ := pause_quiet w 50 attempt s
    cases hwrite : w.setOutputData outSlot outSubslot [0x00] (pause w 50 attempt s).2 with
    | mk r s' =>
      cases r with
      | ok u =>
        rw [commandSafe_accepted w outSlot outSubslot attempts hwrite]
        refine ⟨by simp [hr], [], .inl ⟨Nat.zero_lt_succ _, ?_⟩⟩
        simp [hw]
      | error e =>
        rw [commandSafe_refused w outSlot outSubslot attempts hwrite]
        obtain ⟨hreads, refused, hcases⟩ := ih s'
        refine ⟨?_, e :: refused, ?_⟩
        · rw [List.filterMap_append, hr, List.filterMap_cons_none (readResult_write _), hreads,
            List.nil_append]
        · rw [List.filterMap_append, hw, List.filterMap_cons_some (written_write _)]
          rcases hcases with ⟨hlt, htrace⟩ | ⟨heq, htrace⟩
          · exact .inl ⟨Nat.succ_lt_succ hlt, by rw [htrace]; rfl⟩
          · exact .inr ⟨congrArg (· + 1) heq, by rw [htrace]; rfl⟩

/-- Reads that verify end with a record that shows the safe byte in effect. -/
theorem verifySafe_seen (attempts : List Nat) (readback : List UInt8) (s : σ)
    (h : (verifySafe w outSlot outSubslot attempts readback s).verified = true) :
    ∃ reads d, (verifySafe w outSlot outSubslot attempts readback s).trace
        = reads ++ [.read (.ok d)]
      ∧ reads.filterMap ShutdownStep.written = [] ∧ Applies d safeOutputByte
      ∧ (verifySafe w outSlot outSubslot attempts readback s).readback = d := by
  induction attempts generalizing readback s with
  | nil => nomatch h
  | cons attempt attempts ih =>
    obtain ⟨hw, -⟩ := pause_quiet w 100 attempt s
    unfold verifySafe at h ⊢
    cases hread : w.readRaw 0x8029 outSlot outSubslot 128 (pause w 100 attempt s).2 with
    | mk r s' =>
      cases r with
      | ok d =>
        simp only [hread] at h ⊢
        by_cases hd : (!outputSubstituteActive d
            && parseOutputControlByte d == some safeOutputByte) = true
        · rw [if_pos hd]
          simp only [Bool.and_eq_true, Bool.not_eq_true', beq_iff_eq] at hd
          exact ⟨_, d, rfl, hw, applies_of_parsed hd.1 hd.2, rfl⟩
        · rw [if_neg hd] at h ⊢
          obtain ⟨reads, d', htrace, hreads, hseen, hback⟩ := ih d s' h
          refine ⟨(pause w 100 attempt s).1 ++ .read (.ok d) :: reads, d', ?_, ?_, hseen, hback⟩
          · simp only [htrace, List.append_assoc, List.cons_append]
          · rw [List.filterMap_append, hw, List.filterMap_cons_none (written_read _), hreads]
            rfl
      | error e =>
        simp only [hread] at h ⊢
        obtain ⟨reads, d', htrace, hreads, hseen, hback⟩ := ih readback s' h
        refine ⟨(pause w 100 attempt s).1 ++ .read (.error e) :: reads, d', ?_, ?_, hseen, hback⟩
        · simp only [htrace, List.append_assoc, List.cons_append]
        · rw [List.filterMap_append, hw, List.filterMap_cons_none (written_read _), hreads]
          rfl

/-- Rounds that verify end with a round that commanded the safe image and saw it. -/
theorem safeRounds_seen (cycleMs : UInt16) (n : Nat) (readback : List UInt8) (s : σ)
    (h : (safeRounds w outSlot outSubslot cycleMs n readback s).verified = true) :
    ∃ before writes reads d,
      (safeRounds w outSlot outSubslot cycleMs n readback s).trace
        = before ++ (writes ++ .sleep (holdMs cycleMs) :: (reads ++ [.read (.ok d)]))
      ∧ Commanded 3 writes ∧ reads.filterMap ShutdownStep.written = []
      ∧ Applies d safeOutputByte
      ∧ (safeRounds w outSlot outSubslot cycleMs n readback s).readback = d := by
  induction n generalizing readback s with
  | zero => nomatch h
  | succ n ih =>
    have hcmd := commandSafe_commanded w outSlot outSubslot (List.range 3) s
    -- this round's command and reads, by name
    unfold safeRounds at h ⊢
    generalize commandSafe w outSlot outSubslot (List.range 3) s = round at hcmd h ⊢
    obtain ⟨command, s'⟩ := round
    dsimp only at hcmd h ⊢
    have hverify := verifySafe_seen w outSlot outSubslot (List.range 3) readback
      (w.sleep (holdMs cycleMs) s')
    generalize verifySafe w outSlot outSubslot (List.range 3) readback
      (w.sleep (holdMs cycleMs) s') = r at hverify h ⊢
    by_cases hv : r.verified = true
    · obtain ⟨reads, d, htrace, hreads, hseen, hback⟩ := hverify hv
      rw [if_pos hv]
      exact ⟨[], command, reads, d, by rw [htrace]; rfl, hcmd, hreads, hseen, hback⟩
    · rw [if_neg hv] at h ⊢
      obtain ⟨before, writes, reads, d, htrace, hcmd', hreads, hseen, hback⟩ := ih _ _ h
      refine ⟨command ++ .sleep (holdMs cycleMs) :: r.trace ++ before, writes, reads, d, ?_,
        hcmd', hreads, hseen, hback⟩
      simp only [htrace, List.append_assoc]

/-- **Verified means commanded and seen.**  Whatever the writes and the reads give, a shutdown
    that reports verified has a round that attempted the safe write, until it was accepted or
    three times, and then read a record that shows 0x00 in effect, which is not a substitute. -/
theorem safe_shutdown_seen (cycleMs : UInt16) (reason : String) (s : σ)
    (h : (safeShutdown w outSlot outSubslot cycleMs reason s).1 = true) :
    ∃ before writes reads d,
      (safeShutdown w outSlot outSubslot cycleMs reason s).2
        = before ++ (writes ++ .sleep (holdMs cycleMs) :: (reads ++ [.read (.ok d)]))
          ++ [.report reason true d, .stopSafe, .release]
      ∧ Commanded 3 writes ∧ reads.filterMap ShutdownStep.written = []
      ∧ Applies d 0x00 := by
  have hv : (safeRounds w outSlot outSubslot cycleMs 3 [] s).verified = true := h
  obtain ⟨before, writes, reads, d, htrace, hcmd, hreads, hseen, hback⟩ :=
    safeRounds_seen w outSlot outSubslot cycleMs 3 [] s hv
  refine ⟨before, writes, reads, d, ?_, hcmd, hreads, hseen⟩
  simp only [safeShutdown, hv, if_true, htrace, hback]
  exact List.append_assoc _ _ _

end Seen

/-! ## The shutdown of a controller -/

/-- A controller with what is to come: what happens during each sleep, and what each read gives. -/
structure World where
  ctl : Shared
  gaps : List (List CtlEvent)
  answers : List (Except String (List UInt8))

/-- The shutdown's calls on a controller. -/
def controller : Outside World where
  setOutputData := fun slot subslot data w =>
    match w.ctl.setOutputData slot subslot data with
    | .ok ctl => (.ok (), { w with ctl := ctl })
    | .error e => (.error e, w)
  readRaw := fun _ _ _ _ w =>
    match w.answers with
    | [] => (.error "timeout", w)
    | answer :: answers => (answer, { w with answers := answers })
  sleep := fun _ w =>
    match w.gaps with
    | [] => w
    | gap :: gaps => { w with ctl := (runCtl OutputBuilder.swap w.ctl gap).1, gaps := gaps }

theorem controller_accepts {w : World} {ctl : Shared} {slot subslot : UInt16} {data : List UInt8}
    (h : w.ctl.setOutputData slot subslot data = .ok ctl) :
    controller.setOutputData slot subslot data w = (.ok (), { w with ctl := ctl }) := by
  simp only [controller, h]

theorem controller_refuses {w : World} {e : String} {slot subslot : UInt16} {data : List UInt8}
    (h : w.ctl.setOutputData slot subslot data = .error e) :
    controller.setOutputData slot subslot data w = (.error e, w) := by
  simp only [controller, h]

/-- A record of an output byte 0x00 in effect. -/
def safeRecord : List UInt8 := [0x00, 0x16, 0, 8, 1, 0, 0, 0, 1, 1, 0, 1, 0x80, 0x00, 0x80]

/-- Commanded 0x01, and then three timeouts in a row: FAULT. -/
def benchFaulted : Shared :=
  (runCtl OutputBuilder.swap bench [.start 0, .write 1 1 [0x01], .link (.timeout none),
    .link (.timeout none), .link (.timeout none)]).1

/-- A running controller, and a device that shows the safe byte. -/
theorem safe_shutdown_seen_bench :
    ∃ before writes reads d,
      (safeShutdown controller 1 1 1 "quit" ⟨benchRunning, [], [.ok safeRecord]⟩).2
        = before ++ (writes ++ .sleep 100 :: (reads ++ [.read (.ok d)]))
          ++ [.report "quit" true d, .stopSafe, .release]
      ∧ Commanded 3 writes ∧ reads.filterMap ShutdownStep.written = [] ∧ Applies d 0x00 :=
  safe_shutdown_seen controller 1 1 1 "quit" ⟨benchRunning, [], [.ok safeRecord]⟩ rfl

/-- **Verified does not mean accepted.**  A controller in FAULT refuses every write, and a device
    that shows 0x00 all the same makes the shutdown a verified one. -/
theorem verified_without_write :
    (safeShutdown controller 1 1 1 "cyclic_fault" ⟨benchFaulted, [], [.ok safeRecord]⟩).1 = true
      ∧ .ok () ∉ (safeShutdown controller 1 1 1 "cyclic_fault"
          ⟨benchFaulted, [], [.ok safeRecord]⟩).2.filterMap ShutdownStep.written := by
  decide

end Profinet
