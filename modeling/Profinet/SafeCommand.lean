/-
  SAFE COMMAND: when the command of a shutdown reaches the wire.

  `set_output_data` is refused while output writes are locked, and in FAULT they are, while the
  TX thread transmits the image it has on purpose.  So what the first round of a shutdown does to
  the image depends on what its attempts find (`Finds`):

      commandSafe_byte     the control byte is 0x00 afterwards exactly when an attempt was let in,
                           or it was 0x00 before
      runCtl_safe          a control byte 0x00 stays, and every frame carries it
      safe_command_exact   both together, for every reachable controller
-/
import Profinet.SafeShutdown

namespace Profinet

open Buffer Pack Wire Gsdml Util Rt Cyclic CyclicDataBuilder

/-- The control byte of a submodule in the image. -/
def controlByte (ctl : Shared) (o : IoDataObject) : Option UInt8 :=
  ctl.outputBuilder.1.writeBuffer[o.frameOffset]?

/-! ## The write -/

/-- A write that is let in puts 0x00 into the image. -/
theorem setOutputData_open {s : Shared} (hiso : s.outputBuilder.1.config.Isolated)
    {slot subslot : UInt16} {o : IoDataObject}
    (ho : s.outputBuilder.1.config.find slot subslot = some o) (hpos : 0 < o.dataLength)
    (hopen : outputWritesLocked s.state = false) :
    ∃ s', s.setOutputData slot subslot [0x00] = .ok s'
      ∧ s'.outputBuilder.1.config = s.outputBuilder.1.config ∧ controlByte s' o = some 0x00 := by
  have hput := setData_put s.outputBuilder slot subslot [0x00]
  cases hp : put s.outputBuilder.1.config s.outputBuilder.1.writeBuffer slot subslot [0x00] with
  | none =>
    unfold put at hp
    rw [ho] at hp
    nomatch hp
  | some image =>
    rw [hp] at hput
    obtain ⟨b, hset, hconfig, himage, -⟩ := hput
    obtain ⟨hwin, -⟩ := put_inside s.outputBuilder.2.fits hiso s.outputBuilder.2.writeLength ho hp
    refine ⟨_, by simp only [Shared.setOutputData, hopen, hset]; rfl, hconfig, ?_⟩
    show (b.setIops slot subslot ioxsGood).1.writeBuffer[o.frameOffset]? = some 0x00
    rw [himage]
    exact hwin 0 Nat.one_pos hpos

/-- A write that is locked out changes nothing. -/
theorem setOutputData_locked {s : Shared} (slot subslot : UInt16) (data : List UInt8)
    (hlocked : outputWritesLocked s.state = true) :
    ∃ e, s.setOutputData slot subslot data = .error e :=
  ⟨_, if_pos hlocked⟩

/-! ## The first round -/

/-- Some attempt finds the output writes open. -/
def Finds : List Nat → World → Prop
  | [], _ => False
  | attempt :: attempts, w =>
    outputWritesLocked (pause controller 50 attempt w).2.ctl.state = false
      ∨ Finds attempts (pause controller 50 attempt w).2

/-- A pause lets happen what happens, which leaves the data alone. -/
theorem pause_keeps (ms attempt : Nat) {w : World}
    (hgaps : ∀ gap ∈ w.gaps, ∀ e ∈ gap, e.passive = true) :
    KeepsData w.ctl.outputBuilder (pause controller ms attempt w).2.ctl.outputBuilder
      ∧ ∀ gap ∈ (pause controller ms attempt w).2.gaps, ∀ e ∈ gap, e.passive = true := by
  unfold pause
  split
  · obtain ⟨ctl, gaps, answers⟩ := w
    cases gaps with
    | nil => exact ⟨.refl _, hgaps⟩
    | cons gap gaps =>
      exact ⟨keepsData_run ctl (hgaps gap List.mem_cons_self),
        fun g hg => hgaps g (List.mem_cons_of_mem gap hg)⟩
  · exact ⟨.refl _, hgaps⟩

section Round

variable {c : IocrConfig} (hiso : c.Isolated) {slot subslot : UInt16} {o : IoDataObject}
  (ho : c.find slot subslot = some o) (hpos : 0 < o.dataLength)
include hiso ho hpos

/-- What leaves the data alone leaves the control byte alone. -/
theorem controlByte_keeps {s s' : Shared} (hconfig : s.outputBuilder.1.config = c)
    (h : KeepsData s.outputBuilder s'.outputBuilder) : controlByte s' o = controlByte s o := by
  refine h.bytes _ ?_
  intro hp
  rw [hconfig] at hp
  exact hiso.window_iocs (IocrConfig.find_mem ho).1 hp ⟨Nat.le_refl _, by omega⟩

/-- **A round of attempts** leaves 0x00 in the image exactly when one of them was let in, or it
    was there before. -/
theorem commandSafe_byte (attempts : List Nat) (w : World)
    (hconfig : w.ctl.outputBuilder.1.config = c)
    (hgaps : ∀ gap ∈ w.gaps, ∀ e ∈ gap, e.passive = true) :
    (commandSafe controller slot subslot attempts w).2.ctl.outputBuilder.1.config = c
      ∧ (controlByte (commandSafe controller slot subslot attempts w).2.ctl o = some 0x00
          ↔ Finds attempts w ∨ controlByte w.ctl o = some 0x00) := by
  induction attempts generalizing w with
  | nil => exact ⟨hconfig, (or_iff_right id).symm⟩
  | cons attempt attempts ih =>
    obtain ⟨hkeeps, hgaps'⟩ := pause_keeps 50 attempt hgaps
    have hconfig' := hkeeps.config.trans hconfig
    have hbyte := controlByte_keeps hiso ho hpos hconfig hkeeps
    cases hlocked : outputWritesLocked (pause controller 50 attempt w).2.ctl.state with
    | false =>
      obtain ⟨s', hset, hc, hzero⟩ := setOutputData_open (by rw [hconfig']; exact hiso)
        (by rw [hconfig']; exact ho) hpos hlocked
      rw [commandSafe_accepted controller slot subslot attempts (controller_accepts hset)]
      exact ⟨hc.trans hconfig', iff_of_true hzero (.inl (.inl hlocked))⟩
    | true =>
      obtain ⟨e, he⟩ := setOutputData_locked slot subslot [0x00] hlocked
      rw [commandSafe_refused controller slot subslot attempts (controller_refuses he)]
      obtain ⟨hc, hiff⟩ := ih _ hconfig' hgaps'
      refine ⟨hc, hiff.trans ?_⟩
      rw [hbyte, Finds, hlocked]
      simp only [Bool.true_eq_false, false_or]

/-- A control byte 0x00 stays while the shutdown goes on, and every frame carries it. -/
theorem runCtl_safe {s : Shared} (hconfig : s.outputBuilder.1.config = c)
    (hbyte : controlByte s o = some 0x00) {later : List CtlEvent}
    (hlater : ∀ e ∈ later, e.passive = true ∨ e = .write slot subslot [0x00]) :
    ∀ frame ∈ (runCtl OutputBuilder.swap s later).2, frame[20 + o.frameOffset]? = some 0x00 := by
  induction later generalizing s with
  | nil => exact nofun
  | cons e later ih =>
    have hnext : (e.step OutputBuilder.swap s).1.outputBuilder.1.config = c
        ∧ controlByte (e.step OutputBuilder.swap s).1 o = some 0x00 := by
      rcases hlater e List.mem_cons_self with hpassive | rfl
      · have hkeeps := keepsData_passive s hpassive
        exact ⟨hkeeps.config.trans hconfig,
          (controlByte_keeps hiso ho hpos hconfig hkeeps).trans hbyte⟩
      · show ((s.setOutputData slot subslot [0x00]).toOption.getD s).outputBuilder.1.config = c
          ∧ controlByte ((s.setOutputData slot subslot [0x00]).toOption.getD s) o = some 0x00
        cases hlocked : outputWritesLocked s.state with
        | false =>
          obtain ⟨s', hset, hc, hzero⟩ := setOutputData_open (by rw [hconfig]; exact hiso)
            (by rw [hconfig]; exact ho) hpos hlocked
          rw [hset]
          exact ⟨hc.trans hconfig, hzero⟩
        | true =>
          obtain ⟨err, he⟩ := setOutputData_locked slot subslot [0x00] hlocked
          rw [he]
          exact ⟨hconfig, hbyte⟩
    intro frame hmem
    rcases List.mem_append.mp hmem with hnow | hrest
    · -- the frame of this event carries the image
      have hframe := (refines_step commits_swap (refines_plain s) e).2
      rw [hframe] at hnow
      cases e with
      | build dataStatus =>
        obtain rfl := List.mem_singleton.mp hnow
        have hfits := s.outputBuilder.2
        have hwin := hfits.fits.window o (by rw [hconfig]; exact (IocrConfig.find_mem ho).1)
        rw [outputFrame_byte _ _ _ (by
          show o.frameOffset < s.outputBuilder.1.writeBuffer.length
          rw [hfits.writeLength]
          omega)]
        exact hbyte
      | _ => exact nomatch hnow
    · exact ih hnext.1 hnext.2 (fun e' he' => hlater e' (List.mem_cons_of_mem e he')) frame hrest

end Round

/-- **When a shutdown commands the wire.**  On every output layout built from a slot list: any
    controller, after any history, on which a shutdown makes its first round of attempts on a
    submodule with output, with any receiving and transmitting in the two pauses.  Every frame
    built afterwards, while frames and timeouts arrive and 0x00 is commanded again, carries 0x00
    in the control byte if and only if one of the three attempts found the output writes open, or
    the control byte was 0x00 before. -/
theorem safe_command_exact (slots : List IoSlot) (inputFrameId outputFrameId sendClockFactor
    reductionRatio watchdogFactor : UInt16) (srcMac dstMac : Mac)
    (maxConsecutiveTimeouts : UInt32) (now : Instant) {sh : Shared}
    (hnew : Shared.new srcMac dstMac
      (inputConfig slots inputFrameId outputFrameId sendClockFactor reductionRatio watchdogFactor)
      (outputConfig slots inputFrameId outputFrameId sendClockFactor reductionRatio watchdogFactor)
      (output_fits slots inputFrameId outputFrameId sendClockFactor reductionRatio watchdogFactor)
      maxConsecutiveTimeouts now = some sh)
    {slot subslot : UInt16} {o : IoDataObject}
    (ho : (outputConfig slots inputFrameId outputFrameId sendClockFactor reductionRatio
      watchdogFactor).find slot subslot = some o)
    (hpos : 0 < o.dataLength) (history gap1 gap2 : List CtlEvent)
    (hgap1 : ∀ e ∈ gap1, e.passive = true) (hgap2 : ∀ e ∈ gap2, e.passive = true)
    (answers : List (Except String (List UInt8))) :
    let s := (runCtl OutputBuilder.swap sh history).1
    let s1 := (runCtl OutputBuilder.swap s gap1).1
    let s2 := (runCtl OutputBuilder.swap s1 gap2).1
    let after := (commandSafe controller slot subslot (List.range 3)
      ⟨s, [gap1, gap2], answers⟩).2.ctl
    (∀ later : List CtlEvent,
        (∀ e ∈ later, e.passive = true ∨ e = .write slot subslot [0x00]) →
        ∀ frame ∈ (runCtl OutputBuilder.swap after later).2,
          frame[20 + o.frameOffset]? = some 0x00)
      ↔ (∃ t ∈ [s, s1, s2], outputWritesLocked t.state = false)
        ∨ s.outputBuilder.1.writeBuffer[o.frameOffset]? = some 0x00 := by
  intro s s1 s2 after
  have hiso := output_isolated slots inputFrameId outputFrameId sendClockFactor reductionRatio
    watchdogFactor
  have hconfig : s.outputBuilder.1.config = outputConfig slots inputFrameId outputFrameId
      sendClockFactor reductionRatio watchdogFactor :=
    ((refines_run commits_swap (refines_plain sh) history).1.config).trans (new_facts hnew hiso).1
  have hgaps : ∀ gap ∈ [gap1, gap2], ∀ e ∈ gap, e.passive = true := by
    intro gap hg
    rcases List.mem_cons.mp hg with rfl | hg
    · exact hgap1
    · rw [List.mem_singleton.mp hg]
      exact hgap2
  obtain ⟨hafter, hbyte⟩ := commandSafe_byte hiso ho hpos (List.range 3)
    ⟨s, [gap1, gap2], answers⟩ hconfig hgaps
  have hfinds : Finds (List.range 3) ⟨s, [gap1, gap2], answers⟩
      ↔ ∃ t ∈ [s, s1, s2], outputWritesLocked t.state = false := by
    show (outputWritesLocked s.state = false ∨ outputWritesLocked s1.state = false
      ∨ outputWritesLocked s2.state = false ∨ False) ↔ _
    simp only [List.mem_cons, List.not_mem_nil, or_false, exists_eq_or_imp, exists_eq_left]
  rw [hfinds] at hbyte
  refine Iff.trans ⟨fun hall => ?_, fun hzero later hlater => ?_⟩ hbyte
  · -- the next frame built shows the image
    have hframe := hall [.build none] (fun e he => .inl (by rw [List.mem_singleton.mp he]; rfl)) _
      (List.mem_append_left _ (List.mem_singleton.mpr rfl))
    have hshown := (refines_step commits_swap (refines_plain after) (.build none)).2
    rw [Option.some.inj hshown, outputFrame_byte] at hframe
    · exact hframe
    · have hwf := after.outputBuilder.2
      have hwin := hwf.fits.window o (by rw [hafter]; exact (IocrConfig.find_mem ho).1)
      show o.frameOffset < after.outputBuilder.1.writeBuffer.length
      rw [hwf.writeLength]
      omega
  · exact runCtl_safe hiso ho hpos hafter hzero hlater

/-- On the bench, running and with 0x01 commanded, the frames of a while carry 0x00. -/
theorem safe_command_exact_bench :
    ((runCtl OutputBuilder.swap (commandSafe controller 1 1 (List.range 3)
        ⟨(runCtl OutputBuilder.swap bench [.start 0, .write 1 1 [0x01]]).1, [[], []], []⟩).2.ctl
        [.build none, .link (.frame 5 benchFrame), .build none]).2.all
      fun frame => frame[20]? = some 0x00) = true := by
  have hnew : Shared.new benchController benchDevice (inputConfig benchSlots 0xC001 0xC002 32 1 3)
      (outputConfig benchSlots 0xC001 0xC002 32 1 3)
      (output_fits benchSlots 0xC001 0xC002 32 1 3) 3 0 = some bench := if_neg (by decide)
  have ho : (outputConfig benchSlots 0xC001 0xC002 32 1 3).find 1 1
      = some ⟨1, 1, 0, 1, 1, none⟩ := by decide
  have h := safe_command_exact benchSlots 0xC001 0xC002 32 1 3 benchController benchDevice 3 0 hnew
    ho (by decide) [.start 0, .write 1 1 [0x01]] [] [] nofun nofun []
  have hpassive : ∀ e ∈ [CtlEvent.build none, .link (.frame 5 benchFrame), .build none],
      e.passive = true := by
    intro e he
    simp only [List.mem_cons, List.not_mem_nil, or_false] at he
    rcases he with rfl | rfl | rfl
    · rfl
    · rfl
    · rfl
  refine List.all_eq_true.mpr fun frame hmem => decide_eq_true ?_
  exact h.mpr (.inl ⟨_, List.mem_cons_self, by decide⟩) _ (fun e he => .inl (hpassive e he))
    frame hmem

/-- **In FAULT the command does not reach the wire.**  The controller transmits on after the third
    timeout, and the frame after a whole round of attempts carries the 0x01 commanded before. -/
theorem fault_keeps_commanding :
    benchFaulted.state = .fault
      ∧ (runCtl OutputBuilder.swap (commandSafe controller 1 1 (List.range 3)
          ⟨benchFaulted, [[], []], []⟩).2.ctl [.build none]).2.map (·[20]?) = [some 0x01] := by
  decide

end Profinet
