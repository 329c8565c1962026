/-
  CONSUMER STATUS: which submodules have an IOCS byte, and what it says.

  A data description is declared with `LengthIOCS = 1`, so one would expect a consumer status in
  the opposite frame for each.  The rule of the two builders is another one: a frame carries an
  IOCS entry for every submodule *without data in its direction*.  The two agree on submodules
  with data in one direction; a submodule with data in both is a data object of both frames and
  has an IOCS entry in neither.

      iocs_entries                  the rule, for both IOCRs and every slot list
      declared_consumer_status      what it gives for the declared descriptions, and the
                                    acknowledgement of accepted input
      mixed_has_no_consumer_status  a mixed submodule
-/
import Mathlib.Data.List.Count
import Profinet.ConnectLayout
import Profinet.OutputImage

namespace Profinet

open Buffer Pack Wire Gsdml Util Rt Connect Cyclic

/-! ## The rule -/

/-- The slot/subslot of the IOCS entries of an IOCR block, in order. -/
def iocsKeys (iocrType : UInt16) (slots : List IoSlot) : List (UInt16 × UInt16) :=
  (iocrIocs iocrType slots (iocrObjects iocrType slots).2).1.map IocrApiObject.key

/-- The IOCR of the direction opposite to a data description (1=Input, 2=Output). -/
def oppositeIocr (dataDescription : UInt16) : UInt16 := if dataDescription = 1 then 2 else 1

theorem iocs_entries {iocrType : UInt16} {len : IoSlot → Nat} (hdir : Direction iocrType len)
    (slots : List IoSlot) :
    iocsKeys iocrType slots = (slots.filter fun s => len s = 0).map IoSlot.key := by
  unfold iocsKeys
  rw [iocrObjects_eq hdir, iocrIocs_eq hdir, List.map_map, placedIocs,
    ← pack_map_snd (fun _ => 1) (dataEnd len slots) (slots.filter fun s => len s = 0),
    List.map_map, pack_map_snd]
  rfl

/-- With distinct slot/subslot, a submodule has one IOCS entry or none. -/
theorem count_iocsKeys {iocrType : UInt16} {len : IoSlot → Nat} (hdir : Direction iocrType len)
    {slots : List IoSlot} (hkeys : (slots.map IoSlot.key).Nodup) {s : IoSlot} (hs : s ∈ slots) :
    (iocsKeys iocrType slots).count s.key = if len s = 0 then 1 else 0 := by
  rw [iocs_entries hdir]
  by_cases h0 : len s = 0
  · have hnd : ((slots.filter fun s => len s = 0).map IoSlot.key).Nodup :=
      hkeys.sublist (List.filter_sublist.map IoSlot.key)
    rw [if_pos h0]
    exact List.count_eq_one_of_mem hnd
      (List.mem_map_of_mem (List.mem_filter.mpr ⟨hs, decide_eq_true h0⟩))
  · rw [if_neg h0, List.count_eq_zero]
    intro hm
    obtain ⟨t, ht, hkey⟩ := List.mem_map.mp hm
    obtain ⟨htm, ht0⟩ := List.mem_filter.mp ht
    obtain rfl : t = s := List.inj_on_of_nodup_map hkeys htm hs hkey
    exact h0 (of_decide_eq_true ht0)

/-- What the block declares for a submodule: the direction and length of each description, and
    always one byte of consumer status. -/
theorem descriptions_declared {s : IoSlot} {d : DataDescription}
    (hd : d ∈ (expectedSubmodule s).descriptions) :
    d.lengthIocs = 1
      ∧ ((d.dataDescription = 1 ∧ d.length = UInt16.ofNat s.inputLength)
        ∨ (d.dataDescription = 2 ∧ d.length = UInt16.ofNat s.outputLength)) := by
  have hd' : d ∈ dataDescriptions s := hd
  unfold dataDescriptions at hd'
  rcases List.mem_append.mp hd' with h | h
  · split at h
    · obtain rfl := List.mem_singleton.mp h
      exact ⟨rfl, .inl ⟨rfl, rfl⟩⟩
    · exact absurd h List.not_mem_nil
  · split at h
    · obtain rfl := List.mem_singleton.mp h
      exact ⟨rfl, .inr ⟨rfl, rfl⟩⟩
    · exact absurd h List.not_mem_nil

/-! ## The acknowledgement -/

/-- After an accepted frame the next output frame has GOOD in every IOCS byte of the layout. -/
theorem accepted_acknowledges {s : Shared} {data : List UInt8} {frame : RtFrame}
    (hacc : Accepts s data frame) (now : Instant) (dataStatus : Option UInt8) {p : Nat}
    (hp : p ∈ s.outputBuilder.1.config.iocsOffsets) :
    (((s.processInputFrame now data).nextOutputFrame dataStatus).1)[20 + p]? = some ioxsGood := by
  have hsome : s.accepted data = some frame := accepted_eq_some.mpr hacc
  have hlink := refines_frame (refines_plain s) now data
  have hframe := (refines_step commits_swap hlink (.build dataStatus)).2
  have hf : ((s.processInputFrame now data).nextOutputFrame dataStatus).1
      = s.outputFrame _ dataStatus (s.plain.link s (.frame now data)).image :=
    Option.some.inj hframe
  have himage : (s.plain.link s (.frame now data)).image
      = stamp s.outputBuilder.1.writeBuffer s.outputBuilder.1.config.iocsOffsets ioxsGood := by
    show (if (s.accepted data).isSome then s.plain.accept s else s.plain).image = _
    rw [hsome]
    rfl
  have hst := stamped_stamp s.outputBuilder.1.writeBuffer s.outputBuilder.1.config.iocsOffsets
    ioxsGood
  have hlt : p < s.outputBuilder.1.writeBuffer.length := by
    rw [s.outputBuilder.2.writeLength]
    exact s.outputBuilder.2.fits.iocs p hp
  rw [hf, himage, outputFrame_byte _ _ _ (by rw [hst.1]; exact hlt)]
  exact hst.getElem?_of_mem hp hlt

/-- An input-only submodule has an IOCS object in the output layout. -/
theorem inputOnly_iocs (slots : List IoSlot) (inputFrameId outputFrameId sendClockFactor
    reductionRatio watchdogFactor : UInt16) {s : IoSlot} (hs : s ∈ slots)
    (hout : s.outputLength = 0) :
    ∃ o ∈ (outputConfig slots inputFrameId outputFrameId sendClockFactor reductionRatio
        watchdogFactor).objects,
      o.key = s.key ∧ ∃ p, o.iocsOffset = some p := by
  have hmem : s ∈ slots.filter fun s => s.outputLength = 0 :=
    List.mem_filter.mpr ⟨hs, decide_eq_true hout⟩
  obtain ⟨off, hoff⟩ := exists_mem_pack (fun _ => 1) (dataEnd IoSlot.outputLength slots) hmem
  refine ⟨iocsObject off s, ?_, rfl, off, rfl⟩
  rw [output_objects]
  exact List.mem_append_right _ (List.mem_map.mpr ⟨(off, s), hoff, rfl⟩)

/-- **Declared consumer status.**  For every slot list the IOCS entries of an IOCR are, in order,
    the submodules without data in its direction.  So, with distinct slot/subslot, a declared
    data description of non-zero length has exactly one IOCS entry in the opposite IOCR when its
    submodule has no data there, and none when the submodule has data in both directions.  Every
    input-only submodule has an IOCS byte in the output frame, and after an accepted input frame
    the next output frame says GOOD there. -/
theorem declared_consumer_status (slots : List IoSlot) (inputFrameId outputFrameId sendClockFactor
    reductionRatio watchdogFactor : UInt16) :
    iocsKeys 1 slots = (slots.filter fun s => s.inputLength = 0).map IoSlot.key
    ∧ iocsKeys 2 slots = (slots.filter fun s => s.outputLength = 0).map IoSlot.key
    ∧ ((slots.map IoSlot.key).Nodup → ∀ s ∈ slots, ∀ d ∈ (expectedSubmodule s).descriptions,
        d.length ≠ 0 → d.lengthIocs = 1
          ∧ (iocsKeys (oppositeIocr d.dataDescription) slots).count s.key
            = if s.inputLength > 0 ∧ s.outputLength > 0 then 0 else 1)
    ∧ (∀ s ∈ slots, s.inputLength > 0 → s.outputLength = 0 →
        ∃ o ∈ (outputConfig slots inputFrameId outputFrameId sendClockFactor reductionRatio
            watchdogFactor).objects,
          o.key = s.key ∧ ∃ p, o.iocsOffset = some p
            ∧ ∀ c : Shared, c.outputBuilder.1.config = outputConfig slots inputFrameId
                outputFrameId sendClockFactor reductionRatio watchdogFactor →
              ∀ now data frame dataStatus, Accepts c data frame →
                (((c.processInputFrame now data).nextOutputFrame dataStatus).1)[20 + p]?
                  = some ioxsGood) := by
  refine ⟨iocs_entries inputDirection slots, iocs_entries outputDirection slots, ?_, ?_⟩
  · intro hkeys s hs d hd hlen
    obtain ⟨hiocs, hdecl⟩ := descriptions_declared hd
    refine ⟨hiocs, ?_⟩
    rcases hdecl with ⟨hdir, hl⟩ | ⟨hdir, hl⟩
    · -- an Input description of non-zero length: the submodule has input data
      have hin : s.inputLength > 0 := by
        rcases Nat.eq_zero_or_pos s.inputLength with h0 | hpos
        · rw [h0] at hl
          exact absurd hl hlen
        · exact hpos
      rw [hdir]
      show (iocsKeys 2 slots).count s.key = _
      rw [count_iocsKeys outputDirection hkeys hs]
      by_cases hout : s.outputLength = 0
      · rw [if_pos hout, if_neg (by omega)]
      · rw [if_neg hout, if_pos (by omega)]
    · have hout : s.outputLength > 0 := by
        rcases Nat.eq_zero_or_pos s.outputLength with h0 | hpos
        · rw [h0] at hl
          exact absurd hl hlen
        · exact hpos
      rw [hdir]
      show (iocsKeys 1 slots).count s.key = _
      rw [count_iocsKeys inputDirection hkeys hs]
      by_cases hin : s.inputLength = 0
      · rw [if_pos hin, if_neg (by omega)]
      · rw [if_neg hin, if_pos (by omega)]
  · intro s hs _ hout
    obtain ⟨o, ho, hkey, p, hp⟩ := inputOnly_iocs slots inputFrameId outputFrameId sendClockFactor
      reductionRatio watchdogFactor hs hout
    refine ⟨o, ho, hkey, p, hp, ?_⟩
    intro c hc now data frame dataStatus hacc
    exact accepted_acknowledges hacc now dataStatus
      (by rw [hc]; exact IocrConfig.mem_iocsOffsets.mpr ⟨o, ho, hp⟩)

/-- On the bench: the input-only submodule 2/1 has one IOCS entry in the output IOCR, the mixed
    submodule 1/1 none. -/
theorem declared_consumer_status_bench :
    (iocsKeys 2 benchSlots).count (2, 1) = 1 ∧ (iocsKeys 2 benchSlots).count (1, 1) = 0 := by
  have h := (declared_consumer_status benchSlots 0xC001 0xC002 32 1 3).2.2.1 (by decide)
  exact ⟨(h ⟨2, 1, 0x20, 0x21, 4, 0⟩ (by decide) ⟨1, 4, 1, 1⟩ (by decide) (by decide)).2,
    (h ⟨1, 1, 0x10, 0x11, 2, 1⟩ (by decide) ⟨1, 2, 1, 1⟩ (by decide) (by decide)).2⟩

/-- A submodule with input and output data: its Input description is declared with one byte of
    consumer status, and the output IOCR has no IOCS entry for it. -/
theorem mixed_has_no_consumer_status :
    ¬ ∀ slots : List IoSlot, (slots.map IoSlot.key).Nodup → ∀ s ∈ slots,
        ∀ d ∈ (expectedSubmodule s).descriptions, d.length ≠ 0 → d.lengthIocs = 1 →
          (iocsKeys (oppositeIocr d.dataDescription) slots).count s.key = 1 := by
  intro hall
  have h := hall [⟨1, 1, 0x10, 0x11, 2, 1⟩] (by decide) ⟨1, 1, 0x10, 0x11, 2, 1⟩ (by decide)
    ⟨1, 2, 1, 1⟩ (by decide) (by decide) rfl
  exact absurd h (by decide)

end Profinet
