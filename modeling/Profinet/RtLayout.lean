/-
  RT LAYOUT: what the two passes of `buildIocrConfigs` produce, without the loops.

  Per direction (`len` is the length of a submodule in it) the frame is

      placedData len slots   one item of `len s + 1` bytes per submodule with data
      placedIocs len slots   one item of 1 byte per submodule without
      frameTotal len slots   the offset behind the last of them, before the 40-byte minimum

  and both configurations are read off these packings (`input_objects`, `output_objects`,
  `input_dataLength`, `output_dataLength`).  From the packing come the facts everything above
  relies on: the cells of the output frame tile `[0, total)`, those of the input frame tile a
  prefix of it (`output_tiles`, `input_tiles`), every object fits its frame (`Fits`) and no two
  submodules share a byte (`Isolated`).
-/
import Mathlib.Data.List.Pairwise
import Profinet.Rt

namespace Profinet.Rt

open Pack Gsdml

/-! ## The packings behind the loops -/

/-- The submodules with data in the direction of `len`, each with its IOPS byte behind it. -/
def placedData (len : IoSlot → Nat) (slots : List IoSlot) : List (Nat × IoSlot) :=
  pack (fun s => len s + 1) 0 (slots.filter fun s => len s > 0)

/-- Where the data part of the frame ends. -/
def dataEnd (len : IoSlot → Nat) (slots : List IoSlot) : Nat :=
  span (fun s => len s + 1) (slots.filter fun s => len s > 0)

/-- The submodules without data in the direction of `len`, one status byte each. -/
def placedIocs (len : IoSlot → Nat) (slots : List IoSlot) : List (Nat × IoSlot) :=
  pack (fun _ => 1) (dataEnd len slots) (slots.filter fun s => len s = 0)

/-- The frame offset behind the last item, before the 40-byte minimum. -/
def frameTotal (len : IoSlot → Nat) (slots : List IoSlot) : Nat :=
  dataEnd len slots + (slots.filter fun s => len s = 0).length

/-- Each submodule takes `len + 1` bytes, or one byte when it has no data. -/
theorem frameTotal_eq_sum (len : IoSlot → Nat) (slots : List IoSlot) :
    frameTotal len slots = (slots.map fun s => if len s > 0 then len s + 1 else 1).sum := by
  induction slots with
  | nil => rfl
  | cons s l ih =>
    rw [List.map_cons, List.sum_cons, ← ih]
    unfold frameTotal dataEnd
    by_cases h : len s > 0
    · have h0 : ¬ len s = 0 := by omega
      rw [if_pos h, List.filter_cons_of_pos (by simpa using h),
        List.filter_cons_of_neg (by simpa using h0), span_cons]
      omega
    · have h0 : len s = 0 := by omega
      rw [if_neg h, List.filter_cons_of_neg (by simpa using h),
        List.filter_cons_of_pos (by simpa using h0), List.length_cons]
      omega

/-- The submodules with data are placed in the order of the slot list. -/
theorem placedData_keys (len : IoSlot → Nat) (slots : List IoSlot) :
    ((placedData len slots).map fun e => (e.2.key, len e.2))
      = (slots.filter fun s => len s > 0).map fun s => (s.key, len s) := by
  have h := congrArg (List.map fun s => (IoSlot.key s, len s))
    (pack_map_snd (fun s => len s + 1) 0 (slots.filter fun s => len s > 0))
  rw [List.map_map] at h
  exact h

theorem dataObjects_eq (len : IoSlot → Nat) (slots : List IoSlot) :
    dataObjects len slots
      = ((placedData len slots).map (fun e => dataObject len e.1 e.2), dataEnd len slots) := by
  rw [dataObjects, foldl_place, List.nil_append, Nat.zero_add]
  rfl

theorem outputIocs_eq (slots : List IoSlot) :
    outputIocs slots (dataObjects IoSlot.outputLength slots)
      = ((placedData IoSlot.outputLength slots).map (fun e => dataObject IoSlot.outputLength e.1 e.2)
            ++ (placedIocs IoSlot.outputLength slots).map (fun e => iocsObject e.1 e.2),
          frameTotal IoSlot.outputLength slots) := by
  rw [outputIocs, dataObjects_eq, foldl_place, span_one]
  rfl

theorem inputIocs_eq (slots : List IoSlot) (off : Nat) :
    inputIocs slots off = off + (slots.filter fun s => s.inputLength = 0).length := by
  unfold inputIocs
  induction slots generalizing off with
  | nil => rfl
  | cons s l ih =>
    rw [List.foldl_cons, ih]
    by_cases h : s.inputLength = 0
    · rw [if_pos h, List.filter_cons_of_pos (by simpa using h), List.length_cons]
      omega
    · rw [if_neg h, List.filter_cons_of_neg (by simpa using h)]

/-! ## The two configurations, field by field -/

section Configs

variable (slots : List IoSlot) (inputFrameId outputFrameId sendClockFactor reductionRatio
  watchdogFactor : UInt16)

/-- The input configuration of `buildIocrConfigs`. -/
abbrev inputConfig : IocrConfig :=
  (buildIocrConfigs slots inputFrameId outputFrameId sendClockFactor reductionRatio
    watchdogFactor).1

/-- The output configuration of `buildIocrConfigs`. -/
abbrev outputConfig : IocrConfig :=
  (buildIocrConfigs slots inputFrameId outputFrameId sendClockFactor reductionRatio
    watchdogFactor).2

theorem input_objects :
    (inputConfig slots inputFrameId outputFrameId sendClockFactor reductionRatio
      watchdogFactor).objects
      = (placedData IoSlot.inputLength slots).map
          (fun e => dataObject IoSlot.inputLength e.1 e.2) := by
  show (dataObjects IoSlot.inputLength slots).1 = _
  rw [dataObjects_eq]

theorem input_dataLength :
    (inputConfig slots inputFrameId outputFrameId sendClockFactor reductionRatio
      watchdogFactor).dataLength = max (frameTotal IoSlot.inputLength slots) 40 := by
  show max (inputIocs slots (dataObjects IoSlot.inputLength slots).2) 40 = _
  rw [dataObjects_eq, inputIocs_eq]
  rfl

theorem output_objects :
    (outputConfig slots inputFrameId outputFrameId sendClockFactor reductionRatio
      watchdogFactor).objects
      = (placedData IoSlot.outputLength slots).map
            (fun e => dataObject IoSlot.outputLength e.1 e.2)
          ++ (placedIocs IoSlot.outputLength slots).map (fun e => iocsObject e.1 e.2) := by
  show (outputIocs slots (dataObjects IoSlot.outputLength slots)).1 = _
  rw [outputIocs_eq]

theorem output_dataLength :
    (outputConfig slots inputFrameId outputFrameId sendClockFactor reductionRatio
      watchdogFactor).dataLength = max (frameTotal IoSlot.outputLength slots) 40 := by
  show max (outputIocs slots (dataObjects IoSlot.outputLength slots)).2 40 = _
  rw [outputIocs_eq]

end Configs

/-! ## Cells of a frame -/

/-- The bytes an object owns: its data window and IOPS byte, and its IOCS byte. -/
def IoDataObject.cells (o : IoDataObject) : List Extent :=
  (if 0 < o.dataLength then [⟨o.frameOffset, o.dataLength⟩, ⟨o.iopsOffset, 1⟩] else [])
    ++ (o.iocsOffset.toList.map fun off => ⟨off, 1⟩)

/-- All cells of a configuration, object by object. -/
def IocrConfig.cells (c : IocrConfig) : List Extent := c.objects.flatMap IoDataObject.cells

/-- The IOCS bytes of a configuration. -/
def IocrConfig.iocsOffsets (c : IocrConfig) : List Nat :=
  c.objects.filterMap IoDataObject.iocsOffset

/-- The IOPS bytes of a configuration. -/
def IocrConfig.iopsOffsets (c : IocrConfig) : List Nat :=
  (c.objects.filter fun o => 0 < o.dataLength).map IoDataObject.iopsOffset

theorem IocrConfig.mem_iocsOffsets {c : IocrConfig} {p : Nat} :
    p ∈ c.iocsOffsets ↔ ∃ o ∈ c.objects, o.iocsOffset = some p := by
  simp [iocsOffsets]

theorem IocrConfig.mem_iopsOffsets {c : IocrConfig} {p : Nat} :
    p ∈ c.iopsOffsets ↔ ∃ o ∈ c.objects, 0 < o.dataLength ∧ o.iopsOffset = p := by
  simp [iopsOffsets, and_assoc]

/-- Every window, IOPS byte and IOCS byte lies inside the frame. -/
structure IocrConfig.Fits (c : IocrConfig) : Prop where
  window : ∀ o ∈ c.objects, o.frameOffset + o.dataLength ≤ c.dataLength
  iops : ∀ o ∈ c.objects, 0 < o.dataLength → o.iopsOffset < c.dataLength
  iocs : ∀ p ∈ c.iocsOffsets, p < c.dataLength

/-- The cells of two objects share no byte. -/
def CellsApart (o o' : IoDataObject) : Prop := ∀ x ∈ o.cells, ∀ y ∈ o'.cells, x.Disjoint y

instance : Std.Symm CellsApart where
  symm _ _ h x hx y hy p hxp hyp := h y hy x hx p hyp hxp

/-- No two cells share a byte: neither those of one object nor those of two. -/
structure IocrConfig.Isolated (c : IocrConfig) : Prop where
  own : ∀ o ∈ c.objects, o.cells.Pairwise Extent.Disjoint
  apart : ∀ o ∈ c.objects, ∀ o' ∈ c.objects, o ≠ o' → CellsApart o o'

theorem window_mem_cells {o : IoDataObject} (h : 0 < o.dataLength) :
    (⟨o.frameOffset, o.dataLength⟩ : Extent) ∈ o.cells := by
  simp [IoDataObject.cells, h]

theorem iops_mem_cells {o : IoDataObject} (h : 0 < o.dataLength) :
    (⟨o.iopsOffset, 1⟩ : Extent) ∈ o.cells := by
  simp [IoDataObject.cells, h]

theorem iocs_mem_cells {o : IoDataObject} {p : Nat} (h : o.iocsOffset = some p) :
    (⟨p, 1⟩ : Extent) ∈ o.cells := by
  simp [IoDataObject.cells, h]

namespace IocrConfig.Isolated

variable {c : IocrConfig} (h : c.Isolated) {o o' : IoDataObject}
include h

/-- No data byte is an IOPS byte. -/
theorem window_iops (ho : o ∈ c.objects) (ho' : o' ∈ c.objects) (hpos' : 0 < o'.dataLength)
    {p : Nat} (hp : o.frameOffset ≤ p ∧ p < o.frameOffset + o.dataLength) : p ≠ o'.iopsOffset := by
  rintro rfl
  have hpos : 0 < o.dataLength := by omega
  have hiops : (⟨o'.iopsOffset, 1⟩ : Extent).Has o'.iopsOffset :=
    ⟨Nat.le_refl _, Nat.lt_succ_self _⟩
  by_cases hoo : o = o'
  · subst hoo
    have hown := h.own o ho
    rw [IoDataObject.cells, if_pos hpos, List.pairwise_append] at hown
    exact (List.pairwise_cons.mp hown.1).1 _ (List.mem_singleton.mpr rfl) _ hp hiops
  · exact h.apart o ho o' ho' hoo _ (window_mem_cells hpos) _ (iops_mem_cells hpos') _ hp hiops

/-- No data byte is an IOCS byte. -/
theorem window_iocs (ho : o ∈ c.objects) {p : Nat} (hp : p ∈ c.iocsOffsets) :
    ¬ (o.frameOffset ≤ p ∧ p < o.frameOffset + o.dataLength) := by
  intro hin
  have hpos : 0 < o.dataLength := by omega
  have hiocs : (⟨p, 1⟩ : Extent).Has p := ⟨Nat.le_refl _, Nat.lt_succ_self _⟩
  obtain ⟨o', ho', hoff⟩ := IocrConfig.mem_iocsOffsets.mp hp
  by_cases hoo : o = o'
  · subst hoo
    have hown := h.own o ho
    rw [IoDataObject.cells, if_pos hpos, hoff, List.pairwise_append] at hown
    exact hown.2.2 _ List.mem_cons_self _ (List.mem_singleton.mpr rfl) _ hin hiocs
  · exact h.apart o ho o' ho' hoo _ (window_mem_cells hpos) _ (iocs_mem_cells hoff) _ hin hiocs

/-- No IOPS byte is an IOCS byte. -/
theorem iops_iocs (ho : o ∈ c.objects) (hpos : 0 < o.dataLength) {p : Nat}
    (hp : p ∈ c.iocsOffsets) : p ≠ o.iopsOffset := by
  rintro rfl
  have hiops : (⟨o.iopsOffset, 1⟩ : Extent).Has o.iopsOffset :=
    ⟨Nat.le_refl _, Nat.lt_succ_self _⟩
  obtain ⟨o', ho', hoff⟩ := IocrConfig.mem_iocsOffsets.mp hp
  by_cases hoo : o = o'
  · subst hoo
    have hown := h.own o ho
    rw [IoDataObject.cells, if_pos hpos, hoff, List.pairwise_append] at hown
    exact hown.2.2 _ (List.mem_cons_of_mem _ (List.mem_singleton.mpr rfl)) _
      (List.mem_singleton.mpr rfl) _ hiops hiops
  · exact h.apart o ho o' ho' hoo _ (iops_mem_cells hpos) _ (iocs_mem_cells hoff) _ hiops hiops

end IocrConfig.Isolated

/-- A tiled configuration is isolated. -/
theorem isolated_of_tiles {c : IocrConfig} {a b : Nat} (h : Tiles c.cells a b) : c.Isolated := by
  have hp := h.pairwise_disjoint
  rw [IocrConfig.cells, List.pairwise_flatMap] at hp
  have hapart : c.objects.Pairwise CellsApart := hp.2
  exact ⟨hp.1, fun o ho o' ho' hne => hapart.forall ho ho' hne⟩

/-! ## Both configurations are well laid out -/

section Configs

variable (slots : List IoSlot) (inputFrameId outputFrameId sendClockFactor reductionRatio
  watchdogFactor : UInt16)

/-- The cells of the data objects tile the data part. -/
theorem data_tiles (len : IoSlot → Nat) :
    Tiles (((placedData len slots).map fun e => dataObject len e.1 e.2).flatMap
      IoDataObject.cells) 0 (dataEnd len slots) := by
  rw [List.flatMap_map]
  have h := tiles_pack (fun s => len s + 1) (fun e => (dataObject len e.1 e.2).cells)
    (l := slots.filter fun s => len s > 0) ?_ 0
  · rwa [Nat.zero_add] at h
  · intro s hs o
    have hpos : 0 < len s := by simpa using (List.mem_filter.mp hs).2
    have hcells : (dataObject len o s).cells = [⟨o, len s⟩, ⟨o + len s, 1⟩] := by
      simp [IoDataObject.cells, dataObject, hpos]
    rw [hcells]
    exact ⟨rfl, rfl, Nat.add_assoc _ _ _⟩

/-- **The cells of the input frame tile the prefix in front of its IOCS bytes.** -/
theorem input_tiles :
    Tiles (inputConfig slots inputFrameId outputFrameId sendClockFactor reductionRatio
      watchdogFactor).cells 0 (dataEnd IoSlot.inputLength slots) := by
  rw [IocrConfig.cells, input_objects]
  exact data_tiles slots IoSlot.inputLength

/-- **The cells of the output frame tile `[0, total)`.** -/
theorem output_tiles :
    Tiles (outputConfig slots inputFrameId outputFrameId sendClockFactor reductionRatio
      watchdogFactor).cells 0 (frameTotal IoSlot.outputLength slots) := by
  rw [IocrConfig.cells, output_objects, List.flatMap_append]
  refine (data_tiles slots IoSlot.outputLength).append ?_
  rw [List.flatMap_map]
  have h := tiles_pack (fun _ => 1) (fun e => (iocsObject e.1 e.2).cells)
    (l := slots.filter fun s => s.outputLength = 0) (fun _ _ _ => ⟨rfl, rfl⟩)
    (dataEnd IoSlot.outputLength slots)
  rwa [span_one] at h

theorem input_isolated :
    (inputConfig slots inputFrameId outputFrameId sendClockFactor reductionRatio
      watchdogFactor).Isolated :=
  isolated_of_tiles (input_tiles slots inputFrameId outputFrameId sendClockFactor reductionRatio
    watchdogFactor)

theorem output_isolated :
    (outputConfig slots inputFrameId outputFrameId sendClockFactor reductionRatio
      watchdogFactor).Isolated :=
  isolated_of_tiles (output_tiles slots inputFrameId outputFrameId sendClockFactor reductionRatio
    watchdogFactor)

theorem input_fits :
    (inputConfig slots inputFrameId outputFrameId sendClockFactor reductionRatio
      watchdogFactor).Fits := by
  have hle : dataEnd IoSlot.inputLength slots ≤ frameTotal IoSlot.inputLength slots :=
    Nat.le_add_right _ _
  have hobj : ∀ o ∈ (inputConfig slots inputFrameId outputFrameId sendClockFactor reductionRatio
      watchdogFactor).objects,
      o.iopsOffset = o.frameOffset + o.dataLength ∧ o.iocsOffset = none
        ∧ o.iopsOffset < dataEnd IoSlot.inputLength slots := by
    intro o ho
    rw [input_objects] at ho
    obtain ⟨e, he, rfl⟩ := List.mem_map.mp ho
    have hm := (mem_pack he).2.1
    rw [Nat.zero_add] at hm
    refine ⟨rfl, rfl, ?_⟩
    show e.1 + e.2.inputLength < span _ _
    omega
  constructor
  · intro o ho
    rw [input_dataLength]
    have := hobj o ho
    omega
  · intro o ho _
    rw [input_dataLength]
    have := hobj o ho
    omega
  · intro p hp
    obtain ⟨o, ho, hop⟩ := IocrConfig.mem_iocsOffsets.mp hp
    rw [(hobj o ho).2.1] at hop
    nomatch hop

theorem output_fits :
    (outputConfig slots inputFrameId outputFrameId sendClockFactor reductionRatio
      watchdogFactor).Fits := by
  have hle : dataEnd IoSlot.outputLength slots ≤ frameTotal IoSlot.outputLength slots :=
    Nat.le_add_right _ _
  have hobj : ∀ o ∈ (outputConfig slots inputFrameId outputFrameId sendClockFactor reductionRatio
      watchdogFactor).objects,
      o.frameOffset + o.dataLength ≤ frameTotal IoSlot.outputLength slots
        ∧ (0 < o.dataLength → o.iopsOffset < frameTotal IoSlot.outputLength slots)
        ∧ (∀ p, o.iocsOffset = some p → p < frameTotal IoSlot.outputLength slots) := by
    intro o ho
    rw [output_objects] at ho
    rcases List.mem_append.mp ho with ho | ho
    · obtain ⟨e, he, rfl⟩ := List.mem_map.mp ho
      have hm := (mem_pack he).2.1
      rw [Nat.zero_add] at hm
      have hend : e.1 + (e.2.outputLength + 1) ≤ dataEnd IoSlot.outputLength slots := hm
      refine ⟨?_, ?_, fun p hp => nomatch hp⟩
      · show e.1 + e.2.outputLength ≤ _
        omega
      · intro _
        show e.1 + e.2.outputLength < _
        omega
    · obtain ⟨e, he, rfl⟩ := List.mem_map.mp ho
      have hm := (mem_pack he).2.1
      rw [span_one] at hm
      have hend : e.1 + 1 ≤ frameTotal IoSlot.outputLength slots := hm
      refine ⟨?_, fun h => absurd h (Nat.lt_irrefl 0), ?_⟩
      · show e.1 + 0 ≤ _
        omega
      · intro p hp
        obtain rfl : e.1 = p := Option.some.inj hp
        omega
  constructor
  · intro o ho
    rw [output_dataLength]
    have := (hobj o ho).1
    omega
  · intro o ho hpos
    rw [output_dataLength]
    have := (hobj o ho).2.1 hpos
    omega
  · intro p hp
    obtain ⟨o, ho, hop⟩ := IocrConfig.mem_iocsOffsets.mp hp
    rw [output_dataLength]
    have := (hobj o ho).2.2 p hop
    omega

end Configs

end Profinet.Rt
