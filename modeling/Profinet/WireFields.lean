/-
  WIRE FIELDS: which numbers of a Connect request survive `as u16`.

  Offsets, lengths and counts of the request are sums over the whole slot list, written to 16-bit
  fields without a check.  The catalog caps the data of one direction of one submodule and nothing
  else, and the cap itself is one more than a field holds.  Three sums decide all of them:

      frameTotal input     the input frame, with a status byte for every submodule
      frameTotal output    the output frame
      expectedLength       the block of expected submodules

  Every offset is below its frame, every count below the block that lists what is counted, and the
  IOCR blocks are shorter than the block of expected submodules.
-/
import Profinet.ConnectLayout
import Profinet.GsdmlParser

namespace Profinet.Connect

open Wire Pack Gsdml Rt

/-! ## Exact fields -/

/-- An IOCR block in which every 16-bit field is the number it stands for: the length of the block
    behind the field, the length of the frame, and the place of every submodule, as many as the
    block's counts say. -/
structure IocrExact (len : IoSlot → Nat) (slots : List IoSlot) (block : List UInt8) : Prop where
  blockLength : (rdU16 block 2 false).toNat = block.length - 4
  fields : ∃ b, iocrBlockD block = some (b, [])
    ∧ b.dataLength.toNat = max (frameTotal len slots) 40
    ∧ b.objects.map IocrApiObject.position
      = (placedData len slots).map (fun e => (e.2.key, e.1))
    ∧ b.iocs.map IocrApiObject.position = (placedIocs len slots).map fun e => (e.2.key, e.1)

/-- The same for the block of expected submodules: its length, one entry for each slot, the count
    of every entry and the two lengths of every submodule. -/
structure ExpectedExact (slots : List IoSlot) (block : List UInt8) : Prop where
  blockLength : (rdU16 block 2 false).toNat = block.length - 4
  fields : ∃ entries, expectedSubmoduleBlockD block = some (entries, [])
    ∧ entries.map ApiEntry.slot = (slots.map IoSlot.slot).eraseDups
    ∧ ∀ a ∈ entries, a.numSubmodules.toNat = (slots.filter fun s => s.slot = a.slot).length
      ∧ a.submodules.map (fun e => (e.subslot, e.declaredLength 1, e.declaredLength 2))
        = (slots.filter fun s => s.slot = a.slot).map
            fun s => (s.subslot, s.inputLength, s.outputLength)

/-- The blocks of a request that are made of the slot list, under any references. -/
structure WireFieldsExact (setup : IocrSetup) (inputReference outputReference : UInt16) : Prop where
  input : IocrExact IoSlot.inputLength setup.ioSlots (iocrBlockReq 1 inputReference setup)
  output : IocrExact IoSlot.outputLength setup.ioSlots (iocrBlockReq 2 outputReference setup)
  expected : ExpectedExact setup.ioSlots (expectedSubmoduleBlock setup)

/-! ## Lengths of the blocks -/

/-- The bytes of a submodule in the block of expected submodules: one description, two if there is
    data in both directions. -/
def expectedSize (s : IoSlot) : Nat := if 0 < s.inputLength ∧ 0 < s.outputLength then 20 else 14

/-- The length of the block of expected submodules behind its length field. -/
def expectedLength (slots : List IoSlot) : Nat :=
  4 + 14 * (slots.map IoSlot.slot).eraseDups.length + (slots.map expectedSize).sum

/-- The two frames and the block of expected submodules fit 16 bits. -/
structure FitsWire (slots : List IoSlot) : Prop where
  input : frameTotal IoSlot.inputLength slots ≤ 65535
  output : frameTotal IoSlot.outputLength slots ≤ 65535
  expected : expectedLength slots ≤ 65535

theorem rdU16_blockHeader (blockType blockLength : UInt16) (rest : List UInt8) :
    rdU16 (blockHeader blockType blockLength ++ rest) 2 false = blockLength := by
  have hfield : (blockHeader blockType blockLength ++ rest).drop 2
      = be16 blockLength ++ ([0x01, 0x00] ++ rest) := rfl
  exact rdU16_be hfield

theorem blockHeader_length (blockType blockLength : UInt16) :
    (blockHeader blockType blockLength).length = 6 := rfl

theorem iocrApiObjects_length (objs : List IocrApiObject) :
    (objs.flatMap iocrApiObject).length = 6 * objs.length := by
  induction objs with
  | nil => rfl
  | cons o objs ih =>
    rw [List.flatMap_cons, List.length_append, ih, List.length_cons]
    show 6 + 6 * objs.length = _
    omega

section Iocr

variable {iocrType : UInt16} {len : IoSlot → Nat}

/-- Between them the two lists of a block have an entry for every submodule. -/
theorem placed_length (len : IoSlot → Nat) (slots : List IoSlot) :
    (placedData len slots).length + (placedIocs len slots).length = slots.length := by
  have hperm := (placed_perm len slots).length_eq
  rw [List.length_map, List.length_append, List.length_map, List.length_map,
    List.length_map] at hperm
  exact hperm

/-- The length of an IOCR block, and what its length field says of it. -/
theorem iocrBlockReq_length (hdir : Direction iocrType len) (iocrReference : UInt16)
    (setup : IocrSetup) :
    (iocrBlockReq iocrType iocrReference setup).length = 54 + 6 * setup.ioSlots.length ∧
      rdU16 (iocrBlockReq iocrType iocrReference setup) 2 false
        = UInt16.ofNat (50 + 6 * setup.ioSlots.length) := by
  have hobjs : ((placedData len setup.ioSlots).map fun e => apiObjectAt e.1 e.2).length
      + ((placedIocs len setup.ioSlots).map fun e => apiObjectAt e.1 e.2).length
        = setup.ioSlots.length := by
    rw [List.length_map, List.length_map]
    exact placed_length len setup.ioSlots
  unfold iocrBlockReq
  rw [iocrObjects_eq hdir]
  simp only
  rw [iocrIocs_eq hdir]
  simp only
  -- the entries only count from here on
  generalize (placedData len setup.ioSlots).map (fun e => apiObjectAt e.1 e.2) = objs at hobjs ⊢
  generalize (placedIocs len setup.ioSlots).map (fun e => apiObjectAt e.1 e.2) = iocs at hobjs ⊢
  constructor
  · simp only [List.length_append, blockHeader_length, be16_length, be32_length,
      List.length_replicate, iocrApiObjects_length, ← Nat.add_assoc, Nat.reduceAdd]
    omega
  · rw [rdU16_blockHeader, iocrApiObjects_length, iocrApiObjects_length]
    refine congrArg UInt16.ofNat ?_
    omega

theorem iocr_exact (hdir : Direction iocrType len) (iocrReference : UInt16) (setup : IocrSetup)
    (hframe : frameTotal len setup.ioSlots < 65536) (hcount : setup.ioSlots.length ≤ 4680) :
    IocrExact len setup.ioSlots (iocrBlockReq iocrType iocrReference setup) := by
  obtain ⟨hlength, hfield⟩ := iocrBlockReq_length hdir iocrReference setup
  obtain ⟨b, hread, hdata, hobjects, hiocs⟩ := iocrBlock_reads hdir iocrReference setup hframe
  constructor
  case blockLength =>
    rw [hfield, hlength, UInt16.toNat_ofNat_of_lt' (show _ < 65536 by omega)]
    omega
  case fields =>
    refine ⟨b, hread, hdata, ?_, ?_⟩
    · rw [hobjects, data_positions _ hframe]
    · rw [hiocs, iocs_positions _ hframe]

/-- The length of the frame is a field of its own, so an exact block has a frame that fits. -/
theorem frame_lt_of_exact {slots : List IoSlot} {block : List UInt8}
    (h : IocrExact len slots block) : frameTotal len slots < 65536 := by
  obtain ⟨b, -, hdata, -⟩ := h.fields
  have hlt := b.dataLength.toNat_lt
  omega

end Iocr

theorem expectedSubmoduleBytes_length (s : IoSlot) :
    (expectedSubmoduleBytes (expectedSubmodule s)).length = expectedSize s := by
  unfold expectedSubmoduleBytes expectedSubmodule dataDescriptions submoduleType expectedSize
  by_cases hin : s.inputLength > 0 <;> by_cases hout : s.outputLength > 0 <;>
    simp [hin, hout, dataDescriptionBytes]

/-- An entry is 14 bytes and its submodules. -/
theorem apiEntryBytes_length (slots : List IoSlot) (k : UInt16) :
    (apiEntryBytes (entryOf slots k)).length
      = 14 + ((slots.filter fun s => s.slot = k).map expectedSize).sum := by
  unfold apiEntryBytes entryOf
  simp only [List.length_append, be16_length, be32_length, List.flatMap_map, List.length_flatMap,
    expectedSubmoduleBytes_length]
  show 4 + (2 + (4 + (2 + (2 + ((slots.filter fun s => s.slot = k).map expectedSize).sum)))) = _
  omega

/-- A sum over the groups is the sum over the list. -/
theorem sum_groups (slots : List IoSlot) :
    ((slots.map IoSlot.slot).eraseDups.map fun k =>
        ((slots.filter fun s => s.slot = k).map expectedSize).sum).sum
      = (slots.map expectedSize).sum := by
  have hperm := Group.perm_flatMap_filter IoSlot.slot
    (Group.nodup_eraseDups (slots.map IoSlot.slot)) slots
    fun s hs => List.mem_eraseDups.mpr (List.mem_map_of_mem hs)
  calc _ = (((slots.map IoSlot.slot).eraseDups.flatMap fun k =>
          slots.filter fun s => s.slot = k).map expectedSize).sum := by
        rw [List.map_flatMap, List.flatMap_def, List.sum_flatten, List.map_map]
        rfl
    _ = (slots.map expectedSize).sum := (hperm.map expectedSize).sum_eq

/-- The length of the block, and what its length field says of it. -/
theorem expectedSubmoduleBlock_length (setup : IocrSetup) :
    (expectedSubmoduleBlock setup).length = 4 + expectedLength setup.ioSlots ∧
      rdU16 (expectedSubmoduleBlock setup) 2 false
        = UInt16.ofNat (expectedLength setup.ioSlots) := by
  have hentries : ((apiEntries setup.ioSlots).flatMap apiEntryBytes).length
      = 14 * (setup.ioSlots.map IoSlot.slot).eraseDups.length
        + (setup.ioSlots.map expectedSize).sum := by
    rw [apiEntries_eq, List.flatMap_map, List.length_flatMap]
    simp only [apiEntryBytes_length]
    rw [← sum_groups, List.sum_map_add, List.map_const', List.sum_replicate_nat,
      Nat.mul_comm]
  unfold expectedSubmoduleBlock expectedLength
  simp only
  constructor
  · rw [List.length_append, List.length_append, hentries, blockHeader_length, be16_length]
    omega
  · rw [rdU16_blockHeader, List.length_append, hentries, be16_length]
    refine congrArg UInt16.ofNat ?_
    omega

/-- Every submodule takes 14 bytes of the block, so there are at most 4680 of them. -/
theorem count_le_of_expected {slots : List IoSlot} (h : expectedLength slots ≤ 65535) :
    slots.length ≤ 4680 := by
  have hsizes : 14 * slots.length ≤ (slots.map expectedSize).sum := by
    clear h
    induction slots with
    | nil => exact Nat.le_refl 0
    | cons s slots ih =>
      have hsize : 14 ≤ expectedSize s := by
        unfold expectedSize
        split <;> omega
      rw [List.length_cons, List.map_cons, List.sum_cons]
      omega
  unfold expectedLength at h
  omega

theorem expected_exact (setup : IocrSetup) (h : FitsWire setup.ioSlots) :
    ExpectedExact setup.ioSlots (expectedSubmoduleBlock setup) := by
  obtain ⟨hinput, houtput, hexpected⟩ := h
  have hcount := count_le_of_expected hexpected
  obtain ⟨hlength, hfield⟩ := expectedSubmoduleBlock_length setup
  constructor
  case blockLength =>
    rw [hfield, hlength, UInt16.toNat_ofNat_of_lt' (show _ < 65536 by omega)]
    omega
  case fields =>
    refine ⟨_, expectedSubmoduleBlock_reads setup (by omega), ?_, fun a ha => ?_⟩
    · rw [List.map_map]
      exact List.map_id _
    · obtain ⟨k, -, rfl⟩ := List.mem_map.mp ha
      have hle : (setup.ioSlots.filter fun s => s.slot = k).length ≤ setup.ioSlots.length :=
        List.length_filter_le _ _
      refine ⟨UInt16.toNat_ofNat_of_lt' (show _ < 65536 by omega), ?_⟩
      exact entryOf_lengths (by omega) (by omega) k

/-- The length of the block is a field of its own, so an exact block fits. -/
theorem expected_le_of_exact {setup : IocrSetup}
    (h : ExpectedExact setup.ioSlots (expectedSubmoduleBlock setup)) :
    expectedLength setup.ioSlots ≤ 65535 := by
  have hlength := (expectedSubmoduleBlock_length setup).1
  have hfield := h.blockLength
  have hlt := (rdU16 (expectedSubmoduleBlock setup) 2 false).toNat_lt
  omega

/-- **The fields of the request are exact if and only if the three sums fit 16 bits**, for every
    slot list. -/
theorem wire_fields_exact_iff (setup : IocrSetup) (inputReference outputReference : UInt16) :
    WireFieldsExact setup inputReference outputReference ↔ FitsWire setup.ioSlots := by
  constructor
  · rintro ⟨hinput, houtput, hexpected⟩
    have hin := frame_lt_of_exact hinput
    have hout := frame_lt_of_exact houtput
    exact ⟨by omega, by omega, expected_le_of_exact hexpected⟩
  · intro hfits
    have hcount := count_le_of_expected hfits.expected
    have hin := hfits.input
    have hout := hfits.output
    exact ⟨iocr_exact inputDirection inputReference setup (by omega) hcount,
      iocr_exact outputDirection outputReference setup (by omega) hcount,
      expected_exact setup hfits⟩

/-! ## A catalog that is accepted -/

/-- No slot built from a catalog that parses is longer than the cap, in either direction; a field
    holds one less. -/
theorem built_capped {root : Node} {device : GsdmlDevice} (hparse : parseGsdmlRoot root = .ok device)
    {slots : List IoSlot}
    (hbuilt : (∃ slotAssignment submoduleAssignment dapId,
        device.buildIoSlots slotAssignment submoduleAssignment dapId = .ok slots) ∨
      ∃ deviceSlots dapId, device.buildIoSlotsFromDevice deviceSlots dapId = .ok slots) :
    ∀ s ∈ slots, s.Capped maxIoDataLen := by
  have hdevice := parseGsdmlRoot_capped hparse
  rcases hbuilt with ⟨_, _, _, hslots⟩ | ⟨_, _, hslots⟩
  · exact GsdmlDevice.buildIoSlots_capped hdevice hslots
  · exact GsdmlDevice.buildIoSlotsFromDevice_capped hdevice hslots

/-- One access point with one submodule, whose input data is as long as the cap allows. -/
def longestInput : Node :=
  .element "ISO15745Profile" []
    [.element "DeviceAccessPointItem" [("ID", "DAP 1"), ("ModuleIdentNumber", "0x00000001")]
      [.element "VirtualSubmoduleList" []
        [.element "VirtualSubmoduleItem" [("ID", "1"), ("SubmoduleIdentNumber", "0x00000001")]
          [.element "IOData" []
            [.element "Input" [] [.element "DataItem" [("Length", "65536")] []]]]]]]

/-- Its slot list: the frame is one byte longer than a field can say. -/
theorem longest_input_reduced :
    ∃ device slots, parseGsdmlRoot longestInput = .ok device
      ∧ device.buildIoSlots none none none = .ok slots
      ∧ ∀ setup : IocrSetup, setup.ioSlots = slots →
          ¬ WireFieldsExact setup 1 2 := by
  refine ⟨{ vendorId := 0, deviceId := 0, modules := [], submoduleCatalog := [],
            daps := [⟨"DAP 1", 1, [⟨"1", 1, 65536, 0⟩], [], []⟩] },
    [⟨0, 1, 1, 1, 65536, 0⟩], rfl, rfl, fun setup hslots hexact => ?_⟩
  have hlt := frame_lt_of_exact hexact.input
  rw [hslots] at hlt
  have htotal : frameTotal IoSlot.inputLength [⟨0, 1, 1, 1, 65536, 0⟩] = 65537 := rfl
  omega

end Profinet.Connect
