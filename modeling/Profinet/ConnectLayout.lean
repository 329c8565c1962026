/-
  CONNECT LAYOUT: the device and the controller read the same frame.

  The Connect request tells the device where every byte of a cyclic frame lies; the controller
  computes the same offsets for itself with `buildIocrConfigs`.  Here the blocks are decoded
  back, field by field, and compared with the configurations:

      iocrBlockReq 1       objects at the offsets of the input configuration's objects
      iocrBlockReq 2       objects and IOCS entries at those of the output configuration's
      expectedSubmodule…   every submodule once, under its slot, with its two data lengths

  Both traversals are packings of the same filtered lists (`iocrObjects_eq`, `iocrIocs_eq`), and
  the grouping is `Group.foldl_group`; what is left is that no offset is reduced by `as u16`,
  which the 16-bit frame length gives.
-/
import Profinet.Lib.Group
import Profinet.Connect
import Profinet.RtLayout

namespace Profinet.Connect

open Wire Pack Gsdml Rt

/-! ## Reading the blocks back

  Decoders in the layout of the request, with the library's rules for putting them together. -/

/-- What a device reads from an IOCRBlockReq. -/
structure IocrBlock where
  iocrType : UInt16
  iocrReference : UInt16
  dataLength : UInt16
  frameId : UInt16
  objects : List IocrApiObject
  iocs : List IocrApiObject
  deriving DecidableEq, Repr

/-- The type and the length of a block, behind which its version stands. -/
def blockHeaderD : Decoder (UInt16 × UInt16) := do
  let blockType ← u16
  let blockLength ← u16
  let _ ← raw 2
  pure (blockType, blockLength)

/-- A slot, a subslot and an offset in the frame. -/
def iocrApiObjectD : Decoder IocrApiObject := do
  let slot ← u16
  let subslot ← u16
  let frameOffset ← u16
  pure ⟨slot, subslot, frameOffset⟩

/-- The IOCR block: its fixed fields, then the data objects and the status bytes of one API. -/
def iocrBlockD : Decoder IocrBlock := do
  let _ ← blockHeaderD
  let iocrType ← u16
  let iocrReference ← u16
  let _ ← u16 -- LT
  let _ ← u32 -- IOCRProperties
  let dataLength ← u16
  let frameId ← u16
  let _ ← u16 -- send clock factor
  let _ ← u16 -- reduction ratio
  let _ ← u16 -- phase
  let _ ← u16 -- sequence
  let _ ← u32 -- frame_send_offset
  let _ ← u16 -- watchdog factor
  let _ ← u16 -- data hold factor
  let _ ← u16 -- IOCRTagHeader
  let _ ← raw 6 -- IOCRMulticastMAC
  let _ ← u16 -- NumberOfAPIs
  let _ ← u32 -- API
  let numObjects ← u16
  let objects ← times iocrApiObjectD numObjects.toNat
  let iocsCount ← u16
  let iocs ← times iocrApiObjectD iocsCount.toNat
  pure ⟨iocrType, iocrReference, dataLength, frameId, objects, iocs⟩

/-- One data description of a submodule. -/
def dataDescriptionD : Decoder DataDescription := do
  let dataDescription ← u16
  let length ← u16
  let lengthIocs ← u8
  let lengthIops ← u8
  pure ⟨dataDescription, length, lengthIocs, lengthIops⟩

/-- The number of data descriptions is implied by the type: INPUT_OUTPUT has two. -/
def expectedSubmoduleD : Decoder ExpectedSubmodule := do
  let subslot ← u16
  let submoduleIdent ← u32
  let submoduleType ← u16
  let descriptions ← times dataDescriptionD (if submoduleType = 3 then 2 else 1)
  pure ⟨subslot, submoduleIdent, submoduleType, descriptions⟩

/-- One slot of the expected submodules. -/
def apiEntryD : Decoder ApiEntry := do
  let _ ← u32 -- API
  let slot ← u16
  let moduleIdent ← u32
  let _ ← u16 -- ModuleProperties
  let numSubmodules ← u16
  let submodules ← times expectedSubmoduleD numSubmodules.toNat
  pure ⟨slot, moduleIdent, submodules, numSubmodules⟩

/-- The block of the expected submodules, slot by slot. -/
def expectedSubmoduleBlockD : Decoder (List ApiEntry) := do
  let _ ← blockHeaderD
  let n ← u16
  times apiEntryD n.toNat

/-! ## Every record reads back

  Each record, then lists of them, each behind its count. -/

/-- A block header is read back. -/
theorem decodes_blockHeader (blockType blockLength : UInt16) :
    Decodes blockHeaderD (blockHeader blockType blockLength) (blockType, blockLength) := by
  refine (decodes_u16 _).bind ?_
  refine (decodes_u16 _).bind ?_
  exact (decodes_raw [0x01, 0x00]).map _

/-- An object of an IOCR. -/
theorem decodes_iocrApiObject (o : IocrApiObject) :
    Decodes iocrApiObjectD (iocrApiObject o) o := by
  refine (decodes_u16 _).bind ?_
  refine (decodes_u16 _).bind ?_
  exact (decodes_u16 _).map _

/-- And a data description. -/
theorem decodes_dataDescription (d : DataDescription) :
    Decodes dataDescriptionD (dataDescriptionBytes d) d := by
  refine (decodes_u16 _).bind ?_
  refine (decodes_u16 _).bind ?_
  refine (decodes_u8 d.lengthIocs).bind ?_
  exact (decodes_u8 _).map _

/-- A counted list of records reads back when the count fits its field. -/
theorem decodes_counted {α : Type} {d : Decoder α} {enc : α → List UInt8} {l : List α}
    (h : ∀ a ∈ l, Decodes d (enc a) a) {n : Nat} (hn : n = l.length) :
    Decodes (times d n) (l.flatMap enc) l := by
  have := Decodes.times id h
  rw [List.map_id] at this
  rwa [hn]

/-- An IOCR block is read back, if what it counts fits. -/
theorem decodes_iocrBlock (iocrType iocrReference : UInt16) (setup : IocrSetup)
    (hobjs : (iocrObjects iocrType setup.ioSlots).1.length < 65536)
    (hiocs : (iocrIocs iocrType setup.ioSlots (iocrObjects iocrType setup.ioSlots).2).1.length
      < 65536) :
    Decodes iocrBlockD (iocrBlockReq iocrType iocrReference setup)
      ⟨iocrType, iocrReference,
        UInt16.ofNat
          (max (iocrIocs iocrType setup.ioSlots (iocrObjects iocrType setup.ioSlots).2).2 40),
        if iocrType = 1 then 0xC000 + iocrReference else 0xFFFF,
        (iocrObjects iocrType setup.ioSlots).1,
        (iocrIocs iocrType setup.ioSlots (iocrObjects iocrType setup.ioSlots).2).1⟩ := by
  refine (decodes_blockHeader _ _).bind ?_
  refine (decodes_u16 _).bind ?_
  refine (decodes_u16 _).bind ?_
  refine (decodes_u16 _).bind ?_
  refine (decodes_u32 _).bind ?_
  refine (decodes_u16 _).bind ?_
  refine (decodes_u16 _).bind ?_
  refine (decodes_u16 _).bind ?_
  refine (decodes_u16 _).bind ?_
  refine (decodes_u16 _).bind ?_
  refine (decodes_u16 _).bind ?_
  refine (decodes_u32 _).bind ?_
  refine (decodes_u16 _).bind ?_
  refine (decodes_u16 _).bind ?_
  refine (decodes_u16 _).bind ?_
  refine (decodes_raw (List.replicate 6 0)).bind ?_
  refine (decodes_u16 _).bind ?_
  refine (decodes_u32 _).bind ?_
  -- the two counted lists: the counts survive `as u16`
  refine (decodes_u16 _).bind ?_
  refine (decodes_counted (fun o _ => decodes_iocrApiObject o)
    (UInt16.toNat_ofNat_of_lt' hobjs)).bind ?_
  refine (decodes_u16 _).bind ?_
  exact (decodes_counted (fun o _ => decodes_iocrApiObject o)
    (UInt16.toNat_ofNat_of_lt' hiocs)).map _

/-- A submodule has two descriptions exactly if its type says so. -/
theorem descriptions_length (s : IoSlot) :
    (if submoduleType s = 3 then 2 else 1) = (dataDescriptions s).length := by
  unfold dataDescriptions submoduleType
  by_cases hin : s.inputLength > 0 <;> by_cases hout : s.outputLength > 0 <;> simp [hin, hout]

/-- A submodule entry is read back. -/
theorem decodes_expectedSubmodule (s : IoSlot) :
    Decodes expectedSubmoduleD (expectedSubmoduleBytes (expectedSubmodule s))
      (expectedSubmodule s) := by
  refine (decodes_u16 _).bind ?_
  refine (decodes_u32 _).bind ?_
  refine (decodes_u16 _).bind ?_
  exact (decodes_counted (fun d _ => decodes_dataDescription d) (descriptions_length s)).map _

/-! ## The IOCR blocks are packings

  Data objects first, then status bytes, at running offsets: a packing of the same lists that
  `Pack` speaks of. -/

/-- The type of an IOCR and the data length it is about: 1 is the input, 2 the output. -/
structure Direction (iocrType : UInt16) (len : IoSlot → Nat) : Prop where
  dataLen : ∀ s, dataLen iocrType s = len s
  iocs : ∀ s, hasIocsEntry iocrType s = decide (len s = 0)

/-- The input direction of the blocks. -/
theorem inputDirection : Direction 1 IoSlot.inputLength where
  dataLen := fun _ => rfl
  iocs := fun s => by
    by_cases h : s.inputLength = 0
    · simp [hasIocsEntry, h]
    · simp [hasIocsEntry, h, Nat.pos_of_ne_zero h]

/-- And the output direction. -/
theorem outputDirection : Direction 2 IoSlot.outputLength where
  dataLen := fun _ => rfl
  iocs := fun s => by
    by_cases h : s.outputLength = 0
    · simp [hasIocsEntry, h]
    · simp [hasIocsEntry, h, Nat.pos_of_ne_zero h]

section Blocks

variable {iocrType : UInt16} {len : IoSlot → Nat}

/-- The data objects of an IOCR are the slots with data, one behind the other. -/
theorem iocrObjects_eq (hdir : Direction iocrType len) (slots : List IoSlot) :
    iocrObjects iocrType slots
      = ((placedData len slots).map (fun e => apiObjectAt e.1 e.2), dataEnd len slots) := by
  unfold iocrObjects
  rw [funext hdir.dataLen, foldl_place, List.nil_append, Nat.zero_add]
  rfl

/-- The status objects follow, where the data ends. -/
theorem iocrIocs_eq (hdir : Direction iocrType len) (slots : List IoSlot) :
    iocrIocs iocrType slots (dataEnd len slots)
      = ((placedIocs len slots).map (fun e => apiObjectAt e.1 e.2), frameTotal len slots) := by
  unfold iocrIocs
  rw [funext hdir.iocs, foldl_place, List.nil_append, span_one]
  rfl

/-- There are no more data objects than the frame has bytes. -/
theorem placedData_length_le (len : IoSlot → Nat) (slots : List IoSlot) :
    (placedData len slots).length ≤ dataEnd len slots := by
  have hlen := congrArg List.length
    (pack_map_snd (fun s => len s + 1) 0 (slots.filter fun s => len s > 0))
  rw [List.length_map] at hlen
  show (pack _ 0 _).length ≤ span _ _
  rw [hlen]
  exact length_le_span _ _ fun _ => Nat.succ_pos _

/-- And as many status objects as there are slots without data. -/
theorem placedIocs_length (len : IoSlot → Nat) (slots : List IoSlot) :
    (placedIocs len slots).length = (slots.filter fun s => len s = 0).length := by
  have hlen := congrArg List.length
    (pack_map_snd (fun _ => 1) (dataEnd len slots) (slots.filter fun s => len s = 0))
  rwa [List.length_map] at hlen

/-- **An IOCR block reads back as the packing of its direction**, when the frame fits 16 bits. -/
theorem iocrBlock_reads (hdir : Direction iocrType len) (iocrReference : UInt16)
    (setup : IocrSetup) (hfit : frameTotal len setup.ioSlots < 65536) :
    ∃ b, iocrBlockD (iocrBlockReq iocrType iocrReference setup) = some (b, [])
      ∧ b.dataLength.toNat = max (frameTotal len setup.ioSlots) 40
      ∧ b.objects = (placedData len setup.ioSlots).map (fun e => apiObjectAt e.1 e.2)
      ∧ b.iocs = (placedIocs len setup.ioSlots).map fun e => apiObjectAt e.1 e.2 := by
  have hdata := placedData_length_le len setup.ioSlots
  have hiocs := placedIocs_length len setup.ioSlots
  have htotal : frameTotal len setup.ioSlots = dataEnd len setup.ioSlots
    + (setup.ioSlots.filter fun s => len s = 0).length := rfl
  have hread := decodes_iocrBlock iocrType iocrReference setup
    (by rw [iocrObjects_eq hdir, List.length_map]; omega)
    (by rw [iocrObjects_eq hdir, iocrIocs_eq hdir, List.length_map]; omega)
  refine ⟨_, hread.whole, ?_, ?_, ?_⟩
  · rw [iocrObjects_eq hdir, iocrIocs_eq hdir]
    exact UInt16.toNat_ofNat_of_lt' (show _ < 65536 by omega)
  · rw [iocrObjects_eq hdir]
  · rw [iocrObjects_eq hdir, iocrIocs_eq hdir]

/-- An entry of a block: whose it is and where. -/
def IocrApiObject.position (o : IocrApiObject) : (UInt16 × UInt16) × Nat :=
  (o.key, o.frameOffset.toNat)

/-- An object of an IOCR is where its offset says. -/
theorem position_apiObjectAt {off : Nat} (h : off < 65536) (s : IoSlot) :
    (apiObjectAt off s).position = (s.key, off) := by
  show (_, (UInt16.ofNat off).toNat) = _
  rw [UInt16.toNat_ofNat_of_lt' h]
  rfl

/-- The data objects are where the frame has the data. -/
theorem data_positions (slots : List IoSlot) (hfit : frameTotal len slots < 65536) :
    ((placedData len slots).map fun e => apiObjectAt e.1 e.2).map IocrApiObject.position
      = (placedData len slots).map fun e => (e.2.key, e.1) := by
  rw [List.map_map]
  refine List.map_congr_left fun e he => position_apiObjectAt ?_ e.2
  have hm := (mem_pack he).2.1
  rw [Nat.zero_add] at hm
  have hend : e.1 + (len e.2 + 1) ≤ dataEnd len slots := hm
  have htotal : dataEnd len slots ≤ frameTotal len slots := Nat.le_add_right _ _
  omega

/-- And the status objects where it has the status bytes. -/
theorem iocs_positions (slots : List IoSlot) (hfit : frameTotal len slots < 65536) :
    ((placedIocs len slots).map fun e => apiObjectAt e.1 e.2).map IocrApiObject.position
      = (placedIocs len slots).map fun e => (e.2.key, e.1) := by
  rw [List.map_map]
  refine List.map_congr_left fun e he => position_apiObjectAt ?_ e.2
  have hm := (mem_pack he).2.1
  rw [span_one] at hm
  have hend : e.1 + 1 ≤ frameTotal len slots := hm
  omega

/-- Between them the two lists of a block hold every submodule once. -/
theorem placed_perm (len : IoSlot → Nat) (slots : List IoSlot) :
    (((placedData len slots).map fun e => apiObjectAt e.1 e.2)
        ++ (placedIocs len slots).map fun e => apiObjectAt e.1 e.2).map IocrApiObject.key
      |>.Perm (slots.map IoSlot.key) := by
  have hkeys : ∀ l : List (Nat × IoSlot),
      (l.map fun e => apiObjectAt e.1 e.2).map IocrApiObject.key
        = (l.map Prod.snd).map IoSlot.key := fun l => by
    rw [List.map_map, List.map_map]
    rfl
  rw [List.map_append, hkeys, hkeys, placedData, placedIocs, pack_map_snd, pack_map_snd,
    ← List.map_append]
  refine List.Perm.map _ ?_
  have hsplit := List.filter_append_perm (fun s => decide (len s > 0)) slots
  have hneg : (slots.filter fun s => !decide (len s > 0)) = slots.filter fun s => len s = 0 := by
    refine List.filter_congr ?_
    intro s _
    by_cases h : len s = 0
    · simp [h]
    · simp [h, Nat.pos_of_ne_zero h]
  rwa [hneg] at hsplit

end Blocks

/-! ## The expected submodules, grouped

  The request groups submodules by slot.  Grouping loses none and keeps their order within a
  slot. -/

/-- The entry of slot `k`: the module ident of its first submodule, and all its submodules in
    the order of the list. -/
def entryOf (slots : List IoSlot) (k : UInt16) : ApiEntry :=
  { slot := k
    moduleIdent := ((slots.find? fun s => s.slot = k).map IoSlot.moduleIdent).getD 0
    submodules := (slots.filter fun s => s.slot = k).map expectedSubmodule
    numSubmodules := UInt16.ofNat (slots.filter fun s => s.slot = k).length }

/-- A further submodule of a known slot joins its entry. -/
theorem entryOf_push (slots : List IoSlot) (s : IoSlot) (hfirst : s.slot ∈ slots.map IoSlot.slot) :
    entryOf (slots ++ [s]) s.slot = (entryOf slots s.slot).push s := by
  obtain ⟨t, ht, hts⟩ := List.mem_map.mp hfirst
  have hfind : (slots.find? fun t => t.slot = s.slot).isSome := by
    rw [List.find?_isSome]
    exact ⟨t, ht, by simpa using hts⟩
  obtain ⟨u, hu⟩ := Option.isSome_iff_exists.mp hfind
  simp [entryOf, ApiEntry.push, hu, List.filter_append]

/-- The first submodule of a slot opens one. -/
theorem entryOf_open (slots : List IoSlot) (s : IoSlot) (hfirst : s.slot ∉ slots.map IoSlot.slot) :
    entryOf (slots ++ [s]) s.slot = ApiEntry.push ⟨s.slot, s.moduleIdent, [], 0⟩ s := by
  have hne : ∀ t ∈ slots, t.slot ≠ s.slot := fun t ht h => hfirst (h ▸ List.mem_map_of_mem ht)
  have hfind : (slots.find? fun t => t.slot = s.slot) = none := by
    rw [List.find?_eq_none]
    exact fun t ht => by simpa using hne t ht
  have hfilter : (slots.filter fun t => t.slot = s.slot) = [] := by
    rw [List.filter_eq_nil_iff]
    exact fun t ht => by simpa using hne t ht
  simp [entryOf, ApiEntry.push, hfind, hfilter, List.filter_append]

/-- The entries of other slots stay. -/
theorem entryOf_other (slots : List IoSlot) (s : IoSlot) (k : UInt16) (hk : k ≠ s.slot) :
    entryOf (slots ++ [s]) k = entryOf slots k := by
  simp [entryOf, List.filter_append, hk.symm]

/-- **Grouped by slot in first-seen order.** -/
theorem apiEntries_eq (slots : List IoSlot) :
    apiEntries slots = (slots.map IoSlot.slot).eraseDups.map (entryOf slots) :=
  Group.foldl_group ApiEntry.slot IoSlot.slot (fun s => ⟨s.slot, s.moduleIdent, [], 0⟩)
    ApiEntry.push entryOf (fun _ _ => rfl) entryOf_open entryOf_push entryOf_other slots

/-- The entry of a slot is read back. -/
theorem decodes_apiEntry (slots : List IoSlot) (hcount : slots.length < 65536) (k : UInt16) :
    Decodes apiEntryD (apiEntryBytes (entryOf slots k)) (entryOf slots k) := by
  have hsub : (entryOf slots k).submodules.length = (slots.filter fun s => s.slot = k).length :=
    List.length_map _
  have hle : (slots.filter fun s => s.slot = k).length ≤ slots.length :=
    List.length_filter_le _ _
  refine (decodes_u32 _).bind ?_
  refine (decodes_u16 _).bind ?_
  refine (decodes_u32 _).bind ?_
  refine (decodes_u16 _).bind ?_
  refine (decodes_u16 _).bind ?_
  refine (decodes_counted (fun e he => ?_) ?_).map _
  · obtain ⟨s, -, rfl⟩ := List.mem_map.mp he
    exact decodes_expectedSubmodule s
  · rw [hsub]
    exact UInt16.toNat_ofNat_of_lt' (show _ < 65536 by omega)

/-- There are no more slots than submodules. -/
theorem eraseDups_length_le (l : List UInt16) : l.eraseDups.length ≤ l.length := by
  have hsub : l.eraseDups ⊆ l := fun a ha => List.mem_eraseDups.mp ha
  exact (List.subperm_of_subset (Group.nodup_eraseDups l) hsub).length_le

/-- The block of the expected submodules is read back as one entry for each slot. -/
theorem expectedSubmoduleBlock_reads (setup : IocrSetup) (hcount : setup.ioSlots.length < 65536) :
    expectedSubmoduleBlockD (expectedSubmoduleBlock setup)
      = some ((setup.ioSlots.map IoSlot.slot).eraseDups.map (entryOf setup.ioSlots), []) := by
  have hle := eraseDups_length_le (setup.ioSlots.map IoSlot.slot)
  rw [List.length_map] at hle
  refine Decodes.whole ?_
  show Decodes expectedSubmoduleBlockD (blockHeader _ _ ++ (be16 _ ++ _)) _
  rw [apiEntries_eq]
  refine (decodes_blockHeader _ _).bind ?_
  refine (decodes_u16 _).bind ?_
  refine decodes_counted (fun a ha => ?_) ?_
  · obtain ⟨k, -, rfl⟩ := List.mem_map.mp ha
    exact decodes_apiEntry setup.ioSlots hcount k
  · rw [List.length_map]
    exact UInt16.toNat_ofNat_of_lt' (show _ < 65536 by omega)

/-! ## Agreement

  Both sides of the request against both configurations. -/

/-- The data length a submodule of the block declares in one direction (1=Input, 2=Output). -/
def ExpectedSubmodule.declaredLength (e : ExpectedSubmodule) (dataDescription : UInt16) : Nat :=
  ((e.descriptions.find? fun d => d.dataDescription = dataDescription).map
    fun d => d.length.toNat).getD 0

/-- What is declared of a submodule are its lengths, in both directions. -/
theorem declaredLengths (s : IoSlot) (hin : s.inputLength < 65536) (hout : s.outputLength < 65536) :
    (expectedSubmodule s).declaredLength 1 = s.inputLength
      ∧ (expectedSubmodule s).declaredLength 2 = s.outputLength := by
  unfold ExpectedSubmodule.declaredLength expectedSubmodule dataDescriptions submoduleType
  have hin' := UInt16.toNat_ofNat_of_lt' hin
  have hout' := UInt16.toNat_ofNat_of_lt' hout
  by_cases hi : s.inputLength > 0 <;> by_cases ho : s.outputLength > 0
  · simp [hi, ho, hin', hout']
  · simp [hi, ho, hin']
    omega
  · simp [hi, ho, hout']
    omega
  · simp [hi, ho]
    omega

/-- What the decoded blocks and the runtime configurations of one slot list have to agree on. -/
structure LayoutAgrees (slots : List IoSlot) (input output : IocrConfig)
    (inputBlock outputBlock : IocrBlock) (expected : List ApiEntry) : Prop where
  /-- The data objects of the input block, at the offsets of the input configuration. -/
  inputData : inputBlock.objects.map IocrApiObject.position
    = input.objects.map fun o => (o.key, o.frameOffset)
  /-- The input IOCS entries, one byte each from where the data ends. -/
  inputStatus : inputBlock.iocs.map IocrApiObject.position
    = ((slots.filter fun s => s.inputLength = 0).map IoSlot.key).zip
        (List.range' (dataObjects IoSlot.inputLength slots).2
          (slots.filter fun s => s.inputLength = 0).length)
  inputLength : inputBlock.dataLength.toNat = input.dataLength
  /-- The data objects of the output block, at the offsets of the output configuration. -/
  outputData : outputBlock.objects.map IocrApiObject.position
    = (output.objects.filter fun o => 0 < o.dataLength).map fun o => (o.key, o.frameOffset)
  /-- The output IOCS entries, at the `iocs_offset` of the output configuration's objects. -/
  outputStatus : outputBlock.iocs.map IocrApiObject.position
    = output.objects.filterMap fun o => o.iocsOffset.map fun off => (o.key, off)
  outputLength : outputBlock.dataLength.toNat = output.dataLength
  /-- Every submodule is a data object or an IOCS entry of the block, and occurs once. -/
  inputOnce : ((inputBlock.objects ++ inputBlock.iocs).map IocrApiObject.key).Perm
    (slots.map IoSlot.key)
  outputOnce : ((outputBlock.objects ++ outputBlock.iocs).map IocrApiObject.key).Perm
    (slots.map IoSlot.key)
  /-- One API entry per slot, in first-seen order. -/
  grouped : expected.map ApiEntry.slot = (slots.map IoSlot.slot).eraseDups
  /-- The submodules of an entry are those of its slot, in order, with their lengths. -/
  submodules : ∀ a ∈ expected,
    a.submodules.map (fun e => (e.subslot, e.declaredLength 1, e.declaredLength 2))
      = (slots.filter fun s => s.slot = a.slot).map
          fun s => (s.subslot, s.inputLength, s.outputLength)
  /-- Every submodule is declared once, with the lengths the frames carry. -/
  expectedOnce : (expected.flatMap fun a => a.submodules.map fun e =>
      ((a.slot, e.subslot), e.declaredLength 1, e.declaredLength 2)).Perm
    (slots.map fun s => (s.key, s.inputLength, s.outputLength))
  /-- The objects of the configurations have those lengths. -/
  objectLengths : (input.objects.map fun o => (o.key, o.dataLength))
      = ((slots.filter fun s => s.inputLength > 0).map fun s => (s.key, s.inputLength))
    ∧ ((output.objects.filter fun o => 0 < o.dataLength).map fun o => (o.key, o.dataLength))
      = (slots.filter fun s => s.outputLength > 0).map fun s => (s.key, s.outputLength)

/-- Every length fits where the frame does. -/
theorem length_lt_of_frameTotal {len : IoSlot → Nat} {slots : List IoSlot}
    (hfit : frameTotal len slots < 65536) : ∀ s ∈ slots, len s < 65536 := by
  intro s hs
  by_cases h : len s > 0
  · have hmem : s ∈ slots.filter fun s => len s > 0 :=
      List.mem_filter.mpr ⟨hs, decide_eq_true h⟩
    obtain ⟨off, hoff⟩ := exists_mem_pack (fun s => len s + 1) 0 hmem
    have hm : off + (len s + 1) ≤ 0 + dataEnd len slots := (mem_pack hoff).2.1
    have htotal : dataEnd len slots ≤ frameTotal len slots := Nat.le_add_right _ _
    omega
  · omega

/-- There are no more submodules than bytes. -/
theorem length_le_frameTotal (len : IoSlot → Nat) (slots : List IoSlot) :
    slots.length ≤ frameTotal len slots := by
  rw [frameTotal_eq_sum]
  refine length_le_span _ _ ?_
  intro s
  by_cases h : len s > 0
  · rw [if_pos h]
    omega
  · rw [if_neg h]
    omega

/-- The data objects of the output configuration are those with data. -/
theorem output_dataObjects (slots : List IoSlot) (inputFrameId outputFrameId sendClockFactor
    reductionRatio watchdogFactor : UInt16) :
    (outputConfig slots inputFrameId outputFrameId sendClockFactor reductionRatio
      watchdogFactor).objects.filter (fun o => 0 < o.dataLength)
      = (placedData IoSlot.outputLength slots).map
          fun e => dataObject IoSlot.outputLength e.1 e.2 := by
  rw [output_objects, List.filter_append]
  have hdata : ∀ o ∈ (placedData IoSlot.outputLength slots).map
      (fun e => dataObject IoSlot.outputLength e.1 e.2), decide (0 < o.dataLength) = true := by
    intro o ho
    obtain ⟨e, he, rfl⟩ := List.mem_map.mp ho
    exact (List.mem_filter.mp (mem_pack he).2.2).2
  have hiocs : ∀ o ∈ (placedIocs IoSlot.outputLength slots).map (fun e => iocsObject e.1 e.2),
      ¬ decide (0 < o.dataLength) = true := by
    intro o ho
    obtain ⟨e, -, rfl⟩ := List.mem_map.mp ho
    exact fun h => nomatch h
  rw [List.filter_eq_self.mpr hdata, List.filter_eq_nil_iff.mpr hiocs, List.append_nil]

/-- The IOCS-only objects of the output configuration are those with an `iocs_offset`. -/
theorem output_iocsObjects (slots : List IoSlot) (inputFrameId outputFrameId sendClockFactor
    reductionRatio watchdogFactor : UInt16) :
    ((outputConfig slots inputFrameId outputFrameId sendClockFactor reductionRatio
      watchdogFactor).objects.filterMap fun o => o.iocsOffset.map fun off => (o.key, off))
      = (placedIocs IoSlot.outputLength slots).map fun e => (e.2.key, e.1) := by
  rw [output_objects, List.filterMap_append]
  have hdata : ∀ l : List (Nat × IoSlot),
      ((l.map fun e => dataObject IoSlot.outputLength e.1 e.2).filterMap
        fun o => o.iocsOffset.map fun off => (o.key, off)) = [] := by
    intro l
    rw [List.filterMap_map]
    exact List.filterMap_eq_nil_iff.mpr fun e _ => rfl
  rw [hdata, List.nil_append, List.filterMap_map]
  exact congrFun (List.filterMap_eq_map (f := fun e : Nat × IoSlot => (e.2.key, e.1))) _

/-- The IOCS entries follow the data, one byte each. -/
theorem placedIocs_zip (len : IoSlot → Nat) (slots : List IoSlot) :
    ((placedIocs len slots).map fun e => (e.2.key, e.1))
      = ((slots.filter fun s => len s = 0).map IoSlot.key).zip
          (List.range' (dataEnd len slots) (slots.filter fun s => len s = 0).length) := by
  have hsnd : ((placedIocs len slots).map fun e => e.2.key)
      = (slots.filter fun s => len s = 0).map IoSlot.key := by
    have h := congrArg (List.map IoSlot.key)
      (pack_map_snd (fun _ => 1) (dataEnd len slots) (slots.filter fun s => len s = 0))
    rw [List.map_map] at h
    exact h
  rw [← hsnd, ← pack_one_map_fst]
  exact List.zip_map'.symm

/-- The submodules of a slot's entry are declared with the lengths the frames carry. -/
theorem entryOf_lengths {slots : List IoSlot} (hin : frameTotal IoSlot.inputLength slots < 65536)
    (hout : frameTotal IoSlot.outputLength slots < 65536) (k : UInt16) :
    (entryOf slots k).submodules.map
        (fun e => (e.subslot, e.declaredLength 1, e.declaredLength 2))
      = (slots.filter fun s => s.slot = k).map
          fun s => (s.subslot, s.inputLength, s.outputLength) := by
  show ((slots.filter fun s => s.slot = k).map expectedSubmodule).map _ = _
  rw [List.map_map]
  refine List.map_congr_left ?_
  intro s hs
  have hmem := (List.mem_filter.mp hs).1
  obtain ⟨h1, h2⟩ := declaredLengths s (length_lt_of_frameTotal hin s hmem)
    (length_lt_of_frameTotal hout s hmem)
  show (s.subslot, (expectedSubmodule s).declaredLength 1, _) = _
  rw [h1, h2]

/-- The entries of all slots declare every submodule once. -/
theorem entryOf_once {slots : List IoSlot} (hin : frameTotal IoSlot.inputLength slots < 65536)
    (hout : frameTotal IoSlot.outputLength slots < 65536) :
    ((slots.map IoSlot.slot).eraseDups.flatMap fun k => (entryOf slots k).submodules.map fun e =>
        ((k, e.subslot), e.declaredLength 1, e.declaredLength 2)).Perm
      (slots.map fun s => (s.key, s.inputLength, s.outputLength)) := by
  have hclass (k : UInt16) : ((entryOf slots k).submodules.map fun e =>
      ((k, e.subslot), e.declaredLength 1, e.declaredLength 2))
        = (slots.filter fun s => s.slot = k).map
            fun s => (s.key, s.inputLength, s.outputLength) := by
    have h := congrArg (List.map fun p => ((k, p.1), p.2)) (entryOf_lengths hin hout k)
    rw [List.map_map, List.map_map] at h
    refine h.trans (List.map_congr_left ?_)
    intro s hs
    obtain rfl : s.slot = k := by simpa using (List.mem_filter.mp hs).2
    rfl
  refine List.Perm.trans (List.Perm.of_eq (List.flatMap_congr fun k _ => hclass k)) ?_
  rw [← List.map_flatMap]
  exact List.Perm.map _ (Group.perm_flatMap_filter IoSlot.slot (Group.nodup_eraseDups _) slots
    fun s hs => List.mem_eraseDups.mpr (List.mem_map_of_mem hs))

/-- **Layout agreement.**  For every slot list whose two frames fit 16 bits, with or without the
    zero-IO exclusion, the blocks of the Connect request read back as the layout the cyclic
    controller uses. -/
theorem layout_agreement (ioSlots : List IoSlot) (exclude : Bool)
    (inputReference outputReference inputFrameId outputFrameId sendClockFactor reductionRatio
      watchdogFactor dataHoldFactor : UInt16)
    (hin : (inputConfig (applyZeroIoExclusion ioSlots exclude) inputFrameId outputFrameId
      sendClockFactor reductionRatio watchdogFactor).dataLength < 65536)
    (hout : (outputConfig (applyZeroIoExclusion ioSlots exclude) inputFrameId outputFrameId
      sendClockFactor reductionRatio watchdogFactor).dataLength < 65536) :
    let slots := applyZeroIoExclusion ioSlots exclude
    let setup : IocrSetup :=
      ⟨slots, sendClockFactor, reductionRatio, watchdogFactor, dataHoldFactor⟩
    ∃ inputBlock outputBlock expected,
      iocrBlockD (iocrBlockReq 1 inputReference setup) = some (inputBlock, [])
        ∧ iocrBlockD (iocrBlockReq 2 outputReference setup) = some (outputBlock, [])
        ∧ expectedSubmoduleBlockD (expectedSubmoduleBlock setup) = some (expected, [])
        ∧ LayoutAgrees slots
            (inputConfig slots inputFrameId outputFrameId sendClockFactor reductionRatio
              watchdogFactor)
            (outputConfig slots inputFrameId outputFrameId sendClockFactor reductionRatio
              watchdogFactor)
            inputBlock outputBlock expected := by
  intro slots setup
  have hin' : max (frameTotal IoSlot.inputLength slots) 40 < 65536 := by
    rwa [input_dataLength] at hin
  have hout' : max (frameTotal IoSlot.outputLength slots) 40 < 65536 := by
    rwa [output_dataLength] at hout
  have hfin : frameTotal IoSlot.inputLength slots < 65536 := by omega
  have hfout : frameTotal IoSlot.outputLength slots < 65536 := by omega
  have hcount : setup.ioSlots.length < 65536 :=
    Nat.lt_of_le_of_lt (length_le_frameTotal IoSlot.inputLength slots) hfin
  obtain ⟨bi, hreadIn, hlenIn, hobjIn, hiocsIn⟩ :=
    iocrBlock_reads inputDirection inputReference setup hfin
  obtain ⟨bo, hreadOut, hlenOut, hobjOut, hiocsOut⟩ :=
    iocrBlock_reads outputDirection outputReference setup hfout
  refine ⟨bi, bo, _, hreadIn, hreadOut, expectedSubmoduleBlock_reads setup hcount, ?_⟩
  constructor
  case inputData =>
    rw [hobjIn, data_positions _ hfin, input_objects, List.map_map]
    rfl
  case inputStatus =>
    rw [hiocsIn, iocs_positions _ hfin, placedIocs_zip, dataObjects_eq]
  case inputLength =>
    rw [hlenIn, input_dataLength]
  case outputData =>
    rw [hobjOut, data_positions _ hfout, output_dataObjects, List.map_map]
    rfl
  case outputStatus =>
    rw [hiocsOut, iocs_positions _ hfout, output_iocsObjects]
  case outputLength =>
    rw [hlenOut, output_dataLength]
  case inputOnce =>
    rw [hobjIn, hiocsIn]
    exact placed_perm _ _
  case outputOnce =>
    rw [hobjOut, hiocsOut]
    exact placed_perm _ _
  case grouped =>
    rw [List.map_map]
    exact List.map_id _
  case submodules =>
    intro a ha
    obtain ⟨k, -, rfl⟩ := List.mem_map.mp ha
    exact entryOf_lengths hfin hfout k
  case expectedOnce =>
    rw [List.flatMap_map]
    exact entryOf_once hfin hfout
  case objectLengths =>
    constructor
    · rw [input_objects, List.map_map]
      exact placedData_keys IoSlot.inputLength slots
    · rw [output_dataObjects, List.map_map]
      exact placedData_keys IoSlot.outputLength slots

/-- A mixed, an input-only and an output-only submodule in two slots, and an interface
    submodule without data that the exclusion drops. -/
theorem layout_agreement_mixed :
    ∃ b, iocrBlockD (iocrBlockReq 2 2 ⟨[⟨1, 1, 0x10, 0x11, 2, 1⟩, ⟨2, 1, 0x20, 0x21, 4, 0⟩,
        ⟨1, 2, 0x10, 0x12, 0, 3⟩], 32, 1, 3, 3⟩) = some (b, [])
      ∧ b.objects.map IocrApiObject.position = [((1, 1), 0), ((1, 2), 2)]
      ∧ b.iocs.map IocrApiObject.position = [((2, 1), 6)] := by
  obtain ⟨_, bo, _, -, hread, -, hagree⟩ := layout_agreement
    [⟨0, 1, 0x01, 0x02, 0, 0⟩, ⟨1, 1, 0x10, 0x11, 2, 1⟩, ⟨2, 1, 0x20, 0x21, 4, 0⟩,
      ⟨1, 2, 0x10, 0x12, 0, 3⟩] true 1 2 0xC001 0xFFFF 32 1 3 3 (by decide) (by decide)
  refine ⟨bo, hread, ?_, ?_⟩
  · rw [hagree.outputData]
    decide
  · rw [hagree.outputStatus]
    decide

end Profinet.Connect
