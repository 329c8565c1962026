/-
  CONNECT: the blocks of the Connect request that describe the cyclic frames.

  `iocrBlockReq` walks the slot list twice, like `buildIocrConfigs` but for the wire: data
  objects of one direction first, then an IOCS entry for every other submodule.
  `expectedSubmoduleBlock` groups the same list by slot.  The loops below are the source's, over
  lists of the entries they write; `iocrApiObject` is the six bytes of one entry.

  `as u16` is `UInt16.ofNat`: what does not fit is reduced, as in the source.
-/
import Profinet.Rt

namespace Profinet.Connect

open Wire Pack Gsdml

/-- Configuration for IOCR setup (`IocrSetup`). -/
structure IocrSetup where
  ioSlots : List IoSlot
  /-- Base clock multiplier (32 = 1ms base clock). -/
  sendClockFactor : UInt16
  /-- Cycle time = send_clock_factor * reduction_ratio * 31.25us. -/
  reductionRatio : UInt16
  /-- Watchdog timeout = watchdog_factor * cycle_time. -/
  watchdogFactor : UInt16
  /-- Data hold time = data_hold_factor * cycle_time. -/
  dataHoldFactor : UInt16

/-- The slot list an AR is built from, under the caller's policy for submodules without process
    data (`apply_zero_io_exclusion`). -/
def applyZeroIoExclusion (slots : List IoSlot) (exclude : Bool) : List IoSlot :=
  if exclude then slots.filter fun s => s.inputLength > 0 || s.outputLength > 0 else slots

/-- PNBlockHeader: block_type ++ block_length ++ version 1.0. -/
def blockHeader (blockType blockLength : UInt16) : List UInt8 :=
  be16 blockType ++ (be16 blockLength ++ [0x01, 0x00])

/-! ## IOCRBlockReq -/

/-- One entry of an IOCR block: slot, subslot and frame offset. -/
structure IocrApiObject where
  slot : UInt16
  subslot : UInt16
  frameOffset : UInt16
  deriving DecidableEq, Repr

/-- What identifies an object: its slot and subslot. -/
def IocrApiObject.key (o : IocrApiObject) : UInt16 × UInt16 := (o.slot, o.subslot)

/-- `iocr_api_object`: the six bytes of an entry. -/
def iocrApiObject (o : IocrApiObject) : List UInt8 :=
  be16 o.slot ++ (be16 o.subslot ++ be16 o.frameOffset)

/-- The entry of a submodule at the running offset, `frame_offset as u16`. -/
def apiObjectAt (frameOffset : Nat) (s : IoSlot) : IocrApiObject :=
  ⟨s.slot, s.subslot, UInt16.ofNat frameOffset⟩

/-- The data length of a submodule in the direction of an IOCR. -/
def dataLen (iocrType : UInt16) (s : IoSlot) : Nat :=
  if iocrType = 1 then s.inputLength else s.outputLength

/-- IODataObjects: submodules with data in this direction, each with an IOPS byte. -/
def iocrObjects (iocrType : UInt16) (slots : List IoSlot) : List IocrApiObject × Nat :=
  slots.foldl (place (fun s => dataLen iocrType s > 0) (fun s => dataLen iocrType s + 1)
    apiObjectAt) ([], 0)

/-- Whether the second loop writes an IOCS entry: it skips a submodule that the first loop
    wrote for this type. -/
def hasIocsEntry (iocrType : UInt16) (s : IoSlot) : Bool :=
  if iocrType = 1 && s.inputLength > 0 then false
  else if iocrType = 2 && s.outputLength > 0 then false
  else true

/-- IOCS entries: all other submodules, one status byte each. -/
def iocrIocs (iocrType : UInt16) (slots : List IoSlot) (frameOffset : Nat) :
    List IocrApiObject × Nat :=
  slots.foldl (place (hasIocsEntry iocrType) (fun _ => 1) apiObjectAt) ([], frameOffset)

/-- IOCRBlockReq (0x0102) as `_build_iocr_block`. -/
def iocrBlockReq (iocrType iocrReference : UInt16) (setup : IocrSetup) : List UInt8 :=
  let (objs, objectsEnd) := iocrObjects iocrType setup.ioSlots
  let objects := objs.flatMap iocrApiObject
  let (iocsEntries, frameOffset) := iocrIocs iocrType setup.ioSlots objectsEnd
  let iocs := iocsEntries.flatMap iocrApiObject
  let dataLength := UInt16.ofNat (max frameOffset 40)
  let apiBlockLen := 4 + 2 + objects.length + 2 + iocs.length
  let frameId : UInt16 := if iocrType = 1 then 0xC000 + iocrReference else 0xFFFF
  blockHeader 0x0102 (UInt16.ofNat (46 + apiBlockLen - 4)) ++
  (be16 iocrType ++
  (be16 iocrReference ++
  (be16 0x8892 ++ -- LT (PROFINET EtherType)
  (be32 0x00000001 ++ -- IOCRProperties: RT_CLASS_1
  (be16 dataLength ++
  (be16 frameId ++
  (be16 setup.sendClockFactor ++
  (be16 setup.reductionRatio ++
  (be16 1 ++ -- phase (1-based)
  (be16 0 ++ -- sequence
  (be32 0xFFFFFFFF ++ -- frame_send_offset
  (be16 setup.watchdogFactor ++
  (be16 setup.dataHoldFactor ++
  (be16 0xC000 ++ -- IOCRTagHeader
  (List.replicate 6 0 ++ -- IOCRMulticastMAC
  (be16 1 ++ -- NumberOfAPIs
  (be32 0 ++ -- API
  (be16 (UInt16.ofNat objs.length) ++
  (objects ++
  (be16 (UInt16.ofNat iocsEntries.length) ++
  iocs))))))))))))))))))))

/-! ## ExpectedSubmoduleBlockReq -/

/-- DataDescription: type (1=Input, 2=Output), data length and the two status lengths. -/
structure DataDescription where
  dataDescription : UInt16
  length : UInt16
  lengthIocs : UInt8
  lengthIops : UInt8
  deriving DecidableEq, Repr

/-- One submodule of the block. -/
structure ExpectedSubmodule where
  subslot : UInt16
  submoduleIdent : UInt32
  /-- SubmoduleProperties: 0=NO_IO, 1=INPUT, 2=OUTPUT, 3=INPUT_OUTPUT. -/
  submoduleType : UInt16
  descriptions : List DataDescription
  deriving DecidableEq, Repr

/-- SubmoduleProperties, derived from the IO lengths. -/
def submoduleType (s : IoSlot) : UInt16 :=
  match decide (s.inputLength > 0), decide (s.outputLength > 0) with
  | true, true => 3
  | true, false => 1
  | false, true => 2
  | false, false => 0

/-- The data descriptions a submodule gets: NO_IO one Input description of length 0,
    INPUT_OUTPUT Input then Output. -/
def dataDescriptions (s : IoSlot) : List DataDescription :=
  (if submoduleType s = 0 ∨ submoduleType s = 1 ∨ submoduleType s = 3 then
    [⟨1, UInt16.ofNat s.inputLength, 1, 1⟩] else [])
  ++ (if submoduleType s = 2 ∨ submoduleType s = 3 then
    [⟨2, UInt16.ofNat s.outputLength, 1, 1⟩] else [])

/-- The submodule of a slot, as CONNECT expects it. -/
def expectedSubmodule (s : IoSlot) : ExpectedSubmodule :=
  ⟨s.subslot, s.submoduleIdent, submoduleType s, dataDescriptions s⟩

/-- A data description, as bytes. -/
def dataDescriptionBytes (d : DataDescription) : List UInt8 :=
  be16 d.dataDescription ++ (be16 d.length ++ [d.lengthIocs, d.lengthIops])

/-- An expected submodule, as bytes. -/
def expectedSubmoduleBytes (e : ExpectedSubmodule) : List UInt8 :=
  be16 e.subslot ++ (be32 e.submoduleIdent ++ (be16 e.submoduleType ++
    e.descriptions.flatMap dataDescriptionBytes))

/-- One API entry under construction: slot, module ident, submodules so far and their `u16`
    count. -/
structure ApiEntry where
  slot : UInt16
  moduleIdent : UInt32
  submodules : List ExpectedSubmodule
  numSubmodules : UInt16
  deriving DecidableEq, Repr

/-- The entry of a slot with one more submodule. -/
def ApiEntry.push (a : ApiEntry) (s : IoSlot) : ApiEntry :=
  { a with submodules := a.submodules ++ [expectedSubmodule s]
           numSubmodules := a.numSubmodules + 1 }

/-- One round of the grouping loop: the entry of the slot is found by position or pushed. -/
def groupSlot (apis : List ApiEntry) (s : IoSlot) : List ApiEntry :=
  match apis.findIdx? fun a => a.slot = s.slot with
  | some idx => apis.modify idx fun a => a.push s
  | none => apis ++ [ApiEntry.push ⟨s.slot, s.moduleIdent, [], 0⟩ s]

/-- The entries of the slots, one per slot number. -/
def apiEntries (slots : List IoSlot) : List ApiEntry := slots.foldl groupSlot []

/-- An entry, as bytes. -/
def apiEntryBytes (a : ApiEntry) : List UInt8 :=
  be32 0 ++ -- API
  (be16 a.slot ++
  (be32 a.moduleIdent ++
  (be16 0 ++ -- ModuleProperties
  (be16 a.numSubmodules ++
  a.submodules.flatMap expectedSubmoduleBytes))))

/-- ExpectedSubmoduleBlockReq (0x0104). -/
def expectedSubmoduleBlock (setup : IocrSetup) : List UInt8 :=
  let apis := apiEntries setup.ioSlots
  let body := be16 (UInt16.ofNat apis.length) ++ apis.flatMap apiEntryBytes
  blockHeader 0x0104 (UInt16.ofNat (body.length + 2)) ++ body

end Profinet.Connect
