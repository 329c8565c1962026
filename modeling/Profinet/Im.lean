/-
  BLOCKS OF RECORDS: the six-byte header that stands before every block, and what the blocks are
  called.

      0  block type    2  block length    4  version, high and low

  The length counts the two version bytes, so the body is two bytes shorter.
-/
import Profinet.Errors
import Profinet.Lib.Stands

namespace Profinet.Im

open Wire Checked Errors

/-- The block of a port. -/
def blockPdPortDataReal : UInt16 := 0x020F
/-- The block of an interface. -/
def blockPdInterfaceDataReal : UInt16 := 0x0240
/-- The block that holds others. -/
def blockMultipleHeader : UInt16 := 0x0400

/-- Names of block types, each under its number. -/
def blockTypeNames : List (UInt16 × String) :=
  [(0x0001, "AlarmNotificationHigh"),
   (0x8001, "AlarmAckHigh"),
   (0x0002, "AlarmNotificationLow"),
   (0x8002, "AlarmAckLow"),
   (0x0008, "IODWriteReqHeader"),
   (0x8008, "IODWriteResHeader"),
   (0x0009, "IODReadReqHeader"),
   (0x8009, "IODReadResHeader"),
   (0x0010, "DiagnosisData"),
   (0x0012, "ExpectedIdentificationData"),
   (0x0013, "RealIdentificationData"),
   (0x0020, "I&M0"),
   (0x0021, "I&M1"),
   (0x0022, "I&M2"),
   (0x0023, "I&M3"),
   (0x0024, "I&M4"),
   (0x0025, "I&M5"),
   (0x0026, "I&M6"),
   (0x0027, "I&M7"),
   (0x0028, "I&M8"),
   (0x0029, "I&M9"),
   (0x002A, "I&M10"),
   (0x002B, "I&M11"),
   (0x002C, "I&M12"),
   (0x002D, "I&M13"),
   (0x002E, "I&M14"),
   (0x002F, "I&M15"),
   (0x0101, "ARBlockReq"),
   (0x8101, "ARBlockRes"),
   (0x0102, "IOCRBlockReq"),
   (0x8102, "IOCRBlockRes"),
   (0x0103, "AlarmCRBlockReq"),
   (0x8103, "AlarmCRBlockRes"),
   (0x0104, "ExpectedSubmoduleBlockReq"),
   (0x8104, "ModuleDiffBlock"),
   (0x0110, "IODControlReqPrmEnd"),
   (0x8110, "IODControlResPrmEnd"),
   (0x0112, "IODControlReqAppReady"),
   (0x8112, "IODControlResAppReady"),
   (0x0114, "IODReleaseReq"),
   (0x8114, "IODReleaseRes"),
   (0x0117, "IODControlReqRTClass3"),
   (0x8117, "IODControlResRTClass3"),
   (0x0118, "PrmBeginReq"),
   (0x8118, "PrmBeginRes"),
   (0x0119, "SubmoduleListBlock"),
   (0x0018, "ARData"),
   (0x0019, "LogData"),
   (0x001A, "APIData"),
   (0x001B, "SRLData"),
   (0x0200, "PDPortDataCheck"),
   (0x0202, "PDPortDataAdjust"),
   (0x020F, "PDPortDataReal"),
   (0x0211, "PDInterfaceMrpDataAdjust"),
   (0x0212, "PDInterfaceMrpDataReal"),
   (0x0215, "PDPortMrpDataReal"),
   (0x0219, "MrpRingStateData"),
   (0x0220, "PDPortFODataReal"),
   (0x0221, "PDPortFODataCheck"),
   (0x0222, "PDPortFODataAdjust"),
   (0x022C, "PDPortDataRealExtended"),
   (0x0240, "PDInterfaceDataReal"),
   (0x0251, "PDPortStatistic"),
   (0x0400, "MultipleBlockHeader"),
   (0x0401, "COContainerContent"),
   (0xF820, "ARServerBlock"),
   (0xF841, "PDRealData"),
   (0xF842, "PDExpectedData"),
   (0xF000, "RealIdentificationDataAPI")]

/-- `block_type_name`. -/
def blockTypeName (blockType : UInt16) : String :=
  match lookup blockTypeNames blockType with
  | some name => name
  | none => "Unknown(0x" ++ hex 4 blockType.toNat ++ ")"

/-- Each byte is the code point of its character. -/
def decodeLatin1 (data : List UInt8) : String :=
  String.ofList (data.map fun b => Char.ofNat b.toNat)

/-! ## The block header -/

/-- `BlockHeader`. -/
structure BlockHeader where
  blockType : UInt16
  blockLength : UInt16
  versionHigh : UInt8
  versionLow : UInt8
  deriving DecidableEq, Repr

/-- Length of the block body without the version bytes. -/
def BlockHeader.bodyLength (header : BlockHeader) : Comp Nat := do
  if 2 ≤ header.blockLength.toNat then
    let body ← sub header.blockLength.toNat 2
    return body
  else return 0

/-- The name of the header's block type. -/
def BlockHeader.typeName (header : BlockHeader) : String := blockTypeName header.blockType

/-- The block header at `offset`, and the offset behind it. -/
def parseBlockHeader (data : List UInt8) (offset : Nat) :
    Comp (Except String (BlockHeader × Sum offset 6)) := do
  let body ← add offset 6
  if data.length < body then
    return .error ("Block header requires 6 bytes, got " ++ toString (data.length - offset))
  let blockType ← u16At data offset false
  let blockLength ← u16At data (← add offset 2) false
  let versionHigh ← index data (← add offset 4)
  let versionLow ← index data (← add offset 5)
  return .ok (⟨blockType, blockLength, versionHigh, versionLow⟩, body)

/-- The body of a MultipleBlockHeader: padding, API, slot and subslot; then the nested blocks. -/
def parseMultipleBlockHeader (data : List UInt8) (offset : Nat) :
    Comp (Except String (UInt32 × UInt16 × UInt16 × Sum offset 10)) := do
  let nested ← add offset 10
  if data.length < nested then
    return .error "MultipleBlockHeader body requires 8 bytes after padding"
  let api ← u32At data (← add offset 2) false
  let slot ← u16At data (← add offset 6) false
  let subslot ← u16At data (← add offset 8) false
  return .ok (api, slot, subslot, nested)

/-- Slot and subslot of a device, with what is plugged there. -/
structure SlotInfo where
  slot : UInt16
  subslot : UInt16
  api : UInt32
  moduleIdent : UInt32
  submoduleIdent : UInt32
  /-- Names of the nested blocks (PDRealData only). -/
  blocks : List String
  deriving DecidableEq, Repr

/-! ## What was written is read -/

/-- The header as bytes. -/
def BlockHeader.bytes (header : BlockHeader) : List UInt8 :=
  be16 header.blockType ++ (be16 header.blockLength ++ ([header.versionHigh] ++ [header.versionLow]))

@[simp] theorem BlockHeader.bytes_length (header : BlockHeader) : header.bytes.length = 6 := rfl

theorem parseBlockHeader_ok {data : List UInt8} (hdata : data.length < 2 ^ 63) {offset : Nat}
    {header : BlockHeader} (h : Stands data offset header.bytes) :
    parseBlockHeader data offset = .ok (.ok (header, ⟨offset + 6, rfl⟩)) := by
  have hfits : offset + 6 ≤ data.length := h.fits
  obtain ⟨htype, h⟩ := h.split (be16_length header.blockType)
  obtain ⟨hlength, h⟩ := h.split (be16_length header.blockLength)
  obtain ⟨hhigh, hlow⟩ := h.split (List.length_singleton)
  unfold parseBlockHeader
  rw [add_ok (by omega), ok_bind, if_neg (by dsimp only; omega), htype.u16At hdata, ok_bind,
    add_ok (by omega), ok_bind, hlength.u16At hdata, ok_bind, add_ok (by omega), ok_bind,
    hhigh.index, ok_bind, add_ok (by omega), ok_bind, hlow.index, ok_bind]
  rfl

theorem parseBlockHeader_short {data : List UInt8} (hdata : data.length < 2 ^ 63) {offset : Nat}
    (hoff : offset ≤ data.length) (h : data.length < offset + 6) :
    ∃ error, parseBlockHeader data offset = .ok (.error error) := by
  unfold parseBlockHeader
  rw [add_ok (by omega), ok_bind, if_pos (by dsimp only; omega)]
  exact ⟨_, rfl⟩

/-! ## They return for every record -/

theorem bodyLength_returns (header : BlockHeader) :
    Returns header.bodyLength fun n => n < 65536 := by
  have hlen := header.blockLength.toNat_lt
  refine .ite (fun hversion => .sub hversion fun body hbody => ?_) fun _ => returns_ok (by omega)
  exact returns_ok (by omega)

section Headers

variable {data : List UInt8} (hdata : data.length < 2 ^ 63) {offset : Nat}
  (hoff : offset ≤ data.length + 65536)
include hdata hoff

/-- A block header lies inside the record. -/
theorem parseBlockHeader_returns :
    Returns (parseBlockHeader data offset) fun r =>
      ∀ header body, r = .ok (header, body) → offset + 6 ≤ data.length := by
  refine .add (by omega) fun body hbody => .ite (fun _ => returns_ok nofun) fun hfits => ?_
  refine .u16At hdata (by omega) fun _ _ => .add (by omega) fun lenOff hlenOff => ?_
  refine .u16At hdata (by omega) fun _ _ => .add (by omega) fun highOff hhighOff => ?_
  refine .index (by omega) fun _ => .add (by omega) fun lowOff hlowOff => ?_
  refine .index (by omega) fun _ => returns_ok fun _ _ _ => ?_
  omega

theorem parseMultipleBlockHeader_safe : Safe (parseMultipleBlockHeader data offset) := by
  refine .add (by omega) fun nested hnested => .ite (fun _ => safe_ok _) fun hfits => ?_
  refine .add (by omega) fun apiOff hapiOff => .u32At hdata (by omega) fun _ _ => ?_
  refine .add (by omega) fun slotOff hslotOff => .u16At hdata (by omega) fun _ _ => ?_
  refine .add (by omega) ?_
  intro subslotOff hsubslotOff
  exact .u16At hdata (by omega) fun _ _ => safe_ok _

end Headers

end Profinet.Im
