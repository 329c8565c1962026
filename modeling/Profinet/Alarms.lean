/-
  ALARMS: the notification a device sends, and the AlarmCR block of its connect response.

  A notification is a block header, a 20-byte body and a list of items.  An item begins with a User
  Structure Identifier that says how it is laid out:

      0x8000  channel diagnosis                6 bytes
      0x8002  extended channel diagnosis      12
      0x8003  qualified channel diagnosis     16
      0x8100  maintenance                     12
      0x8200  upload, 0x8201 iParameter       16
      0x8300  .. 0x8302  reporting system      2
      0x8310  PROFIenergy                      7
      0x8320  pull request alarm               8, and the rest of the payload
      other                                    the rest of the payload

  The first item that does not fit ends the list.  Every item parser returns the offset behind the
  item, which lies behind the one it was given (`After`), so that the list comes to an end.
-/
import Profinet.Lib.Checked

namespace Profinet.Alarms

open Wire Checked

/-! ## Numbers -/

/-- Block type: a notification of high priority. -/
def blockAlarmNotificationHigh : UInt16 := 0x0001
/-- Block type: a notification of low priority. -/
def blockAlarmNotificationLow : UInt16 := 0x0002
/-- Block type: the device's answer to the alarm CR. -/
def blockAlarmCrRes : UInt16 := 0x8103

-- User Structure Identifiers.
/-- ChannelDiagnosis. -/
def usiChannelDiagnosis : UInt16 := 0x8000
/-- ExtChannelDiagnosis. -/
def usiExtChannelDiagnosis : UInt16 := 0x8002
/-- QualifiedChannelDiagnosis. -/
def usiQualifiedChannelDiagnosis : UInt16 := 0x8003
/-- MaintenanceItem. -/
def usiMaintenance : UInt16 := 0x8100
/-- UploadRecord. -/
def usiUpload : UInt16 := 0x8200
/-- iParameterItem. -/
def usiIparameter : UInt16 := 0x8201
/-- RS_AlarmItem_Low. -/
def usiRsAlarmLow : UInt16 := 0x8300
/-- RS_AlarmItem_High. -/
def usiRsAlarmHigh : UInt16 := 0x8301
/-- RS_AlarmItem_Submodule. -/
def usiRsAlarmSubmodule : UInt16 := 0x8302
/-- PE_AlarmItem. -/
def usiPeAlarm : UInt16 := 0x8310
/-- PRAL_AlarmItem. -/
def usiPralAlarm : UInt16 := 0x8320

/-! ## Items -/

/-- USI 0x8000, 0x8002, 0x8003; what the shorter ones lack is zero. -/
structure DiagnosisItem where
  userStructureId : UInt16
  channelNumber : UInt16
  channelProperties : UInt16
  channelErrorType : UInt16
  extChannelErrorType : UInt16
  extChannelAddValue : UInt32
  qualifiedChannelQualifier : UInt32
  deriving DecidableEq, Repr

/-- Maintenance alarm item: block header, padding, MaintenanceStatus. -/
structure MaintenanceItem where
  blockType : UInt16
  blockLength : UInt16
  blockVersion : UInt16
  maintenanceStatus : UInt32
  deriving DecidableEq, Repr

/-- Upload/Retrieval alarm item: block header, padding, index and length of the record. -/
structure UploadRetrievalItem where
  userStructureId : UInt16
  blockType : UInt16
  blockLength : UInt16
  blockVersion : UInt16
  urRecordIndex : UInt32
  urRecordLength : UInt32
  deriving DecidableEq, Repr

/-- PROFIenergy alarm item: block header, PE_OperationalMode. -/
structure PeAlarmItem where
  blockType : UInt16
  blockLength : UInt16
  blockVersion : UInt16
  peOperationalMode : UInt8
  deriving DecidableEq, Repr

/-- Reporting System alarm item: RS_AlarmInfo. -/
structure RsAlarmItem where
  userStructureId : UInt16
  rsAlarmInfo : UInt16
  deriving DecidableEq, Repr

/-- PRAL alarm item: a channel, the reason, and an additional value of any length. -/
structure PralAlarmItem where
  channelNumber : UInt16
  pralChannelProperties : UInt16
  pralReason : UInt16
  pralExtReason : UInt16
  pralReasonAddValue : List UInt8
  deriving DecidableEq, Repr

/-- One alarm payload item. -/
inductive AlarmItem where
  | diagnosis (item : DiagnosisItem)
  | maintenance (item : MaintenanceItem)
  | uploadRetrieval (item : UploadRetrievalItem)
  | pe (item : PeAlarmItem)
  | rs (item : RsAlarmItem)
  | pral (item : PralAlarmItem)
  /-- Unknown or manufacturer-specific: the raw remaining payload. -/
  | generic (userStructureId : UInt16) (rawData : List UInt8)
  deriving DecidableEq, Repr

/-- An offset behind the one given. -/
abbrev After (offset : Nat) := { next : Nat // offset < next }

/-- What an item parser returns: the item and the offset behind it, or why it does not fit. -/
abbrev ParsedItem (offset : Nat) := Except String (AlarmItem × After offset)

/-- A diagnosis item has the fields that its identifier asks for. -/
def parseDiagnosisItem (data : List UInt8) (offset : Nat) (usi : UInt16) :
    Comp (ParsedItem offset) := do
  let stop ← add offset 6
  if data.length < stop then
    return .error "Truncated DiagnosisItem"
  let channelNumber ← u16At data offset false
  let channelProperties ← u16At data (← add offset 2) false
  let channelErrorType ← u16At data (← add offset 4) false
  let item : DiagnosisItem := ⟨usi, channelNumber, channelProperties, channelErrorType, 0, 0, 0⟩
  if usi = usiExtChannelDiagnosis ∨ usi = usiQualifiedChannelDiagnosis then
    let extStop ← add stop 6
    if data.length < extStop then
      return .error "Truncated ExtChannelDiagnosis"
    let extChannelErrorType ← u16At data stop false
    let extChannelAddValue ← u32At data (← add stop 2) false
    let item := { item with extChannelErrorType, extChannelAddValue }
    if usi = usiQualifiedChannelDiagnosis then
      let qualifiedStop ← add extStop 4
      if data.length < qualifiedStop then
        return .error "Truncated QualifiedChannelDiagnosis"
      let qualifiedChannelQualifier ← u32At data extStop false
      return .ok (.diagnosis { item with qualifiedChannelQualifier },
        ⟨qualifiedStop, by have := stop.2; have := extStop.2; have := qualifiedStop.2; omega⟩)
    else
      return .ok (.diagnosis item, ⟨extStop, by have := stop.2; have := extStop.2; omega⟩)
  else
    return .ok (.diagnosis item, ⟨stop, by have := stop.2; omega⟩)

/-- Block header, padding, status. -/
def parseMaintenanceItem (data : List UInt8) (offset : Nat) : Comp (ParsedItem offset) := do
  let stop ← add offset 12
  if data.length < stop then
    return .error "Truncated MaintenanceItem"
  let blockType ← u16At data offset false
  let blockLength ← u16At data (← add offset 2) false
  let blockVersion ← u16At data (← add offset 4) false
  let maintenanceStatus ← u32At data (← add offset 8) false
  return .ok (.maintenance { blockType, blockLength, blockVersion, maintenanceStatus },
    ⟨stop, by have := stop.2; omega⟩)

/-- Block header, padding, record index and length. -/
def parseUploadRetrievalItem (data : List UInt8) (offset : Nat) (usi : UInt16) :
    Comp (ParsedItem offset) := do
  let stop ← add offset 16
  if data.length < stop then
    return .error "Truncated UploadRetrievalItem"
  let blockType ← u16At data offset false
  let blockLength ← u16At data (← add offset 2) false
  let blockVersion ← u16At data (← add offset 4) false
  let urRecordIndex ← u32At data (← add offset 8) false
  let urRecordLength ← u32At data (← add offset 12) false
  return .ok
    (.uploadRetrieval
      { userStructureId := usi, blockType, blockLength, blockVersion, urRecordIndex,
        urRecordLength },
      ⟨stop, by have := stop.2; omega⟩)

/-- Block header, mode. -/
def parsePeAlarmItem (data : List UInt8) (offset : Nat) : Comp (ParsedItem offset) := do
  let stop ← add offset 7
  if data.length < stop then
    return .error "Truncated PE_AlarmItem"
  let blockType ← u16At data offset false
  let blockLength ← u16At data (← add offset 2) false
  let blockVersion ← u16At data (← add offset 4) false
  let peOperationalMode ← index data (← add offset 6)
  return .ok (.pe { blockType, blockLength, blockVersion, peOperationalMode },
    ⟨stop, by have := stop.2; omega⟩)

/-- A reporting system item is one word. -/
def parseRsAlarmItem (data : List UInt8) (offset : Nat) (usi : UInt16) :
    Comp (ParsedItem offset) := do
  let stop ← add offset 2
  if data.length < stop then
    return .error "Truncated RS_AlarmItem"
  let rsAlarmInfo ← u16At data offset false
  return .ok (.rs { userStructureId := usi, rsAlarmInfo }, ⟨stop, by have := stop.2; omega⟩)

/-- The rest of the payload is the additional value. -/
def parsePralAlarmItem (data : List UInt8) (offset : Nat) : Comp (ParsedItem offset) := do
  let stop ← add offset 8
  if hshort : data.length < stop then
    return .error "Truncated PRAL_AlarmItem"
  else
    let channelNumber ← u16At data offset false
    let pralChannelProperties ← u16At data (← add offset 2) false
    let pralReason ← u16At data (← add offset 4) false
    let pralExtReason ← u16At data (← add offset 6) false
    let pralReasonAddValue ← sliceFrom data stop
    return .ok
      (.pral
        { channelNumber, pralChannelProperties, pralReason, pralExtReason,
          pralReasonAddValue },
        ⟨data.length, by have := stop.2; omega⟩)

/-- An item parsed behind `off` has been parsed behind every offset before. -/
def ParsedItem.behind {offset off : Nat} (h : offset ≤ off) (r : ParsedItem off) :
    ParsedItem offset :=
  r.map fun (item, next) => (item, ⟨next, Nat.lt_of_le_of_lt h next.2⟩)

/-- The item at `offset`, and the offset behind it. -/
def parseAlarmItem (data : List UInt8) (offset : Nat) : Comp (ParsedItem offset) := do
  let off ← add offset 2
  if hshort : data.length < off then
    return .error "Insufficient data for USI"
  else
    have hoff : offset ≤ off := by have := off.2; omega
    let usi ← u16At data offset false
    if usi = usiChannelDiagnosis ∨ usi = usiExtChannelDiagnosis
        ∨ usi = usiQualifiedChannelDiagnosis then
      return (← parseDiagnosisItem data off usi).behind hoff
    else if usi = usiMaintenance then
      return (← parseMaintenanceItem data off).behind hoff
    else if usi = usiUpload ∨ usi = usiIparameter then
      return (← parseUploadRetrievalItem data off usi).behind hoff
    else if usi = usiRsAlarmLow ∨ usi = usiRsAlarmHigh ∨ usi = usiRsAlarmSubmodule then
      return (← parseRsAlarmItem data off usi).behind hoff
    else if usi = usiPeAlarm then
      return (← parsePeAlarmItem data off).behind hoff
    else if usi = usiPralAlarm then
      return (← parsePralAlarmItem data off).behind hoff
    else
      let rawData ← sliceFrom data off
      return .ok (.generic usi rawData, ⟨data.length, by have := off.2; omega⟩)

/-! ## The notification -/

/-- Complete parsed alarm notification: header, body and items. -/
structure AlarmNotification where
  blockType : UInt16
  blockVersion : UInt8 × UInt8
  alarmType : UInt16
  api : UInt32
  slotNumber : UInt16
  subslotNumber : UInt16
  moduleIdentNumber : UInt32
  submoduleIdentNumber : UInt32
  -- the bits of the AlarmSpecifier
  alarmSequenceNumber : UInt16
  channelDiagnosis : Bool
  manufacturerSpecific : Bool
  submoduleDiagnosisState : Bool
  arDiagnosisState : Bool
  items : List AlarmItem
  rawPayload : List UInt8
  deriving DecidableEq, Repr

/-- The block type tells the priority. -/
def AlarmNotification.isHighPriority (a : AlarmNotification) : Bool :=
  a.blockType = blockAlarmNotificationHigh

/-- The items from `itemOffset` on, up to the first that does not fit. -/
def alarmItems (payload : List UInt8) (itemOffset : Nat) : Comp (List AlarmItem) := do
  if itemOffset < payload.length then
    match ← parseAlarmItem payload itemOffset with
    | .error _ => return []
    | .ok (item, next) => return item :: (← alarmItems payload next)
  else return []
  termination_by payload.length - itemOffset
  decreasing_by
    have := next.2
    omega

/-- Body size: what stands between the block header and the items. -/
def alarmBodyLen : Nat := 20

/-- `data[..blockEnd]` where the block declares an end inside the data: what follows is padding and
    no part of the alarm. -/
def alarmBlock (data : List UInt8) (blockEnd : Nat) : Comp (List UInt8) := do
  if 6 + alarmBodyLen ≤ blockEnd ∧ blockEnd < data.length then return ← slice data 0 blockEnd
  else return data

/-- The notification: its fixed fields, and the items behind them. -/
def parseAlarmNotification (data : List UInt8) : Comp (Except String AlarmNotification) := do
  if data.length < 6 + alarmBodyLen then
    return .error "AlarmNotification too short"
  let blockType ← u16At data 0 false
  let verHigh ← index data 4
  let verLow ← index data 5
  let blockEnd ← add 4 (← u16At data 2 false).toNat
  let data ← alarmBlock data blockEnd
  let alarmType ← u16At data 6 false
  let api ← u32At data 8 false
  let slotNumber ← u16At data 12 false
  let subslotNumber ← u16At data 14 false
  let moduleIdent ← u32At data 16 false
  let submoduleIdent ← u32At data 20 false
  let alarmSpecifier ← u16At data 24 false
  let payload ← sliceFrom data (6 + alarmBodyLen)
  let items ← alarmItems payload 0
  return .ok
    { blockType := blockType
      blockVersion := (verHigh, verLow)
      alarmType := alarmType
      api := api
      slotNumber := slotNumber
      subslotNumber := subslotNumber
      moduleIdentNumber := moduleIdent
      submoduleIdentNumber := submoduleIdent
      alarmSequenceNumber := alarmSpecifier &&& 0x07FF
      channelDiagnosis := alarmSpecifier &&& 0x0800 ≠ 0
      manufacturerSpecific := alarmSpecifier &&& 0x1000 ≠ 0
      submoduleDiagnosisState := alarmSpecifier &&& 0x2000 ≠ 0
      -- bit 15; bit 14 is reserved
      arDiagnosisState := alarmSpecifier &&& 0x8000 ≠ 0
      items := items
      rawPayload := payload }

/-! ## The AlarmCR block -/

/-- The blocks of a connect response from `offset` on: the device's local alarm reference of the
    first whole AlarmCRBlockRes. -/
def alarmCrResFrom (responseData : List UInt8) (offset : Nat) : Comp (Option UInt16) := do
  let head ← add offset 6
  if head ≤ responseData.length then
    let blockType ← u16At responseData offset false
    let blockLength := (← u16At responseData (← add offset 2) false).toNat
    if blockType = blockAlarmCrRes then
      if (← add offset 12) ≤ responseData.length then
        return some (← u16At responseData (← add offset 8) false)
      else
        let next ← add offset (4 + blockLength)
        alarmCrResFrom responseData next
    else
      let next ← add offset (4 + blockLength)
      alarmCrResFrom responseData next
  else return none
  termination_by responseData.length - offset
  decreasing_by
    all_goals
      have := head.2
      have := next.2
      omega

/-- The local reference of the device, from the block that answers the alarm CR request. -/
def parseAlarmCrRes (responseData : List UInt8) : Comp (Option UInt16) :=
  alarmCrResFrom responseData 0

/-! ## They return for every record -/

section Safety

variable {data : List UInt8} (hdata : data.length < 2 ^ 63) {offset : Nat}
  (hoff : offset ≤ data.length)
include hdata hoff

/-- A diagnosis item is read or refused, whatever is left of the payload. -/
theorem parseDiagnosisItem_safe (usi : UInt16) : Safe (parseDiagnosisItem data offset usi) := by
  refine .add (by omega) fun stop hstop => .ite (fun _ => safe_ok _) fun hbasic => ?_
  refine .u16At hdata (by omega) fun _ _ => .add (by omega) fun props hprops => ?_
  refine .u16At hdata (by omega) fun _ _ => .add (by omega) fun error herror => ?_
  refine .u16At hdata (by omega) fun _ _ => .ite (fun _ => ?_) fun _ => safe_ok _
  refine .add (by omega) fun extStop hextStop => .ite (fun _ => safe_ok _) fun hext => ?_
  refine .u16At hdata (by omega) fun _ _ => .add (by omega) fun value hvalue => ?_
  refine .u32At hdata (by omega) fun _ _ => .ite (fun _ => ?_) fun _ => safe_ok _
  refine .add (by omega) fun qualStop hqualStop => .ite (fun _ => safe_ok _) fun hqual => ?_
  exact .u32At hdata (by omega) fun _ _ => safe_ok _

/-- So is a maintenance item. -/
theorem parseMaintenanceItem_safe : Safe (parseMaintenanceItem data offset) := by
  refine .add (by omega) fun stop hstop => .ite (fun _ => safe_ok _) fun hfits => ?_
  refine .u16At hdata (by omega) fun _ _ => .add (by omega) fun length hlength => ?_
  refine .u16At hdata (by omega) fun _ _ => .add (by omega) fun version hversion => ?_
  refine .u16At hdata (by omega) fun _ _ => .add (by omega) fun status hstatus => ?_
  exact .u32At hdata (by omega) fun _ _ => safe_ok _

/-- So is an upload item. -/
theorem parseUploadRetrievalItem_safe (usi : UInt16) :
    Safe (parseUploadRetrievalItem data offset usi) := by
  refine .add (by omega) fun stop hstop => .ite (fun _ => safe_ok _) fun hfits => ?_
  refine .u16At hdata (by omega) fun _ _ => .add (by omega) fun length hlength => ?_
  refine .u16At hdata (by omega) fun _ _ => .add (by omega) fun version hversion => ?_
  refine .u16At hdata (by omega) fun _ _ => .add (by omega) fun recordIndex hindex => ?_
  refine .u32At hdata (by omega) fun _ _ => .add (by omega) fun recordLength hrecord => ?_
  exact .u32At hdata (by omega) fun _ _ => safe_ok _

/-- So is a PROFIenergy item. -/
theorem parsePeAlarmItem_safe : Safe (parsePeAlarmItem data offset) := by
  refine .add (by omega) fun stop hstop => .ite (fun _ => safe_ok _) fun hfits => ?_
  refine .u16At hdata (by omega) fun _ _ => .add (by omega) fun length hlength => ?_
  refine .u16At hdata (by omega) fun _ _ => .add (by omega) fun version hversion => ?_
  refine .u16At hdata (by omega) fun _ _ => .add (by omega) fun mode hmode => ?_
  exact .index (by omega) fun _ => safe_ok _

/-- So is a reporting system item. -/
theorem parseRsAlarmItem_safe (usi : UInt16) : Safe (parseRsAlarmItem data offset usi) := by
  refine .add (by omega) fun stop hstop => .ite (fun _ => safe_ok _) fun hfits => ?_
  exact .u16At hdata (by omega) fun _ _ => safe_ok _

/-- So is a PRAL item. -/
theorem parsePralAlarmItem_safe : Safe (parsePralAlarmItem data offset) := by
  refine .add (by omega) fun stop hstop => .dite (fun _ => safe_ok _) fun hfits => ?_
  refine .u16At hdata (by omega) fun _ _ => .add (by omega) fun props hprops => ?_
  refine .u16At hdata (by omega) fun _ _ => .add (by omega) fun reason hreason => ?_
  refine .u16At hdata (by omega) fun _ _ => .add (by omega) fun ext hext => ?_
  exact .u16At hdata (by omega) fun _ _ => .sliceFrom (by omega) fun _ _ => safe_ok _

/-- An item is read or refused, whatever its identifier. -/
theorem parseAlarmItem_safe : Safe (parseAlarmItem data offset) := by
  refine .add (by omega) fun off hoff' => .dite (fun _ => safe_ok _) fun hfits => ?_
  have hle : (off : Nat) ≤ data.length := by omega
  refine .u16At hdata (by omega) fun usi _ => .ite (fun _ => ?_) fun _ => ?_
  · exact (parseDiagnosisItem_safe hdata hle usi).bind fun _ _ => safe_ok _
  refine .ite (fun _ => ?_) fun _ => ?_
  · exact (parseMaintenanceItem_safe hdata hle).bind fun _ _ => safe_ok _
  refine .ite (fun _ => ?_) fun _ => ?_
  · exact (parseUploadRetrievalItem_safe hdata hle usi).bind fun _ _ => safe_ok _
  refine .ite (fun _ => ?_) fun _ => ?_
  · exact (parseRsAlarmItem_safe hdata hle usi).bind fun _ _ => safe_ok _
  refine .ite (fun _ => ?_) fun _ => ?_
  · exact (parsePeAlarmItem_safe hdata hle).bind fun _ _ => safe_ok _
  refine .ite (fun _ => ?_) fun _ => ?_
  · exact (parsePralAlarmItem_safe hdata hle).bind fun _ _ => safe_ok _
  · exact .sliceFrom hle fun _ _ => safe_ok _

end Safety

/-- The items are gone through to the end of the payload. -/
theorem alarmItems_safe {payload : List UInt8} (hpayload : payload.length < 2 ^ 63)
    (itemOffset : Nat) : Safe (alarmItems payload itemOffset) := by
  unfold alarmItems
  refine .ite (fun hmore => ?_) fun _ => safe_ok _
  refine (parseAlarmItem_safe hpayload (Nat.le_of_lt hmore)).bind ?_
  intro r _
  rcases r with e | ⟨item, next⟩
  · exact safe_ok _
  · have hnext := next.2
    exact (alarmItems_safe hpayload next).bind fun _ _ => safe_ok _
  termination_by payload.length - itemOffset
  decreasing_by omega

/-- The block holds the header and the body, whatever it declares. -/
theorem alarmBlock_returns {data : List UInt8} (hdata : data.length < 2 ^ 63)
    (hhead : 26 ≤ data.length) (blockEnd : Nat) :
    Returns (alarmBlock data blockEnd) fun block =>
      26 ≤ block.length ∧ block.length < 2 ^ 63 := by
  refine .ite (fun hinside => ?_) fun _ => returns_ok ⟨hhead, hdata⟩
  have hbody : 26 ≤ blockEnd := hinside.1
  exact .slice (by omega) (by omega) fun block hblock => returns_ok (by omega)

/-- A notification of any bytes is read or refused. -/
theorem parseAlarmNotification_safe {data : List UInt8} (hdata : data.length < 2 ^ 63) :
    Safe (parseAlarmNotification data) := by
  have hbody : 6 + alarmBodyLen = 26 := rfl
  refine .ite (fun _ => safe_ok _) fun hhead => .u16At hdata (by omega) fun _ _ => ?_
  refine .index (by omega) fun _ => .index (by omega) fun _ => ?_
  refine .u16At hdata (by omega) fun len hlen => .add (by omega) fun blockEnd _ => ?_
  refine (alarmBlock_returns hdata (by omega) blockEnd).bind fun block ⟨hlong, hblock⟩ => ?_
  refine .u16At hblock (by omega) fun _ _ => .u32At hblock (by omega) fun _ _ => ?_
  refine .u16At hblock (by omega) fun _ _ => .u16At hblock (by omega) fun _ _ => ?_
  refine .u32At hblock (by omega) fun _ _ => .u32At hblock (by omega) fun _ _ => ?_
  refine .u16At hblock (by omega) fun _ _ => .sliceFrom (by omega) fun payload hpayload => ?_
  exact (alarmItems_safe (by omega) 0).bind fun _ _ => safe_ok _

/-- The blocks of a response are gone through to the end. -/
theorem alarmCrResFrom_safe {responseData : List UInt8} (hdata : responseData.length < 2 ^ 63)
    {offset : Nat} (hoff : offset ≤ responseData.length + 65540) :
    Safe (alarmCrResFrom responseData offset) := by
  unfold alarmCrResFrom
  refine .add (by omega) fun head hhead => .ite (fun hmore => ?_) fun _ => safe_ok _
  refine .u16At hdata (by omega) fun _ _ => .add (by omega) fun lenOff hlenOff => ?_
  refine .u16At hdata (by omega) ?_
  intro len hlen
  have hgo : Returns (do
      let next ← add offset (4 + len.toNat)
      alarmCrResFrom responseData next) fun _ => True :=
    .add (by omega) fun next hnext => alarmCrResFrom_safe hdata (by omega)
  refine .ite (fun _ => ?_) fun _ => hgo
  refine .add (by omega) fun whole hwhole => .ite (fun _ => ?_) fun _ => hgo
  refine .add (by omega) ?_
  intro refOff hrefOff
  exact .u16At hdata (by omega) fun _ _ => safe_ok _
  termination_by responseData.length - offset
  decreasing_by omega

end Profinet.Alarms
