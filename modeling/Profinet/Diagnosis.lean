/-
  DIAGNOSIS: the record in which a device lists what is wrong with its channels.

  Entries stand one behind the other, each a channel number, its properties and a User Structure
  Identifier that says what follows:

      0x8002  error type, extended error type, additional value     8 bytes
      0x8003  the same and a qualifier                             12
      other   error type                                            2

  Before an entry there may be a location (API, slot, subslot), which nothing marks: eight bytes
  are taken for one if they name a small API and a slot.  It holds for the entries behind it.
  `parseDiagnosisSimple` reads a record of flat six-byte entries instead.
-/
import Profinet.Errors
import Profinet.Lib.Checked

namespace Profinet.Diagnosis

open Wire Checked Errors

/-! ## Channel properties -/

-- User Structure Identifiers.
/-- The USI of extended channel diagnosis. -/
def usiExtChannelDiagnosis : UInt16 := 0x8002
/-- The USI of qualified channel diagnosis. -/
def usiQualifiedChannelDiagnosis : UInt16 := 0x8003

/-- Bits 0-1. -/
inductive ChannelType where
  | reserved
  | specific
  /-- All channels of the submodule. -/
  | all
  | submodule
  deriving DecidableEq, Repr

/-- Bits 11-12. -/
inductive ChannelDirection where
  | manufacturer
  | input
  | output
  | bidirectional
  deriving DecidableEq, Repr

/-- Bits 2-4. -/
inductive ChannelAccumulative where
  | no
  | mainFault
  | additionalFault
  deriving DecidableEq, Repr

/-- Bits 8-10. -/
inductive ChannelSpecifier where
  | allDisappears
  | appears
  | disappears
  | disappearsOther
  deriving DecidableEq, Repr

/-- The channel properties, unpacked. -/
structure ChannelProperties where
  raw : UInt16
  channelType : ChannelType
  accumulative : ChannelAccumulative
  maintenanceRequired : Bool
  maintenanceDemanded : Bool
  specifier : ChannelSpecifier
  direction : ChannelDirection
  deriving DecidableEq, Repr

/-- `ChannelProperties::from_u16`: a reserved value is read as the first of its field. -/
def ChannelProperties.fromU16 (value : UInt16) : ChannelProperties where
  raw := value
  channelType :=
    match value &&& 0x03 with
    | 1 => .specific
    | 2 => .all
    | 3 => .submodule
    | _ => .reserved
  accumulative :=
    match value >>> 2 &&& 0x07 with
    | 1 => .mainFault
    | 2 => .additionalFault
    | _ => .no
  maintenanceRequired := value >>> 5 &&& 0x01 ≠ 0
  maintenanceDemanded := value >>> 6 &&& 0x01 ≠ 0
  specifier :=
    match value >>> 8 &&& 0x07 with
    | 1 => .appears
    | 2 => .disappears
    | 3 => .disappearsOther
    | _ => .allDisappears
  direction :=
    match value >>> 11 &&& 0x03 with
    | 1 => .input
    | 2 => .output
    | 3 => .bidirectional
    | _ => .manufacturer

/-! ## Names -/

/-- Names of channel error types, each under its number. -/
def channelErrorTypes : List (UInt16 × String) :=
  [(0x0000, "Reserved"),
   (0x0001, "Short circuit"),
   (0x0002, "Undervoltage"),
   (0x0003, "Overvoltage"),
   (0x0004, "Overload"),
   (0x0005, "Overtemperature"),
   (0x0006, "Line break"),
   (0x0007, "Upper limit value exceeded"),
   (0x0008, "Lower limit value exceeded"),
   (0x0009, "Error"),
   (0x000A, "Simulation active"),
   (0x000B, "Reserved (0x000B)"),
   (0x000C, "Reserved (0x000C)"),
   (0x000D, "Reserved (0x000D)"),
   (0x000E, "Reserved (0x000E)"),
   (0x000F, "Parameter missing"),
   (0x0010, "Parameterization fault"),
   (0x0011, "Power supply fault"),
   (0x0012, "Fuse blown / open"),
   (0x0013, "Communication fault"),
   (0x0014, "Ground fault"),
   (0x0015, "Reference point lost"),
   (0x0016, "Process event lost"),
   (0x0017, "Threshold warning"),
   (0x0018, "Output disabled"),
   (0x0019, "Functional safety event"),
   (0x001A, "External fault"),
   (0x001B, "Sensor has incorrect configuration"),
   (0x001C, "Reserved (0x001C)"),
   (0x001D, "Reserved (0x001D)"),
   (0x001E, "Reserved (0x001E)"),
   (0x001F, "Temporary fault"),
   (0x8000, "Data transmission impossible"),
   (0x8001, "Remote mismatch"),
   (0x8002, "Media redundancy mismatch"),
   (0x8003, "Sync mismatch"),
   (0x8004, "Isochronous mode mismatch"),
   (0x8005, "Multicast CR mismatch"),
   (0x8006, "Reserved (0x8006)"),
   (0x8007, "Fiber optic mismatch"),
   (0x8008, "Network component function mismatch"),
   (0x8009, "Time mismatch"),
   (0x800A, "Dynamic frame packing function mismatch"),
   (0x800B, "Media redundancy with planned duplication mismatch"),
   (0x800C, "System redundancy mismatch"),
   (0x800D, "Multiple interface mismatch"),
   (0x9500, "IO-Link device event"),
   (0x9501, "IO-Link device event (MSB cleared)"),
   (0x9502, "IO-Link port event")]

/-- What an extended type means under a channel error type that has a table of its own. -/
def extChannelErrorTypes : List ((UInt16 × UInt16) × String) :=
  [((0x8000, 0x0000), "Reserved"),
   ((0x8000, 0x8000), "Link state mismatch - Loss of link"),
   ((0x8000, 0x8001), "MAUType mismatch"),
   ((0x8000, 0x8002), "Line delay mismatch"),
   ((0x8001, 0x0000), "Reserved"),
   ((0x8001, 0x8000), "Peer name of station mismatch"),
   ((0x8001, 0x8001), "Peer name of port mismatch"),
   ((0x8001, 0x8002), "Peer RT_CLASS_3 mismatch"),
   ((0x8001, 0x8003), "Peer MAUType mismatch"),
   ((0x8001, 0x8004), "Peer MRP domain mismatch"),
   ((0x8001, 0x8005), "No peer detected"),
   ((0x8001, 0x8006), "Peer line delay mismatch"),
   ((0x8001, 0x8007), "Peer PTCP mismatch"),
   ((0x8001, 0x8008), "Peer Preamble length mismatch"),
   ((0x8001, 0x8009), "Peer Fragmentation mismatch"),
   ((0x8002, 0x0000), "Reserved"),
   ((0x8002, 0x8000), "Manager role fail"),
   ((0x8002, 0x8001), "MRP-Loss of redundancy"),
   ((0x8002, 0x8002), "Reserved (0x8002)"),
   ((0x8002, 0x8003), "MRP ring open"),
   ((0x8002, 0x8004), "MRP multiple manager"),
   ((0x8003, 0x0000), "Reserved"),
   ((0x8003, 0x8000), "No sync message received"),
   ((0x8003, 0x8001), "Jitter out of boundary"),
   ((0x8003, 0x8002), "Sync message send failure"),
   ((0x8003, 0x8003), "PTCP timeout"),
   ((0x8007, 0x0000), "Reserved"),
   ((0x8007, 0x8000), "Power budget exceeded"),
   ((0x8008, 0x0000), "Reserved"),
   ((0x8008, 0x8000), "Frame dropped - no resource"),
   ((0x8008, 0x8001), "Frame dropped - wrong destination address"),
   ((0x8008, 0x8002), "Frame dropped - no gateway"),
   ((0x8009, 0x0000), "Reserved"),
   ((0x8009, 0x8000), "No master detected"),
   ((0x8009, 0x8001), "Drift exceeded"),
   ((0x8009, 0x8002), "Time sync failure"),
   ((0x800B, 0x0000), "Reserved"),
   ((0x800B, 0x8000), "MRPD loss of redundancy")]

/-- What it means under every other. -/
def extChannelErrorTypesGeneral : List (UInt16 × String) :=
  [(0x0000, "Reserved"),
   (0x8000, "Accumulative info")]

/-- `decode_channel_error_type`: the name of an error type, or its range. -/
def decodeChannelErrorType (errorType : UInt16) : String :=
  match lookup channelErrorTypes errorType with
  | some name => name
  | none =>
    let number := "(0x" ++ hex 4 errorType.toNat ++ ")"
    if 0x0020 ≤ errorType ∧ errorType ≤ 0x00FF then "Reserved " ++ number
    else if 0x0100 ≤ errorType ∧ errorType ≤ 0x7FFF then "Manufacturer-specific " ++ number
    else if 0x800E ≤ errorType ∧ errorType ≤ 0x8FFF then "Reserved " ++ number
    else if 0x9000 ≤ errorType ∧ errorType ≤ 0x9FFF then "Profile-specific " ++ number
    else if 0xA000 ≤ errorType then "Reserved " ++ number
    else "Unknown " ++ number

/-- The name of an extended error type, under its error type or the general ones. -/
def extChannelErrorLookup (channelErrorType extErrorType : UInt16) : Option String :=
  if extChannelErrorTypes.any fun e => e.1.1 = channelErrorType then
    lookup extChannelErrorTypes (channelErrorType, extErrorType)
  else lookup extChannelErrorTypesGeneral extErrorType

/-- `decode_ext_channel_error_type`: the name of an extended error type, or its range. -/
def decodeExtChannelErrorType (channelErrorType extErrorType : UInt16) : String :=
  match extChannelErrorLookup channelErrorType extErrorType with
  | some name => name
  | none =>
    let number := "(0x" ++ hex 4 extErrorType.toNat ++ ")"
    if extErrorType = 0x8000 then "Accumulative info"
    else if 0x0001 ≤ extErrorType ∧ extErrorType ≤ 0x7FFF then "Manufacturer-specific " ++ number
    else if 0x8001 ≤ extErrorType ∧ extErrorType ≤ 0x8FFF then "Reserved " ++ number
    else if 0x9000 ≤ extErrorType ∧ extErrorType ≤ 0x9FFF then "Profile-specific " ++ number
    else "Unknown " ++ number

/-! ## Entries -/

/-- Which of the three layouts an entry has. -/
inductive DiagnosisKind where
  | channel
  | ext
  | qualified
  deriving DecidableEq, Repr

/-- Where a diagnosis belongs. -/
structure Location where
  api : UInt32
  slot : UInt16
  subslot : UInt16
  deriving DecidableEq, Repr

/-- `ChannelDiagnosis`. -/
structure ChannelDiagnosis where
  kind : DiagnosisKind
  api : UInt32
  slot : UInt16
  subslot : UInt16
  channelNumber : UInt16
  channelProperties : ChannelProperties
  errorType : UInt16
  errorTypeName : String
  extErrorType : UInt16
  extErrorTypeName : String
  extAddValue : UInt32
  qualifier : UInt32
  deriving DecidableEq, Repr

/-- `DiagnosisData`. -/
structure DiagnosisData where
  api : UInt32
  slot : UInt16
  subslot : UInt16
  entries : List ChannelDiagnosis
  rawData : List UInt8
  deriving DecidableEq, Repr

/-- A plain entry: the extended fields have their defaults. -/
def ChannelDiagnosis.plain (loc : Location) (channelNumber properties errorType : UInt16) :
    ChannelDiagnosis where
  kind := .channel
  api := loc.api
  slot := loc.slot
  subslot := loc.subslot
  channelNumber := channelNumber
  channelProperties := .fromU16 properties
  errorType := errorType
  errorTypeName := decodeChannelErrorType errorType
  extErrorType := 0
  extErrorTypeName := ""
  extAddValue := 0
  qualifier := 0

/-- What the extended kinds add to it. -/
def ChannelDiagnosis.extended (entry : ChannelDiagnosis) (kind : DiagnosisKind)
    (extErrorType : UInt16) (extAddValue qualifier : UInt32) : ChannelDiagnosis :=
  { entry with
    kind, extErrorType, extAddValue, qualifier
    extErrorTypeName := decodeExtChannelErrorType entry.errorType extErrorType }

/-- The location at `offset`, if what stands there is taken for one, and the offset of the entry
    behind it. -/
def locationAt (data : List UInt8) (loc : Location) (offset : Nat) :
    Comp (Location × { next : Nat // offset ≤ next }) := do
  let stop ← add offset 8
  if stop ≤ data.length then
    let api ← u32At data offset false
    let slot ← u16At data (← add offset 4) false
    let subslot ← u16At data (← add offset 6) false
    if api < 0x10000 ∧ slot < 0x8000 then
      return (⟨api, slot, subslot⟩, ⟨stop, by have := stop.2; omega⟩)
    else return (loc, ⟨offset, Nat.le_refl _⟩)
  else return (loc, ⟨offset, Nat.le_refl _⟩)

/-- The entry whose User Structure Identifier ends at `offset`, and the offset behind it. -/
def detailAt (data : List UInt8) (loc : Location) (channelNumber properties usi : UInt16)
    (offset : Nat) : Comp (Option (ChannelDiagnosis × { next : Nat // offset < next })) := do
  if usi = usiExtChannelDiagnosis then
    let stop ← add offset 8
    if data.length < stop then
      return none
    let errorType ← u16At data offset false
    let extErrorType ← u16At data (← add offset 2) false
    let extAddValue ← u32At data (← add offset 4) false
    let entry := ChannelDiagnosis.plain loc channelNumber properties errorType
    return some (entry.extended .ext extErrorType extAddValue 0,
      ⟨stop, stop.lt⟩)
  else if usi = usiQualifiedChannelDiagnosis then
    let stop ← add offset 12
    if data.length < stop then
      return none
    let errorType ← u16At data offset false
    let extErrorType ← u16At data (← add offset 2) false
    let extAddValue ← u32At data (← add offset 4) false
    let qualifier ← u32At data (← add offset 8) false
    let entry := ChannelDiagnosis.plain loc channelNumber properties errorType
    return some (entry.extended .qualified extErrorType extAddValue qualifier,
      ⟨stop, stop.lt⟩)
  else
    -- USI 0x8000, and any that is unknown
    let stop ← add offset 2
    if data.length < stop then
      return none
    let errorType ← u16At data offset false
    return some (.plain loc channelNumber properties errorType, ⟨stop, stop.lt⟩)

/-- The entries from `offset` on, up to the first that does not fit. -/
def entriesFrom (data : List UInt8) (loc : Location) (offset : Nat) :
    Comp (List ChannelDiagnosis) := do
  if (← add offset 6) ≤ data.length then
    let (loc, start) ← locationAt data loc offset
    let body ← add start 6
    if data.length < body then
      return []
    else
      let channelNumber ← u16At data start false
      let properties ← u16At data (← add start 2) false
      let usi ← u16At data (← add start 4) false
      match ← detailAt data loc channelNumber properties usi body with
      | none => return []
      | some (entry, next) => return entry :: (← entriesFrom data loc next)
  else return []
  termination_by data.length - offset
  decreasing_by
    have := start.2
    have := body.2
    have := next.2
    omega

/-- The block types that come with a block header in front. -/
def diagnosisBlockTypes : List UInt16 := [0x0010, 0x0011, 0x8010, 0x8011, 0x8012]

/-- `parse_diagnosis_block`: the entries behind the block header, or from the start of the data
    where there is none. -/
def parseDiagnosisBlock (data : List UInt8) (api : UInt32) (slot subslot : UInt16) :
    Comp DiagnosisData := do
  if data.length < 6 then
    return { api, slot, subslot, entries := [], rawData := data }
  let blockType ← u16At data 0 false
  let offset := if diagnosisBlockTypes.contains blockType then 6 else 0
  let entries ← entriesFrom data ⟨api, slot, subslot⟩ offset
  return { api, slot, subslot, entries, rawData := data }

/-- Flat entries from `offset` on, up to one that is all zero. -/
def flatEntriesFrom (data : List UInt8) (loc : Location) (offset : Nat) :
    Comp (List ChannelDiagnosis) := do
  let next ← add offset 6
  if next ≤ data.length then
    let channelNumber ← u16At data offset false
    let properties ← u16At data (← add offset 2) false
    let errorType ← u16At data (← add offset 4) false
    if errorType = 0 ∧ channelNumber = 0 ∧ properties = 0 then
      return []
    else
      return .plain loc channelNumber properties errorType :: (← flatEntriesFrom data loc next)
  else return []
  termination_by data.length - offset
  decreasing_by
    have := next.2
    omega

/-- `parse_diagnosis_simple`: the flat entries from the seventh byte on. -/
def parseDiagnosisSimple (data : List UInt8) (api : UInt32) (slot subslot : UInt16) :
    Comp DiagnosisData := do
  if data.length < 6 then
    return { api, slot, subslot, entries := [], rawData := data }
  let entries ← flatEntriesFrom data ⟨api, slot, subslot⟩ 6
  return { api, slot, subslot, entries, rawData := data }

/-! ## They return for every record -/

section Safety

variable {data : List UInt8} (hdata : data.length < 2 ^ 63) (loc : Location)
include hdata

/-- A location is taken from inside the record. -/
theorem locationAt_returns {offset : Nat} (hoff : offset ≤ data.length) :
    Returns (locationAt data loc offset) fun r => (r.2 : Nat) ≤ data.length := by
  refine .add (by omega) fun stop hstop => .ite (fun hfits => ?_) fun _ => returns_ok hoff
  refine .u32At hdata (by omega) fun _ _ => .add (by omega) fun slotOff hslotOff => ?_
  refine .u16At hdata (by omega) fun _ _ => .add (by omega) fun subslotOff hsubslotOff => ?_
  refine .u16At hdata (by omega) fun _ _ => .ite (fun _ => ?_) fun _ => returns_ok hoff
  exact returns_ok hfits

/-- The entry, if there is one, ends inside the record. -/
def EndsIn (data : List UInt8) {offset : Nat} :
    Option (ChannelDiagnosis × { next : Nat // offset < next }) → Prop
  | none => True
  | some (_, next) => (next : Nat) ≤ data.length

/-- The details of an entry are read within the data. -/
theorem detailAt_returns (channelNumber properties usi : UInt16) {offset : Nat}
    (hoff : offset ≤ data.length) :
    Returns (detailAt data loc channelNumber properties usi offset) (EndsIn data) := by
  refine .ite (fun _ => ?ext) fun _ => .ite (fun _ => ?qualified) fun _ => ?plain
  case ext =>
    refine .add (by omega) fun stop hstop => .ite (fun _ => returns_ok trivial) fun hfits => ?_
    refine .u16At hdata (by omega) fun _ _ => .add (by omega) fun extOff hextOff => ?_
    refine .u16At hdata (by omega) fun _ _ => .add (by omega) fun valueOff hvalueOff => ?_
    refine .u32At hdata (by omega) fun _ _ => returns_ok ?_
    exact Nat.le_of_not_lt hfits
  case qualified =>
    refine .add (by omega) fun stop hstop => .ite (fun _ => returns_ok trivial) fun hfits => ?_
    refine .u16At hdata (by omega) fun _ _ => .add (by omega) fun extOff hextOff => ?_
    refine .u16At hdata (by omega) fun _ _ => .add (by omega) fun valueOff hvalueOff => ?_
    refine .u32At hdata (by omega) fun _ _ => .add (by omega) fun qualOff hqualOff => ?_
    refine .u32At hdata (by omega) fun _ _ => returns_ok ?_
    exact Nat.le_of_not_lt hfits
  case plain =>
    refine .add (by omega) fun stop hstop => .ite (fun _ => returns_ok trivial) fun hfits => ?_
    refine .u16At hdata (by omega) fun _ _ => returns_ok ?_
    exact Nat.le_of_not_lt hfits

end Safety

/-- From any offset within the data the entries are read without a panic. -/
theorem entriesFrom_safe {data : List UInt8} (hdata : data.length < 2 ^ 63) (loc : Location)
    {offset : Nat} (hoff : offset ≤ data.length) : Safe (entriesFrom data loc offset) := by
  unfold entriesFrom
  refine .add (by omega) fun stop hstop => .ite (fun hmore => ?_) fun _ => safe_ok _
  refine (locationAt_returns hdata loc hoff).bind fun ⟨loc, start⟩ hin => ?_
  have hstart := start.2
  have hinside : (start : Nat) ≤ data.length := hin
  refine .add (by omega) fun body hbody => .ite (fun _ => safe_ok _) fun hfits => ?_
  refine .u16At hdata (by omega) fun _ _ => .add (by omega) fun propOff hpropOff => ?_
  refine .u16At hdata (by omega) fun _ _ => .add (by omega) fun usiOff husiOff => ?_
  refine .u16At hdata (by omega) ?_
  intro usi _
  refine (detailAt_returns hdata loc _ _ usi (by omega)).bind ?_
  intro r hr
  rcases r with _ | ⟨entry, next⟩
  · exact safe_ok _
  · have hnext := next.2
    exact (entriesFrom_safe hdata loc hr).bind fun _ _ => safe_ok _
  termination_by data.length - offset
  decreasing_by omega

/-- From any offset within the data the flat entries are read without a panic. -/
theorem flatEntriesFrom_safe {data : List UInt8} (hdata : data.length < 2 ^ 63) (loc : Location)
    {offset : Nat} (hoff : offset ≤ data.length) : Safe (flatEntriesFrom data loc offset) := by
  unfold flatEntriesFrom
  refine .add (by omega) fun next hnext => .ite (fun hmore => ?_) fun _ => safe_ok _
  refine .u16At hdata (by omega) fun _ _ => .add (by omega) fun propOff hpropOff => ?_
  refine .u16At hdata (by omega) fun _ _ => .add (by omega) fun errorOff herrorOff => ?_
  refine .u16At hdata (by omega) fun _ _ => .ite (fun _ => safe_ok _) fun _ => ?_
  exact (flatEntriesFrom_safe hdata loc hmore).bind fun _ _ => safe_ok _
  termination_by data.length - offset
  decreasing_by omega

section Records

variable {data : List UInt8} (hdata : data.length < 2 ^ 63) (api : UInt32) (slot subslot : UInt16)
include hdata

/-- A diagnosis record is parsed without a panic. -/
theorem parseDiagnosisBlock_safe : Safe (parseDiagnosisBlock data api slot subslot) := by
  refine .ite (fun _ => safe_ok _) fun hhead => .u16At hdata (by omega) fun blockType _ => ?_
  have hstart : (if diagnosisBlockTypes.contains blockType then 6 else 0) ≤ data.length := by
    split <;> omega
  exact (entriesFrom_safe hdata _ hstart).bind fun _ _ => safe_ok _

/-- Flat diagnosis data is parsed without a panic. -/
theorem parseDiagnosisSimple_safe : Safe (parseDiagnosisSimple data api slot subslot) := by
  refine .ite (fun _ => safe_ok _) fun hhead => ?_
  exact (flatEntriesFrom_safe hdata _ (by omega)).bind fun _ _ => safe_ok _

end Records

end Profinet.Diagnosis
