/-
  IDENTIFICATION: the records in which a device lists what is plugged into it.

      RealIdentificationData (0xF000, 0x0013)   slots and their subslots; from version 1.1 on under
                                                their APIs
      I&M0FilterData (0xF840)                   the same as a map: API, slot, subslot

  Both are loops in loops, each counted by a word in front of it.  The first gives what was read
  before the bytes ran out; the second fails where they do.
-/
import Mathlib.Data.List.Basic
import Profinet.Im
import Profinet.Lib.CountedLoop

namespace Profinet.Im

open Wire Checked Counted Std

/-! ## Real identification data -/

/-- `RealIdentificationData`. -/
structure RealIdentificationData where
  slots : List SlotInfo
  version : UInt8 × UInt8
  deriving DecidableEq, Repr

/-- One round of the loop over subslots. -/
def realSubslotAt (data : List UInt8) (api : UInt32) (slotNr : UInt16) (moduleIdent : UInt32)
    (offset : Nat) : Comp (Option (List SlotInfo × Nat)) := do
  let next ← add offset 6
  if data.length < next then
    return none
  let subslot ← u16At data offset false
  let submoduleIdent ← u32At data (← add offset 2) false
  return some ([{ slot := slotNr, subslot := subslot, api := api, moduleIdent := moduleIdent,
                  submoduleIdent := submoduleIdent, blocks := [] }], next)

/-- One round of the loop over slots. -/
def realSlotAt (data : List UInt8) (api : UInt32) (offset : Nat) :
    Comp (Option (List SlotInfo × Nat)) := do
  let next ← add offset 8
  if data.length < next then
    return none
  let slotNr ← u16At data offset false
  let moduleIdent ← u32At data (← add offset 2) false
  let numSubslots ← u16At data (← add offset 6) false
  return some (← countedFrom (realSubslotAt data api slotNr moduleIdent) numSubslots.toNat next)

/-- One round of the loop over APIs. -/
def realApiAt (data : List UInt8) (offset : Nat) : Comp (Option (List SlotInfo × Nat)) := do
  let next ← add offset 6
  if data.length < next then
    return none
  let api ← u32At data offset false
  let numSlots ← u16At data (← add offset 4) false
  return some (← countedFrom (realSlotAt data api) numSlots.toNat next)

/-- The version of the outer block header and the offset behind it: version 1.0 at 0 where there
    is none. -/
def realVersion (data : List UInt8) : Comp ((UInt8 × UInt8) × Nat) := do
  if 6 ≤ data.length then
    match ← parseBlockHeader data 0 with
    | .error _ => return ((1, 0), 0)
    | .ok (header, offset) => return ((header.versionHigh, header.versionLow), offset)
  else return ((1, 0), 0)

/-- `parse_real_identification_data`: all APIs with their slots, as far as the record reaches. -/
def parseRealIdentificationData (data : List UInt8) : Comp RealIdentificationData := do
  let (version, offset) ← realVersion data
  let next ← add offset 2
  if data.length < next then
    return ⟨[], version⟩
  let count ← u16At data offset false
  if 1 ≤ version.1 ∧ 1 ≤ version.2 then
    let (slots, _) ← countedFrom (realApiAt data) count.toNat next
    return ⟨slots, version⟩
  else
    -- version 1.0: no API level
    let (slots, _) ← countedFrom (realSlotAt data 0) count.toNat next
    return ⟨slots, version⟩

/-! ## I&M0 filter data -/

/-- Slot to module and subslots. -/
abbrev ModuleMap := ExtTreeMap UInt16 (UInt32 × ExtTreeMap UInt16 UInt32)

/-- API to slot to module and subslots (`InM0FilterData`). -/
abbrev InM0FilterData := ExtTreeMap UInt32 ModuleMap

/-- One round of the loop over subslots. -/
def filterSubslotAt (data : List UInt8) (subslots : ExtTreeMap UInt16 UInt32) (offset : Nat) :
    Comp (Except String (ExtTreeMap UInt16 UInt32 × Nat)) := do
  let next ← add offset 6
  if data.length < next then
    return .error "InM0FilterData: truncated subslot entry"
  let subslotNumber ← u16At data offset false
  let submoduleIdentNumber ← u32At data (← add offset 2) false
  return .ok (subslots.insert subslotNumber submoduleIdentNumber, next)

/-- One round of the loop over modules. -/
def filterModuleAt (data : List UInt8) (modules : ModuleMap) (offset : Nat) :
    Comp (Except String (ModuleMap × Nat)) := do
  let next ← add offset 8
  if data.length < next then
    return .error "InM0FilterData: truncated module header"
  let slotNumber ← u16At data offset false
  let moduleIdentNum ← u32At data (← add offset 2) false
  let numSubslots ← u16At data (← add offset 6) false
  match ← everyFrom (filterSubslotAt data) numSubslots.toNat ∅ next with
  | .error e => return .error e
  | .ok (subslots, next) => return .ok (modules.insert slotNumber (moduleIdentNum, subslots), next)

/-- One round of the loop over APIs.  The map of an API begins empty, also where the API has been
    listed before; the source inserts it first and fills it where it finds it again. -/
def filterApiAt (data : List UInt8) (result : InM0FilterData) (offset : Nat) :
    Comp (Except String (InM0FilterData × Nat)) := do
  let next ← add offset 6
  if data.length < next then
    return .error "InM0FilterData: truncated API header"
  let api ← u32At data offset false
  let numModules ← u16At data (← add offset 4) false
  match ← everyFrom (filterModuleAt data) numModules.toNat ∅ next with
  | .error e => return .error e
  | .ok (modules, next) => return .ok (result.insert api modules, next)

/-- `parse_inm0_filter`. -/
def parseInm0Filter (data : List UInt8) : Comp (Except String InM0FilterData) := do
  match ← parseBlockHeader data 0 with
  | .error e => return .error e
  | .ok _ =>
    let data ← sliceFrom data 6
    if data.val.length < 2 then
      return .error "InM0FilterData: truncated API count"
    let numApi ← u16At data 0 false
    match ← everyFrom (filterApiAt data) numApi.toNat ∅ 2 with
    | .error e => return .error e
    | .ok (result, _) => return .ok result

/-! ## They return for every record -/

section Rounds

variable {data : List UInt8} (hdata : data.length < 2 ^ 63) {offset : Nat}
  (hoff : offset ≤ data.length)
include hdata hoff

/-! Every round ends inside the record. -/

theorem realSubslotAt_returns (api : UInt32) (slotNr : UInt16) (moduleIdent : UInt32) :
    Returns (realSubslotAt data api slotNr moduleIdent offset) fun r =>
      ∀ found p', r = some (found, p') → p' ≤ data.length := by
  refine .add (by omega) fun next hnext => .ite (fun _ => returns_ok nofun) fun hfits => ?_
  refine .u16At hdata (by omega) fun _ _ => .add (by omega) fun identOff hidentOff => ?_
  refine .u32At hdata (by omega) fun _ _ => returns_ok fun _ _ heq => ?_
  cases heq
  omega

theorem realSlotAt_returns (api : UInt32) :
    Returns (realSlotAt data api offset) fun r =>
      ∀ found p', r = some (found, p') → p' ≤ data.length := by
  refine .add (by omega) fun next hnext => .ite (fun _ => returns_ok nofun) fun hfits => ?_
  refine .u16At hdata (by omega) fun slotNr _ => .add (by omega) fun identOff hidentOff => ?_
  refine .u32At hdata (by omega) fun ident _ => .add (by omega) fun countOff hcountOff => ?_
  refine .u16At hdata (by omega) ?_
  intro count _
  refine (returns_countedFrom (Q := (· ≤ data.length))
    (fun p hp => realSubslotAt_returns hdata hp api slotNr ident) count.toNat (by omega)).bind ?_
  intro r hr
  refine returns_ok ?_
  intro found p' heq
  cases heq
  exact hr

theorem realApiAt_returns :
    Returns (realApiAt data offset) fun r =>
      ∀ found p', r = some (found, p') → p' ≤ data.length := by
  refine .add (by omega) fun next hnext => .ite (fun _ => returns_ok nofun) fun hfits => ?_
  refine .u32At hdata (by omega) fun api _ => .add (by omega) fun countOff hcountOff => ?_
  refine .u16At hdata (by omega) ?_
  intro count _
  refine (returns_countedFrom (Q := (· ≤ data.length))
    (fun p hp => realSlotAt_returns hdata hp api) count.toNat (by omega)).bind ?_
  intro r hr
  refine returns_ok ?_
  intro found p' heq
  cases heq
  exact hr

theorem filterSubslotAt_returns (subslots : ExtTreeMap UInt16 UInt32) :
    Returns (filterSubslotAt data subslots offset) fun r =>
      ∀ s' p', r = .ok (s', p') → p' ≤ data.length := by
  refine .add (by omega) fun next hnext => .ite (fun _ => returns_ok nofun) fun hfits => ?_
  refine .u16At hdata (by omega) fun _ _ => .add (by omega) fun identOff hidentOff => ?_
  refine .u32At hdata (by omega) fun _ _ => returns_ok fun _ _ heq => ?_
  cases heq
  omega

theorem filterModuleAt_returns (modules : ModuleMap) :
    Returns (filterModuleAt data modules offset) fun r =>
      ∀ s' p', r = .ok (s', p') → p' ≤ data.length := by
  refine .add (by omega) fun next hnext => .ite (fun _ => returns_ok nofun) fun hfits => ?_
  refine .u16At hdata (by omega) fun _ _ => .add (by omega) fun identOff hidentOff => ?_
  refine .u32At hdata (by omega) fun _ _ => .add (by omega) fun countOff hcountOff => ?_
  refine .u16At hdata (by omega) ?_
  intro count _
  refine (returns_everyFrom (Q := (· ≤ data.length))
    (fun s p hp => filterSubslotAt_returns hdata hp s) count.toNat ∅ (by omega)).bind fun r hr => ?_
  rcases r with e | ⟨subslots, next'⟩
  · exact returns_ok nofun
  · refine returns_ok ?_
    intro s' p' heq
    cases heq
    exact hr subslots next' rfl

theorem filterApiAt_returns (result : InM0FilterData) :
    Returns (filterApiAt data result offset) fun r =>
      ∀ s' p', r = .ok (s', p') → p' ≤ data.length := by
  refine .add (by omega) fun next hnext => .ite (fun _ => returns_ok nofun) fun hfits => ?_
  refine .u32At hdata (by omega) fun _ _ => .add (by omega) fun countOff hcountOff => ?_
  refine .u16At hdata (by omega) ?_
  intro count _
  refine (returns_everyFrom (Q := (· ≤ data.length))
    (fun s p hp => filterModuleAt_returns hdata hp s) count.toNat ∅ (by omega)).bind fun r hr => ?_
  rcases r with e | ⟨modules, next'⟩
  · exact returns_ok nofun
  · refine returns_ok ?_
    intro s' p' heq
    cases heq
    exact hr modules next' rfl

end Rounds

section Records

variable {data : List UInt8} (hdata : data.length < 2 ^ 63)
include hdata

theorem realVersion_returns :
    Returns (realVersion data) fun r => r.2 ≤ data.length := by
  refine .ite (fun hhead => ?_) fun _ => returns_ok (Nat.zero_le _)
  refine (parseBlockHeader_returns hdata (by omega)).bind ?_
  intro r hr
  rcases r with e | ⟨header, body⟩
  · exact returns_ok (Nat.zero_le _)
  · have hbody := body.2
    refine returns_ok ?_
    show (body : Nat) ≤ data.length
    omega

theorem parseRealIdentificationData_safe : Safe (parseRealIdentificationData data) := by
  refine (realVersion_returns hdata).bind fun ⟨version, offset⟩ hoff => ?_
  have hoff : offset ≤ data.length := hoff
  refine .add (by omega) fun next hnext => .ite (fun _ => safe_ok _) fun hfits => ?_
  refine .u16At hdata (by omega) fun count _ => .ite (fun _ => ?_) fun _ => ?_
  · exact (returns_countedFrom (Q := (· ≤ data.length)) (fun p hp => realApiAt_returns hdata hp)
      count.toNat (by omega)).bind fun _ _ => safe_ok _
  · exact (returns_countedFrom (Q := (· ≤ data.length)) (fun p hp => realSlotAt_returns hdata hp 0)
      count.toNat (by omega)).bind fun _ _ => safe_ok _

theorem parseInm0Filter_safe : Safe (parseInm0Filter data) := by
  refine (parseBlockHeader_returns hdata (by omega)).bind ?_
  intro r hr
  rcases r with e | ⟨header, body⟩
  · exact safe_ok _
  have hhead : 0 + 6 ≤ data.length := hr header body rfl
  refine .sliceFrom (by omega) fun w hw => .ite (fun _ => safe_ok _) fun hcount => ?_
  have hwindow : w.val.length < 2 ^ 63 := by omega
  refine .u16At hwindow (by omega) ?_
  intro count _
  refine (returns_everyFrom (Q := (· ≤ w.val.length))
    (fun s p hp => filterApiAt_returns hwindow hp s) count.toNat ∅ (by omega)).bind fun r _ => ?_
  rcases r with e | ⟨result, _⟩
  · exact safe_ok _
  · exact safe_ok _

end Records

end Profinet.Im
