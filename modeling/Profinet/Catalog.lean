/-
  CATALOG: what a GSDML file describes, and the slot lists that are built from it.

  A device has access points (DAPs), modules and submodules.  A module either lists its submodules
  itself, or refers to the catalog of submodules and says where each may be plugged.

      buildIoSlots             the slots of an assignment, or of the places the catalog fixes
      buildIoSlotsFromDevice   the slots a device reports, with the lengths the catalog has for them

  Both copy the two lengths of a submodule from the catalog: no slot is longer than the longest
  submodule (`Capped`).
-/
import Profinet.Gsdml
import Profinet.Lib.Walk

namespace Profinet.Gsdml

open Std Walk

/-! ## The catalog -/

/-- A submodule of the catalog: its ident number and the lengths of its input and output data. -/
structure GsdmlSubmodule where
  id : String
  submoduleIdent : UInt32
  inputLength : Nat
  outputLength : Nat
  deriving DecidableEq, Repr

/-- A reference to a module or submodule, with the places it is fixed in or allowed in. -/
structure ItemRef where
  target : String
  fixed : List UInt16
  allowed : List UInt16
  deriving DecidableEq, Repr

/-- A module of the catalog, with the submodules built into it and those it allows in its
    subslots. -/
structure GsdmlModule where
  id : String
  moduleIdent : UInt32
  /-- Inline submodules. -/
  submodules : List GsdmlSubmodule
  /-- References to the submodule catalog. -/
  useableSubmodules : List ItemRef
  deriving DecidableEq, Repr

/-- An interface or a port. -/
structure GsdmlSystemSubmodule where
  subslotNumber : UInt16
  submoduleIdent : UInt32
  deriving DecidableEq, Repr

/-- Device access point. -/
structure GsdmlDap where
  id : String
  moduleIdent : UInt32
  submodules : List GsdmlSubmodule
  systemSubmodules : List GsdmlSystemSubmodule
  useableModules : List ItemRef
  deriving DecidableEq, Repr

/-- What is kept of a GSDML file: the access points, the modules and the submodule catalog. -/
structure GsdmlDevice where
  vendorId : UInt16
  deviceId : UInt16
  daps : List GsdmlDap
  modules : List GsdmlModule
  submoduleCatalog : List GsdmlSubmodule
  deriving DecidableEq, Repr

/-- A slot a device reports. -/
structure DeviceSlot where
  slot : UInt16
  subslot : UInt16
  moduleIdent : UInt32
  submoduleIdent : UInt32
  deriving DecidableEq, Repr

/-- Why no access point is chosen. -/
inductive DapError where
  | noDap
  | notFound (id : String)
  deriving DecidableEq, Repr

/-- The text of the error. -/
def DapError.message : DapError → String
  | .noDap => "No DAP found in GSDML"
  | .notFound id => "DAP '" ++ id ++ "' not found"

namespace GsdmlDevice

/-- The access point of that name, the first one without a name. -/
def getDap (device : GsdmlDevice) (dapId : Option String) : Except DapError GsdmlDap :=
  match device.daps with
  | [] => .error .noDap
  | first :: _ =>
    match dapId with
    | none => .ok first
    | some id =>
      match device.daps.find? (·.id = id) with
      | some dap => .ok dap
      | none => .error (.notFound id)

/-- `GsdmlDevice::module`: the first module of that id. -/
def module (device : GsdmlDevice) (id : String) : Option GsdmlModule :=
  device.modules.find? (·.id = id)

/-- `GsdmlDevice::catalog_submodule`: the first catalog submodule of that id. -/
def catalogSubmodule (device : GsdmlDevice) (id : String) : Option GsdmlSubmodule :=
  device.submoduleCatalog.find? (·.id = id)

/-! ## Slots of an assignment -/

end GsdmlDevice

/-- A submodule of the catalog in its place. -/
def GsdmlSubmodule.at (sub : GsdmlSubmodule) (slot subslot : UInt16) (moduleIdent : UInt32) :
    IoSlot where
  slot := slot
  subslot := subslot
  moduleIdent := moduleIdent
  submoduleIdent := sub.submoduleIdent
  inputLength := sub.inputLength
  outputLength := sub.outputLength

/-- Inline submodules take the subslots from 1 on: `i as u16 + 1`. -/
def inlineSlots (submodules : List GsdmlSubmodule) (slot : UInt16) (moduleIdent : UInt32) :
    List IoSlot :=
  submodules.mapIdx fun i sub => sub.at slot (UInt16.ofNat i + 1) moduleIdent

/-- An interface or a port has no process data. -/
def GsdmlSystemSubmodule.slot (sub : GsdmlSystemSubmodule) (moduleIdent : UInt32) : IoSlot where
  slot := 0
  subslot := sub.subslotNumber
  moduleIdent := moduleIdent
  submoduleIdent := sub.submoduleIdent
  inputLength := 0
  outputLength := 0

/-- Every place an item is fixed in, with the item. -/
def fixedPlaces (refs : List ItemRef) : List (UInt16 × String) :=
  refs.flatMap fun r => r.fixed.map fun place => (place, r.target)

namespace GsdmlDevice

/-- Subslots and the submodules in them: the fixed ones, overridden by those of the caller; then
    those the catalog knows, by subslot (`add_useable_submodule_slots`). -/
def useableSubmoduleSlots (device : GsdmlDevice) (module : GsdmlModule) (slotNum : UInt16)
    (subslotAssign : ExtTreeMap UInt16 String) : List IoSlot :=
  let fixed := (∅ : ExtTreeMap UInt16 String).insertMany (fixedPlaces module.useableSubmodules)
  let resolved := fixed.insertMany subslotAssign.toList
  resolved.toList.filterMap fun (subslotNum, subId) =>
    (device.catalogSubmodule subId).map fun sub => sub.at slotNum subslotNum module.moduleIdent

/-- The slots of one module of the assignment; none if the catalog does not know it. -/
def moduleSlots (device : GsdmlDevice)
    (submoduleAssignment : Option (ExtTreeMap UInt16 (ExtTreeMap UInt16 String)))
    (slotNum : UInt16) (modId : String) : List IoSlot :=
  match device.module modId with
  | none => []
  | some module =>
    if module.submodules ≠ [] then inlineSlots module.submodules slotNum module.moduleIdent
    else if module.useableSubmodules ≠ [] then
      let subslotAssign := (submoduleAssignment.bind fun a => a[slotNum]?).getD ∅
      device.useableSubmoduleSlots module slotNum subslotAssign
    else []

/-- The access point's own submodules, its interface and ports, then the modules by slot. -/
def buildIoSlots (device : GsdmlDevice) (slotAssignment : Option (ExtTreeMap UInt16 String))
    (submoduleAssignment : Option (ExtTreeMap UInt16 (ExtTreeMap UInt16 String)))
    (dapId : Option String) : Except DapError (List IoSlot) := do
  let dap ← device.getDap dapId
  let assignment := match slotAssignment with
    | some a => a
    | none => ExtTreeMap.ofList (fixedPlaces dap.useableModules)
  return inlineSlots dap.submodules 0 dap.moduleIdent
    ++ dap.systemSubmodules.map (fun sub => sub.slot dap.moduleIdent)
    ++ assignment.toList.flatMap fun (slotNum, modId) =>
        device.moduleSlots submoduleAssignment slotNum modId

/-! ## Slots of a device -/

/-- What the catalog says of a module ident and a submodule ident, in the order it is found: a later
    entry replaces an earlier one. -/
def idents (device : GsdmlDevice) (dap : GsdmlDap) : List ((UInt32 × UInt32) × (Nat × Nat)) :=
  let entry (moduleIdent : UInt32) (sub : GsdmlSubmodule) :=
    ((moduleIdent, sub.submoduleIdent), (sub.inputLength, sub.outputLength))
  dap.submodules.map (entry dap.moduleIdent)
    ++ dap.systemSubmodules.map (fun sub => ((dap.moduleIdent, sub.submoduleIdent), (0, 0)))
    ++ device.modules.flatMap fun module =>
        module.submodules.map (entry module.moduleIdent)
          ++ (module.useableSubmodules.filterMap fun r => device.catalogSubmodule r.target).map
              (entry module.moduleIdent)

/-- `ident_lookup`: module ident to submodule ident to the two lengths. -/
abbrev IdentLookup := HashMap UInt32 (HashMap UInt32 (Nat × Nat))

/-- `entry(module).or_default().insert(submodule, lengths)`. -/
def register (lookup : IdentLookup) (e : (UInt32 × UInt32) × (Nat × Nat)) : IdentLookup :=
  lookup.insert e.1.1 ((lookup.getD e.1.1 ∅).insert e.1.2 e.2)

/-- The table in which the idents a device reports are looked up: of the access point, then of the
    modules with their catalog submodules, a later pair replacing an earlier one. -/
def identLookup (device : GsdmlDevice) (dap : GsdmlDap) : IdentLookup :=
  (device.idents dap).foldl register ∅

/-- The lengths of a pair of idents; 0 if it is unknown. -/
def lengthsOf (lookup : IdentLookup) (moduleIdent submoduleIdent : UInt32) : Nat × Nat :=
  (lookup[moduleIdent]?.bind fun subs => subs[submoduleIdent]?).getD (0, 0)

/-- `build_io_slots_from_device`: the slots of what the device reports, with the catalog's
    lengths. -/
def buildIoSlotsFromDevice (device : GsdmlDevice) (deviceSlots : List DeviceSlot)
    (dapId : Option String) : Except DapError (List IoSlot) := do
  let dap ← device.getDap dapId
  let lookup := device.identLookup dap
  return deviceSlots.map fun ds =>
    let (inputLength, outputLength) := lengthsOf lookup ds.moduleIdent ds.submoduleIdent
    { slot := ds.slot, subslot := ds.subslot, moduleIdent := ds.moduleIdent,
      submoduleIdent := ds.submoduleIdent, inputLength, outputLength }

end GsdmlDevice

/-! ## Slots are no longer than the catalog's submodules -/

/-- Neither direction is longer than `cap`. -/
def GsdmlSubmodule.Capped (cap : Nat) (sub : GsdmlSubmodule) : Prop :=
  sub.inputLength ≤ cap ∧ sub.outputLength ≤ cap

/-- A slot's data lengths stay within the cap. -/
def IoSlot.Capped (cap : Nat) (s : IoSlot) : Prop := s.inputLength ≤ cap ∧ s.outputLength ≤ cap

/-- Every data length of the catalog stays within the cap. -/
structure GsdmlDevice.Capped (cap : Nat) (device : GsdmlDevice) : Prop where
  daps : ∀ dap ∈ device.daps, ∀ sub ∈ dap.submodules, sub.Capped cap
  modules : ∀ module ∈ device.modules, ∀ sub ∈ module.submodules, sub.Capped cap
  submoduleCatalog : ∀ sub ∈ device.submoduleCatalog, sub.Capped cap

/-- The slots of built-in submodules stay within the cap. -/
theorem inlineSlots_capped {cap : Nat} {submodules : List GsdmlSubmodule}
    (h : ∀ sub ∈ submodules, sub.Capped cap) (slot : UInt16) (moduleIdent : UInt32) :
    ∀ s ∈ inlineSlots submodules slot moduleIdent, s.Capped cap := by
  intro s hs
  obtain ⟨i, hi, rfl⟩ := List.mem_mapIdx.mp hs
  exact h _ (List.getElem_mem hi)

namespace GsdmlDevice

variable {cap : Nat} {device : GsdmlDevice}

/-- The access point chosen is one of the file's. -/
theorem getDap_mem {dapId : Option String} {dap : GsdmlDap} (h : device.getDap dapId = .ok dap) :
    dap ∈ device.daps := by
  unfold getDap at h
  split at h
  · nomatch h
  · rename_i first rest hdaps
    split at h
    · cases h
      rw [hdaps]
      exact List.mem_cons_self
    · split at h
      · rename_i found hfound
        cases h
        exact List.mem_of_find?_eq_some hfound
      · nomatch h

/-- A catalog submodule found by its id stays within the cap. -/
theorem catalogSubmodule_capped (hdevice : device.Capped cap) {id : String} {sub : GsdmlSubmodule}
    (h : device.catalogSubmodule id = some sub) : sub.Capped cap :=
  hdevice.submoduleCatalog sub (List.mem_of_find?_eq_some h)

/-- The slots of one module, its assigned submodules included, stay within the cap. -/
theorem moduleSlots_capped (hdevice : device.Capped cap)
    (submoduleAssignment : Option (ExtTreeMap UInt16 (ExtTreeMap UInt16 String)))
    (slotNum : UInt16) (modId : String) :
    ∀ s ∈ device.moduleSlots submoduleAssignment slotNum modId, s.Capped cap := by
  unfold moduleSlots
  cases hmodule : device.module modId with
  | none => exact fun s hs => nomatch hs
  | some module =>
    have hmem : module ∈ device.modules := List.mem_of_find?_eq_some hmodule
    simp only
    split
    · exact inlineSlots_capped (hdevice.modules module hmem) slotNum module.moduleIdent
    · split
      · intro s hs
        obtain ⟨⟨subslotNum, subId⟩, -, hs⟩ := List.mem_filterMap.mp hs
        obtain ⟨sub, hsub, rfl⟩ := Option.map_eq_some_iff.mp hs
        exact catalogSubmodule_capped hdevice hsub
      · exact fun s hs => nomatch hs

/-- Every slot built from an assignment stays within the catalog's cap. -/
theorem buildIoSlots_capped (hdevice : device.Capped cap)
    {slotAssignment : Option (ExtTreeMap UInt16 String)}
    {submoduleAssignment : Option (ExtTreeMap UInt16 (ExtTreeMap UInt16 String))}
    {dapId : Option String} {slots : List IoSlot}
    (h : device.buildIoSlots slotAssignment submoduleAssignment dapId = .ok slots) :
    ∀ s ∈ slots, s.Capped cap := by
  obtain ⟨dap, hdap, h⟩ := ok_of_bind h
  cases h
  intro s hs
  rcases List.mem_append.mp hs with hs | hs
  · rcases List.mem_append.mp hs with hs | hs
    · exact inlineSlots_capped (hdevice.daps dap (getDap_mem hdap)) 0 dap.moduleIdent s hs
    · obtain ⟨sub, -, rfl⟩ := List.mem_map.mp hs
      exact ⟨Nat.zero_le _, Nat.zero_le _⟩
  · obtain ⟨⟨slotNum, modId⟩, -, hs⟩ := List.mem_flatMap.mp hs
    exact moduleSlots_capped hdevice submoduleAssignment slotNum modId s hs

/-- Everything the catalog says of a pair of idents is capped. -/
theorem idents_capped (hdevice : device.Capped cap) {dap : GsdmlDap} (hdap : dap ∈ device.daps) :
    ∀ e ∈ device.idents dap, e.2.1 ≤ cap ∧ e.2.2 ≤ cap := by
  intro e he
  rcases List.mem_append.mp he with he | he
  · rcases List.mem_append.mp he with he | he
    · obtain ⟨sub, hsub, rfl⟩ := List.mem_map.mp he
      exact hdevice.daps dap hdap sub hsub
    · obtain ⟨sub, -, rfl⟩ := List.mem_map.mp he
      exact ⟨Nat.zero_le _, Nat.zero_le _⟩
  · obtain ⟨module, hmodule, he⟩ := List.mem_flatMap.mp he
    rcases List.mem_append.mp he with he | he
    · obtain ⟨sub, hsub, rfl⟩ := List.mem_map.mp he
      exact hdevice.modules module hmodule sub hsub
    · obtain ⟨sub, hsub, rfl⟩ := List.mem_map.mp he
      obtain ⟨r, -, hsub⟩ := List.mem_filterMap.mp hsub
      exact catalogSubmodule_capped hdevice hsub

/-- In an empty table no idents have data. -/
theorem lengthsOf_empty (moduleIdent submoduleIdent : UInt32) :
    lengthsOf ∅ moduleIdent submoduleIdent = (0, 0) := by
  unfold lengthsOf
  rw [HashMap.getElem?_empty]
  rfl

/-- The entry registered last is the one found. -/
theorem lengthsOf_register (lookup : IdentLookup) (e : (UInt32 × UInt32) × (Nat × Nat))
    (moduleIdent submoduleIdent : UInt32) :
    lengthsOf (register lookup e) moduleIdent submoduleIdent =
      if e.1 = (moduleIdent, submoduleIdent) then e.2
      else lengthsOf lookup moduleIdent submoduleIdent := by
  obtain ⟨⟨m, s⟩, lengths⟩ := e
  unfold lengthsOf register
  rw [HashMap.getElem?_insert]
  by_cases hm : m = moduleIdent
  · subst hm
    rw [if_pos (by simp), Option.bind_some, HashMap.getElem?_insert,
      HashMap.getD_eq_getD_getElem?]
    by_cases hs : s = submoduleIdent
    · rw [if_pos (by simpa using hs), if_pos (by rw [hs])]
      rfl
    · rw [if_neg (by simpa using hs), if_neg (by simpa using hs)]
      cases lookup[m]? with
      | none => simp
      | some subs => rfl
  · rw [if_neg (by simpa using hm), if_neg (fun h => hm (Prod.mk.inj h).1)]

/-- What is found is what was registered, or nothing. -/
theorem lengthsOf_foldl {P : Nat × Nat → Prop} {entries : List ((UInt32 × UInt32) × (Nat × Nat))}
    (hentries : ∀ e ∈ entries, P e.2) {lookup : IdentLookup} {moduleIdent submoduleIdent : UInt32}
    (h : P (lengthsOf lookup moduleIdent submoduleIdent)) :
    P (lengthsOf (entries.foldl register lookup) moduleIdent submoduleIdent) := by
  induction entries generalizing lookup with
  | nil => exact h
  | cons e entries ih =>
    refine ih (fun e he => hentries e (List.mem_cons_of_mem _ he)) ?_
    rw [lengthsOf_register]
    split
    · exact hentries e List.mem_cons_self
    · exact h

/-- Every slot built from a device report stays within the catalog's cap. -/
theorem buildIoSlotsFromDevice_capped (hdevice : device.Capped cap)
    {deviceSlots : List DeviceSlot} {dapId : Option String} {slots : List IoSlot}
    (h : device.buildIoSlotsFromDevice deviceSlots dapId = .ok slots) :
    ∀ s ∈ slots, s.Capped cap := by
  obtain ⟨dap, hdap, h⟩ := ok_of_bind h
  cases h
  intro s hs
  obtain ⟨ds, -, rfl⟩ := List.mem_map.mp hs
  refine lengthsOf_foldl (P := fun lengths => lengths.1 ≤ cap ∧ lengths.2 ≤ cap)
    (idents_capped hdevice (getDap_mem hdap)) ?_
  rw [lengthsOf_empty]
  exact ⟨Nat.zero_le _, Nat.zero_le _⟩

end GsdmlDevice

end Profinet.Gsdml
