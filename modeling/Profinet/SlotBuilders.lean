/-
  SLOT BUILDERS: the slots of an assignment, looked up again by their idents.

  One builder walks the catalog by names, the other asks a table of idents what the device reports.
  `Listed` says where a catalog lists a pair of idents, and with which lengths: what the table was
  filled from (`mem_idents_iff`) and what every slot of the first builder was copied from
  (`buildIoSlots_copied`).  Where each pair is listed with one length, the table has it, in whatever
  order it was filled (`lengthsOf_listed`), and the second builder gives back what it is given.
-/
import Profinet.Catalog

namespace Profinet.Gsdml

open Std Walk

/-! ## Where a catalog lists a pair of idents -/

/-- Both data lengths of a submodule. -/
def GsdmlSubmodule.lengths (sub : GsdmlSubmodule) : Nat × Nat := (sub.inputLength, sub.outputLength)

/-- A catalog, seen from one of its access points, lists a pair of module and submodule ident with
    these input and output lengths. -/
inductive Listed (device : GsdmlDevice) (dap : GsdmlDap) : UInt32 × UInt32 → Nat × Nat → Prop
  | dapSubmodule {sub : GsdmlSubmodule} : sub ∈ dap.submodules →
      Listed device dap (dap.moduleIdent, sub.submoduleIdent) sub.lengths
  /-- An interface or a port has no process data. -/
  | systemSubmodule {sub : GsdmlSystemSubmodule} : sub ∈ dap.systemSubmodules →
      Listed device dap (dap.moduleIdent, sub.submoduleIdent) (0, 0)
  | inlined {module : GsdmlModule} {sub : GsdmlSubmodule} : module ∈ device.modules →
      sub ∈ module.submodules → Listed device dap (module.moduleIdent, sub.submoduleIdent) sub.lengths
  | useable {module : GsdmlModule} {r : ItemRef} {sub : GsdmlSubmodule} : module ∈ device.modules →
      r ∈ module.useableSubmodules → device.catalogSubmodule r.target = some sub →
      Listed device dap (module.moduleIdent, sub.submoduleIdent) sub.lengths

/-- Each pair of idents has one length wherever it is listed. -/
def OneLength (device : GsdmlDevice) : Prop :=
  ∀ dap ∈ device.daps, ∀ pair lengths lengths', Listed device dap pair lengths →
    Listed device dap pair lengths' → lengths = lengths'

/-- The modules of an assignment; without one, those the access point fixes in a slot. -/
def GsdmlDap.assigned (dap : GsdmlDap) (slotAssignment : Option (ExtTreeMap UInt16 String)) :
    ExtTreeMap UInt16 String :=
  match slotAssignment with
  | some a => a
  | none => ExtTreeMap.ofList (fixedPlaces dap.useableModules)

/-- Every submodule that is assigned to a subslot is useable in the module of that slot. -/
def Useable (device : GsdmlDevice) (dap : GsdmlDap)
    (slotAssignment : Option (ExtTreeMap UInt16 String))
    (submoduleAssignment : Option (ExtTreeMap UInt16 (ExtTreeMap UInt16 String))) : Prop :=
  ∀ (slotNum subslotNum : UInt16) (modId subId : String) (module : GsdmlModule)
    (subslotAssign : ExtTreeMap UInt16 String),
    (dap.assigned slotAssignment)[slotNum]? = some modId → device.module modId = some module →
    (submoduleAssignment.bind fun a => a[slotNum]?) = some subslotAssign →
    subslotAssign[subslotNum]? = some subId →
    ∃ r ∈ module.useableSubmodules, r.target = subId

/-- A slot as a device reports it. -/
def IoSlot.reported (s : IoSlot) : DeviceSlot where
  slot := s.slot
  subslot := s.subslot
  moduleIdent := s.moduleIdent
  submoduleIdent := s.submoduleIdent

namespace GsdmlDevice

variable {device : GsdmlDevice} {dap : GsdmlDap}

/-! ## The table of idents -/

/-- The table is filled with what the catalog lists, and with nothing else. -/
theorem mem_idents_iff {pair : UInt32 × UInt32} {lengths : Nat × Nat} :
    (pair, lengths) ∈ device.idents dap ↔ Listed device dap pair lengths := by
  unfold idents
  constructor
  · intro h
    rcases List.mem_append.mp h with h | h
    · rcases List.mem_append.mp h with h | h
      · obtain ⟨sub, hsub, heq⟩ := List.mem_map.mp h
        cases heq
        exact .dapSubmodule hsub
      · obtain ⟨sub, hsub, heq⟩ := List.mem_map.mp h
        cases heq
        exact .systemSubmodule hsub
    · obtain ⟨module, hmodule, h⟩ := List.mem_flatMap.mp h
      rcases List.mem_append.mp h with h | h
      · obtain ⟨sub, hsub, heq⟩ := List.mem_map.mp h
        cases heq
        exact .inlined hmodule hsub
      · obtain ⟨sub, hsub, heq⟩ := List.mem_map.mp h
        obtain ⟨r, hr, hcatalog⟩ := List.mem_filterMap.mp hsub
        cases heq
        exact .useable hmodule hr hcatalog
  · intro h
    cases h with
    | dapSubmodule hsub =>
      exact List.mem_append_left _ (List.mem_append_left _ (List.mem_map.mpr ⟨_, hsub, rfl⟩))
    | systemSubmodule hsub =>
      exact List.mem_append_left _ (List.mem_append_right _ (List.mem_map.mpr ⟨_, hsub, rfl⟩))
    | inlined hmodule hsub =>
      refine List.mem_append_right _ (List.mem_flatMap.mpr ⟨_, hmodule, ?_⟩)
      exact List.mem_append_left _ (List.mem_map.mpr ⟨_, hsub, rfl⟩)
    | useable hmodule hr hcatalog =>
      refine List.mem_append_right _ (List.mem_flatMap.mpr ⟨_, hmodule, ?_⟩)
      refine List.mem_append_right _ (List.mem_map.mpr ⟨_, ?_, rfl⟩)
      exact List.mem_filterMap.mpr ⟨_, hr, hcatalog⟩

/-- Entries that agree on a pair leave its lengths as they are. -/
theorem lengthsOf_foldl_agree {entries : List ((UInt32 × UInt32) × (Nat × Nat))}
    {pair : UInt32 × UInt32} {lengths : Nat × Nat}
    (hentries : ∀ e ∈ entries, e.1 = pair → e.2 = lengths) {lookup : IdentLookup}
    (h : lengthsOf lookup pair.1 pair.2 = lengths) :
    lengthsOf (entries.foldl register lookup) pair.1 pair.2 = lengths := by
  induction entries generalizing lookup with
  | nil => exact h
  | cons e entries ih =>
    refine ih (fun e he => hentries e (List.mem_cons_of_mem _ he)) ?_
    rw [lengthsOf_register]
    by_cases hpair : e.1 = pair
    · rw [if_pos hpair]
      exact hentries e List.mem_cons_self hpair
    · rw [if_neg hpair]
      exact h

/-- **The table has the one length a pair is listed with.**  What was registered before does not
    matter, and what comes after it agrees. -/
theorem lengthsOf_listed (hone : OneLength device) (hdap : dap ∈ device.daps)
    {pair : UInt32 × UInt32} {lengths : Nat × Nat} (h : Listed device dap pair lengths) :
    lengthsOf (device.identLookup dap) pair.1 pair.2 = lengths := by
  have hagree : ∀ e ∈ device.idents dap, e.1 = pair → e.2 = lengths := by
    rintro ⟨pair', lengths'⟩ he rfl
    exact hone dap hdap _ _ _ (mem_idents_iff.mp he) h
  obtain ⟨before, after, hsplit⟩ := List.append_of_mem (mem_idents_iff.mpr h)
  unfold identLookup
  rw [hsplit] at hagree ⊢
  rw [List.foldl_append, List.foldl_cons]
  refine lengthsOf_foldl_agree ?_ ?_
  · intro e he
    exact hagree e (List.mem_append_right _ (List.mem_cons_of_mem _ he))
  · rw [lengthsOf_register, if_pos rfl]

/-! ## The slots of an assignment are listed -/

/-- A slot that is copied from what the catalog lists. -/
def Copied (device : GsdmlDevice) (dap : GsdmlDap) (s : IoSlot) : Prop :=
  Listed device dap (s.moduleIdent, s.submoduleIdent) (s.inputLength, s.outputLength)

/-- What a map holds after entries were put to it was one of them, or was there before. -/
theorem mem_of_insertMany {entries : List (UInt16 × String)} {t : ExtTreeMap UInt16 String}
    {k : UInt16} {v : String} (h : (t.insertMany entries)[k]? = some v) :
    (k, v) ∈ entries ∨ t[k]? = some v := by
  rw [ExtTreeMap.insertMany_list_eq_foldl] at h
  induction entries generalizing t with
  | nil => exact .inr h
  | cons e entries ih =>
    rcases ih h with hmem | hbefore
    · exact .inl (List.mem_cons_of_mem e hmem)
    · rw [ExtTreeMap.getElem?_insert] at hbefore
      by_cases hk : compare e.1 k = .eq
      · rw [if_pos hk] at hbefore
        have hkey : e.1 = k := LawfulEqCmp.eq_of_compare hk
        have hval : e.2 = v := Option.some.inj hbefore
        rw [← hkey, ← hval]
        exact .inl List.mem_cons_self
      · rw [if_neg hk] at hbefore
        exact .inr hbefore

theorem inlineSlots_copied {submodules : List GsdmlSubmodule} {moduleIdent : UInt32}
    (h : ∀ sub ∈ submodules, Listed device dap (moduleIdent, sub.submoduleIdent) sub.lengths)
    (slot : UInt16) : ∀ s ∈ inlineSlots submodules slot moduleIdent, Copied device dap s := by
  intro s hs
  obtain ⟨i, hi, rfl⟩ := List.mem_mapIdx.mp hs
  exact h _ (List.getElem_mem hi)

/-- A module that refers to the catalog: a fixed place names a reference of the module, and an
    assigned one is useable. -/
theorem useableSubmoduleSlots_copied {module : GsdmlModule} (hmodule : module ∈ device.modules)
    {subslotAssign : ExtTreeMap UInt16 String}
    (huseable : ∀ (subslotNum : UInt16) (subId : String), subslotAssign[subslotNum]? = some subId →
      ∃ r ∈ module.useableSubmodules, r.target = subId)
    (slotNum : UInt16) :
    ∀ s ∈ device.useableSubmoduleSlots module slotNum subslotAssign, Copied device dap s := by
  intro s hs
  obtain ⟨⟨subslotNum, subId⟩, hresolved, hs⟩ := List.mem_filterMap.mp hs
  obtain ⟨sub, hcatalog, rfl⟩ := Option.map_eq_some_iff.mp hs
  obtain ⟨r, hr, htarget⟩ : ∃ r ∈ module.useableSubmodules, r.target = subId := by
    have hget := ExtTreeMap.mem_toList_iff_getElem?_eq_some.mp hresolved
    rcases mem_of_insertMany hget with hassigned | hfixed
    · exact huseable subslotNum subId (ExtTreeMap.mem_toList_iff_getElem?_eq_some.mp hassigned)
    · rcases mem_of_insertMany hfixed with hplace | hnone
      · obtain ⟨r, hr, hplace⟩ := List.mem_flatMap.mp hplace
        obtain ⟨place, -, heq⟩ := List.mem_map.mp hplace
        exact ⟨r, hr, (Prod.mk.inj heq).2⟩
      · rw [ExtTreeMap.getElem?_empty] at hnone
        cases hnone
  rw [← htarget] at hcatalog
  exact .useable hmodule hr hcatalog

theorem moduleSlots_copied {slotAssignment : Option (ExtTreeMap UInt16 String)}
    {submoduleAssignment : Option (ExtTreeMap UInt16 (ExtTreeMap UInt16 String))}
    (huseable : Useable device dap slotAssignment submoduleAssignment) {slotNum : UInt16}
    {modId : String} (hassigned : (dap.assigned slotAssignment)[slotNum]? = some modId) :
    ∀ s ∈ device.moduleSlots submoduleAssignment slotNum modId, Copied device dap s := by
  unfold moduleSlots
  cases hmodule : device.module modId with
  | none => exact fun s hs => nomatch hs
  | some module =>
    have hmem : module ∈ device.modules := List.mem_of_find?_eq_some hmodule
    dsimp only
    split
    · exact inlineSlots_copied (fun sub hsub => .inlined hmem hsub) slotNum
    · split
      · refine useableSubmoduleSlots_copied hmem (fun subslotNum subId hsub => ?_) slotNum
        cases hassign : submoduleAssignment.bind fun a => a[slotNum]? with
        | none =>
          rw [hassign, Option.getD_none, ExtTreeMap.getElem?_empty] at hsub
          cases hsub
        | some subslotAssign =>
          rw [hassign, Option.getD_some] at hsub
          exact huseable slotNum subslotNum modId subId module subslotAssign hassigned hmodule
            hassign hsub
      · exact fun s hs => nomatch hs

/-- **Every slot of an assignment is copied from what the catalog lists.** -/
theorem buildIoSlots_copied {slotAssignment : Option (ExtTreeMap UInt16 String)}
    {submoduleAssignment : Option (ExtTreeMap UInt16 (ExtTreeMap UInt16 String))}
    {dapId : Option String} {slots : List IoSlot} (hdap : device.getDap dapId = .ok dap)
    (huseable : Useable device dap slotAssignment submoduleAssignment)
    (h : device.buildIoSlots slotAssignment submoduleAssignment dapId = .ok slots) :
    ∀ s ∈ slots, Copied device dap s := by
  unfold buildIoSlots at h
  rw [hdap] at h
  cases h
  intro s hs
  -- the access point's own submodules, the system-defined ones, then those of the modules
  rcases List.mem_append.mp hs with hs | hs
  · rcases List.mem_append.mp hs with hs | hs
    · exact inlineSlots_copied (fun sub hsub => .dapSubmodule hsub) 0 s hs
    · obtain ⟨sub, hsub, rfl⟩ := List.mem_map.mp hs
      exact .systemSubmodule hsub
  · obtain ⟨⟨slotNum, modId⟩, hassigned, hs⟩ := List.mem_flatMap.mp hs
    exact moduleSlots_copied huseable (ExtTreeMap.mem_toList_iff_getElem?_eq_some.mp hassigned) s hs

/-! ## The builders agree -/

/-- A slot that was copied from the catalog is found there by its idents. -/
theorem buildIoSlotsFromDevice_copied (hone : OneLength device) {dapId : Option String}
    (hdap : device.getDap dapId = .ok dap) {slots : List IoSlot}
    (h : ∀ s ∈ slots, Copied device dap s) :
    device.buildIoSlotsFromDevice (slots.map IoSlot.reported) dapId = .ok slots := by
  unfold buildIoSlotsFromDevice
  rw [hdap]
  refine congrArg Except.ok ?_
  rw [List.map_map]
  refine (List.map_congr_left fun s hs => ?_).trans (List.map_id slots)
  have hlengths : lengthsOf (device.identLookup dap) s.reported.moduleIdent
      s.reported.submoduleIdent = (s.inputLength, s.outputLength) :=
    lengthsOf_listed hone (getDap_mem hdap) (h s hs)
  rw [Function.comp_apply, hlengths]
  rfl

/-- **The two slot builders agree.** -/
theorem slot_builders_agree (device : GsdmlDevice) (hone : OneLength device)
    (slotAssignment : Option (ExtTreeMap UInt16 String))
    (submoduleAssignment : Option (ExtTreeMap UInt16 (ExtTreeMap UInt16 String)))
    (dapId : Option String)
    (huseable : ∀ dap, device.getDap dapId = .ok dap →
      Useable device dap slotAssignment submoduleAssignment) :
    (do
      let slots ← device.buildIoSlots slotAssignment submoduleAssignment dapId
      device.buildIoSlotsFromDevice (slots.map IoSlot.reported) dapId)
      = device.buildIoSlots slotAssignment submoduleAssignment dapId := by
  cases hdap : device.getDap dapId with
  | error e =>
    have hfails : device.buildIoSlots slotAssignment submoduleAssignment dapId = .error e := by
      unfold buildIoSlots
      rw [hdap]
      rfl
    rw [hfails]
    rfl
  | ok dap =>
    cases hslots : device.buildIoSlots slotAssignment submoduleAssignment dapId with
    | error e => rfl
    | ok slots =>
      exact buildIoSlotsFromDevice_copied hone hdap
        (buildIoSlots_copied hdap (huseable dap hdap) hslots)

/-- An access point with a port, and a module with one submodule in its place and another one that
    may be plugged. -/
def benchDevice : GsdmlDevice where
  vendorId := 1
  deviceId := 2
  daps := [⟨"DAP", 0x10, [], [⟨0x8001, 3⟩], [⟨"M", [1], []⟩]⟩]
  modules := [⟨"M", 0x20, [], [⟨"IN", [1], []⟩, ⟨"OUT", [], [2]⟩]⟩]
  submoduleCatalog := [⟨"IN", 5, 4, 0⟩, ⟨"OUT", 6, 0, 2⟩]

/-- The other one is plugged. -/
def benchAssignment : ExtTreeMap UInt16 (ExtTreeMap UInt16 String) :=
  (∅ : ExtTreeMap UInt16 (ExtTreeMap UInt16 String)).insert 1
    ((∅ : ExtTreeMap UInt16 String).insert 2 "OUT")

theorem benchDevice_oneLength : OneLength benchDevice := by
  intro dap hdap pair lengths lengths' h h'
  have hagree : ∀ dap ∈ benchDevice.daps, ∀ e ∈ benchDevice.idents dap,
      ∀ e' ∈ benchDevice.idents dap, e.1 = e'.1 → e.2 = e'.2 := by decide +kernel
  exact hagree dap hdap _ (mem_idents_iff.mpr h) _ (mem_idents_iff.mpr h') rfl

theorem benchAssignment_useable (dap : GsdmlDap) :
    Useable benchDevice dap none (some benchAssignment) := by
  intro slotNum subslotNum modId subId module subslotAssign _ hmodule hassign hsub
  have hmem : module ∈ benchDevice.modules := List.mem_of_find?_eq_some hmodule
  rw [List.mem_singleton.mp hmem]
  rw [Option.bind_some, benchAssignment, ExtTreeMap.getElem?_insert] at hassign
  split at hassign
  · rw [← Option.some.inj hassign, ExtTreeMap.getElem?_insert] at hsub
    split at hsub
    · rw [← Option.some.inj hsub]
      exact ⟨_, List.mem_cons_of_mem _ List.mem_cons_self, rfl⟩
    · rw [ExtTreeMap.getElem?_empty] at hsub
      cases hsub
  · rw [ExtTreeMap.getElem?_empty] at hassign
    cases hassign

/-- The port, the submodule in its place and the one that is plugged. -/
def benchBuilt : List IoSlot :=
  [⟨0, 0x8001, 0x10, 3, 0, 0⟩, ⟨1, 1, 0x20, 5, 4, 0⟩, ⟨1, 2, 0x20, 6, 0, 2⟩]

theorem slot_builders_agree_bench :
    benchDevice.buildIoSlots none (some benchAssignment) none = .ok benchBuilt
      ∧ benchDevice.buildIoSlotsFromDevice (benchBuilt.map IoSlot.reported) none
        = .ok benchBuilt := by
  have hslots : benchDevice.buildIoSlots none (some benchAssignment) none = .ok benchBuilt := by
    decide +kernel
  have hagree := slot_builders_agree benchDevice benchDevice_oneLength none (some benchAssignment)
    none fun dap _ => benchAssignment_useable dap
  rw [hslots] at hagree
  exact ⟨hslots, hagree⟩

end GsdmlDevice

end Profinet.Gsdml
