/-
  READ DIAGNOSIS: what is reported of a diagnosis record, empty groups included.

  `readDiagnosis` reads the record block by block, and where it finds no entry it reads the record
  again as one of flat entries.  Both readers expect an entry where there may be none:

      an empty group before another    the other's location is read as an entry
      one group, and that empty        its location is read as a flat entry, unless it is zero

  `readDiagnosis_exact_iff` says that these are the only records of which anything else than their
  entries is reported.
-/
import Profinet.DiagnosisRecord
import Profinet.ReadRecord

namespace Profinet.Diagnosis

open Wire Checked Transport

/-- `READ_LENGTH`. -/
def readLength : UInt32 := 4096

/-- The result of a read as diagnosis data: the full parser first, then the simpler format when no
    entries were found.  A read error yields empty data. -/
def diagnosisOf (slot subslot : UInt16) : Except String (List UInt8) → Comp DiagnosisData
  | .ok data => do
    if 6 < data.length then
      let result ← parseDiagnosisBlock data 0 slot subslot
      if result.entries.isEmpty then parseDiagnosisSimple data 0 slot subslot
      else return result
    else return { api := 0, slot, subslot, entries := [], rawData := data }
  | .error _ => return { api := 0, slot, subslot, entries := [], rawData := [] }

variable {T : Type} [RpcTransport T]

/-- Read and parse diagnosis data. -/
def readDiagnosis (c : RpcConn T) (slot subslot index : UInt16) :
    Comp DiagnosisData × RpcConn T :=
  let (result, c) := c.readRaw index slot subslot readLength
  (diagnosisOf slot subslot result, c)

/-! ## The flat format -/

/-- The one flat entry that a lone location is read as, none if it is all zero. -/
def flatLocation (slot subslot : UInt16) (loc : Location) : List ChannelDiagnosis :=
  if loc.slot = 0 ∧ loWord loc.api = 0 then []
  else [.plain ⟨0, slot, subslot⟩ 0 (loWord loc.api) loc.slot]

theorem parseDiagnosisSimple_lone (header : DiagnosisHeader) (g : DiagnosisGroup)
    (hempty : g.entries = []) (slot subslot : UInt16) :
    parseDiagnosisSimple (diagnosisRecord header [g]) 0 slot subslot
      = .ok { api := 0, slot, subslot
              entries := flatLocation slot subslot g.location
              rawData := diagnosisRecord header [g] } := by
  have hbytes : diagnosisRecord header [g] = header.bytes ++ g.location.bytes := by
    unfold diagnosisRecord
    rw [List.flatMap_cons, List.flatMap_nil, List.append_nil, g.bytes_of_empty hempty]
  have hheader : header.bytes.length = 6 := rfl
  have hlen : (header.bytes ++ g.location.bytes).length = 14 := rfl
  have hdata : (header.bytes ++ g.location.bytes).length < 2 ^ 63 := by omega
  obtain ⟨-, h⟩ := (stands_whole (header.bytes ++ g.location.bytes)).split hheader
  have h : Stands (header.bytes ++ g.location.bytes) 6
      (be16 0 ++ (be16 (loWord g.location.api) ++ (be16 g.location.slot ++
        be16 g.location.subslot))) := by
    rw [← g.location_words]
    exact h
  obtain ⟨hnumber, h⟩ := h.split (be16_length 0)
  obtain ⟨hprops, h⟩ := h.split (be16_length (loWord g.location.api))
  obtain ⟨herror, -⟩ := h.split (be16_length g.location.slot)
  have hend : flatEntriesFrom (header.bytes ++ g.location.bytes) ⟨0, slot, subslot⟩ 12
      = .ok [] := by
    rw [flatEntriesFrom, add_ok (by omega), ok_bind, if_neg (by dsimp only; omega)]
    rfl
  rw [hbytes]
  unfold parseDiagnosisSimple
  rw [if_neg (by omega), flatEntriesFrom, add_ok (by omega), ok_bind, if_pos (by dsimp only; omega),
    hnumber.u16At hdata, ok_bind, add_ok (by omega), ok_bind, hprops.u16At hdata, ok_bind,
    add_ok (by omega), ok_bind, herror.u16At hdata, ok_bind]
  unfold flatLocation
  -- slot and lower half of the API stand where error type and properties are read
  by_cases hzero : g.location.slot = 0 ∧ loWord g.location.api = 0
  · rw [if_pos ⟨hzero.1, rfl, hzero.2⟩, if_pos hzero]
    rfl
  · rw [if_neg fun h => hzero ⟨h.1, h.2.2⟩, if_neg hzero]
    dsimp only
    rw [hend]
    rfl

/-- It is nothing only at slot 0 of API 0. -/
theorem flatLocation_nil_iff (slot subslot : UInt16) (g : DiagnosisGroup) :
    flatLocation slot subslot g.location = [] ↔ g.location.api = 0 ∧ g.location.slot = 0 := by
  have hapi : loWord g.location.api = 0 ↔ g.location.api = 0 := by
    have hlt : g.location.api.toNat < 65536 := UInt32.lt_iff_toNat_lt.mp g.api_lt
    rw [← UInt16.toNat_inj, ← UInt32.toNat_inj, loWord, UInt16.toNat_ofNat',
      Nat.mod_eq_of_lt hlt]
    rfl
  unfold flatLocation
  by_cases hzero : g.location.slot = 0 ∧ loWord g.location.api = 0
  · rw [if_pos hzero]
    exact ⟨fun _ => ⟨hapi.mp hzero.2, hzero.1⟩, fun _ => rfl⟩
  · rw [if_neg hzero]
    constructor
    · intro hnil
      exact absurd hnil (List.cons_ne_nil _ _)
    · rintro ⟨hapi0, hslot0⟩
      exact absurd ⟨hslot0, hapi.mpr hapi0⟩ hzero

/-! ## Groups that are empty -/

theorem read_length (g : DiagnosisGroup) : g.read.length = g.entries.length := List.length_map _

/-- No entry is lost: an empty group only adds one. -/
theorem readGroups_length (groups : List DiagnosisGroup) :
    (groups.flatMap DiagnosisGroup.read).length ≤ (readGroups groups).length := by
  induction groups using readGroups.induct with
  | case1 => exact Nat.le_refl _
  | case2 g =>
    rw [readGroups, List.flatMap_cons, List.flatMap_nil, List.append_nil]
  | case3 g g' groups hempty ih =>
    rw [readGroups, if_pos hempty, List.flatMap_cons, List.flatMap_cons, List.length_append,
      List.length_append, List.length_cons, List.length_append, List.length_map, read_length,
      read_length, hempty, List.length_nil]
    omega
  | case4 g g' groups hne ih =>
    rw [readGroups, if_neg hne, List.flatMap_cons, List.length_append, List.length_append]
    omega

/-- The walk is exact if and only if no group but the last is empty. -/
theorem readGroups_eq_iff (groups : List DiagnosisGroup) :
    readGroups groups = groups.flatMap DiagnosisGroup.read
      ↔ ∀ g ∈ groups.dropLast, g.entries ≠ [] := by
  induction groups using readGroups.induct with
  | case1 => exact ⟨fun _ g hg => absurd hg List.not_mem_nil, fun _ => rfl⟩
  | case2 g =>
    rw [readGroups, List.flatMap_cons, List.flatMap_nil, List.append_nil]
    exact ⟨fun _ g hg => absurd hg List.not_mem_nil, fun _ => rfl⟩
  | case3 g g' groups hempty ih =>
    constructor
    · intro heq
      -- the location of the next group has become an entry
      have hless := readGroups_length groups
      have hlen := congrArg List.length heq
      rw [readGroups, if_pos hempty, List.flatMap_cons, List.flatMap_cons, List.length_append,
        List.length_append, List.length_cons, List.length_append, List.length_map, read_length,
        read_length, hempty, List.length_nil] at hlen
      omega
    · intro hinner
      exact absurd hempty (hinner g List.mem_cons_self)
  | case4 g g' groups hne ih =>
    rw [readGroups, if_neg hne, List.flatMap_cons, List.append_cancel_left_eq, ih]
    constructor
    · intro hinner g'' hg''
      rcases List.mem_cons.mp hg'' with rfl | hlater
      · exact hne
      · exact hinner g'' hlater
    · intro hinner g'' hg''
      exact hinner g'' (List.mem_cons_of_mem g hg'')

/-- Nothing at all is read of a single empty group only. -/
theorem readGroups_nil {g : DiagnosisGroup} {groups : List DiagnosisGroup}
    (h : readGroups (g :: groups) = []) : groups = [] ∧ g.entries = [] := by
  rcases groups with _ | ⟨g', groups⟩
  · rw [readGroups] at h
    exact ⟨rfl, List.map_eq_nil_iff.mp h⟩
  · rw [readGroups] at h
    by_cases hempty : g.entries = []
    · rw [if_pos hempty] at h
      exact absurd h (List.cons_ne_nil _ _)
    · rw [if_neg hempty] at h
      exact absurd (List.map_eq_nil_iff.mp (List.append_eq_nil_iff.mp h).1) hempty

/-! ## A record -/

theorem diagnosisRecord_length (header : DiagnosisHeader) (groups : List DiagnosisGroup) :
    (diagnosisRecord header groups).length
      = 6 + (groups.flatMap DiagnosisGroup.bytes).length := by
  have hheader : header.bytes.length = 6 := rfl
  unfold diagnosisRecord
  rw [List.length_append, hheader]

theorem parseDiagnosisBlock_record (header : DiagnosisHeader) (groups : List DiagnosisGroup)
    (hbound : (diagnosisRecord header groups).length < 2 ^ 63) (api : UInt32)
    (slot subslot : UInt16) :
    parseDiagnosisBlock (diagnosisRecord header groups) api slot subslot
      = .ok { api, slot, subslot
              entries := readGroups groups
              rawData := diagnosisRecord header groups } := by
  have hheader : header.bytes.length = 6 := rfl
  obtain ⟨hfirst, hgroups⟩ := (stands_whole (diagnosisRecord header groups)).split hheader
  exact parseDiagnosisBlock_header hbound header hfirst api slot subslot
    (entriesFrom_readGroups hbound _ groups hgroups (diagnosisRecord_length header groups))

/-- Only the last group may be empty, and a group that is alone and empty stands at slot 0 of
    API 0. -/
structure Unmistakable (groups : List DiagnosisGroup) : Prop where
  inner : ∀ g ∈ groups.dropLast, g.entries ≠ []
  lone : ∀ g, groups = [g] → g.entries = [] → g.location.api = 0 ∧ g.location.slot = 0

/-- Of one empty group the flat reading of its location is reported. -/
theorem diagnosisOf_lone (header : DiagnosisHeader) (g : DiagnosisGroup) (hempty : g.entries = [])
    (slot subslot : UInt16) :
    diagnosisOf slot subslot (.ok (diagnosisRecord header [g]))
      = .ok { api := 0, slot, subslot
              entries := flatLocation slot subslot g.location
              rawData := diagnosisRecord header [g] } := by
  have hlen := diagnosisRecord_length header [g]
  rw [List.flatMap_cons, List.flatMap_nil, List.append_nil, g.bytes_length, hempty,
    List.flatMap_nil, List.length_nil] at hlen
  have hnil : readGroups [g] = [] := by
    rw [readGroups, DiagnosisGroup.read, hempty]
    rfl
  unfold diagnosisOf
  dsimp only
  rw [if_pos (by omega), parseDiagnosisBlock_record header [g] (by omega), ok_bind, hnil,
    List.isEmpty_nil, if_pos rfl, parseDiagnosisSimple_lone header g hempty]

/-- What is reported of a record: what the walk makes of its groups, or the flat reading of a
    location that is alone. -/
theorem diagnosisOf_record (header : DiagnosisHeader) (groups : List DiagnosisGroup)
    (hbound : (diagnosisRecord header groups).length < 2 ^ 63) (slot subslot : UInt16) :
    ∃ d, diagnosisOf slot subslot (.ok (diagnosisRecord header groups)) = .ok d
      ∧ (d.entries = groups.flatMap DiagnosisGroup.read ↔ Unmistakable groups) := by
  have hlen := diagnosisRecord_length header groups
  rcases groups with _ | ⟨g, groups⟩
  · -- no group: the record is the header
    rw [List.flatMap_nil, List.length_nil] at hlen
    unfold diagnosisOf
    dsimp only
    rw [if_neg (by omega)]
    exact ⟨_, rfl, fun _ => ⟨nofun, nofun⟩, fun _ => rfl⟩
  by_cases hnil : readGroups (g :: groups) = []
  · -- one empty group: its location is read as a flat entry
    obtain ⟨rfl, hempty⟩ := readGroups_nil hnil
    have hread : [g].flatMap DiagnosisGroup.read = [] := by
      rw [List.flatMap_cons, DiagnosisGroup.read, hempty]
      rfl
    refine ⟨_, diagnosisOf_lone header g hempty slot subslot, ?_⟩
    rw [hread, flatLocation_nil_iff]
    constructor
    · intro hzero
      refine ⟨nofun, fun g' hg' _ => ?_⟩
      rw [← (List.cons.inj hg').1]
      exact hzero
    · intro hexact
      exact hexact.lone g rfl hempty
  · -- something was read, so the flat reader is not asked
    have hsome : ¬ (readGroups (g :: groups)).isEmpty = true := by
      rw [List.isEmpty_iff]
      exact hnil
    rw [List.flatMap_cons, List.length_append, g.bytes_length] at hlen
    unfold diagnosisOf
    dsimp only
    rw [if_pos (by omega), parseDiagnosisBlock_record header _ hbound, ok_bind, if_neg hsome]
    refine ⟨_, rfl, ?_⟩
    rw [readGroups_eq_iff]
    constructor
    · intro hinner
      refine ⟨hinner, fun g' hg' hempty => absurd ?_ hnil⟩
      rw [hg', readGroups, DiagnosisGroup.read, hempty]
      rfl
    · intro hexact
      exact hexact.inner

/-- **What `readDiagnosis` reports is the record's entries exactly if it is unmistakable.**  The
    record is a well-formed one: every group of it has an API below 0x10000 and a slot below 0x8000,
    as the fields of `DiagnosisGroup` demand, so that its location is one for the parser too. -/
theorem readDiagnosis_exact_iff {c : RpcConn T} {slot subslot index : UInt16}
    (header : DiagnosisHeader) (groups : List DiagnosisGroup)
    (hread : (c.readRaw index slot subslot readLength).1 = .ok (diagnosisRecord header groups))
    (hbound : (diagnosisRecord header groups).length < 2 ^ 63) :
    (∃ d, (readDiagnosis c slot subslot index).1 = .ok d
        ∧ d.entries = groups.flatMap DiagnosisGroup.read)
      ↔ Unmistakable groups := by
  obtain ⟨d, hd, hexact⟩ := diagnosisOf_record header groups hbound slot subslot
  have hresult : (readDiagnosis c slot subslot index).1 = .ok d := by
    unfold readDiagnosis
    dsimp only
    rw [hread, hd]
  rw [← hexact]
  constructor
  · rintro ⟨d', hd', hentries⟩
    cases hresult.symm.trans hd'
    exact hentries
  · intro hentries
    exact ⟨d, hresult, hentries⟩

theorem readDiagnosis_exact_iff_bench :
    (∃ d, (readDiagnosis (benchReading (diagnosisRecord benchHeader benchGroups)) 0 0 0xF000).1
          = .ok d
        ∧ d.entries = benchGroups.flatMap DiagnosisGroup.read)
      ↔ Unmistakable benchGroups :=
  readDiagnosis_exact_iff benchHeader benchGroups (by decide +kernel) (by decide)

/-- A location without an entry, at slot 3. -/
def emptyGroup : DiagnosisGroup := ⟨⟨0, 3, 1⟩, [], by decide, by decide⟩

/-- Of a record that has no entry one is reported: the slot number as an error type. -/
theorem phantom_diagnosis :
    (∃ d, (readDiagnosis (benchReading (diagnosisRecord benchHeader [emptyGroup])) 0 0 0xF000).1
          = .ok d
        ∧ d.entries = [.plain ⟨0, 0, 0⟩ 0 0 3])
      ∧ ¬ ∃ d, (readDiagnosis (benchReading (diagnosisRecord benchHeader [emptyGroup])) 0 0
            0xF000).1 = .ok d
          ∧ d.entries = [emptyGroup].flatMap DiagnosisGroup.read := by
  have hread : ((benchReading (diagnosisRecord benchHeader [emptyGroup])).readRaw 0xF000 0 0
      readLength).1 = .ok (diagnosisRecord benchHeader [emptyGroup]) := by
    decide +kernel
  have hphantom : ∃ d, (readDiagnosis (benchReading (diagnosisRecord benchHeader [emptyGroup]))
      0 0 0xF000).1 = .ok d ∧ d.entries = [.plain ⟨0, 0, 0⟩ 0 0 3] := by
    unfold readDiagnosis
    dsimp only
    rw [hread]
    exact ⟨_, diagnosisOf_lone benchHeader emptyGroup rfl 0 0, rfl⟩
  refine ⟨hphantom, ?_⟩
  rintro ⟨d, hd, hentries⟩
  obtain ⟨d', hd', hentries'⟩ := hphantom
  cases hd.symm.trans hd'
  rw [hentries'] at hentries
  exact absurd hentries (List.cons_ne_nil _ _)

end Profinet.Diagnosis
