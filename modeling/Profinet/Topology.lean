/-
  TOPOLOGY RECORDS: what is plugged into a device, as a record of counted lists.

      table     count(2), then for each module
                slot(2)  module ident(4)  count(2), then for each subslot
                subslot(2)  submodule ident(4)
      topology  count(2), then for each API
                api(4)  table

  Behind a block header this is the I&M0FilterData record, and RealIdentificationData from version
  1.1 on; version 1.0 of the latter has the table alone.  `Topology.map` is the nested map that such
  a record stands for, `Topology.slots` its subslots in order.

  I&M0FilterData is read as a whole or not at all: of a record cut short anywhere, the innermost
  loop that meets the cut fails, and every loop around it with it (`everyFrom_cut`).
-/
import Mathlib.Data.List.Basic
import Mathlib.Data.Set.List
import Mathlib.Algebra.Order.BigOperators.Group.List
import Profinet.Identification

namespace Profinet.Im

open Wire Checked Counted Std

/-! ## Topologies -/

/-- A module in its slot, with what is plugged into its subslots. -/
structure ModuleEntry where
  slot : UInt16
  moduleIdent : UInt32
  subslots : List (UInt16 × UInt32)
  count : subslots.length < 65536

/-- The modules under one API, as they follow the count of them in a record. -/
structure ModuleTable where
  modules : List ModuleEntry
  count : modules.length < 65536

/-- An API number, with the modules that are plugged under it. -/
structure ApiEntry where
  api : UInt32
  table : ModuleTable

/-- The APIs of a record, in the order the device lists them. -/
structure Topology where
  apis : List ApiEntry
  count : apis.length < 65536

/-- A subslot entry: the number and the submodule's ident. -/
def subslotBytes (s : UInt16 × UInt32) : List UInt8 := be16 s.1 ++ be32 s.2

namespace ModuleEntry

/-- A module entry up to its subslots: slot, ident and the count of what follows. -/
def head (m : ModuleEntry) : List UInt8 :=
  be16 m.slot ++ (be32 m.moduleIdent ++ be16 (UInt16.ofNat m.subslots.length))

/-- The bytes of a module entry, its subslots included. -/
def bytes (m : ModuleEntry) : List UInt8 := m.head ++ m.subslots.flatMap subslotBytes

/-- Of subslots listed twice the later one counts. -/
def map (m : ModuleEntry) : ExtTreeMap UInt16 UInt32 := .ofList m.subslots

/-- The subslots of a module as the flat list of the other record has them. -/
def slots (api : UInt32) (m : ModuleEntry) : List SlotInfo :=
  m.subslots.map fun s =>
    { slot := m.slot, subslot := s.1, api := api, moduleIdent := m.moduleIdent,
      submoduleIdent := s.2, blocks := [] }

end ModuleEntry

namespace ModuleTable

/-- The count in front of the modules. -/
def head (t : ModuleTable) : List UInt8 := be16 (UInt16.ofNat t.modules.length)

/-- A module table: this is all there is of a record of version 1.0. -/
def bytes (t : ModuleTable) : List UInt8 := t.head ++ t.modules.flatMap ModuleEntry.bytes

/-- Of slots listed twice the later one counts, as it does for the loop that inserts them. -/
def map (t : ModuleTable) : ModuleMap :=
  .ofList (t.modules.map fun m => (m.slot, m.moduleIdent, m.map))

/-- The subslots of the table, module by module. -/
def slots (api : UInt32) (t : ModuleTable) : List SlotInfo := t.modules.flatMap (·.slots api)

end ModuleTable

namespace ApiEntry

/-- An API entry up to its modules. -/
def head (a : ApiEntry) : List UInt8 := be32 a.api ++ a.table.head

/-- The bytes of an API entry. -/
def bytes (a : ApiEntry) : List UInt8 := a.head ++ a.table.modules.flatMap ModuleEntry.bytes

end ApiEntry

namespace Topology

/-- The count in front of the APIs. -/
def head (t : Topology) : List UInt8 := be16 (UInt16.ofNat t.apis.length)

/-- The bytes of a record behind its header. -/
def bytes (t : Topology) : List UInt8 := t.head ++ t.apis.flatMap ApiEntry.bytes

/-- API to slot to module ident and subslots. -/
def map (t : Topology) : InM0FilterData := .ofList (t.apis.map fun a => (a.api, a.table.map))

/-- All subslots of the record, with the API they are under. -/
def slots (t : Topology) : List SlotInfo := t.apis.flatMap fun a => a.table.slots a.api

end Topology

/-! ## Their lengths -/

/-- The front part of a module entry has a fixed size. -/
@[simp] theorem ModuleEntry.head_length (m : ModuleEntry) : m.head.length = 8 := rfl
/-- The count in front of a table has two bytes. -/
@[simp] theorem ModuleTable.head_length (t : ModuleTable) : t.head.length = 2 := rfl
/-- An API number and the count behind it have six. -/
@[simp] theorem ApiEntry.head_length (a : ApiEntry) : a.head.length = 6 := rfl
/-- The count in front of a record has two bytes. -/
@[simp] theorem Topology.head_length (t : Topology) : t.head.length = 2 := rfl

/-- A list whose length fits a count of two bytes is no longer than its bound says. -/
theorem flatMap_length_le {α : Type} {f : α → List UInt8} {l : List α} {k : Nat}
    (hk : ∀ a ∈ l, (f a).length ≤ k) (hl : l.length < 65536) :
    (l.flatMap f).length ≤ 65535 * k := by
  have hsum : (l.flatMap f).length ≤ (l.map fun a => (f a).length).length * k := by
    rw [List.length_flatMap]
    refine List.sum_le_card_nsmul _ k ?_
    intro n hn
    obtain ⟨a, ha, rfl⟩ := List.mem_map.mp hn
    exact hk a ha
  rw [List.length_map] at hsum
  exact hsum.trans (Nat.mul_le_mul_right k (by omega))

/-- A bound on a module entry, generous enough for any count of subslots. -/
theorem ModuleEntry.bytes_length_le (m : ModuleEntry) : m.bytes.length ≤ 400000 := by
  have h := flatMap_length_le (f := subslotBytes) (k := 6) (fun _ _ => Nat.le_refl 6) m.count
  rw [ModuleEntry.bytes, List.length_append, m.head_length]
  omega

/-- And on a table: far below what a slice can hold. -/
theorem ModuleTable.bytes_length_le (t : ModuleTable) : t.bytes.length ≤ 30000000000 := by
  have h := flatMap_length_le (fun m _ => m.bytes_length_le) t.count
  rw [ModuleTable.bytes, List.length_append, t.head_length]
  omega

/-- The counts keep every record within what a slice can be long. -/
theorem Topology.bytes_length_le (t : Topology) : t.bytes.length ≤ 2000000000000000 := by
  have h := flatMap_length_le (f := ApiEntry.bytes) (l := t.apis) (k := 30000000004)
    (fun a _ => by
      have ha := a.table.bytes_length_le
      rw [ModuleTable.bytes, List.length_append, a.table.head_length] at ha
      rw [ApiEntry.bytes, List.length_append, a.head_length]
      omega) t.count
  rw [Topology.bytes, List.length_append, t.head_length]
  omega

/-! ## Every nested map is the map of a topology -/

/-- The counts of a map fit their fields. -/
def ModuleFits (m : UInt32 × ExtTreeMap UInt16 UInt32) : Prop := m.2.size < 65536

/-- The counts of one API fit two bytes: its modules, and the subslots of each of them. -/
def TableFits (modules : ModuleMap) : Prop :=
  modules.size < 65536 ∧ ∀ e ∈ modules.toList, ModuleFits e.2

/-- The counts of a nested map fit, so that a device can have written it. -/
def CountsFit (t : InM0FilterData) : Prop := t.size < 65536 ∧ ∀ e ∈ t.toList, TableFits e.2

/-- A map is made again from its entries. -/
theorem ofList_toList {α β : Type} [BEq α] {cmp : α → α → Ordering} [TransCmp cmp]
    [LawfulEqCmp cmp] [LawfulBEqCmp cmp] (t : ExtTreeMap α β cmp) :
    ExtTreeMap.ofList t.toList cmp = t := by
  refine ExtTreeMap.ext_getElem? ?_
  intro k
  cases hk : t[k]? with
  | some v =>
    exact ExtTreeMap.getElem?_ofList_of_mem ReflCmp.compare_self ExtTreeMap.distinct_keys_toList
      (ExtTreeMap.mem_toList_iff_getElem?_eq_some.mpr hk)
  | none =>
    refine ExtTreeMap.getElem?_ofList_of_contains_eq_false ?_
    rw [ExtTreeMap.map_fst_toList_eq_keys, ExtTreeMap.contains_keys]
    rw [ExtTreeMap.contains_eq_isSome_getElem?, hk]
    rfl

/-- A list of which each element is met by `f` is met element by element. -/
theorem exists_map_eq {α β : Type} {f : α → β} {l : List β} (h : ∀ b ∈ l, ∃ a, f a = b) :
    ∃ as : List α, as.map f = l := by
  have hl : l ∈ Set.range (List.map f) := by
    rw [Set.range_list_map]
    exact h
  exact hl

/-- Every module map whose counts fit is the map of some table. -/
theorem exists_moduleTable {modules : ModuleMap} (h : TableFits modules) :
    ∃ t : ModuleTable, t.map = modules := by
  obtain ⟨hsize, hmodules⟩ := h
  obtain ⟨entries, hentries⟩ : ∃ entries : List ModuleEntry,
      entries.map (fun m => (m.slot, m.moduleIdent, m.map)) = modules.toList := by
    refine exists_map_eq fun ⟨slot, ident, subslots⟩ he => ?_
    have hcount : subslots.toList.length < 65536 := by
      rw [ExtTreeMap.length_toList]
      exact hmodules _ he
    refine ⟨⟨slot, ident, subslots.toList, hcount⟩, ?_⟩
    rw [ModuleEntry.map, ofList_toList]
  have hcount : entries.length < 65536 := by
    have hlen := congrArg List.length hentries
    rw [List.length_map, ExtTreeMap.length_toList] at hlen
    omega
  refine ⟨⟨entries, hcount⟩, ?_⟩
  rw [ModuleTable.map, hentries, ofList_toList]

/-- Every nested map whose counts fit is the map of some topology, one entry for each key. -/
theorem exists_topology {t : InM0FilterData} (h : CountsFit t) : ∃ l : Topology, l.map = t := by
  obtain ⟨hsize, hapis⟩ := h
  obtain ⟨entries, hentries⟩ : ∃ entries : List ApiEntry,
      entries.map (fun a => (a.api, a.table.map)) = t.toList := by
    refine exists_map_eq fun ⟨api, modules⟩ he => ?_
    obtain ⟨table, htable⟩ := exists_moduleTable (hapis _ he)
    exact ⟨⟨api, table⟩, by rw [htable]⟩
  have hcount : entries.length < 65536 := by
    have hlen := congrArg List.length hentries
    rw [List.length_map, ExtTreeMap.length_toList] at hlen
    omega
  refine ⟨⟨entries, hcount⟩, ?_⟩
  rw [Topology.map, hentries, ofList_toList]

/-! ## Reading the filter record -/

section Filter

variable {data : List UInt8} (hdata : data.length < 2 ^ 63)
include hdata

/-- One subslot. -/
theorem filterSubslotAt_whole (e : UInt16 × UInt32) (subslots : ExtTreeMap UInt16 UInt32) {p : Nat}
    (h : Stands data p (subslotBytes e)) :
    filterSubslotAt data subslots p = .ok (.ok (subslots.insert e.1 e.2, p + 6)) := by
  have hfits : p + 6 ≤ data.length := h.fits
  obtain ⟨hsubslot, hident⟩ := h.split (be16_length e.1)
  unfold filterSubslotAt
  rw [add_ok (by omega), ok_bind, if_neg (by dsimp only; omega), hsubslot.u16At hdata, ok_bind,
    add_ok (by omega), ok_bind, hident.u32At hdata]
  rfl

/-- A subslot entry that is cut short is refused. -/
theorem filterSubslotAt_cut (e : UInt16 × UInt32) (subslots : ExtTreeMap UInt16 UInt32) {p : Nat}
    (h : CutAt data p (subslotBytes e)) :
    ∃ error, filterSubslotAt data subslots p = .ok (.error error) := by
  have hshort : data.length < p + 6 := h.short
  have hinside := h.inside
  unfold filterSubslotAt
  rw [add_ok (by omega), ok_bind, if_pos (by dsimp only; omega)]
  exact ⟨_, rfl⟩

/-- A module whose head stands there is read as its subslots are. -/
theorem filterModuleAt_head (m : ModuleEntry) (modules : ModuleMap) {p : Nat}
    (h : Stands data p m.head) {r : Except String (ExtTreeMap UInt16 UInt32 × Nat)}
    (hr : everyFrom (filterSubslotAt data) m.subslots.length ∅ (p + 8) = .ok r) :
    filterModuleAt data modules p =
      .ok (r.map fun s => (modules.insert m.slot (m.moduleIdent, s.1), s.2)) := by
  have hfits : p + 8 ≤ data.length := h.fits
  obtain ⟨hslot, h⟩ := h.split (be16_length m.slot)
  obtain ⟨hident, hcount⟩ := h.split (be32_length m.moduleIdent)
  unfold filterModuleAt
  rw [add_ok (by omega), ok_bind, if_neg (by dsimp only; omega), hslot.u16At hdata, ok_bind,
    add_ok (by omega), ok_bind, hident.u32At hdata, ok_bind, add_ok (by omega), ok_bind,
    hcount.u16At hdata, ok_bind, UInt16.toNat_ofNat_of_lt' m.count, hr, ok_bind]
  cases r with
  | error e => rfl
  | ok s => rfl

/-- A module entry is inserted with all its subslots. -/
theorem filterModuleAt_whole (m : ModuleEntry) (modules : ModuleMap) {p : Nat}
    (h : Stands data p m.bytes) :
    filterModuleAt data modules p =
      .ok (.ok (modules.insert m.slot (m.moduleIdent, m.map), p + m.bytes.length)) := by
  obtain ⟨hhead, hsubslots⟩ := h.split m.head_length
  have hread := everyFrom_whole (fun e _ s _ he => filterSubslotAt_whole hdata e s he) ∅ hsubslots
  rw [filterModuleAt_head hdata m modules hhead hread, ModuleEntry.map, ExtTreeMap.ofList_eq_foldl,
    ModuleEntry.bytes, List.length_append, m.head_length, ← Nat.add_assoc]
  rfl

/-- The head is cut or one of the subslots. -/
theorem filterModuleAt_cut (m : ModuleEntry) (modules : ModuleMap) {p : Nat}
    (h : CutAt data p m.bytes) : ∃ error, filterModuleAt data modules p = .ok (.error error) := by
  rcases h.split m.head_length with hhead | ⟨hhead, hsubslots⟩
  · have hshort : data.length < p + 8 := hhead.short
    have hinside := h.inside
    unfold filterModuleAt
    rw [add_ok (by omega), ok_bind, if_pos (by dsimp only; omega)]
    exact ⟨_, rfl⟩
  · obtain ⟨e, hread⟩ := everyFrom_cut
      (fun e _ s _ he => filterSubslotAt_whole hdata e s he)
      (fun e _ s _ he => filterSubslotAt_cut hdata e s he) ∅ hsubslots
    exact ⟨e, filterModuleAt_head hdata m modules hhead hread⟩

/-- An API entry is as its modules: what the loop over them returns decides. -/
theorem filterApiAt_head (a : ApiEntry) (result : InM0FilterData) {p : Nat}
    (h : Stands data p a.head) {r : Except String (ModuleMap × Nat)}
    (hr : everyFrom (filterModuleAt data) a.table.modules.length ∅ (p + 6) = .ok r) :
    filterApiAt data result p = .ok (r.map fun s => (result.insert a.api s.1, s.2)) := by
  have hfits : p + 6 ≤ data.length := h.fits
  obtain ⟨hapi, hcount⟩ := h.split (be32_length a.api)
  unfold filterApiAt
  rw [add_ok (by omega), ok_bind, if_neg (by dsimp only; omega), hapi.u32At hdata, ok_bind,
    add_ok (by omega), ok_bind, hcount.u16At hdata, ok_bind,
    UInt16.toNat_ofNat_of_lt' a.table.count, hr, ok_bind]
  cases r with
  | error e => rfl
  | ok s => rfl

/-- An API entry is inserted with all its modules. -/
theorem filterApiAt_whole (a : ApiEntry) (result : InM0FilterData) {p : Nat}
    (h : Stands data p a.bytes) :
    filterApiAt data result p =
      .ok (.ok (result.insert a.api a.table.map, p + a.bytes.length)) := by
  obtain ⟨hhead, hmodules⟩ := h.split a.head_length
  have hread := everyFrom_whole (fun m _ s _ hm => filterModuleAt_whole hdata m s hm) ∅ hmodules
  rw [filterApiAt_head hdata a result hhead hread, ModuleTable.map, ExtTreeMap.ofList_eq_foldl,
    List.foldl_map, ApiEntry.bytes, List.length_append, a.head_length, ← Nat.add_assoc]
  rfl

/-- One that is cut short is refused, wherever in it the record ends. -/
theorem filterApiAt_cut (a : ApiEntry) (result : InM0FilterData) {p : Nat}
    (h : CutAt data p a.bytes) : ∃ error, filterApiAt data result p = .ok (.error error) := by
  rcases h.split a.head_length with hhead | ⟨hhead, hmodules⟩
  · have hshort : data.length < p + 6 := hhead.short
    have hinside := h.inside
    unfold filterApiAt
    rw [add_ok (by omega), ok_bind, if_pos (by dsimp only; omega)]
    exact ⟨_, rfl⟩
  · obtain ⟨e, hread⟩ := everyFrom_cut
      (fun m _ s _ hm => filterModuleAt_whole hdata m s hm)
      (fun m _ s _ hm => filterModuleAt_cut hdata m s hm) ∅ hmodules
    exact ⟨e, filterApiAt_head hdata a result hhead hread⟩

end Filter

variable (header : BlockHeader) (t : Topology)

/-- Behind its header and its count the record is read as its APIs are. -/
theorem parseInm0Filter_head {rest : List UInt8}
    (hlen : (header.bytes ++ rest).length < 2 ^ 63) (h : Stands rest 0 t.head)
    {r : Except String (InM0FilterData × Nat)}
    (hr : everyFrom (filterApiAt rest) t.apis.length ∅ 2 = .ok r) :
    parseInm0Filter (header.bytes ++ rest) = .ok (r.map Prod.fst) := by
  have hfits : 0 + 2 ≤ rest.length := h.fits
  have hrest : rest.length < 2 ^ 63 := by
    rw [List.length_append] at hlen
    omega
  have hdrop : (header.bytes ++ rest).drop 6 = rest := rfl
  have hcount := h.u16At hrest
  unfold parseInm0Filter
  rw [parseBlockHeader_ok hlen (stands_front header.bytes rest), ok_bind]
  dsimp only
  rw [sliceFrom_ok (by rw [List.length_append]; exact Nat.le_add_right 6 _), ok_bind]
  dsimp only
  rw [hdrop, if_neg (by omega), hcount, ok_bind, UInt16.toNat_ofNat_of_lt' t.count, hr, ok_bind]
  cases r with
  | error e => rfl
  | ok s => rfl

/-- **The filter record is read as the map it stands for.** -/
theorem parseInm0Filter_whole :
    parseInm0Filter (header.bytes ++ t.bytes) = .ok (.ok t.map) := by
  have hlen : (header.bytes ++ t.bytes).length < 2 ^ 63 := by
    have hle := t.bytes_length_le
    rw [List.length_append, header.bytes_length]
    omega
  have hrest : t.bytes.length < 2 ^ 63 := by
    rw [List.length_append] at hlen
    omega
  obtain ⟨hhead, hapis⟩ := (stands_whole t.bytes).split t.head_length
  have hread := everyFrom_whole (fun a _ s _ ha => filterApiAt_whole hrest a s ha) ∅ hapis
  rw [parseInm0Filter_head header t hlen hhead hread, Topology.map, ExtTreeMap.ofList_eq_foldl,
    List.foldl_map]
  rfl

/-- **Cut short anywhere, it is refused.** -/
theorem parseInm0Filter_cut {m : Nat} (hm : m < (header.bytes ++ t.bytes).length) :
    ∃ error, parseInm0Filter ((header.bytes ++ t.bytes).take m) = .ok (.error error) := by
  have hle := t.bytes_length_le
  rw [List.length_append, header.bytes_length] at hm
  by_cases hheader : m < 6
  · -- not even a block header
    have hshort : ((header.bytes ++ t.bytes).take m).length < 6 := by
      rw [List.length_take]
      omega
    have hbound : ((header.bytes ++ t.bytes).take m).length < 2 ^ 63 := by omega
    obtain ⟨e, he⟩ := parseBlockHeader_short hbound (Nat.zero_le _) hshort
    unfold parseInm0Filter
    rw [he, ok_bind]
    exact ⟨e, rfl⟩
  rw [List.take_append, List.take_of_length_le (by rw [header.bytes_length]; omega),
    header.bytes_length]
  have hlen : (header.bytes ++ t.bytes.take (m - 6)).length < 2 ^ 63 := by
    rw [List.length_append, header.bytes_length, List.length_take]
    omega
  have hrest : (t.bytes.take (m - 6)).length < 2 ^ 63 := by
    rw [List.length_take]
    omega
  have hcut : m - 6 < t.bytes.length := by omega
  rcases (cutAt_take hcut).split t.head_length
    with hhead | ⟨hhead, hapis⟩
  · -- no count of APIs
    have hshort : (t.bytes.take (m - 6)).length < 0 + 2 := hhead.short
    have hdrop : (header.bytes ++ t.bytes.take (m - 6)).drop 6 = t.bytes.take (m - 6) := rfl
    unfold parseInm0Filter
    rw [parseBlockHeader_ok hlen (stands_front header.bytes _), ok_bind]
    dsimp only
    rw [sliceFrom_ok (by rw [List.length_append]; exact Nat.le_add_right 6 _), ok_bind]
    dsimp only
    rw [hdrop, if_pos (by omega)]
    exact ⟨_, rfl⟩
  · obtain ⟨e, hread⟩ := everyFrom_cut
      (fun a _ s _ ha => filterApiAt_whole hrest a s ha)
      (fun a _ s _ ha => filterApiAt_cut hrest a s ha) ∅ hapis
    exact ⟨e, parseInm0Filter_head header t hlen hhead hread⟩

end Profinet.Im
