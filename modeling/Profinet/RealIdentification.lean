/-
  REAL IDENTIFICATION DATA: the slots of a topology record, also of one that is cut short.

  The three loops break where the bytes run out, each only itself.  What keeps the loops around it
  from going on inside an element is that fewer than eight bytes are left then: no slot is read from
  fewer than eight, and an API read from six or seven has no slot behind it.

      subslots   6 bytes each; none from fewer than 6
      slots      8 bytes and their subslots; a cut leaves fewer than 8
      APIs       6 bytes and their slots; a cut leaves fewer than 8

  So of every prefix of a record a prefix of its subslots is found, and none that is not in it
  (`parseRealIdentificationData_apis`, `parseRealIdentificationData_flat`).
-/
import Mathlib.Data.List.Basic
import Profinet.Topology

namespace Profinet.Im

open Wire Checked Counted

section Rounds

variable {data : List UInt8} (hdata : data.length < 2 ^ 63)
include hdata

/-- One subslot of a slot. -/
theorem realSubslotAt_readsAt (api : UInt32) (m : ModuleEntry) :
    ReadsAt 6 (realSubslotAt data api m.slot m.moduleIdent) data subslotBytes fun s =>
      [{ slot := m.slot, subslot := s.1, api := api, moduleIdent := m.moduleIdent,
         submoduleIdent := s.2, blocks := [] }] where
  whole s p h := by
    have hfits : p + 6 ≤ data.length := h.fits
    obtain ⟨hsubslot, hident⟩ := h.split (be16_length s.1)
    unfold realSubslotAt
    rw [add_ok (by omega), ok_bind, if_neg (by dsimp only; omega), hsubslot.u16At hdata, ok_bind,
      add_ok (by omega), ok_bind, hident.u32At hdata]
    rfl
  cut s p h := by
    have hshort : data.length < p + 6 := h.short
    have hinside := h.inside
    refine .inl ⟨?_, hshort⟩
    unfold realSubslotAt
    rw [add_ok (by omega), ok_bind, if_pos (by dsimp only; omega)]
    rfl
  short p hp hshort := by
    refine .inl ?_
    unfold realSubslotAt
    rw [add_ok (by omega), ok_bind, if_pos (by dsimp only; omega)]
    rfl

theorem realSlotAt_short (api : UInt32) {p : Nat} (hp : p ≤ data.length)
    (hshort : data.length < p + 8) : realSlotAt data api p = .ok none := by
  unfold realSlotAt
  rw [add_ok (by omega), ok_bind, if_pos (by dsimp only; omega)]
  rfl

theorem realSlotAt_head (api : UInt32) (m : ModuleEntry) {p : Nat} (h : Stands data p m.head)
    {r : List SlotInfo × Nat}
    (hr : countedFrom (realSubslotAt data api m.slot m.moduleIdent) m.subslots.length (p + 8)
      = .ok r) :
    realSlotAt data api p = .ok (some r) := by
  have hfits : p + 8 ≤ data.length := h.fits
  obtain ⟨hslot, h⟩ := h.split (be16_length m.slot)
  obtain ⟨hident, hcount⟩ := h.split (be32_length m.moduleIdent)
  unfold realSlotAt
  rw [add_ok (by omega), ok_bind, if_neg (by dsimp only; omega), hslot.u16At hdata, ok_bind,
    add_ok (by omega), ok_bind, hident.u32At hdata, ok_bind, add_ok (by omega), ok_bind,
    hcount.u16At hdata, ok_bind, UInt16.toNat_ofNat_of_lt' m.count, hr]
  rfl

/-- One slot. -/
theorem realSlotAt_readsAt (api : UInt32) :
    ReadsAt 8 (realSlotAt data api) data ModuleEntry.bytes (·.slots api) where
  whole m p h := by
    obtain ⟨hhead, hsubslots⟩ := h.split m.head_length
    have hread := (realSubslotAt_readsAt hdata api m).whole_list hsubslots
    rw [realSlotAt_head hdata api m hhead hread, ModuleEntry.slots, ← List.map_eq_flatMap,
      ModuleEntry.bytes, List.length_append, m.head_length, Nat.add_assoc]
  cut m p h := by
    rcases h.split m.head_length with hhead | ⟨hhead, hsubslots⟩
    · exact .inl ⟨realSlotAt_short hdata api hhead.inside hhead.short, hhead.short⟩
    · obtain ⟨found, p', hread, hpre, hp', hleft⟩ :=
        (realSubslotAt_readsAt hdata api m).cut_list hsubslots
      rw [← List.map_eq_flatMap] at hpre
      exact .inr ⟨found, p', realSlotAt_head hdata api m hhead hread, hpre, hp', by omega⟩
  short p hp hshort := .inl (realSlotAt_short hdata api hp hshort)

theorem realApiAt_short {p : Nat} (hp : p ≤ data.length) (hshort : data.length < p + 6) :
    realApiAt data p = .ok none := by
  unfold realApiAt
  rw [add_ok (by omega), ok_bind, if_pos (by dsimp only; omega)]
  rfl

theorem realApiAt_head (a : ApiEntry) {p : Nat} (h : Stands data p a.head)
    {r : List SlotInfo × Nat}
    (hr : countedFrom (realSlotAt data a.api) a.table.modules.length (p + 6) = .ok r) :
    realApiAt data p = .ok (some r) := by
  have hfits : p + 6 ≤ data.length := h.fits
  obtain ⟨hapi, hcount⟩ := h.split (be32_length a.api)
  unfold realApiAt
  rw [add_ok (by omega), ok_bind, if_neg (by dsimp only; omega), hapi.u32At hdata, ok_bind,
    add_ok (by omega), ok_bind, hcount.u16At hdata, ok_bind,
    UInt16.toNat_ofNat_of_lt' a.table.count, hr]
  rfl

/-- One API.  Six or seven bytes are read as one, of which no slot is found. -/
theorem realApiAt_readsAt :
    ReadsAt 8 (realApiAt data) data ApiEntry.bytes fun a => a.table.slots a.api where
  whole a p h := by
    obtain ⟨hhead, hmodules⟩ := h.split a.head_length
    have hread := (realSlotAt_readsAt hdata a.api).whole_list hmodules
    rw [realApiAt_head hdata a hhead hread, ApiEntry.bytes, List.length_append, a.head_length,
      Nat.add_assoc]
    rfl
  cut a p h := by
    rcases h.split a.head_length with hhead | ⟨hhead, hmodules⟩
    · have hshort : data.length < p + 6 := hhead.short
      exact .inl ⟨realApiAt_short hdata hhead.inside hshort, by omega⟩
    · obtain ⟨found, p', hread, hpre, hp', hleft⟩ :=
        (realSlotAt_readsAt hdata a.api).cut_list hmodules
      exact .inr ⟨found, p', realApiAt_head hdata a hhead hread, hpre, hp', hleft⟩
  short p hp hshort := by
    by_cases hhead : data.length < p + 6
    · exact .inl (realApiAt_short hdata hp hhead)
    · -- six or seven bytes: an API number and a count, but no room for a slot
      have happ : p + 6 ≤ data.length := by omega
      obtain ⟨p', hread, hp', hleft⟩ := (realSlotAt_readsAt hdata (rdU32 data p false)).short_list
        happ (by omega) (rdU16 data (p + 4) false).toNat
      refine .inr ⟨p', ?_, hp', hleft⟩
      unfold realApiAt
      rw [add_ok (by omega), ok_bind, if_neg (by dsimp only; omega), u32At_ok hdata (by omega),
        ok_bind, add_ok (by omega), ok_bind, u16At_ok hdata (by omega), ok_bind, hread]
      rfl

end Rounds

/-! ## Records -/

/-- The header of a record of version `high.low`. -/
def versionHeader (blockType blockLength : UInt16) (high low : UInt8) : BlockHeader :=
  { blockType := blockType, blockLength := blockLength, versionHigh := high, versionLow := low }

/-- RealIdentificationData, version 1.1: with APIs. -/
def Topology.realRecord (blockType blockLength : UInt16) (t : Topology) : List UInt8 :=
  (versionHeader blockType blockLength 1 1).bytes ++ t.bytes

/-- RealIdentificationData, version 1.0: without. -/
def ModuleTable.realRecord (blockType blockLength : UInt16) (t : ModuleTable) : List UInt8 :=
  (versionHeader blockType blockLength 1 0).bytes ++ t.bytes

section Records

variable {data : List UInt8} (hdata : data.length < 2 ^ 63)
include hdata

theorem realVersion_head {header : BlockHeader} (h : Stands data 0 header.bytes) :
    realVersion data = .ok ((header.versionHigh, header.versionLow), 6) := by
  have hfits : 0 + 6 ≤ data.length := h.fits
  unfold realVersion
  rw [if_pos (by omega), parseBlockHeader_ok hdata h]
  rfl

/-- Fewer bytes than a block header are read as version 1.0 from the first byte on; of what follows
    the count there are too few for a slot. -/
theorem parseRealIdentificationData_headless (h : data.length < 6) :
    parseRealIdentificationData data = .ok ⟨[], (1, 0)⟩ := by
  have hversion : realVersion data = .ok ((1, 0), 0) := by
    unfold realVersion
    rw [if_neg (by omega)]
    rfl
  unfold parseRealIdentificationData
  rw [hversion, ok_bind]
  dsimp only
  rw [add_ok (by omega), ok_bind]
  by_cases hcount : data.length < 2
  · rw [if_pos hcount]
    rfl
  · have hslot : realSlotAt data 0 2 = .ok none := realSlotAt_short hdata 0 (by omega) (by omega)
    rw [if_neg hcount, u16At_ok hdata (by omega), ok_bind, if_neg (by decide)]
    dsimp only
    rw [countedFrom_none hslot]
    rfl

omit hdata in
/-- No count behind the header: no slots. -/
theorem parseRealIdentificationData_countless {version : UInt8 × UInt8}
    (hversion : realVersion data = .ok (version, 6)) (h : data.length < 8) :
    parseRealIdentificationData data = .ok ⟨[], version⟩ := by
  unfold parseRealIdentificationData
  rw [hversion, ok_bind]
  dsimp only
  rw [add_ok (by omega), ok_bind, if_pos h]
  rfl

theorem parseRealIdentificationData_apis (t : Topology)
    (hversion : realVersion data = .ok ((1, 1), 6)) (h : Stands data 6 t.head)
    {r : List SlotInfo × Nat} (hr : countedFrom (realApiAt data) t.apis.length 8 = .ok r) :
    parseRealIdentificationData data = .ok ⟨r.1, (1, 1)⟩ := by
  have hfits : 6 + 2 ≤ data.length := h.fits
  have hcount := h.u16At hdata
  unfold parseRealIdentificationData
  rw [hversion, ok_bind]
  dsimp only
  rw [add_ok (by omega), ok_bind, if_neg (by dsimp only; omega), hcount, ok_bind,
    if_pos (by decide), UInt16.toNat_ofNat_of_lt' t.count, hr]
  rfl

theorem parseRealIdentificationData_flat (t : ModuleTable)
    (hversion : realVersion data = .ok ((1, 0), 6)) (h : Stands data 6 t.head)
    {r : List SlotInfo × Nat} (hr : countedFrom (realSlotAt data 0) t.modules.length 8 = .ok r) :
    parseRealIdentificationData data = .ok ⟨r.1, (1, 0)⟩ := by
  have hfits : 6 + 2 ≤ data.length := h.fits
  have hcount := h.u16At hdata
  unfold parseRealIdentificationData
  rw [hversion, ok_bind]
  dsimp only
  rw [add_ok (by omega), ok_bind, if_neg (by dsimp only; omega), hcount, ok_bind,
    if_neg (by decide), UInt16.toNat_ofNat_of_lt' t.count, hr]
  rfl

end Records

/-- What is left of a record that is cut: less than its header, or the header and a cut body. -/
theorem take_record {header : BlockHeader} {body : List UInt8} {m : Nat}
    (hm : m < (header.bytes ++ body).length) :
    ((header.bytes ++ body).take m).length < 6
      ∨ Stands ((header.bytes ++ body).take m) 0 header.bytes
        ∧ CutAt ((header.bytes ++ body).take m) 6 body := by
  rcases (cutAt_take hm).split header.bytes_length with hcut | ⟨hheader, hbody⟩
  · have hshort : ((header.bytes ++ body).take m).length < 0 + 6 := hcut.short
    exact .inl (by omega)
  · rw [Nat.zero_add] at hbody
    exact .inr ⟨hheader, hbody⟩

variable (blockType blockLength : UInt16)

theorem Topology.realRecord_length (t : Topology) :
    (t.realRecord blockType blockLength).length < 2 ^ 63 := by
  have hle := t.bytes_length_le
  rw [Topology.realRecord, List.length_append, BlockHeader.bytes_length]
  omega

theorem ModuleTable.realRecord_length (t : ModuleTable) :
    (t.realRecord blockType blockLength).length < 2 ^ 63 := by
  have hle := t.bytes_length_le
  rw [ModuleTable.realRecord, List.length_append, BlockHeader.bytes_length]
  omega

/-- **Version 1.1 is read as its subslots, API by API.** -/
theorem realRecord_apis_whole (t : Topology) :
    parseRealIdentificationData (t.realRecord blockType blockLength)
      = .ok ⟨t.slots, (1, 1)⟩ := by
  have hdata := t.realRecord_length blockType blockLength
  obtain ⟨hheader, hbody⟩ := (stands_whole (t.realRecord blockType blockLength)).split
    (BlockHeader.bytes_length _)
  obtain ⟨hhead, hapis⟩ := hbody.split t.head_length
  exact parseRealIdentificationData_apis hdata t (realVersion_head hdata hheader) hhead
    ((realApiAt_readsAt hdata).whole_list hapis)

/-- **Version 1.0 is read as its subslots.** -/
theorem realRecord_flat_whole (t : ModuleTable) :
    parseRealIdentificationData (t.realRecord blockType blockLength)
      = .ok ⟨t.slots 0, (1, 0)⟩ := by
  have hdata := t.realRecord_length blockType blockLength
  obtain ⟨hheader, hbody⟩ := (stands_whole (t.realRecord blockType blockLength)).split
    (BlockHeader.bytes_length _)
  obtain ⟨hhead, hmodules⟩ := hbody.split t.head_length
  exact parseRealIdentificationData_flat hdata t (realVersion_head hdata hheader) hhead
    ((realSlotAt_readsAt hdata 0).whole_list hmodules)

/-- **Of every prefix of a record a prefix of its subslots is read.** -/
theorem realRecord_apis_prefix (t : Topology) (m : Nat) :
    ∃ r, parseRealIdentificationData ((t.realRecord blockType blockLength).take m) = .ok r
      ∧ r.slots <+: t.slots := by
  have hlen := t.realRecord_length blockType blockLength
  by_cases hm : (t.realRecord blockType blockLength).length ≤ m
  · rw [List.take_of_length_le hm]
    exact ⟨_, realRecord_apis_whole blockType blockLength t, List.prefix_rfl⟩
  have hdata : ((t.realRecord blockType blockLength).take m).length < 2 ^ 63 := by
    rw [List.length_take]
    omega
  rcases take_record (Nat.lt_of_not_le hm) with hshort | ⟨hheader, hbody⟩
  · exact ⟨_, parseRealIdentificationData_headless hdata hshort, List.nil_prefix⟩
  have hversion := realVersion_head hdata hheader
  rcases hbody.split t.head_length with hcount | ⟨hhead, hapis⟩
  · exact ⟨_, parseRealIdentificationData_countless hversion hcount.short, List.nil_prefix⟩
  · obtain ⟨found, p', hread, hpre, -⟩ := (realApiAt_readsAt hdata).cut_list hapis
    exact ⟨_, parseRealIdentificationData_apis hdata t hversion hhead hread, hpre⟩

theorem realRecord_flat_prefix (t : ModuleTable) (m : Nat) :
    ∃ r, parseRealIdentificationData ((t.realRecord blockType blockLength).take m) = .ok r
      ∧ r.slots <+: t.slots 0 := by
  have hlen := t.realRecord_length blockType blockLength
  by_cases hm : (t.realRecord blockType blockLength).length ≤ m
  · rw [List.take_of_length_le hm]
    exact ⟨_, realRecord_flat_whole blockType blockLength t, List.prefix_rfl⟩
  have hdata : ((t.realRecord blockType blockLength).take m).length < 2 ^ 63 := by
    rw [List.length_take]
    omega
  rcases take_record (Nat.lt_of_not_le hm) with hshort | ⟨hheader, hbody⟩
  · exact ⟨_, parseRealIdentificationData_headless hdata hshort, List.nil_prefix⟩
  have hversion := realVersion_head hdata hheader
  rcases hbody.split t.head_length with hcount | ⟨hhead, hmodules⟩
  · exact ⟨_, parseRealIdentificationData_countless hversion hcount.short, List.nil_prefix⟩
  · obtain ⟨found, p', hread, hpre, -⟩ := (realSlotAt_readsAt hdata 0).cut_list hmodules
    exact ⟨_, parseRealIdentificationData_flat hdata t hversion hhead hread, hpre⟩

/-! ## Both records -/

/-- **The filter record is read exactly or refused, and of the slots no prefix invents one.** -/
theorem identification_records :
    (∀ nested : InM0FilterData, CountsFit nested → ∃ t : Topology, t.map = nested)
      ∧ (∀ (header : BlockHeader) (t : Topology),
          parseInm0Filter (header.bytes ++ t.bytes) = .ok (.ok t.map)
            ∧ ∀ m < (header.bytes ++ t.bytes).length,
                ∃ error, parseInm0Filter ((header.bytes ++ t.bytes).take m) = .ok (.error error))
      ∧ (∀ (blockType blockLength : UInt16) (t : Topology),
          parseRealIdentificationData (t.realRecord blockType blockLength) = .ok ⟨t.slots, (1, 1)⟩
            ∧ ∀ m, ∃ r,
                parseRealIdentificationData ((t.realRecord blockType blockLength).take m) = .ok r
                  ∧ r.slots <+: t.slots)
      ∧ ∀ (blockType blockLength : UInt16) (t : ModuleTable),
          parseRealIdentificationData (t.realRecord blockType blockLength) = .ok ⟨t.slots 0, (1, 0)⟩
            ∧ ∀ m, ∃ r,
                parseRealIdentificationData ((t.realRecord blockType blockLength).take m) = .ok r
                  ∧ r.slots <+: t.slots 0 := by
  refine ⟨fun nested h => exists_topology h, ?_, ?_, ?_⟩
  · intro header t
    exact ⟨parseInm0Filter_whole header t, fun m hm => parseInm0Filter_cut header t hm⟩
  · intro blockType blockLength t
    exact ⟨realRecord_apis_whole blockType blockLength t,
      realRecord_apis_prefix blockType blockLength t⟩
  · intro blockType blockLength t
    exact ⟨realRecord_flat_whole blockType blockLength t,
      realRecord_flat_prefix blockType blockLength t⟩

/-- An access point with a port, and a module in slot 1. -/
def benchTable : ModuleTable where
  modules := [⟨0, 0x10, [(1, 1), (0x8000, 2)], by decide⟩, ⟨1, 0x1234, [(1, 0x5678)], by decide⟩]
  count := by decide

/-- The same, and a module under a profile's API. -/
def benchTopology : Topology where
  apis := [⟨0, benchTable⟩, ⟨0x3A00, ⟨[⟨2, 0x99, [(1, 3)], by decide⟩], by decide⟩⟩]
  count := by decide

/-- Both records of both versions, and the filter record cut in its second module. -/
theorem identification_records_bench :
    parseInm0Filter ((versionHeader 0x0030 64 1 0).bytes ++ benchTopology.bytes)
        = .ok (.ok benchTopology.map)
      ∧ (∃ error, parseInm0Filter
          (((versionHeader 0x0030 64 1 0).bytes ++ benchTopology.bytes).take 40) = .ok (.error error))
      ∧ parseRealIdentificationData (benchTopology.realRecord 0x0013 64)
        = .ok ⟨[⟨0, 1, 0, 0x10, 1, []⟩, ⟨0, 0x8000, 0, 0x10, 2, []⟩, ⟨1, 1, 0, 0x1234, 0x5678, []⟩,
          ⟨2, 1, 0x3A00, 0x99, 3, []⟩], (1, 1)⟩
      ∧ parseRealIdentificationData (benchTable.realRecord 0x0013 38)
        = .ok ⟨[⟨0, 1, 0, 0x10, 1, []⟩, ⟨0, 0x8000, 0, 0x10, 2, []⟩, ⟨1, 1, 0, 0x1234, 0x5678, []⟩],
          (1, 0)⟩ :=
  ⟨(identification_records.2.1 _ benchTopology).1,
    (identification_records.2.1 _ benchTopology).2 40 (by decide),
    (identification_records.2.2.1 0x0013 64 benchTopology).1,
    (identification_records.2.2.2 0x0013 38 benchTable).1⟩

end Profinet.Im
