/-
  DIAGNOSIS RECORD: block header, location groups and their entries, as a device writes them.

      6 bytes    block header
      8          location of a group: API, slot, subslot
      8, 14, 18  its entries: channel number, properties, identifier, error type, and the rest
      ...        the next group

  Nothing marks a location.  The reader takes eight bytes for one if they name a small API and a
  slot below 0x8000; where an entry stands, the identifier takes the place of the slot, and the
  three identifiers are not below 0x8000.  So an entry is never taken for a location, and of a
  record whose groups all have an entry every entry is read at its place (`diagnosis_decode`).
-/
import Profinet.Diagnosis
import Profinet.Lib.Stands

namespace Profinet.Diagnosis

open Wire Checked

/-- The USI of plain channel diagnosis. -/
def usiChannelDiagnosis : UInt16 := 0x8000

/-! ## What a device writes -/

/-- What an entry has behind its error type. -/
inductive SentDetail where
  | channel
  | ext (extErrorType : UInt16) (extAddValue : UInt32)
  | qualified (extErrorType : UInt16) (extAddValue qualifier : UInt32)
  deriving DecidableEq, Repr

/-- An entry as a device sends it. -/
structure SentEntry where
  channelNumber : UInt16
  channelProperties : UInt16
  errorType : UInt16
  detail : SentDetail
  deriving DecidableEq, Repr

/-- The USI that announces the details. -/
def SentDetail.usi : SentDetail → UInt16
  | .channel => usiChannelDiagnosis
  | .ext .. => usiExtChannelDiagnosis
  | .qualified .. => usiQualifiedChannelDiagnosis

/-- No identifier looks like a slot. -/
theorem SentDetail.usi_not_lt (d : SentDetail) : ¬ d.usi < 0x8000 := by
  cases d with
  | channel =>
    show ¬ usiChannelDiagnosis < 0x8000
    decide
  | ext extErrorType extAddValue =>
    show ¬ usiExtChannelDiagnosis < 0x8000
    decide
  | qualified extErrorType extAddValue qualifier =>
    show ¬ usiQualifiedChannelDiagnosis < 0x8000
    decide

/-- The bytes behind the error type. -/
def SentDetail.bytes : SentDetail → List UInt8
  | .channel => []
  | .ext extErrorType extAddValue => be16 extErrorType ++ be32 extAddValue
  | .qualified extErrorType extAddValue qualifier =>
    be16 extErrorType ++ (be32 extAddValue ++ be32 qualifier)

/-- The entry as bytes. -/
def SentEntry.bytes (e : SentEntry) : List UInt8 :=
  be16 e.channelNumber ++ (be16 e.channelProperties ++ (be16 e.detail.usi ++
    (be16 e.errorType ++ e.detail.bytes)))

theorem SentEntry.bytes_length (e : SentEntry) : 8 ≤ e.bytes.length := by
  unfold SentEntry.bytes
  simp only [List.length_append, be16_length]
  omega

/-- The location as bytes. -/
def Location.bytes (loc : Location) : List UInt8 :=
  be32 loc.api ++ (be16 loc.slot ++ be16 loc.subslot)

/-- A group of entries at one location: a small API and a slot below 0x8000. -/
structure DiagnosisGroup where
  location : Location
  entries : List SentEntry
  api_lt : location.api < 0x10000
  slot_lt : location.slot < 0x8000

/-- The group as bytes: where it belongs, and its entries. -/
def DiagnosisGroup.bytes (g : DiagnosisGroup) : List UInt8 :=
  g.location.bytes ++ g.entries.flatMap SentEntry.bytes

theorem Location.bytes_length (loc : Location) : loc.bytes.length = 8 := rfl

theorem DiagnosisGroup.bytes_length (g : DiagnosisGroup) :
    g.bytes.length = 8 + (g.entries.flatMap SentEntry.bytes).length := by
  unfold DiagnosisGroup.bytes
  rw [List.length_append, Location.bytes_length]

/-- The location of a group in words: the upper half of its API is zero. -/
theorem DiagnosisGroup.location_words (g : DiagnosisGroup) :
    g.location.bytes = be16 0 ++ (be16 (loWord g.location.api) ++ (be16 g.location.slot ++
      be16 g.location.subslot)) := by
  unfold Location.bytes
  rw [be32_words, hiWord_eq_zero g.api_lt, List.append_assoc]

/-- A group without entries is its location. -/
theorem DiagnosisGroup.bytes_of_empty (g : DiagnosisGroup) (h : g.entries = []) :
    g.bytes = g.location.bytes := by
  unfold DiagnosisGroup.bytes
  rw [h, List.flatMap_nil, List.append_nil]

/-- The header of a diagnosis block, of any length and version. -/
structure DiagnosisHeader where
  blockType : UInt16
  blockLength : UInt16
  blockVersion : UInt16
  known : diagnosisBlockTypes.contains blockType = true

/-- The header as bytes. -/
def DiagnosisHeader.bytes (h : DiagnosisHeader) : List UInt8 :=
  be16 h.blockType ++ (be16 h.blockLength ++ be16 h.blockVersion)

/-- The bytes of a record: one header and the groups behind it. -/
def diagnosisRecord (header : DiagnosisHeader) (groups : List DiagnosisGroup) : List UInt8 :=
  header.bytes ++ groups.flatMap DiagnosisGroup.bytes

/-! ## What is to be read of it -/

/-- An entry at a location; what its kind lacks has its default. -/
def SentEntry.readAt (loc : Location) (e : SentEntry) : ChannelDiagnosis where
  kind := match e.detail with
    | .channel => .channel
    | .ext .. => .ext
    | .qualified .. => .qualified
  api := loc.api
  slot := loc.slot
  subslot := loc.subslot
  channelNumber := e.channelNumber
  channelProperties := .fromU16 e.channelProperties
  errorType := e.errorType
  errorTypeName := decodeChannelErrorType e.errorType
  extErrorType := match e.detail with
    | .channel => 0
    | .ext extErrorType _ => extErrorType
    | .qualified extErrorType _ _ => extErrorType
  extErrorTypeName := match e.detail with
    | .channel => ""
    | .ext extErrorType _ => decodeExtChannelErrorType e.errorType extErrorType
    | .qualified extErrorType _ _ => decodeExtChannelErrorType e.errorType extErrorType
  extAddValue := match e.detail with
    | .channel => 0
    | .ext _ extAddValue => extAddValue
    | .qualified _ extAddValue _ => extAddValue
  qualifier := match e.detail with
    | .qualified _ _ qualifier => qualifier
    | _ => 0

/-- The entries of a group, each at its location. -/
def DiagnosisGroup.read (g : DiagnosisGroup) : List ChannelDiagnosis :=
  g.entries.map (SentEntry.readAt g.location)

/-! ## One entry is read -/

section Entry

variable {data : List UInt8} (hdata : data.length < 2 ^ 63) (loc : Location) {start : Nat}

/-- What stands at `start` is read as the entry `e`, which ends at `next`. -/
def EntryAt (data : List UInt8) (loc : Location) (start : Nat) (e : ChannelDiagnosis)
    (next : Nat) : Prop :=
  start + 6 ≤ data.length ∧ ∃ channelNumber properties usi,
    u16At data start false = .ok channelNumber ∧ u16At data (start + 2) false = .ok properties
      ∧ u16At data (start + 4) false = .ok usi
      ∧ ∃ n : { n : Nat // start + 6 < n }, n.val = next
        ∧ detailAt data loc channelNumber properties usi (start + 6) = .ok (some (e, n))

include hdata

/-- Every identifier but two is read as a plain entry. -/
theorem entryAt_plain (hfits : start + 8 ≤ data.length)
    (husi : rdU16 data (start + 4) false ≠ usiExtChannelDiagnosis
      ∧ rdU16 data (start + 4) false ≠ usiQualifiedChannelDiagnosis) :
    EntryAt data loc start
      (.plain loc (rdU16 data start false) (rdU16 data (start + 2) false)
        (rdU16 data (start + 6) false)) (start + 8) := by
  refine ⟨by omega, _, _, _, u16At_ok hdata (by omega) false, u16At_ok hdata (by omega) false,
    u16At_ok hdata (by omega) false, ⟨start + 8, by omega⟩, rfl, ?_⟩
  unfold detailAt
  rw [if_neg husi.1, if_neg husi.2, add_ok (by omega), ok_bind, if_neg (by dsimp only; omega),
    u16At_ok hdata (by omega)]
  rfl

theorem entryAt_ext (hfits : start + 14 ≤ data.length)
    (husi : rdU16 data (start + 4) false = usiExtChannelDiagnosis) :
    EntryAt data loc start
      ((ChannelDiagnosis.plain loc (rdU16 data start false) (rdU16 data (start + 2) false)
        (rdU16 data (start + 6) false)).extended .ext (rdU16 data (start + 8) false)
        (rdU32 data (start + 10) false) 0) (start + 14) := by
  refine ⟨by omega, _, _, _, u16At_ok hdata (by omega) false, u16At_ok hdata (by omega) false,
    u16At_ok hdata (by omega) false, ⟨start + 14, by omega⟩, rfl, ?_⟩
  unfold detailAt
  rw [if_pos husi, add_ok (by omega), ok_bind, if_neg (by dsimp only; omega),
    u16At_ok hdata (by omega), ok_bind, add_ok (by omega), ok_bind,
    u16At_ok hdata (by dsimp only; omega), ok_bind, add_ok (by omega), ok_bind, u32At_ok hdata (by dsimp only; omega)]
  rfl

theorem entryAt_qualified (hfits : start + 18 ≤ data.length)
    (husi : rdU16 data (start + 4) false = usiQualifiedChannelDiagnosis) :
    EntryAt data loc start
      ((ChannelDiagnosis.plain loc (rdU16 data start false) (rdU16 data (start + 2) false)
        (rdU16 data (start + 6) false)).extended .qualified (rdU16 data (start + 8) false)
        (rdU32 data (start + 10) false) (rdU32 data (start + 14) false)) (start + 18) := by
  refine ⟨by omega, _, _, _, u16At_ok hdata (by omega) false, u16At_ok hdata (by omega) false,
    u16At_ok hdata (by omega) false, ⟨start + 18, by omega⟩, rfl, ?_⟩
  unfold detailAt
  rw [if_neg (by rw [husi]; decide), if_pos husi, add_ok (by omega), ok_bind,
    if_neg (by dsimp only; omega), u16At_ok hdata (by omega), ok_bind, add_ok (by omega), ok_bind,
    u16At_ok hdata (by dsimp only; omega), ok_bind, add_ok (by omega), ok_bind,
    u32At_ok hdata (by dsimp only; omega), ok_bind, add_ok (by omega), ok_bind,
    u32At_ok hdata (by dsimp only; omega)]
  rfl

/-- An entry of one of the three kinds is read as it was written. -/
theorem entryAt_sent {e : SentEntry} (h : Stands data start e.bytes) :
    EntryAt data loc start (e.readAt loc) (start + e.bytes.length) := by
  obtain ⟨channelNumber, properties, errorType, detail⟩ := e
  obtain ⟨hnumber, h⟩ := h.split (be16_length channelNumber)
  obtain ⟨hprops, h⟩ := h.split (be16_length properties)
  obtain ⟨hid, h⟩ := h.split (be16_length detail.usi)
  obtain ⟨herror, h⟩ := h.split (be16_length errorType)
  have hid : rdU16 data (start + 4) false = detail.usi := hid.rdU16
  have herror6 : rdU16 data (start + 6) false = errorType := herror.rdU16
  cases detail with
  | channel =>
    have hentry := @entryAt_plain data hdata loc start herror.fits (by rw [hid]; decide)
    rw [hnumber.rdU16, hprops.rdU16, herror6] at hentry
    exact hentry
  | ext extErrorType extAddValue =>
    obtain ⟨hext, hvalue⟩ := h.split (be16_length extErrorType)
    have hext8 : rdU16 data (start + 8) false = extErrorType := hext.rdU16
    have hvalue10 : rdU32 data (start + 10) false = extAddValue := hvalue.rdU32
    have hentry := @entryAt_ext data hdata loc start hvalue.fits hid
    rw [hnumber.rdU16, hprops.rdU16, herror6, hext8, hvalue10] at hentry
    exact hentry
  | qualified extErrorType extAddValue qualifier =>
    obtain ⟨hext, h⟩ := h.split (be16_length extErrorType)
    obtain ⟨hvalue, hqualifier⟩ := h.split (be32_length extAddValue)
    have hext8 : rdU16 data (start + 8) false = extErrorType := hext.rdU16
    have hvalue10 : rdU32 data (start + 10) false = extAddValue := hvalue.rdU32
    have hqualifier14 : rdU32 data (start + 14) false = qualifier := hqualifier.rdU32
    have hentry := @entryAt_qualified data hdata loc start hqualifier.fits hid
    rw [hnumber.rdU16, hprops.rdU16, herror6, hext8, hvalue10, hqualifier14] at hentry
    exact hentry

/-! ## Locations -/

variable {off : Nat}

/-- The walk stands at `off`, and goes on at `start` under the location `loc'`. -/
def Located (data : List UInt8) (loc : Location) (off : Nat) (loc' : Location) (start : Nat) :
    Prop :=
  ∃ hle : off ≤ start, locationAt data loc off = .ok (loc', ⟨start, hle⟩)

/-- A location of a group is taken for one. -/
theorem located_group (g : DiagnosisGroup) (h : Stands data off g.location.bytes) :
    Located data loc off g.location (off + 8) := by
  have hfits : off + 8 ≤ data.length := h.fits
  obtain ⟨hapi, h⟩ := h.split (be32_length g.location.api)
  obtain ⟨hslot, hsubslot⟩ := h.split (be16_length g.location.slot)
  refine ⟨Nat.le_add_right off 8, ?_⟩
  unfold locationAt
  rw [add_ok (by omega), ok_bind, if_pos hfits, hapi.u32At hdata, ok_bind, add_ok (by omega),
    ok_bind, hslot.u16At hdata, ok_bind, add_ok (by omega), ok_bind, hsubslot.u16At hdata, ok_bind,
    if_pos ⟨g.api_lt, g.slot_lt⟩]
  rfl

/-- What does not look like a location is left alone. -/
theorem located_none (hoff : off ≤ data.length)
    (h : ¬ (rdU32 data off false < 0x10000 ∧ rdU16 data (off + 4) false < 0x8000)) :
    Located data loc off loc off := by
  refine ⟨Nat.le_refl off, ?_⟩
  unfold locationAt
  rw [add_ok (by omega), ok_bind]
  by_cases hfits : off + 8 ≤ data.length
  · rw [if_pos hfits, u32At_ok hdata (by omega), ok_bind, add_ok (by omega), ok_bind,
      u16At_ok hdata (by dsimp only; omega), ok_bind, add_ok (by omega), ok_bind,
      u16At_ok hdata (by dsimp only; omega), ok_bind, if_neg h]
    rfl
  · rw [if_neg hfits]
    rfl

/-- Neither is an entry: its identifier stands where a location has its slot. -/
theorem located_entry {e : SentEntry} (h : Stands data off e.bytes) :
    Located data loc off loc off := by
  obtain ⟨hnumber, h⟩ := h.split (be16_length e.channelNumber)
  obtain ⟨hprops, h⟩ := h.split (be16_length e.channelProperties)
  obtain ⟨hid, -⟩ := h.split (be16_length e.detail.usi)
  have hfits : off + 2 ≤ data.length := hnumber.fits
  refine located_none hdata loc (by omega) ?_
  intro hlooks
  have hslot : rdU16 data (off + 4) false = e.detail.usi := hid.rdU16
  rw [hslot] at hlooks
  exact e.detail.usi_not_lt hlooks.2

/-! ## The walk -/

/-- Fewer than six bytes are no entry. -/
theorem entriesFrom_end (hoff : off ≤ data.length)
    (hend : data.length < off + 6) : entriesFrom data loc off = .ok [] := by
  rw [entriesFrom, add_ok (by omega), ok_bind, if_neg (by dsimp only; omega)]
  rfl

/-- One round: a location or none, and the entry behind it. -/
theorem entriesFrom_step {loc' : Location} {next : Nat} {e : ChannelDiagnosis}
    {more : List ChannelDiagnosis} (hloc : Located data loc off loc' start)
    (hentry : EntryAt data loc' start e next) (hmore : entriesFrom data loc' next = .ok more) :
    entriesFrom data loc off = .ok (e :: more) := by
  obtain ⟨hle, hloc⟩ := hloc
  obtain ⟨hfits, channelNumber, properties, usi, hnumber, hprops, hid, n, rfl, hdetail⟩ := hentry
  rw [entriesFrom, add_ok (by omega), ok_bind, if_pos (by dsimp only; omega), hloc, ok_bind]
  dsimp only
  rw [add_ok (by omega), ok_bind, if_neg (by dsimp only; omega), hnumber, ok_bind,
    add_ok (by omega), ok_bind, hprops, ok_bind, add_ok (by omega), ok_bind, hid, ok_bind,
    hdetail, ok_bind]
  dsimp only
  rw [hmore]
  rfl

/-- A location with nothing behind it ends the walk. -/
theorem entriesFrom_located_end {loc' : Location} (hloc : Located data loc off loc' start)
    (hend : data.length < start + 6) (hstart : start ≤ data.length) :
    entriesFrom data loc off = .ok [] := by
  obtain ⟨hle, hloc⟩ := hloc
  rw [entriesFrom, add_ok (by omega), ok_bind]
  by_cases hmore : off + 6 ≤ data.length
  · rw [if_pos hmore, hloc, ok_bind]
    dsimp only
    rw [add_ok (by omega), ok_bind, if_pos (by dsimp only; omega)]
    rfl
  · rw [if_neg hmore]
    rfl

/-- The entries of one location, by induction: each is read where the one before it ends. -/
theorem entriesFrom_entries (entries : List SentEntry)
    (h : Stands data off (entries.flatMap SentEntry.bytes)) {more : List ChannelDiagnosis}
    (hmore : entriesFrom data loc (off + (entries.flatMap SentEntry.bytes).length) = .ok more) :
    entriesFrom data loc off = .ok (entries.map (SentEntry.readAt loc) ++ more) := by
  induction entries generalizing off with
  | nil => exact hmore
  | cons e entries ih =>
    rw [List.flatMap_cons] at h hmore
    rw [List.length_append, ← Nat.add_assoc] at hmore
    obtain ⟨hentry, hrest⟩ := h.split rfl
    exact entriesFrom_step hdata loc (located_entry hdata loc hentry) (entryAt_sent hdata loc hentry)
      (ih hrest hmore)

/-- A group with an entry is read at its location, which stays behind. -/
theorem entriesFrom_group (g : DiagnosisGroup) (hne : g.entries ≠ [])
    (h : Stands data off g.bytes) {more : List ChannelDiagnosis}
    (hmore : entriesFrom data g.location (off + g.bytes.length) = .ok more) :
    entriesFrom data loc off = .ok (g.read ++ more) := by
  obtain ⟨location, entries, api_lt, slot_lt⟩ := g
  rcases entries with _ | ⟨e, entries⟩
  · exact absurd rfl hne
  · obtain ⟨hlocation, hentries⟩ := h.split location.bytes_length
    obtain ⟨hfirst, hrest⟩ := hentries.split rfl
    rw [DiagnosisGroup.bytes_length, List.flatMap_cons, List.length_append, ← Nat.add_assoc,
      ← Nat.add_assoc] at hmore
    exact entriesFrom_step hdata loc (located_group hdata loc ⟨location, e :: entries, api_lt, slot_lt⟩
      hlocation) (entryAt_sent hdata location hfirst)
      (entriesFrom_entries hdata location entries hrest hmore)

end Entry

/-! ## A record -/

/-- Behind the header of a diagnosis block the walk begins. -/
theorem parseDiagnosisBlock_header {data : List UInt8} (hdata : data.length < 2 ^ 63)
    (header : DiagnosisHeader) (h : Stands data 0 header.bytes) (api : UInt32)
    (slot subslot : UInt16) {entries : List ChannelDiagnosis}
    (hentries : entriesFrom data ⟨api, slot, subslot⟩ 6 = .ok entries) :
    parseDiagnosisBlock data api slot subslot
      = .ok { api, slot, subslot, entries, rawData := data } := by
  have hfits : 0 + 6 ≤ data.length := h.fits
  obtain ⟨htype, -⟩ := h.split (be16_length header.blockType)
  unfold parseDiagnosisBlock
  rw [if_neg (by omega), htype.u16At hdata, ok_bind]
  dsimp only
  rw [if_pos header.known, hentries]
  rfl

/-- What the walk makes of groups that may be empty.  Behind the location of an empty group it
    expects an entry, so the location of the next group is read as one, and that group's own entries
    are left to the empty group. -/
def readGroups : List DiagnosisGroup → List ChannelDiagnosis
  | [] => []
  | [g] => g.read
  | g :: g' :: groups =>
    if g.entries = [] then
      .plain g.location 0 (loWord g'.location.api) g'.location.subslot
        :: (g'.entries.map (SentEntry.readAt g.location) ++ readGroups groups)
    else g.read ++ readGroups (g' :: groups)

section Groups

variable {data : List UInt8} (hdata : data.length < 2 ^ 63)
include hdata

/-- The location of a group, read as an entry. -/
theorem entryAt_location (loc : Location) (g : DiagnosisGroup) {start : Nat}
    (h : Stands data start g.location.bytes) :
    EntryAt data loc start (.plain loc 0 (loWord g.location.api) g.location.subslot)
      (start + 8) := by
  have husi : g.location.slot ≠ usiExtChannelDiagnosis
      ∧ g.location.slot ≠ usiQualifiedChannelDiagnosis := by
    have hlt := g.slot_lt
    constructor
    · intro heq
      rw [heq] at hlt
      exact absurd hlt (by decide)
    · intro heq
      rw [heq] at hlt
      exact absurd hlt (by decide)
  rw [g.location_words] at h
  obtain ⟨hhigh, h⟩ := h.split (be16_length 0)
  obtain ⟨hlow, h⟩ := h.split (be16_length (loWord g.location.api))
  obtain ⟨hslot, hsubslot⟩ := h.split (be16_length g.location.slot)
  have hslot4 : rdU16 data (start + 4) false = g.location.slot := hslot.rdU16
  have hsubslot6 : rdU16 data (start + 6) false = g.location.subslot := hsubslot.rdU16
  have hentry := entryAt_plain hdata loc hsubslot.fits (by rw [hslot4]; exact husi)
  rw [hhigh.rdU16, hlow.rdU16, hsubslot6] at hentry
  exact hentry

/-- The walk over groups, empty ones included. -/
theorem entriesFrom_readGroups (loc : Location) {off : Nat} (groups : List DiagnosisGroup)
    (h : Stands data off (groups.flatMap DiagnosisGroup.bytes))
    (hend : data.length = off + (groups.flatMap DiagnosisGroup.bytes).length) :
    entriesFrom data loc off = .ok (readGroups groups) := by
  induction groups using readGroups.induct generalizing off loc with
  | case1 =>
    exact entriesFrom_end hdata loc (Nat.le_of_eq hend.symm) (by
      rw [hend, List.flatMap_nil, List.length_nil]
      omega)
  | case2 g =>
    -- the last group: behind an empty one the record ends
    rw [List.flatMap_cons, List.flatMap_nil, List.append_nil] at h hend
    by_cases hempty : g.entries = []
    · have hlength := g.location.bytes_length
      have hread : g.read = [] := by
        unfold DiagnosisGroup.read
        rw [hempty, List.map_nil]
      rw [g.bytes_of_empty hempty] at h hend
      rw [readGroups, hread]
      exact entriesFrom_located_end hdata loc (located_group hdata loc g h) (by omega) (by omega)
    · have hmore : entriesFrom data g.location (off + g.bytes.length) = .ok [] :=
        entriesFrom_end hdata g.location (Nat.le_of_eq hend.symm) (by omega)
      rw [entriesFrom_group hdata loc g hempty h hmore, List.append_nil, readGroups]
  | case3 g g' groups hempty ih =>
    -- behind an empty group the next location stands where an entry is expected
    rw [List.flatMap_cons, g.bytes_of_empty hempty, List.flatMap_cons] at h hend
    rw [List.length_append, List.length_append, Location.bytes_length, ← Nat.add_assoc,
      ← Nat.add_assoc] at hend
    obtain ⟨hlocation, h⟩ := h.split g.location.bytes_length
    obtain ⟨hgroup, hrest⟩ := h.split rfl
    obtain ⟨hnext, hentries⟩ := hgroup.split g'.location.bytes_length
    rw [readGroups, if_pos hempty]
    refine entriesFrom_step hdata loc (located_group hdata loc g hlocation)
      (entryAt_location hdata g.location g' hnext) ?_
    refine entriesFrom_entries hdata g.location g'.entries hentries ?_
    have hmore := ih g.location hrest hend
    rw [g'.bytes_length, ← Nat.add_assoc] at hmore
    exact hmore
  | case4 g g' groups hne ih =>
    rw [List.flatMap_cons] at h hend
    rw [List.length_append, ← Nat.add_assoc] at hend
    obtain ⟨hgroup, hrest⟩ := h.split rfl
    rw [readGroups, if_neg hne]
    exact entriesFrom_group hdata loc g hne hgroup (ih g.location hrest hend)

end Groups

/-- Without an empty group nothing is made up. -/
theorem readGroups_of_nonempty {groups : List DiagnosisGroup}
    (h : ∀ g ∈ groups, g.entries ≠ []) : readGroups groups = groups.flatMap DiagnosisGroup.read := by
  induction groups using readGroups.induct with
  | case1 => rfl
  | case2 g =>
    rw [readGroups, List.flatMap_cons, List.flatMap_nil, List.append_nil]
  | case3 g g' groups hempty ih => exact absurd hempty (h g List.mem_cons_self)
  | case4 g g' groups hne ih =>
    rw [readGroups, if_neg hne, ih fun g'' hg'' => h g'' (List.mem_cons_of_mem g hg'')]
    rfl

/-- **Of a record whose groups all have an entry, every entry is read at its place.**  Whatever
    the location the reader was given and whatever the entries are: none is taken for a
    location, and none is read at another group's. -/
theorem diagnosis_decode (header : DiagnosisHeader) (groups : List DiagnosisGroup)
    (hne : ∀ g ∈ groups, g.entries ≠ [])
    (hbound : (diagnosisRecord header groups).length < 2 ^ 63) (api : UInt32)
    (slot subslot : UInt16) :
    parseDiagnosisBlock (diagnosisRecord header groups) api slot subslot
      = .ok { api, slot, subslot
              entries := groups.flatMap DiagnosisGroup.read
              rawData := diagnosisRecord header groups } := by
  have hheader : header.bytes.length = 6 := rfl
  obtain ⟨hfirst, hgroups⟩ := (stands_whole (diagnosisRecord header groups)).split hheader
  refine parseDiagnosisBlock_header hbound header hfirst api slot subslot ?_
  rw [← readGroups_of_nonempty hne]
  refine entriesFrom_readGroups hbound _ groups hgroups ?_
  unfold diagnosisRecord
  rw [List.length_append, hheader]

/-- Two groups, with one entry of each kind; the second begins with channel 0. -/
def benchHeader : DiagnosisHeader := ⟨0x0010, 60, 0x0100, by decide⟩

/-- Two groups, with an entry of each layout. -/
def benchGroups : List DiagnosisGroup :=
  [⟨⟨0, 1, 0x8001⟩, [⟨3, 0x0801, 0x0006, .channel⟩, ⟨4, 0x0801, 0x8000, .ext 0x8000 7⟩],
      by decide, by decide⟩,
    ⟨⟨0, 2, 1⟩, [⟨0, 0x0001, 0x0001, .qualified 0x8001 8 9⟩], by decide, by decide⟩]

theorem diagnosis_decode_bench :
    parseDiagnosisBlock (diagnosisRecord benchHeader benchGroups) 0 0 0
      = .ok { api := 0, slot := 0, subslot := 0
              entries := benchGroups.flatMap DiagnosisGroup.read
              rawData := diagnosisRecord benchHeader benchGroups } :=
  diagnosis_decode benchHeader benchGroups
    (by
      intro g hg
      rcases List.mem_cons.mp hg with rfl | hg
      · exact List.cons_ne_nil _ _
      · rw [List.mem_singleton.mp hg]
        exact List.cons_ne_nil _ _)
    (by decide) 0 0 0

end Profinet.Diagnosis
