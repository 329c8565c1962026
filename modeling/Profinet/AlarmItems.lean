/-
  ALARM ITEMS: what a device writes behind the body of a notification, and that it is read back.

  Items follow each other without a length.  Seven formats have a size of their own, which the User
  Structure Identifier tells (`AlarmItem.Delimited`); a pull request alarm and the items of a
  manufacturer go on to the end of the block (`AlarmItem.TakesRest`), so one of these can only come
  last.  A `Payload` is such a list, and `alarmItems_payload` says that the walk over its bytes
  meets each item where the one before it ends.
-/
import Profinet.Alarms
import Profinet.Lib.Stands

namespace Profinet.Alarms

open Wire Checked

/-! ## Items on the wire

  Each format with its fields; what a device writes behind the identifier, padding words
  included. -/

/-- The item's User Structure Identifier. -/
def AlarmItem.userStructureId : AlarmItem → UInt16
  | .diagnosis i => i.userStructureId
  | .maintenance _ => usiMaintenance
  | .uploadRetrieval i => i.userStructureId
  | .pe _ => usiPeAlarm
  | .rs i => i.userStructureId
  | .pral _ => usiPralAlarm
  | .generic usi _ => usi

/-- Error type, and what the longer two of the three formats have behind it. -/
def DiagnosisItem.bytes (i : DiagnosisItem) : List UInt8 :=
  be16 i.channelNumber ++ (be16 i.channelProperties ++ (be16 i.channelErrorType ++
    ((if i.userStructureId = usiExtChannelDiagnosis
        ∨ i.userStructureId = usiQualifiedChannelDiagnosis
      then be16 i.extChannelErrorType ++ be32 i.extChannelAddValue else []) ++
    (if i.userStructureId = usiQualifiedChannelDiagnosis
      then be32 i.qualifiedChannelQualifier else []))))

/-- What stands behind the identifier; `padding` is the word that aligns a block header. -/
def AlarmItem.body (padding : UInt16) : AlarmItem → List UInt8
  | .diagnosis i => i.bytes
  | .maintenance i =>
    be16 i.blockType ++ (be16 i.blockLength ++ (be16 i.blockVersion ++ (be16 padding ++
      be32 i.maintenanceStatus)))
  | .uploadRetrieval i =>
    be16 i.blockType ++ (be16 i.blockLength ++ (be16 i.blockVersion ++ (be16 padding ++
      (be32 i.urRecordIndex ++ be32 i.urRecordLength))))
  | .pe i =>
    be16 i.blockType ++ (be16 i.blockLength ++ (be16 i.blockVersion ++ [i.peOperationalMode]))
  | .rs i => be16 i.rsAlarmInfo
  | .pral i =>
    be16 i.channelNumber ++ (be16 i.pralChannelProperties ++ (be16 i.pralReason ++
      (be16 i.pralExtReason ++ i.pralReasonAddValue)))
  | .generic _ rawData => rawData

/-- An item as bytes, its padding words being `padding`. -/
def AlarmItem.bytes (padding : UInt16) (item : AlarmItem) : List UInt8 :=
  be16 item.userStructureId ++ item.body padding

/-- A diagnosis item of one of its three formats; what the format lacks is zero. -/
def DiagnosisItem.Formed (i : DiagnosisItem) : Prop :=
  (i.userStructureId = usiChannelDiagnosis ∧ i.extChannelErrorType = 0 ∧ i.extChannelAddValue = 0
      ∧ i.qualifiedChannelQualifier = 0)
    ∨ (i.userStructureId = usiExtChannelDiagnosis ∧ i.qualifiedChannelQualifier = 0)
    ∨ i.userStructureId = usiQualifiedChannelDiagnosis

/-- The items with a size of their own. -/
def AlarmItem.Delimited : AlarmItem → Prop
  | .diagnosis i => i.Formed
  | .maintenance _ => True
  | .uploadRetrieval i => i.userStructureId = usiUpload ∨ i.userStructureId = usiIparameter
  | .pe _ => True
  | .rs i => i.userStructureId = usiRsAlarmLow ∨ i.userStructureId = usiRsAlarmHigh
      ∨ i.userStructureId = usiRsAlarmSubmodule
  | .pral _ => False
  | .generic .. => False

/-- The identifiers that have a format. -/
def knownUsis : List UInt16 :=
  [usiChannelDiagnosis, usiExtChannelDiagnosis, usiQualifiedChannelDiagnosis, usiMaintenance,
    usiUpload, usiIparameter, usiRsAlarmLow, usiRsAlarmHigh, usiRsAlarmSubmodule, usiPeAlarm,
    usiPralAlarm]

/-- The items that go on to the end of the block. -/
def AlarmItem.TakesRest : AlarmItem → Prop
  | .pral _ => True
  | .generic usi _ => usi ∉ knownUsis
  | _ => False

instance (i : DiagnosisItem) : Decidable i.Formed := by
  unfold DiagnosisItem.Formed
  infer_instance

instance (item : AlarmItem) : Decidable item.Delimited := by
  cases item <;> unfold AlarmItem.Delimited <;> infer_instance

instance (item : AlarmItem) : Decidable item.TakesRest := by
  cases item <;> unfold AlarmItem.TakesRest <;> infer_instance

/-- An item with a size of its own, and the padding it is sent with. -/
structure SentItem where
  item : AlarmItem
  padding : UInt16
  delimited : item.Delimited

/-- An item that goes on to the end. -/
structure LastItem where
  item : AlarmItem
  takesRest : item.TakesRest

/-- An item with the padding it was sent with. -/
def SentItem.bytes (s : SentItem) : List UInt8 := s.item.bytes s.padding

/-- The last item needs none. -/
def LastItem.bytes (l : LastItem) : List UInt8 := l.item.bytes 0

/-- What follows the body of a notification. -/
structure Payload where
  sent : List SentItem
  last : Option LastItem

/-- The items of a payload. -/
def Payload.items (p : Payload) : List AlarmItem :=
  p.sent.map SentItem.item ++ p.last.toList.map LastItem.item

/-- The payload as bytes. -/
def Payload.bytes (p : Payload) : List UInt8 :=
  p.sent.flatMap SentItem.bytes ++ p.last.toList.flatMap LastItem.bytes

theorem AlarmItem.bytes_length (padding : UInt16) (item : AlarmItem) :
    (item.bytes padding).length = 2 + (item.body padding).length := by
  unfold AlarmItem.bytes
  rw [List.length_append, be16_length]

/-! ## One item is read back

  The parser of one item, from the place it stands at.  A format of fixed size is read whole; the
  others take what is left. -/

section Item

variable {data : List UInt8} (hdata : data.length < 2 ^ 63) {off : Nat}

/-- The item parser reads `item`, and the next item is `size` bytes on. -/
def ReadsItem (x : Comp (ParsedItem off)) (item : AlarmItem) (size : Nat) : Prop :=
  ∃ next : After off, next.val = off + size ∧ x = .ok (.ok (item, next))

include hdata

theorem parseDiagnosisItem_reads {i : DiagnosisItem} (hi : i.Formed)
    (h : Stands data off i.bytes) :
    ReadsItem (parseDiagnosisItem data off i.userStructureId) (.diagnosis i) i.bytes.length := by
  obtain ⟨usi, channelNumber, channelProperties, channelErrorType, extError, addValue, qualifier⟩ :=
    i
  obtain ⟨hnumber, h⟩ := h.split (be16_length channelNumber)
  obtain ⟨hprops, h⟩ := h.split (be16_length channelProperties)
  obtain ⟨herror, h⟩ := h.split (be16_length channelErrorType)
  have hbasic : off + 6 ≤ data.length := herror.fits
  unfold parseDiagnosisItem
  rw [add_ok (by omega), ok_bind, if_neg (by dsimp only; omega), hnumber.u16At hdata, ok_bind,
    add_ok (by omega), ok_bind, hprops.u16At hdata, ok_bind, add_ok (by omega), ok_bind,
    herror.u16At hdata, ok_bind]
  dsimp only at h ⊢
  rcases hi with ⟨rfl, rfl, rfl, rfl⟩ | ⟨rfl, rfl⟩ | rfl
  · rw [if_neg (by decide)]
    exact ⟨_, rfl, rfl⟩
  · rw [if_pos (Or.inl rfl), if_neg (by decide)] at h
    obtain ⟨hext, hvalue⟩ := h.left.split (be16_length extError)
    have hlong : off + 12 ≤ data.length := hvalue.fits
    rw [if_pos (Or.inl rfl), add_ok (by omega), ok_bind, if_neg (by dsimp only; omega),
      hext.u16At hdata, ok_bind, add_ok (by omega), ok_bind, hvalue.u32At hdata, ok_bind,
      if_neg (by decide)]
    exact ⟨_, rfl, rfl⟩
  · rw [if_pos (Or.inr rfl), if_pos rfl] at h
    obtain ⟨hfirst, hqualifier⟩ := h.split (n := 6) rfl
    obtain ⟨hext, hvalue⟩ := hfirst.split (be16_length extError)
    have hlong : off + 16 ≤ data.length := hqualifier.fits
    rw [if_pos (Or.inr rfl), add_ok (by omega), ok_bind, if_neg (by dsimp only; omega),
      hext.u16At hdata, ok_bind, add_ok (by omega), ok_bind, hvalue.u32At hdata, ok_bind,
      if_pos rfl, add_ok (by dsimp only; omega), ok_bind, if_neg (by dsimp only; omega),
      hqualifier.u32At hdata]
    exact ⟨_, rfl, rfl⟩

theorem parseMaintenanceItem_reads {i : MaintenanceItem} {padding : UInt16}
    (h : Stands data off ((AlarmItem.maintenance i).body padding)) :
    ReadsItem (parseMaintenanceItem data off) (.maintenance i) 12 := by
  have hfits : off + 12 ≤ data.length := h.fits
  obtain ⟨htype, h⟩ := h.split (be16_length i.blockType)
  obtain ⟨hlength, h⟩ := h.split (be16_length i.blockLength)
  obtain ⟨hversion, h⟩ := h.split (be16_length i.blockVersion)
  obtain ⟨_, hstatus⟩ := h.split (be16_length padding)
  unfold parseMaintenanceItem
  rw [add_ok (by omega), ok_bind, if_neg (by dsimp only; omega), htype.u16At hdata, ok_bind,
    add_ok (by omega), ok_bind, hlength.u16At hdata, ok_bind, add_ok (by omega), ok_bind,
    hversion.u16At hdata, ok_bind, add_ok (by omega), ok_bind, hstatus.u32At hdata, ok_bind]
  exact ⟨_, rfl, rfl⟩

theorem parseUploadRetrievalItem_reads {i : UploadRetrievalItem} {padding : UInt16}
    (h : Stands data off ((AlarmItem.uploadRetrieval i).body padding)) :
    ReadsItem (parseUploadRetrievalItem data off i.userStructureId) (.uploadRetrieval i) 16 := by
  have hfits : off + 16 ≤ data.length := h.fits
  obtain ⟨htype, h⟩ := h.split (be16_length i.blockType)
  obtain ⟨hlength, h⟩ := h.split (be16_length i.blockLength)
  obtain ⟨hversion, h⟩ := h.split (be16_length i.blockVersion)
  obtain ⟨_, h⟩ := h.split (be16_length padding)
  obtain ⟨hindex, hrecord⟩ := h.split (be32_length i.urRecordIndex)
  unfold parseUploadRetrievalItem
  rw [add_ok (by omega), ok_bind, if_neg (by dsimp only; omega), htype.u16At hdata, ok_bind,
    add_ok (by omega), ok_bind, hlength.u16At hdata, ok_bind, add_ok (by omega), ok_bind,
    hversion.u16At hdata, ok_bind, add_ok (by omega), ok_bind, hindex.u32At hdata, ok_bind,
    add_ok (by omega), ok_bind, hrecord.u32At hdata, ok_bind]
  exact ⟨_, rfl, rfl⟩

theorem parsePeAlarmItem_reads {i : PeAlarmItem} {padding : UInt16}
    (h : Stands data off ((AlarmItem.pe i).body padding)) :
    ReadsItem (parsePeAlarmItem data off) (.pe i) 7 := by
  have hfits : off + 7 ≤ data.length := h.fits
  obtain ⟨htype, h⟩ := h.split (be16_length i.blockType)
  obtain ⟨hlength, h⟩ := h.split (be16_length i.blockLength)
  obtain ⟨hversion, hmode⟩ := h.split (be16_length i.blockVersion)
  unfold parsePeAlarmItem
  rw [add_ok (by omega), ok_bind, if_neg (by dsimp only; omega), htype.u16At hdata, ok_bind,
    add_ok (by omega), ok_bind, hlength.u16At hdata, ok_bind, add_ok (by omega), ok_bind,
    hversion.u16At hdata, ok_bind, add_ok (by omega), ok_bind, hmode.index, ok_bind]
  exact ⟨_, rfl, rfl⟩

theorem parseRsAlarmItem_reads {i : RsAlarmItem} {padding : UInt16}
    (h : Stands data off ((AlarmItem.rs i).body padding)) :
    ReadsItem (parseRsAlarmItem data off i.userStructureId) (.rs i) 2 := by
  have hfits : off + 2 ≤ data.length := h.fits
  have hinfo : Stands data off (be16 i.rsAlarmInfo) := h
  unfold parseRsAlarmItem
  rw [add_ok (by omega), ok_bind, if_neg (by dsimp only; omega), hinfo.u16At hdata, ok_bind]
  exact ⟨_, rfl, rfl⟩

/-- The last item has the rest of the payload. -/
theorem parsePralAlarmItem_reads {i : PralAlarmItem} {padding : UInt16}
    (h : Stands data off ((AlarmItem.pral i).body padding))
    (hend : data.length = off + ((AlarmItem.pral i).body padding).length) :
    ReadsItem (parsePralAlarmItem data off) (.pral i)
      ((AlarmItem.pral i).body padding).length := by
  obtain ⟨hnumber, h⟩ := h.split (be16_length i.channelNumber)
  obtain ⟨hprops, h⟩ := h.split (be16_length i.pralChannelProperties)
  obtain ⟨hreason, h⟩ := h.split (be16_length i.pralReason)
  obtain ⟨hext, htail⟩ := h.split (be16_length i.pralExtReason)
  have hlen : ((AlarmItem.pral i).body padding).length = 8 + i.pralReasonAddValue.length := by
    unfold AlarmItem.body
    simp only [List.length_append, be16_length]
    omega
  have hrest : data.drop (off + 8) = i.pralReasonAddValue := htail.drop_eq (by omega)
  unfold parsePralAlarmItem
  rw [add_ok (by omega), ok_bind, dif_neg (by dsimp only; omega), hnumber.u16At hdata, ok_bind,
    add_ok (by omega), ok_bind, hprops.u16At hdata, ok_bind, add_ok (by omega), ok_bind,
    hreason.u16At hdata, ok_bind, add_ok (by omega), ok_bind, hext.u16At hdata, ok_bind,
    sliceFrom_ok (by dsimp only; omega), ok_bind]
  dsimp only
  refine ⟨⟨data.length, by omega⟩, hend, ?_⟩
  rw [hrest]
  rfl

omit hdata in
/-- The item behind its identifier. -/
theorem ReadsItem.behind {start : Nat} (hstart : start ≤ off) {x : Comp (ParsedItem off)}
    {item : AlarmItem} {size : Nat} (hx : ReadsItem x item size) (hoff : off = start + 2) :
    ReadsItem (do return (← x).behind hstart) item (2 + size) := by
  obtain ⟨next, hnext, rfl⟩ := hx
  refine ⟨⟨next, Nat.lt_of_le_of_lt hstart next.2⟩, ?_, rfl⟩
  show next.val = start + (2 + size)
  omega

/-- **An item of a size of its own is read, whatever follows.** -/
theorem parseAlarmItem_delimited (s : SentItem) (h : Stands data off s.bytes) :
    ReadsItem (parseAlarmItem data off) s.item s.bytes.length := by
  obtain ⟨item, padding, hitem⟩ := s
  have h : Stands data off (item.bytes padding) := h
  show ReadsItem _ item (item.bytes padding).length
  rw [AlarmItem.bytes_length]
  obtain ⟨husi, hbody⟩ := h.split (be16_length item.userStructureId)
  have hfits : off + 2 ≤ data.length := husi.fits
  -- the parser chooses by the identifier, so it is named before the item is taken apart
  obtain ⟨usi, heq⟩ : ∃ usi, item.userStructureId = usi := ⟨_, rfl⟩
  rw [heq] at husi
  unfold parseAlarmItem
  rw [add_ok (by omega), ok_bind, dif_neg (by dsimp only; omega), husi.u16At hdata, ok_bind]
  cases item with
  | diagnosis i =>
    have heq : i.userStructureId = usi := heq
    subst heq
    have hread := parseDiagnosisItem_reads hdata hitem hbody
    have hformat : i.userStructureId = usiChannelDiagnosis
        ∨ i.userStructureId = usiExtChannelDiagnosis
        ∨ i.userStructureId = usiQualifiedChannelDiagnosis := by
      rcases hitem with hbasic | hext | hqualified
      · exact .inl hbasic.1
      · exact .inr (.inl hext.1)
      · exact .inr (.inr hqualified)
    rw [if_pos hformat]
    exact hread.behind (Nat.le_add_right off 2) rfl
  | maintenance i =>
    have heq : usiMaintenance = usi := heq
    subst heq
    have hread := parseMaintenanceItem_reads hdata hbody
    rw [if_neg (by decide), if_pos rfl]
    exact hread.behind (Nat.le_add_right off 2) rfl
  | uploadRetrieval i =>
    have heq : i.userStructureId = usi := heq
    subst heq
    have hread := parseUploadRetrievalItem_reads hdata hbody
    have hformat : i.userStructureId = usiUpload ∨ i.userStructureId = usiIparameter := hitem
    have hother : ¬ (i.userStructureId = usiChannelDiagnosis
        ∨ i.userStructureId = usiExtChannelDiagnosis
        ∨ i.userStructureId = usiQualifiedChannelDiagnosis) ∧ i.userStructureId ≠ usiMaintenance := by
      rcases hitem with husi | husi
      · rw [husi]
        decide
      · rw [husi]
        decide
    rw [if_neg hother.1, if_neg hother.2, if_pos hformat]
    exact hread.behind (Nat.le_add_right off 2) rfl
  | pe i =>
    have heq : usiPeAlarm = usi := heq
    subst heq
    have hread := parsePeAlarmItem_reads hdata hbody
    rw [if_neg (by decide), if_neg (by decide), if_neg (by decide), if_neg (by decide), if_pos rfl]
    exact hread.behind (Nat.le_add_right off 2) rfl
  | rs i =>
    have heq : i.userStructureId = usi := heq
    subst heq
    have hread := parseRsAlarmItem_reads hdata hbody
    have hformat : i.userStructureId = usiRsAlarmLow ∨ i.userStructureId = usiRsAlarmHigh
        ∨ i.userStructureId = usiRsAlarmSubmodule := hitem
    have hother : ¬ (i.userStructureId = usiChannelDiagnosis
        ∨ i.userStructureId = usiExtChannelDiagnosis
        ∨ i.userStructureId = usiQualifiedChannelDiagnosis) ∧ i.userStructureId ≠ usiMaintenance
        ∧ ¬ (i.userStructureId = usiUpload ∨ i.userStructureId = usiIparameter) := by
      rcases hitem with husi | husi | husi
      · rw [husi]
        decide
      · rw [husi]
        decide
      · rw [husi]
        decide
    rw [if_neg hother.1, if_neg hother.2.1, if_neg hother.2.2, if_pos hformat]
    exact hread.behind (Nat.le_add_right off 2) rfl
  -- these two have no size of their own
  | pral i => exact hitem.elim
  | generic usi rawData => exact hitem.elim

/-- An item that goes on to the end of the payload is read at its end. -/
theorem parseAlarmItem_takesRest (l : LastItem) (h : Stands data off l.bytes)
    (hend : data.length = off + l.bytes.length) :
    ReadsItem (parseAlarmItem data off) l.item l.bytes.length := by
  obtain ⟨item, hitem⟩ := l
  have h : Stands data off (item.bytes 0) := h
  have hend : data.length = off + (item.bytes 0).length := hend
  show ReadsItem _ item (item.bytes 0).length
  rw [AlarmItem.bytes_length] at hend ⊢
  rw [← Nat.add_assoc] at hend
  obtain ⟨husi, hbody⟩ := h.split (be16_length item.userStructureId)
  have hfits : off + 2 ≤ data.length := husi.fits
  obtain ⟨usi, heq⟩ : ∃ usi, item.userStructureId = usi := ⟨_, rfl⟩
  rw [heq] at husi
  unfold parseAlarmItem
  rw [add_ok (by omega), ok_bind, dif_neg (by dsimp only; omega), husi.u16At hdata, ok_bind]
  cases item with
  | pral i =>
    have heq : usiPralAlarm = usi := heq
    subst heq
    have hread := parsePralAlarmItem_reads hdata hbody hend
    rw [if_neg (by decide), if_neg (by decide), if_neg (by decide), if_neg (by decide),
      if_neg (by decide), if_pos rfl]
    exact hread.behind (Nat.le_add_right off 2) rfl
  | generic usi rawData =>
    subst heq
    -- none of the eleven identifiers the parser asks for
    have hother : usi ∉ knownUsis := hitem
    simp only [knownUsis, List.mem_cons, List.not_mem_nil, or_false, not_or] at hother
    obtain ⟨h1, h2, h3, h4, h5, h6, h7, h8, h9, h10, h11⟩ := hother
    have hraw : data.drop (off + 2) = rawData := hbody.drop_eq hend
    simp only [AlarmItem.userStructureId, h1, h2, h3, h4, h5, h6, h7, h8, h9, h10, h11, or_self,
      if_false]
    rw [sliceFrom_ok hfits, ok_bind]
    refine ⟨⟨data.length, by omega⟩, ?_, ?_⟩
    · show data.length = off + (2 + _)
      rw [hend, Nat.add_assoc]
    · dsimp only
      rw [hraw]
      rfl
  | diagnosis i => exact hitem.elim
  | maintenance i => exact hitem.elim
  | uploadRetrieval i => exact hitem.elim
  | pe i => exact hitem.elim
  | rs i => exact hitem.elim

/-! ## The list is read back

  By induction over the items: each is read, and the next one stands behind it. -/

omit hdata in
/-- Behind the last byte the walk ends. -/
theorem alarmItems_end (hend : data.length ≤ off) : alarmItems data off = .ok [] := by
  rw [alarmItems, if_neg (by omega)]
  rfl

omit hdata in
/-- The walk reads an item and goes on behind it. -/
theorem alarmItems_cons {item : AlarmItem} {size : Nat} {more : List AlarmItem}
    (hread : ReadsItem (parseAlarmItem data off) item size) (hoff : off < data.length)
    (hmore : alarmItems data (off + size) = .ok more) :
    alarmItems data off = .ok (item :: more) := by
  obtain ⟨next, hnext, hitem⟩ := hread
  rw [← hnext] at hmore
  rw [alarmItems, if_pos hoff, hitem, ok_bind]
  dsimp only
  rw [hmore]
  rfl

/-- The item in last place, if there is one. -/
theorem alarmItems_last (last : Option LastItem)
    (h : Stands data off (last.toList.flatMap LastItem.bytes))
    (hend : data.length = off + (last.toList.flatMap LastItem.bytes).length) :
    alarmItems data off = .ok (last.toList.map LastItem.item) := by
  cases last with
  | none => exact alarmItems_end (Nat.le_of_eq hend)
  | some l =>
    have hbytes : (some l).toList.flatMap LastItem.bytes = l.bytes := List.append_nil _
    rw [hbytes] at h hend
    have hlen : 2 ≤ l.bytes.length := by
      unfold LastItem.bytes
      rw [AlarmItem.bytes_length]
      omega
    have hread := parseAlarmItem_takesRest hdata l h hend
    exact alarmItems_cons hread (by omega) (alarmItems_end (Nat.le_of_eq hend))

/-- **The walk over a payload meets exactly its items.**  By induction on the items with a size of
    their own: each is read, and the walk stands where the next one begins. -/
theorem alarmItems_sent (sent : List SentItem) (last : Option LastItem)
    (h : Stands data off
      (sent.flatMap SentItem.bytes ++ last.toList.flatMap LastItem.bytes))
    (hend : data.length = off
      + (sent.flatMap SentItem.bytes ++ last.toList.flatMap LastItem.bytes).length) :
    alarmItems data off = .ok (sent.map SentItem.item ++ last.toList.map LastItem.item) := by
  induction sent generalizing off with
  | nil => exact alarmItems_last hdata last h hend
  | cons s sent ih =>
    rw [List.flatMap_cons, List.append_assoc] at h hend
    obtain ⟨hitem, hmore⟩ := h.split rfl
    rw [List.length_append, ← Nat.add_assoc] at hend
    have hlen : 2 ≤ s.bytes.length := by
      unfold SentItem.bytes
      rw [AlarmItem.bytes_length]
      omega
    have hread := parseAlarmItem_delimited hdata s hitem
    exact alarmItems_cons hread (by omega) (ih hmore hend)

end Item

theorem alarmItems_payload (p : Payload) (hbound : p.bytes.length < 2 ^ 63) :
    alarmItems p.bytes 0 = .ok p.items :=
  alarmItems_sent hbound p.sent p.last (stands_whole p.bytes) (Nat.zero_add _).symm

end Profinet.Alarms
