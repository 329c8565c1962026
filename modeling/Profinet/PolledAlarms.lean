/-
  POLLED ALARMS: a notification that is read as a record, and the same one taken from a live frame.

  A live notification stands behind an RTA DATA header; `processLayer2Alarm` takes the header off
  and hands the rest to the parser.  A polled one is the payload of a record; `alarmFromRecord`
  turns away what is shorter than 28 bytes and hands the rest to the same parser.  A notification
  without items has 26 bytes, so the two paths agree on a notification exactly if it has an item
  (`polled_agrees_iff`).
-/
import Profinet.AlarmAck
import Profinet.AlarmFrames

namespace Profinet.Alarms

open Wire Checked Rta

/-- A record payload as a notification; none below the 28-byte minimum, or if it fails to parse. -/
def alarmFromRecord (data : List UInt8) : Comp (Option AlarmNotification) := do
  if data.length < 28 then
    return none
  return (← parseAlarmNotification data).toOption

/-- The header of an RTA DATA PDU of our version. -/
structure DataHeader where
  header : RtaHeader
  version : header.version = version1
  data : header.kind = rtaTypeData

/-- Both paths deliver the notification, the live one behind `h`, which is addressed to us. -/
def PathsAgree (h : DataHeader) (a : SentAlarm) : Prop :=
  ∃ n, processLayer2Alarm (h.header.toBytes ++ a.pdu) h.header.alarmDstEndpoint
      = .ok (.ok (some (some h.header, n)))
    ∧ alarmFromRecord a.pdu = .ok (some n)

/-! ## The live path -/

/-- The header is read back, whatever follows it. -/
theorem fromBytes_toBytes (h : RtaHeader) (rest : List UInt8)
    (hframe : (h.toBytes ++ rest).length < 2 ^ 63) :
    RtaHeader.fromBytes (h.toBytes ++ rest) = .ok (.ok h) := by
  have hsize : ¬ (h.toBytes ++ rest).length < RtaHeader.size := by
    rw [List.length_append]
    exact Nat.not_lt.mpr (Nat.le_add_right 12 rest.length)
  have hall : Stands (h.toBytes ++ rest) 0 (be16 h.alarmDstEndpoint ++ (be16 h.alarmSrcEndpoint ++
      ([h.pduType] ++ ([h.addFlags] ++ (be16 h.sendSeqNum ++ (be16 h.ackSeqNum ++
        be16 h.varPartLen)))))) := stands_front h.toBytes rest
  obtain ⟨hdst, hall⟩ := hall.split (be16_length _)
  obtain ⟨hsrc, hall⟩ := hall.split (be16_length _)
  obtain ⟨htype, hall⟩ := hall.split (List.length_singleton)
  obtain ⟨hflags, hall⟩ := hall.split (List.length_singleton)
  obtain ⟨hsend, hall⟩ := hall.split (be16_length _)
  obtain ⟨hack, hvar⟩ := hall.split (be16_length _)
  unfold RtaHeader.fromBytes
  rw [if_neg hsize, hdst.u16At hframe, ok_bind, hsrc.u16At hframe, ok_bind, htype.index, ok_bind,
    hflags.index, ok_bind, hsend.u16At hframe, ok_bind, hack.u16At hframe, ok_bind,
    hvar.u16At hframe, ok_bind]
  rfl

theorem processLayer2Alarm_sent (h : DataHeader) (a : SentAlarm) :
    processLayer2Alarm (h.header.toBytes ++ a.pdu) h.header.alarmDstEndpoint
      = .ok (.ok (some (some h.header, a.notification))) := by
  have hhead : h.header.toBytes.length = RtaHeader.size := rfl
  have hlen := a.pdu_length
  have hfits := a.fits
  have htotal : (h.header.toBytes ++ a.pdu).length = 12 + a.pdu.length := List.length_append
  have hparse := parseAlarmNotification_sent a []
  rw [List.append_nil] at hparse
  unfold processLayer2Alarm
  rw [if_pos (by rw [htotal]; exact Nat.le_add_right 12 _),
    fromBytes_toBytes h.header a.pdu (by omega), ok_bind]
  dsimp only
  rw [if_neg (not_not_intro rfl), if_neg (not_not_intro h.version), if_neg (not_not_intro h.data),
    sliceFrom_ok (by rw [htotal]; exact Nat.le_add_right 12 _), ok_bind]
  dsimp only
  rw [drop_append_exact hhead, hparse (by omega), ok_bind]
  rfl

/-! ## The polled path -/

theorem alarmFromRecord_sent (a : SentAlarm) :
    alarmFromRecord a.pdu
      = .ok (if a.payload.bytes.length < 2 then none else some a.notification) := by
  have hlen := a.pdu_length
  have hfits := a.fits
  have hparse := parseAlarmNotification_sent a []
  rw [List.append_nil] at hparse
  unfold alarmFromRecord
  by_cases hshort : a.payload.bytes.length < 2
  · rw [if_pos (by omega), if_pos hshort]
    rfl
  · rw [if_neg (by omega), if_neg hshort, hparse (by omega), ok_bind]
    rfl

/-- An item has at least its identifier. -/
theorem payload_short_iff (p : Payload) : p.bytes.length < 2 ↔ p.items = [] := by
  obtain ⟨sent, last⟩ := p
  rcases sent with _ | ⟨s, sent⟩
  · rcases last with _ | l
    · exact ⟨fun _ => rfl, fun _ => Nat.zero_lt_two⟩
    · constructor
      · intro hshort
        have hlen := AlarmItem.bytes_length 0 l.item
        have hbytes : (Payload.mk [] (some l)).bytes = l.item.bytes 0 := List.append_nil _
        rw [hbytes] at hshort
        omega
      · intro hnil
        exact absurd hnil (List.cons_ne_nil _ _)
  · constructor
    · intro hshort
      have hlen := AlarmItem.bytes_length s.padding s.item
      have hbytes : (Payload.mk (s :: sent) last).bytes
          = s.item.bytes s.padding ++ (Payload.mk sent last).bytes := List.append_assoc _ _ _
      rw [hbytes, List.length_append] at hshort
      omega
    · intro hnil
      exact absurd hnil (List.cons_ne_nil _ _)

/-- **The two paths agree on a notification exactly if it has an item.** -/
theorem polled_agrees_iff (h : DataHeader) (a : SentAlarm) :
    PathsAgree h a ↔ a.payload.items ≠ [] := by
  have hshort := payload_short_iff a.payload
  constructor
  · rintro ⟨n, -, hpolled⟩ hnil
    rw [alarmFromRecord_sent, if_pos (hshort.mpr hnil)] at hpolled
    cases hpolled
  · intro hitems
    refine ⟨a.notification, processLayer2Alarm_sent h a, ?_⟩
    rw [alarmFromRecord_sent, if_neg (fun hlt => hitems (hshort.mp hlt))]

/-- A notification that has no items. -/
def bareAlarm : SentAlarm where
  highPriority := false
  blockVersion := (1, 0)
  alarmType := 3
  api := 0
  slotNumber := 2
  subslotNumber := 1
  moduleIdentNumber := 0x40
  submoduleIdentNumber := 0x41
  alarmSpecifier := 0x0001
  payload := ⟨[], none⟩
  fits := by decide

/-- A DATA header that announces 26 bytes. -/
def dataToUs : DataHeader where
  header := ⟨1, 2, 0x11, 0x11, 0, 0xFFFF, 26⟩
  version := by decide
  data := by decide

/-- It is delivered live, and turned away as a record. -/
theorem bare_alarm_polled :
    processLayer2Alarm (dataToUs.header.toBytes ++ bareAlarm.pdu) 1
        = .ok (.ok (some (some dataToUs.header, bareAlarm.notification)))
      ∧ alarmFromRecord bareAlarm.pdu = .ok none ∧ ¬ PathsAgree dataToUs bareAlarm := by
  refine ⟨processLayer2Alarm_sent dataToUs bareAlarm, alarmFromRecord_sent bareAlarm, ?_⟩
  rintro ⟨n, -, hpolled⟩
  rw [alarmFromRecord_sent bareAlarm] at hpolled
  cases hpolled

end Profinet.Alarms
