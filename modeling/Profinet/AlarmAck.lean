/-
  ALARM ACK: a notification as a device sends it, what is read of it, and how it is acknowledged.

  The block length of a notification counts what follows its field, 22 bytes and the payload; what
  is behind the block is padding.  The parser takes the header apart, the specifier into its bits,
  and the AlarmAck is put together again from these.  `alarm_round_trip` says that nothing is lost
  on the way but the reserved bit of the specifier, and that no padding turns into an item.
-/
import Profinet.AlarmItems
import Profinet.Lib.Mask

namespace Profinet.Alarms

open Wire Checked Mask

/-! ## The acknowledgement -/

/-- The block of a high-priority AlarmAck. -/
def blockAlarmAckHigh : UInt16 := 0x8001
/-- The block of a low-priority AlarmAck. -/
def blockAlarmAckLow : UInt16 := 0x8002

/-- The AlarmSpecifier of an AlarmAck, from the decoded bits. -/
def AlarmNotification.specifier (alarm : AlarmNotification) : UInt16 :=
  (alarm.alarmSequenceNumber &&& 0x07FF)
    ||| (if alarm.channelDiagnosis then 0x0800 else 0)
    ||| (if alarm.manufacturerSpecific then 0x1000 else 0)
    ||| (if alarm.submoduleDiagnosisState then 0x2000 else 0)
    ||| (if alarm.arDiagnosisState then 0x8000 else 0)

/-- The AlarmAck-PDU: 22 bytes, version 1.0, PNIOStatus OK. -/
def buildAlarmAck (alarm : AlarmNotification) : List UInt8 :=
  be16 (if alarm.isHighPriority then blockAlarmAckHigh else blockAlarmAckLow) ++ be16 18
    ++ [0x01, 0x00] ++ be16 alarm.alarmType ++ be32 alarm.api ++ be16 alarm.slotNumber
    ++ be16 alarm.subslotNumber ++ be16 alarm.specifier ++ be32 0

/-! ## The notification on the wire -/

/-- A notification as a device sends it; its block length fits its field. -/
structure SentAlarm where
  highPriority : Bool
  blockVersion : UInt8 × UInt8
  alarmType : UInt16
  api : UInt32
  slotNumber : UInt16
  subslotNumber : UInt16
  moduleIdentNumber : UInt32
  submoduleIdentNumber : UInt32
  alarmSpecifier : UInt16
  payload : Payload
  fits : 22 + payload.bytes.length < 65536

namespace SentAlarm

/-- The block type follows the priority. -/
def blockType (a : SentAlarm) : UInt16 :=
  if a.highPriority then blockAlarmNotificationHigh else blockAlarmNotificationLow

/-- Block header, body, payload. -/
def pdu (a : SentAlarm) : List UInt8 :=
  be16 a.blockType ++ (be16 (UInt16.ofNat (22 + a.payload.bytes.length)) ++
    ([a.blockVersion.1] ++ ([a.blockVersion.2] ++ (be16 a.alarmType ++ (be32 a.api ++
      (be16 a.slotNumber ++ (be16 a.subslotNumber ++ (be32 a.moduleIdentNumber ++
        (be32 a.submoduleIdentNumber ++ (be16 a.alarmSpecifier ++ a.payload.bytes))))))))))

/-- What a controller is to know of it: every field, the bits of the specifier, and the items. -/
def notification (a : SentAlarm) : AlarmNotification where
  blockType := a.blockType
  blockVersion := a.blockVersion
  alarmType := a.alarmType
  api := a.api
  slotNumber := a.slotNumber
  subslotNumber := a.subslotNumber
  moduleIdentNumber := a.moduleIdentNumber
  submoduleIdentNumber := a.submoduleIdentNumber
  alarmSequenceNumber := UInt16.ofNat (a.alarmSpecifier.toNat % 2048)
  channelDiagnosis := hasBit a.alarmSpecifier 11
  manufacturerSpecific := hasBit a.alarmSpecifier 12
  submoduleDiagnosisState := hasBit a.alarmSpecifier 13
  arDiagnosisState := hasBit a.alarmSpecifier 15
  items := a.payload.items
  rawPayload := a.payload.bytes

theorem pdu_length (a : SentAlarm) : a.pdu.length = 26 + a.payload.bytes.length := by
  unfold pdu
  simp only [List.length_append, List.length_singleton, be16_length, be32_length]
  omega

end SentAlarm

/-! ## It is read back -/

/-- The block length cuts off whatever follows the notification. -/
theorem alarmBlock_sent (a : SentAlarm) (padding : List UInt8) :
    alarmBlock (a.pdu ++ padding) (26 + a.payload.bytes.length) = .ok a.pdu := by
  have hlen := a.pdu_length
  unfold alarmBlock
  by_cases hpad : padding = []
  · rw [hpad, List.append_nil, if_neg (by omega)]
    rfl
  · have hpos : 0 < padding.length := List.length_pos_of_ne_nil hpad
    have hinside : 6 + alarmBodyLen ≤ 26 + a.payload.bytes.length
        ∧ 26 + a.payload.bytes.length < (a.pdu ++ padding).length := by
      rw [List.length_append, hlen]
      exact ⟨Nat.le_add_right 26 _, by omega⟩
    rw [if_pos hinside, slice_ok (Nat.zero_le _) (Nat.le_of_lt hinside.2), ok_bind]
    rw [← hlen, Nat.sub_zero, List.drop_zero, List.take_left]
    rfl

/-! The masks of the specifier are single bits. -/

theorem flag_channelDiagnosis (w : UInt16) : decide (w &&& 0x0800 ≠ 0) = hasBit w 11 :=
  and_wordBit_ne_zero w 11

theorem flag_manufacturerSpecific (w : UInt16) : decide (w &&& 0x1000 ≠ 0) = hasBit w 12 :=
  and_wordBit_ne_zero w 12

theorem flag_submoduleDiagnosisState (w : UInt16) : decide (w &&& 0x2000 ≠ 0) = hasBit w 13 :=
  and_wordBit_ne_zero w 13

theorem flag_arDiagnosisState (w : UInt16) : decide (w &&& 0x8000 ≠ 0) = hasBit w 15 :=
  and_wordBit_ne_zero w 15

theorem parseAlarmNotification_sent (a : SentAlarm) (padding : List UInt8)
    (hframe : (a.pdu ++ padding).length < 2 ^ 63) :
    parseAlarmNotification (a.pdu ++ padding) = .ok (.ok a.notification) := by
  have hbody : 6 + alarmBodyLen = 26 := rfl
  have hfits := a.fits
  have hlen := a.pdu_length
  have hbound : a.pdu.length < 2 ^ 63 := by omega
  have hlong : 26 ≤ (a.pdu ++ padding).length := by
    rw [List.length_append]
    omega
  obtain ⟨htype, h⟩ := (stands_whole a.pdu).split (be16_length a.blockType)
  obtain ⟨hlength, h⟩ := h.split (be16_length _)
  obtain ⟨hhigh, h⟩ := h.split (List.length_singleton)
  obtain ⟨hlow, h⟩ := h.split (List.length_singleton)
  obtain ⟨halarm, h⟩ := h.split (be16_length a.alarmType)
  obtain ⟨hapi, h⟩ := h.split (be32_length a.api)
  obtain ⟨hslot, h⟩ := h.split (be16_length a.slotNumber)
  obtain ⟨hsubslot, h⟩ := h.split (be16_length a.subslotNumber)
  obtain ⟨hmodule, h⟩ := h.split (be32_length a.moduleIdentNumber)
  obtain ⟨hsubmodule, h⟩ := h.split (be32_length a.submoduleIdentNumber)
  obtain ⟨hspecifier, hpayload⟩ := h.split (be16_length a.alarmSpecifier)
  have hrest : a.pdu.drop 26 = a.payload.bytes := hpayload.drop_eq hlen
  have hnumber : (UInt16.ofNat (22 + a.payload.bytes.length)).toNat
      = 22 + a.payload.bytes.length := by
    rw [UInt16.toNat_ofNat']
    omega
  unfold parseAlarmNotification
  rw [if_neg (by omega), (htype.append padding).u16At hframe, ok_bind, (hhigh.append padding).index,
    ok_bind, (hlow.append padding).index, ok_bind, (hlength.append padding).u16At hframe, ok_bind,
    add_ok (by omega), ok_bind]
  dsimp only
  rw [hnumber, ← Nat.add_assoc, alarmBlock_sent a padding, ok_bind, halarm.u16At hbound, ok_bind,
    hapi.u32At hbound, ok_bind, hslot.u16At hbound, ok_bind, hsubslot.u16At hbound, ok_bind,
    hmodule.u32At hbound, ok_bind, hsubmodule.u32At hbound, ok_bind, hspecifier.u16At hbound,
    ok_bind, sliceFrom_ok (by omega), ok_bind]
  dsimp only
  rw [hbody, hrest, alarmItems_payload a.payload (by omega), ok_bind, and_low,
    flag_channelDiagnosis, flag_manufacturerSpecific, flag_submoduleDiagnosisState,
    flag_arDiagnosisState]
  rfl

/-! ## It is acknowledged -/

/-- A notification of high priority says so. -/
theorem isHighPriority_sent (a : SentAlarm) : a.notification.isHighPriority = a.highPriority := by
  show decide (a.blockType = blockAlarmNotificationHigh) = a.highPriority
  unfold SentAlarm.blockType
  cases a.highPriority with
  | true => rfl
  | false => rfl

/-- The decoded bits make up the specifier again, all but bit 14. -/
theorem specifier_sent (a : SentAlarm) : a.notification.specifier = a.alarmSpecifier &&& 0xBFFF := by
  have hlow : UInt16.ofNat (a.alarmSpecifier.toNat % 2048) &&& 0x07FF
      = a.alarmSpecifier &&& 0x07FF := by
    rw [← and_low, UInt16.and_assoc, UInt16.and_self]
  have hflag (i : Fin 16) := (and_wordBit a.alarmSpecifier i).symm
  show (UInt16.ofNat (a.alarmSpecifier.toNat % 2048) &&& 0x07FF)
      ||| (if hasBit a.alarmSpecifier 11 then wordBit 11 else 0)
      ||| (if hasBit a.alarmSpecifier 12 then wordBit 12 else 0)
      ||| (if hasBit a.alarmSpecifier 13 then wordBit 13 else 0)
      ||| (if hasBit a.alarmSpecifier 15 then wordBit 15 else 0) = a.alarmSpecifier &&& 0xBFFF
  rw [hlow, hflag, hflag, hflag, hflag, word_and_or, word_and_or, word_and_or, word_and_or]
  rfl

/-- **A notification is read and acknowledged exactly.**  Whatever its fields, its items and the
    padding behind it, the parser returns its fields and its items and nothing else, and the AlarmAck
    has its alarm type, its place, its specifier without the reserved bit and its priority. -/
theorem alarm_round_trip (a : SentAlarm) (padding : List UInt8)
    (hframe : (a.pdu ++ padding).length < 2 ^ 63) :
    parseAlarmNotification (a.pdu ++ padding) = .ok (.ok a.notification) ∧
      buildAlarmAck a.notification
        = be16 (if a.highPriority then blockAlarmAckHigh else blockAlarmAckLow) ++ be16 18
          ++ [0x01, 0x00] ++ be16 a.alarmType ++ be32 a.api ++ be16 a.slotNumber
          ++ be16 a.subslotNumber ++ be16 (a.alarmSpecifier &&& 0xBFFF) ++ be32 0 := by
  refine ⟨parseAlarmNotification_sent a padding hframe, ?_⟩
  unfold buildAlarmAck
  rw [isHighPriority_sent, specifier_sent]
  rfl

/-- A qualified diagnosis, a maintenance item and an item of a manufacturer, all specifier bits. -/
def benchAlarm : SentAlarm where
  highPriority := true
  blockVersion := (1, 0)
  alarmType := 1
  api := 0
  slotNumber := 1
  subslotNumber := 1
  moduleIdentNumber := 0x32
  submoduleIdentNumber := 0x33
  alarmSpecifier := 0xFFFF
  payload :=
    { sent :=
        [⟨.diagnosis ⟨usiQualifiedChannelDiagnosis, 2, 0x0800, 6, 0x8001, 7, 9⟩, 0, by decide⟩,
          ⟨.maintenance ⟨0x0F00, 8, 0x0100, 1⟩, 0, trivial⟩]
      last := some ⟨.generic 0x0001 [0xAB, 0xCD], by decide⟩ }
  fits := by decide

theorem alarm_round_trip_bench :
    parseAlarmNotification (benchAlarm.pdu ++ List.replicate 4 0)
        = .ok (.ok benchAlarm.notification) ∧
      buildAlarmAck benchAlarm.notification
        = be16 0x8001 ++ be16 18 ++ [0x01, 0x00] ++ be16 1 ++ be32 0 ++ be16 1 ++ be16 1
          ++ be16 0xBFFF ++ be32 0 :=
  alarm_round_trip benchAlarm (List.replicate 4 0) (by decide)

end Profinet.Alarms
