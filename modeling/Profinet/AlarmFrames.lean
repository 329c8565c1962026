/-
  ALARM FRAMES: from a captured frame to the notification in it.

  A frame of the listener's device with an alarm frame ID carries an RTA PDU; the notification
  stands behind its 12-byte header, in a DATA PDU addressed to us.
-/
import Profinet.AlarmChannel
import Profinet.Alarms
import Profinet.Capture

namespace Profinet.Rta

open Wire Checked Util Alarms

/-- The bytes of an RTA header. -/
def RtaHeader.size : Nat := 12

/-- `RtaHeader::from_bytes`: the header at the front of `data`. -/
def RtaHeader.fromBytes (data : List UInt8) : Comp (Except String RtaHeader) := do
  if data.length < RtaHeader.size then
    return .error "RTA header too short"
  let alarmDstEndpoint ← u16At data 0 false
  let alarmSrcEndpoint ← u16At data 2 false
  let pduType ← index data 4
  let addFlags ← index data 5
  let sendSeqNum ← u16At data 6 false
  let ackSeqNum ← u16At data 8 false
  let varPartLen ← u16At data 10 false
  return .ok
    { alarmDstEndpoint, alarmSrcEndpoint, pduType, addFlags, sendSeqNum, ackSeqNum, varPartLen }

/-- Priority (`true` = high) and RTA payload of a frame from the device; none for other frames. -/
def checkLayer2Frame (data : List UInt8) (deviceMac : Mac) : Comp (Option (Bool × List UInt8)) := do
  if data.length < 14 then
    return none
  if (← slice data 6 12).val ≠ deviceMac.val then
    return none
  let tag ← sub (← skipVlanTagsChecked data) 12
  let head ← add 16 tag
  if data.length < head then
    return none
  let ethertype ← u16At data (← add 12 tag) false
  if ethertype ≠ ethertypeProfinet then
    return none
  let frameId ← u16At data (← add 14 tag) false
  if frameId = frameIdAlarmHigh then
    return some (true, ← sliceFrom data head)
  else if frameId = frameIdAlarmLow then
    return some (false, ← sliceFrom data head)
  else return none

/-- The notification of an RTA payload, with the header if there is one; `none` for a PDU that is
    addressed to another reference, of another version, or no DATA PDU. -/
def processLayer2Alarm (payload : List UInt8) (controllerRef : UInt16) :
    Comp (Except String (Option (Option RtaHeader × AlarmNotification))) := do
  if RtaHeader.size ≤ payload.length then
    match ← RtaHeader.fromBytes payload with
    | .error e => return .error e
    | .ok rta =>
      if rta.alarmDstEndpoint ≠ controllerRef then
        return .ok none
      if rta.version ≠ version1 then
        return .ok none
      if rta.kind ≠ rtaTypeData then
        return .ok none
      let alarm ← parseAlarmNotification (← sliceFrom payload RtaHeader.size)
      return alarm.map fun alarm => some (some rta, alarm)
  else
    let alarm ← parseAlarmNotification payload
    return alarm.map fun alarm => some (none, alarm)

/-! ## They return for every frame -/

theorem fromBytes_safe {data : List UInt8} (hdata : data.length < 2 ^ 63) :
    Safe (RtaHeader.fromBytes data) := by
  have hsize : RtaHeader.size = 12 := rfl
  refine .ite (fun _ => safe_ok _) fun hhead => ?_
  refine .u16At hdata (by omega) fun _ _ => .u16At hdata (by omega) fun _ _ => ?_
  refine .index (by omega) fun _ => .index (by omega) fun _ => ?_
  refine .u16At hdata (by omega) fun _ _ => .u16At hdata (by omega) fun _ _ => ?_
  exact .u16At hdata (by omega) fun _ _ => safe_ok _

theorem checkLayer2Frame_safe {data : List UInt8} (hdata : data.length < 2 ^ 63)
    (deviceMac : Mac) : Safe (checkLayer2Frame data deviceMac) := by
  obtain ⟨hlow, hhigh⟩ := skipVlanTags_bounds data
  unfold checkLayer2Frame
  refine .ite (fun _ => safe_ok _) fun heth => .slice (by omega) (by omega) fun _ _ => ?_
  refine .ite (fun _ => safe_ok _) fun _ => ?_
  rw [skipVlanTagsChecked_ok hdata, ok_bind]
  refine .sub hlow fun tag htag => .add (by omega) fun head hhead => ?_
  refine .ite (fun _ => safe_ok _) fun hfits => ?_
  refine .add (by omega) fun typeOff _ => .u16At hdata (by omega) fun _ _ => ?_
  refine .ite (fun _ => safe_ok _) fun _ => ?_
  refine .add (by omega) fun idOff _ => .u16At hdata (by omega) fun _ _ => ?_
  refine .ite (fun _ => .sliceFrom (by omega) fun _ _ => safe_ok _) fun _ => ?_
  exact .ite (fun _ => .sliceFrom (by omega) fun _ _ => safe_ok _) fun _ => safe_ok _

theorem processLayer2Alarm_safe {payload : List UInt8} (hpayload : payload.length < 2 ^ 63)
    (controllerRef : UInt16) : Safe (processLayer2Alarm payload controllerRef) := by
  refine .ite (fun hhead => ?_) fun _ => ?_
  · refine (fromBytes_safe hpayload).bind ?_
    intro r _
    rcases r with e | rta
    · exact safe_ok _
    · refine .ite (fun _ => safe_ok _) fun _ => .ite (fun _ => safe_ok _) fun _ => ?_
      refine .ite (fun _ => safe_ok _) fun _ => .sliceFrom hhead fun body hbody => ?_
      exact (parseAlarmNotification_safe (by omega)).bind fun _ _ => safe_ok _
  · exact (parseAlarmNotification_safe hpayload).bind fun _ _ => safe_ok _

end Profinet.Rta
