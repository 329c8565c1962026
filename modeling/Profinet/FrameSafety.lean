/-
  FRAME SAFETY: every byte string on the segment goes through the parsers.

  What a station sends reaches these functions as it is: no check stands before them.  Each of them
  returns, whatever the bytes and whatever it was asked to look for: no index, no slice and no sum
  aborts the thread.  That their loops end is what makes them definable; here it is that they end in
  a value.
-/
import Profinet.AlarmFrames
import Profinet.Capture
import Profinet.Dcp
import Profinet.Epm

namespace Profinet

open Wire Checked Util

/-- The frames of a capture, without the bound on their lengths. -/
def bytesOf (frames : List Slice) : List (List UInt8) := frames.map Subtype.val

theorem bytesOf_bounded (frames : List Slice) : ∀ frame ∈ bytesOf frames, frame.length < 2 ^ 63 := by
  intro frame hframe
  obtain ⟨s, _, rfl⟩ := List.mem_map.mp hframe
  exact s.2

theorem aggregateResponses_safe (frames : List Slice) (mac : Mac) (xid : UInt32) :
    Safe (Dcp.aggregateResponses (bytesOf frames) mac xid) :=
  Dcp.aggregateFrom_safe mac xid (bytesOf_bounded frames) []

/-- **Every frame parser returns**, for every frame, every address, every transaction and every
    option it is asked for. -/
theorem frame_parsers_return (frame : Slice) (frames : List Slice) (mac : Mac) (want : UInt16)
    (srcIp dstIp : Bytes 4) (xid : UInt32) (option suboption : UInt8) (controllerRef : UInt16) :
    Safe (skipVlanTagsChecked frame)
      ∧ Safe (stripEth frame want)
      ∧ Safe (Rt.parseEthernetFrameChecked frame)
      ∧ Safe (Dcp.parseDcpXid frame)
      ∧ Safe (Dcp.parseIdentifyResponse frame)
      ∧ Safe (Dcp.parseSetResponse frame xid)
      ∧ Safe (Dcp.parseGetResponse frame option suboption xid)
      ∧ Safe (Dcp.aggregateResponses (bytesOf frames) mac xid)
      ∧ Safe (RawUdp.parseUdpFrame frame srcIp dstIp)
      ∧ Safe (Rta.checkLayer2Frame frame mac)
      ∧ Safe (Rta.processLayer2Alarm frame controllerRef)
      ∧ Safe (Epm.parseEpmResponse frame) := by
  have hframe := frame.2
  refine ⟨?vlan, ?eth, ?rt, ?xid, ?identify, ?set, ?get, ?aggregate, ?udp, ?layer2, ?alarm, ?epm⟩
  case vlan =>
    rw [skipVlanTagsChecked_ok hframe]
    exact safe_ok _
  case eth =>
    obtain ⟨r, hr, _⟩ := stripEth_returns hframe want
    exact ⟨r, hr, trivial⟩
  case rt =>
    rw [Rt.parseEthernetFrameChecked_ok hframe]
    exact safe_ok _
  case xid => exact Dcp.parseDcpXid_safe hframe
  case identify => exact Dcp.parseIdentifyResponse_safe hframe
  case set => exact Dcp.parseSetResponse_safe hframe xid
  case get => exact Dcp.parseGetResponse_safe hframe option suboption xid
  case aggregate => exact aggregateResponses_safe frames mac xid
  case udp => exact RawUdp.parseUdpFrame_safe hframe srcIp dstIp
  case layer2 => exact Rta.checkLayer2Frame_safe hframe mac
  case alarm => exact Rta.processLayer2Alarm_safe hframe controllerRef
  case epm => exact Epm.parseEpmResponse_safe hframe

end Profinet
