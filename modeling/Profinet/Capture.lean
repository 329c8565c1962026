/-
  CAPTURE: taking the Ethernet header off a frame of the segment.

  Whatever any station sends arrives here, so every index of these functions has to be in range for
  every byte string.  They are written with the checked operations; a function that the rest of the
  development knows as a total one (`skipVlanTags`, `parseEthernetFrame`) is the same with its
  checks, and returns what the total one says.
-/
import Profinet.Errors
import Profinet.Lib.Checked
import Profinet.Rt

namespace Profinet.Util

open Wire Checked Errors

/-- The loop of `skip_vlan_tags`, from an offset on. -/
def skipVlanTagsFrom (frame : List UInt8) (offset : Nat) : Comp Nat := do
  let stop ← add offset 4
  if stop ≤ frame.length then
    if vlanTpids.contains (← u16At frame offset false) then
      let next ← add offset 4
      skipVlanTagsFrom frame next
    else return offset
  else return offset
  termination_by frame.length - offset
  decreasing_by
    have := next.2
    have := stop.2
    omega

/-- `skip_vlan_tags` with its checks. -/
def skipVlanTagsChecked (frame : List UInt8) : Comp Nat := skipVlanTagsFrom frame 12

/-- Strip the Ethernet header, any number of tags and the EtherType, which has to be `want`. -/
def stripEth (frame : List UInt8) (want : UInt16) : Comp (Except String (List UInt8)) := do
  if frame.length < 14 then
    return .error ("frame too short for Ethernet header: " ++ toString frame.length ++ " bytes")
  let off ← skipVlanTagsChecked frame
  if frame.length < (← add off 2) then
    return .error "VLAN frame too short"
  let ethertype ← u16At frame off false
  if ethertype ≠ want then
    return .error
      (if 12 < off then "unexpected inner EtherType: 0x" ++ hex 4 ethertype.toNat
      else "unexpected EtherType: 0x" ++ hex 4 ethertype.toNat)
  return .ok (← sliceFrom frame (← add off 2))

/-! ## What they return -/

/-- The tag at the front of the bytes, if all four bytes of it are there. -/
theorem tagBytes_drop {frame : List UInt8} {offset : Nat} (h : offset + 4 ≤ frame.length) :
    tagBytes (frame.drop offset) =
      if vlanTpids.contains (rdU16 frame offset false) then
        tagBytes (frame.drop (offset + 4)) + 4
      else 0 := by
  have hread := rdU16_drop frame offset 0 false
  have hrest : frame.drop (offset + 4) = (frame.drop offset).drop 4 := by rw [List.drop_drop]
  rw [hrest, ← Nat.add_zero offset, ← hread, Nat.add_zero]
  have hlen : 4 ≤ (frame.drop offset).length := by
    rw [List.length_drop]
    omega
  match hbytes : frame.drop offset, hlen with
  | a :: b :: c :: d :: rest, _ => rfl

theorem tagBytes_short {bytes : List UInt8} (h : bytes.length < 4) : tagBytes bytes = 0 := by
  match bytes, h with
  | [], _ => rfl
  | [_], _ => rfl
  | [_, _], _ => rfl
  | [_, _, _], _ => rfl

theorem skipVlanTagsFrom_ok {frame : List UInt8} (hframe : frame.length < 2 ^ 63) {offset : Nat}
    (hoff : offset ≤ frame.length + 12) :
    skipVlanTagsFrom frame offset = .ok (offset + tagBytes (frame.drop offset)) := by
  unfold skipVlanTagsFrom
  rw [add_ok (by omega)]
  simp only [ok_bind]
  by_cases hstop : offset + 4 ≤ frame.length
  · rw [if_pos hstop, u16At_ok hframe (by omega), tagBytes_drop hstop]
    simp only [ok_bind]
    split
    · rw [skipVlanTagsFrom_ok hframe (by omega), Nat.add_assoc, Nat.add_comm 4]
    · rfl
  · rw [if_neg hstop, tagBytes_short (by rw [List.length_drop]; omega)]
    rfl
  termination_by frame.length - offset

theorem skipVlanTagsChecked_ok {frame : List UInt8} (hframe : frame.length < 2 ^ 63) :
    skipVlanTagsChecked frame = .ok (skipVlanTags frame) :=
  skipVlanTagsFrom_ok hframe (by omega)

/-- The EtherType is no further behind than the frame is long. -/
theorem tagBytes_le (bytes : List UInt8) : tagBytes bytes ≤ bytes.length := by
  induction bytes using tagBytes.induct with
  | case1 a b c d rest htag ih =>
    unfold tagBytes
    rw [if_pos htag]
    simp only [List.length_cons]
    omega
  | case2 a b c d rest htag =>
    unfold tagBytes
    rw [if_neg htag]
    omega
  | case3 bytes hshort =>
    unfold tagBytes
    split
    · exact absurd rfl (hshort _ _ _ _ _)
    · omega

theorem skipVlanTags_bounds (frame : List UInt8) :
    12 ≤ skipVlanTags frame ∧ skipVlanTags frame ≤ frame.length + 12 := by
  have hle := tagBytes_le (frame.drop 12)
  rw [List.length_drop] at hle
  unfold skipVlanTags
  omega

/-- The payload is part of the frame. -/
theorem stripEth_returns {frame : List UInt8} (hframe : frame.length < 2 ^ 63) (want : UInt16) :
    Returns (stripEth frame want) fun r => ∀ p, r = .ok p → p.length < 2 ^ 63 := by
  have hoff := (skipVlanTags_bounds frame).2
  unfold stripEth
  split
  · exact returns_ok (by rintro p ⟨⟩)
  · rw [skipVlanTagsChecked_ok hframe, ok_bind, add_ok (by omega), ok_bind]
    by_cases hshort : frame.length < skipVlanTags frame + 2
    · rw [if_pos hshort]
      exact returns_ok (by rintro p ⟨⟩)
    · rw [if_neg hshort, u16At_ok hframe (by omega), ok_bind]
      split
      · exact returns_ok (by rintro p ⟨⟩)
      · simp only [ok_bind]
        rw [sliceFrom_ok (by omega)]
        apply returns_ok
        rintro p ⟨⟩
        rw [List.length_drop]
        omega

end Profinet.Util

/-! ## RT frames -/

namespace Profinet.Rt

open Wire Checked Util

/-- `RtFrame::from_bytes` with its checks. -/
def RtFrame.fromBytesChecked (data : List UInt8) : Comp (Except String RtFrame) := do
  if data.length < 6 then
    return .error s!"RT frame too short: {data.length} bytes"
  let trailer ← sliceFrom data (← sub data.length 4)
  return .ok
    { frameId := ← u16At data 0 false
      cycleCounter := ← u16At trailer 0 false
      dataStatus := ← index trailer 2
      transferStatus := ← index trailer 3
      payload := ← slice data 2 (← sub data.length 4) }

/-- `parse_ethernet_frame` with its checks. -/
def parseEthernetFrameChecked (data : List UInt8) : Comp (Option RtFrame) := do
  if data.length < 18 then return none
  let ethOffset ← skipVlanTagsChecked data
  if data.length < (← add ethOffset 2) then return none
  if (← u16At data ethOffset false) ≠ ethertypeProfinet then return none
  let frame ← RtFrame.fromBytesChecked (← sliceFrom data (← add ethOffset 2))
  return frame.toOption

theorem RtFrame.fromBytesChecked_ok {data : List UInt8} (hdata : data.length < 2 ^ 63) :
    RtFrame.fromBytesChecked data = .ok (RtFrame.fromBytes data) := by
  unfold RtFrame.fromBytesChecked RtFrame.fromBytes
  by_cases hshort : data.length < 6
  · rw [if_pos hshort, if_pos hshort]
    rfl
  · have htrailer : (data.drop (data.length - 4)).length = 4 := by
      rw [List.length_drop]
      omega
    rw [if_neg hshort, if_neg hshort, sub_ok (by omega)]
    simp only [ok_bind]
    rw [sliceFrom_ok (by omega), u16At_ok hdata (by omega)]
    simp only [ok_bind]
    rw [u16At_ok (by omega) (by omega), index_ok (by omega), index_ok (by omega),
      slice_ok (by omega) (by omega)]
    simp only [ok_bind]
    rw [← List.drop_take]
    rfl

theorem parseEthernetFrameChecked_ok {data : List UInt8} (hdata : data.length < 2 ^ 63) :
    parseEthernetFrameChecked data = .ok (parseEthernetFrame data) := by
  have hoff := (skipVlanTags_bounds data).2
  unfold parseEthernetFrameChecked parseEthernetFrame
  split
  · rfl
  · rw [skipVlanTagsChecked_ok hdata]
    simp only [ok_bind]
    rw [add_ok (by omega)]
    simp only [ok_bind]
    split
    · rfl
    · rw [u16At_ok hdata (by omega)]
      simp only [ok_bind]
      rw [sliceFrom_ok (by omega)]
      simp only [ok_bind]
      rw [RtFrame.fromBytesChecked_ok (by rw [List.length_drop]; omega)]
      split
      · rename_i hother
        exact congrArg Except.ok (if_pos hother).symm
      · rename_i hprofinet
        exact congrArg Except.ok (if_neg hprofinet).symm

end Profinet.Rt

/-! ## UDP datagrams -/

namespace Profinet.RawUdp

open Wire Checked Util

/-- EtherType for IPv4. -/
def ethertypeIpv4 : UInt16 := 0x0800
/-- UDP's number in the IPv4 header. -/
def ipProtoUdp : UInt8 := 17

/-- Payload and source port, if the frame is an unfragmented IPv4/UDP datagram from `wantSrcIp` to
    `wantDstIp`. -/
def parseUdpFrame (frame : List UInt8) (wantSrcIp wantDstIp : Bytes 4) :
    Comp (Option (List UInt8 × UInt16)) := do
  if frame.length < 14 then return none
  let off ← skipVlanTagsChecked frame
  if frame.length < (← add off 2) then return none
  if (← u16At frame off false) ≠ ethertypeIpv4 then return none
  let ip ← add off 2
  if frame.length < (← add ip 20) then return none
  let versionIhl ← index frame ip
  if versionIhl >>> 4 ≠ 4 then return none
  let ihl := (versionIhl &&& 0x0F).toNat * 4
  if ihl < 20 then return none
  if frame.length < (← add (← add ip ihl) 8) then return none
  -- a fragment that is not the first carries no UDP header
  if (← u16At frame (← add ip 6) false) &&& 0x1FFF ≠ 0 then return none
  if (← index frame (← add ip 9)) ≠ ipProtoUdp then return none
  if (← slice frame (← add ip 12) (← add ip 16)).val ≠ wantSrcIp.val then return none
  if (← slice frame (← add ip 16) (← add ip 20)).val ≠ wantDstIp.val then return none
  let udp ← add ip ihl
  let srcPort ← u16At frame udp false
  let udpLen := (← u16At frame (← add udp 4) false).toNat
  if udpLen < 8 then return none
  if frame.length < (← add udp udpLen) then return none
  return some (← slice frame (← add udp 8) (← add udp udpLen), srcPort)

theorem parseUdpFrame_safe {frame : List UInt8} (hframe : frame.length < 2 ^ 63)
    (wantSrcIp wantDstIp : Bytes 4) : Safe (parseUdpFrame frame wantSrcIp wantDstIp) := by
  have hbound := (skipVlanTags_bounds frame).2
  unfold parseUdpFrame
  refine .ite (fun _ => safe_ok _) fun _ => ?_
  rw [skipVlanTagsChecked_ok hframe, ok_bind]
  refine .add (by omega) fun stop hstop => .ite (fun _ => safe_ok _) fun hlen => ?_
  refine .u16At hframe (by omega) fun _ _ => .ite (fun _ => safe_ok _) fun _ => ?_
  refine .add (by omega) fun ip hip => .add (by omega) fun ipEnd hipEnd => ?_
  refine .ite (fun _ => safe_ok _) fun hheader => ?_
  refine .index (by omega) fun versionIhl => .ite (fun _ => safe_ok _) fun _ => ?_
  -- the header length is below 64, whatever the byte says
  have hihl : (versionIhl &&& 0x0F).toNat * 4 < 2 ^ 10 := by
    have hnibble := (versionIhl &&& 0x0F).toNat_lt
    omega
  refine .ite (fun _ => safe_ok _) fun hoptions => ?_
  refine .add (by omega) fun udp hudp => .add (by omega) fun udpEnd hudpEnd => ?_
  refine .ite (fun _ => safe_ok _) fun hlen => ?_
  refine .add (by omega) fun fragment hfragment => .u16At hframe (by omega) fun _ _ => ?_
  refine .ite (fun _ => safe_ok _) fun _ => ?_
  refine .add (by omega) fun proto hproto => .index (by omega) fun _ => ?_
  refine .ite (fun _ => safe_ok _) fun _ => ?_
  refine .add (by omega) fun src hsrc => .add (by omega) fun srcEnd hsrcEnd => ?_
  refine .slice (by omega) (by omega) fun _ _ => .ite (fun _ => safe_ok _) fun _ => ?_
  refine .add (by omega) fun dst hdst => .add (by omega) fun dstEnd hdstEnd => ?_
  refine .slice (by omega) (by omega) fun _ _ => .ite (fun _ => safe_ok _) fun _ => ?_
  refine .add (by omega) fun udp hudp => .u16At hframe (by omega) fun _ _ => ?_
  refine .add (by omega) fun lenOff hlenOff => .u16At hframe (by omega) fun udpLen hudpLen => ?_
  refine .ite (fun _ => safe_ok _) fun hshort => ?_
  refine .add (by omega) fun stop hstop => .ite (fun _ => safe_ok _) fun hwhole => ?_
  refine .add (by omega) fun body hbody => .add (by omega) fun stop hstop => ?_
  exact .slice (by omega) (by omega) fun _ _ => safe_ok _

end Profinet.RawUdp
