/-
  VLAN TAGS: what a receiver makes of a frame does not depend on its tags.

  Whether a station sends its frames tagged, and how many of the tags the capture still has, is out
  of our hands.  `tagged` puts any list of 802.1Q and 802.1ad tags behind the addresses of a frame;
  every parser returns for it what it returns for the frame without them, but for the texts of its
  errors.  All of them read behind `skipVlanTags` only, so each proof follows the two runs of the
  parser side by side, with offsets that differ by the length of the tags.

  The cyclic frames are the other way round: they are built with a tag, and a switch may take it off
  and pad the rest.  The trailer of such a frame is found from its end, so padding would move it; but
  no layout has a payload of fewer than 40 bytes, and without its tag the frame is no shorter than a
  switch would pad it to.
-/
import Profinet.AlarmFrames
import Profinet.Dcp
import Profinet.Lib.Alike
import Profinet.OutputImage

namespace Profinet.Util

open Wire Checked

/-! ## Tags behind the addresses

  Tags in front of the EtherType: `skipVlanTags` ends behind them, and every byte behind that is
  the frame's own, moved. -/

/-- An 802.1Q or 802.1ad tag. -/
structure VlanTag where
  tpid : UInt16
  /-- Priority and VLAN id. -/
  tci : UInt16
  known : vlanTpids.contains tpid = true

/-- The tag's four bytes. -/
def VlanTag.bytes (t : VlanTag) : List UInt8 := be16 t.tpid ++ be16 t.tci

/-- The frame with these tags behind its addresses. -/
def tagged (tags : List VlanTag) (frame : List UInt8) : List UInt8 :=
  frame.take 12 ++ (tags.flatMap VlanTag.bytes ++ frame.drop 12)

/-- A frame of at least 18 bytes whose own EtherType introduces no tag. -/
structure Untagged (frame : List UInt8) : Prop where
  long : 18 ≤ frame.length
  ethertype : vlanTpids.contains (rdU16 frame 12 false) = false

/-- Four bytes a tag. -/
theorem VlanTag.bytes_length (t : VlanTag) : t.bytes.length = 4 := by
  unfold VlanTag.bytes
  rw [List.length_append, be16_length, be16_length]

/-- Four bytes a tag, all of them together. -/
theorem tags_length (tags : List VlanTag) : (tags.flatMap VlanTag.bytes).length = 4 * tags.length := by
  induction tags with
  | nil => rfl
  | cons t tags ih =>
    rw [List.flatMap_cons, List.length_append, ih, t.bytes_length, List.length_cons]
    omega

/-- The loop takes one tag after the other. -/
theorem tagBytes_tags (tags : List VlanTag) (rest : List UInt8) :
    tagBytes (tags.flatMap VlanTag.bytes ++ rest) = 4 * tags.length + tagBytes rest := by
  induction tags with
  | nil => simp
  | cons t tags ih =>
    have hknown : vlanTpids.contains
        (ofBe16 (UInt8.ofNat (t.tpid.toNat / 256)) (UInt8.ofNat t.tpid.toNat)) = true := by
      rw [ofBe16_be16]
      exact t.known
    have hbytes : t.bytes = [UInt8.ofNat (t.tpid.toNat / 256), UInt8.ofNat t.tpid.toNat,
        UInt8.ofNat (t.tci.toNat / 256), UInt8.ofNat t.tci.toNat] := rfl
    rw [List.flatMap_cons, List.append_assoc, hbytes]
    show tagBytes (_ :: _ :: _ :: _ :: (tags.flatMap VlanTag.bytes ++ rest)) = _
    rw [tagBytes, if_pos hknown, ih, List.length_cons]
    omega

section Tagged

variable {frame : List UInt8} (h : Untagged frame) (tags : List VlanTag)
include h

/-- No tag is skipped in an untagged frame. -/
theorem Untagged.skip : skipVlanTags frame = 12 := by
  have hlong := h.long
  unfold skipVlanTags
  rw [tagBytes_drop (by omega), h.ethertype]
  rfl

/-- Every tag is skipped, however many there are. -/
theorem tagged_skip : skipVlanTags (tagged tags frame) = 12 + 4 * tags.length := by
  have hlong := h.long
  have hhead : (frame.take 12).length = 12 := by
    rw [List.length_take]
    omega
  have hrest : tagBytes (frame.drop 12) = 0 := by
    have hskip := h.skip
    unfold skipVlanTags at hskip
    omega
  unfold skipVlanTags tagged
  rw [drop_append_exact hhead, tagBytes_tags, hrest]
  rfl

/-- The tags make the frame longer by their own bytes. -/
theorem tagged_length : (tagged tags frame).length = frame.length + 4 * tags.length := by
  have hlong := h.long
  unfold tagged
  rw [List.length_append, List.length_append, tags_length, List.length_take, List.length_drop]
  omega

/-- Behind the tags stand the bytes of the frame. -/
theorem tagged_drop {off off' : Nat} (hoff : 12 ≤ off) (hoff' : off' = off + 4 * tags.length) :
    (tagged tags frame).drop off' = frame.drop off := by
  have hlong := h.long
  have hhead : (frame.take 12 ++ tags.flatMap VlanTag.bytes).length = 12 + 4 * tags.length := by
    rw [List.length_append, tags_length, List.length_take]
    omega
  have hsplit : off' = 12 + 4 * tags.length + (off - 12) := by omega
  unfold tagged
  rw [← List.append_assoc, hsplit, ← List.drop_drop, drop_append_exact hhead, List.drop_drop]
  congr 1
  omega

/-- Behind the addresses a tagged frame is the frame, moved by the tags. -/
theorem tagged_shifted : Shifted 12 (4 * tags.length) (tagged tags frame) frame :=
  fun _ hoff => tagged_drop h tags hoff rfl

/-- The addresses are as before. -/
theorem tagged_take : (tagged tags frame).take 12 = frame.take 12 := by
  have hlong := h.long
  have hhead : (frame.take 12).length = 12 := by
    rw [List.length_take]
    omega
  unfold tagged
  exact take_append_exact hhead _

/-- The addresses stand where they did. -/
theorem tagged_head {i : Nat} (hi : i < 12) : (tagged tags frame)[i]? = frame[i]? := by
  have htake := congrArg (fun l => l[i]?) (tagged_take h tags)
  simp only [List.getElem?_take, if_pos hi] at htake
  exact htake

/-- The source address stands where it did. -/
theorem tagged_src : bytesAt 6 (tagged tags frame) 6 = bytesAt 6 frame 6 := by
  have hbyte : ∀ i ∈ List.range 6, (tagged tags frame).getD (6 + i) 0 = frame.getD (6 + i) 0 := by
    intro i hi
    have hlt := List.mem_range.mp hi
    rw [List.getD_eq_getElem?_getD, List.getD_eq_getElem?_getD, tagged_head h tags (by omega)]
  exact Subtype.ext (List.map_congr_left hbyte)

/-! ## The Ethernet header

  What every DCP parser asks first. -/

/-- Both are refused, or both give the same. -/
abbrev SameResult {α : Type} (r r' : Except String α) : Prop := r.toOption = r'.toOption

/-- `strip_eth` reads the same behind the tags. -/
theorem stripEth_tagged (hbound : (tagged tags frame).length < 2 ^ 63) (want : UInt16) :
    Alike SameResult (stripEth (tagged tags frame) want) (stripEth frame want) := by
  have hlong := h.long
  have hlen := tagged_length h tags
  have hshift := tagged_shifted h tags
  unfold stripEth
  refine .ite (by omega) (fun _ => rfl) fun _ => ?_
  rw [skipVlanTagsChecked_ok hbound, skipVlanTagsChecked_ok (by omega), tagged_skip h, h.skip]
  simp only [ok_bind]
  refine .add (by omega) (by omega) ?_
  intro stop stop' hstop hstop'
  refine .ite (by omega) (fun _ => rfl) fun _ => ?_
  refine hshift.u16At (by omega) (by omega) (by omega) ?_
  intro ethertype
  refine .ite Iff.rfl (fun _ => rfl) fun _ => ?_
  refine .add (by omega) (by omega) ?_
  intro body body' hbody hbody'
  refine .sliceFrom (by omega) (by omega) (tagged_drop h tags (by omega) (by omega)) ?_
  intro w w' hw
  exact congrArg some hw

end Tagged

end Profinet.Util

/-! ## The parsers behind it

  Parser by parser, two runs side by side (`Alike`): equal tests, equal fields, equal results. -/

namespace Profinet

open Wire Checked Util

section Tagged

variable {frame : List UInt8} (h : Untagged frame) (tags : List VlanTag)
  (hbound : (tagged tags frame).length < 2 ^ 63)
include h hbound

/-- A parser that reads the payload only. -/
theorem dcpPayload_tagged {β : Type} {R : β → β → Prop} (hR : ∀ b, R b b)
    {f : Except String (List UInt8) → Comp β}
    (herror : ∀ e e', Alike R (f (.error e)) (f (.error e'))) :
    Alike R (Dcp.dcpPayload (tagged tags frame) >>= f) (Dcp.dcpPayload frame >>= f) := by
  refine (stripEth_tagged h tags hbound Dcp.profinetEthertype).bind ?_
  intro r r' hr
  rcases r with e | payload
  · rcases r' with e' | payload'
    · exact herror e e'
    · cases hr
  · rcases r' with e' | payload'
    · cases hr
    · cases hr
      exact .refl hR _

/-- The transaction id is the same behind the tags. -/
theorem parseDcpXid_tagged :
    Alike Eq (Dcp.parseDcpXid (tagged tags frame)) (Dcp.parseDcpXid frame) := by
  refine dcpPayload_tagged h tags hbound (fun _ => rfl) ?_
  intro _ _
  exact rfl

/-- A DCP SET response is the same behind the tags. -/
theorem parseSetResponse_tagged (xid : UInt32) :
    Alike SameResult (Dcp.parseSetResponse (tagged tags frame) xid)
      (Dcp.parseSetResponse frame xid) := by
  refine dcpPayload_tagged (R := SameResult) h tags hbound (fun _ => rfl) ?_
  intro _ _
  exact rfl

/-- A DCP GET response is the same behind the tags. -/
theorem parseGetResponse_tagged (option suboption : UInt8) (xid : UInt32) :
    Alike SameResult (Dcp.parseGetResponse (tagged tags frame) option suboption xid)
      (Dcp.parseGetResponse frame option suboption xid) := by
  refine dcpPayload_tagged (R := SameResult) h tags hbound (fun _ => rfl) ?_
  intro _ _
  exact rfl

/-- An Identify response is the same behind the tags. -/
theorem parseIdentifyResponse_tagged :
    Alike SameResult (Dcp.parseIdentifyResponse (tagged tags frame))
      (Dcp.parseIdentifyResponse frame) := by
  have hlong := h.long
  have hlen := tagged_length h tags
  have hsrc : arrayAt 6 (tagged tags frame) 6 = arrayAt 6 frame 6 := by
    rw [arrayAt_ok hbound (by omega), arrayAt_ok (by omega) (by omega), tagged_src h tags]
  unfold Dcp.parseIdentifyResponse
  refine .ite (by omega) (fun _ => rfl) fun _ => ?_
  rw [hsrc]
  refine (alike_eq.mpr rfl).bind ?_
  rintro src _ rfl
  refine dcpPayload_tagged (R := SameResult) h tags hbound (fun _ => rfl) ?_
  intro _ _
  exact rfl

/-- The address check of an RTA frame is the same behind the tags. -/
theorem checkLayer2Frame_tagged (deviceMac : Mac) :
    Alike Eq (Rta.checkLayer2Frame (tagged tags frame) deviceMac)
      (Rta.checkLayer2Frame frame deviceMac) := by
  have hlong := h.long
  have hlen := tagged_length h tags
  have hshift := tagged_shifted h tags
  unfold Rta.checkLayer2Frame
  refine .ite (by omega) (fun _ => rfl) fun _ => ?_
  -- the source address stands in front of the tags
  have hsrc : ((tagged tags frame).drop 6).take 6 = (frame.drop 6).take 6 := by
    have hhead := congrArg (List.drop 6) (tagged_take h tags)
    rw [List.drop_take, List.drop_take] at hhead
    exact hhead
  rw [slice_ok (by omega) (by omega), slice_ok (by omega) (by omega)]
  simp only [ok_bind]
  refine .ite (by rw [hsrc]) (fun _ => rfl) fun _ => ?_
  rw [skipVlanTagsChecked_ok hbound, skipVlanTagsChecked_ok (by omega), tagged_skip h, h.skip]
  simp only [ok_bind]
  refine .sub (by omega) (by omega) ?_
  intro tag tag' htag htag'
  refine .add (by omega) (by omega) ?_
  intro head head' hhead hhead'
  refine .ite (by omega) (fun _ => rfl) fun _ => ?_
  refine .add (by omega) (by omega) ?_
  intro typeOff typeOff' _ _
  refine hshift.u16At (by omega) (by omega) (by omega) ?_
  intro ethertype
  refine .ite Iff.rfl (fun _ => rfl) fun _ => ?_
  refine .add (by omega) (by omega) ?_
  intro idOff idOff' _ _
  refine hshift.u16At (by omega) (by omega) (by omega) ?_
  intro frameId
  have hbody : (tagged tags frame).drop head = frame.drop head' :=
    tagged_drop h tags (by omega) (by omega)
  refine .ite Iff.rfl (fun _ => ?_) fun _ => .ite Iff.rfl (fun _ => ?_) fun _ => rfl
  · refine .sliceFrom (by omega) (by omega) hbody ?_
    intro w w' hw
    exact congrArg (fun body => some (true, body)) hw
  · refine .sliceFrom (by omega) (by omega) hbody ?_
    intro w w' hw
    exact congrArg (fun body => some (false, body)) hw

/-- A UDP datagram is the same behind the tags. -/
theorem parseUdpFrame_tagged (wantSrcIp wantDstIp : Bytes 4) :
    Alike Eq (RawUdp.parseUdpFrame (tagged tags frame) wantSrcIp wantDstIp)
      (RawUdp.parseUdpFrame frame wantSrcIp wantDstIp) := by
  have hlong := h.long
  have hlen := tagged_length h tags
  have hshift := tagged_shifted h tags
  unfold RawUdp.parseUdpFrame
  -- both parsers are walked together: each offset is moved by the tags, each test agrees
  refine .ite (by omega) (fun _ => rfl) fun _ => ?_
  rw [skipVlanTagsChecked_ok hbound, skipVlanTagsChecked_ok (by omega), tagged_skip h, h.skip]
  simp only [ok_bind]
  refine .add (by omega) (by omega) ?_
  intro stop stop' _ _
  refine .ite (by omega) (fun _ => rfl) fun _ => ?_
  refine hshift.u16At (by omega) (by omega) (by omega) ?_
  intro ethertype
  refine .ite Iff.rfl (fun _ => rfl) fun _ => ?_
  refine .add (by omega) (by omega) ?_
  intro ip ip' hip hip'
  refine .add (by omega) (by omega) ?_
  intro ipEnd ipEnd' _ _
  refine .ite (by omega) (fun _ => rfl) fun _ => ?_
  refine hshift.index (by omega) (by omega) ?_
  intro versionIhl
  have hihl : (versionIhl &&& 0x0F).toNat * 4 < 2 ^ 10 := by
    have hnibble := (versionIhl &&& 0x0F).toNat_lt
    omega
  refine .ite Iff.rfl (fun _ => rfl) fun _ => .ite Iff.rfl (fun _ => rfl) fun hoptions => ?_
  refine .add (by omega) (by omega) ?_
  intro udp udp' _ _
  refine .add (by omega) (by omega) ?_
  intro udpEnd udpEnd' _ _
  refine .ite (by omega) (fun _ => rfl) fun hheader => ?_
  refine .add (by omega) (by omega) ?_
  intro fragment fragment' _ _
  refine hshift.u16At (by omega) (by omega) (by omega) ?_
  intro flags
  refine .ite Iff.rfl (fun _ => rfl) fun _ => ?_
  refine .add (by omega) (by omega) ?_
  intro proto proto' _ _
  refine hshift.index (by omega) (by omega) ?_
  intro protocol
  refine .ite Iff.rfl (fun _ => rfl) fun _ => ?_
  refine .add (by omega) (by omega) ?_
  intro src src' _ _
  refine .add (by omega) (by omega) ?_
  intro srcEnd srcEnd' _ _
  refine hshift.slice (by omega) (by omega) (by omega) (by omega) (by omega) (by omega) ?_
  intro w w' hw
  refine .ite (by rw [hw]) (fun _ => rfl) fun _ => ?_
  refine .add (by omega) (by omega) ?_
  intro dst dst' _ _
  refine .add (by omega) (by omega) ?_
  intro dstEnd dstEnd' _ _
  refine hshift.slice (by omega) (by omega) (by omega) (by omega) (by omega) (by omega) ?_
  intro w w' hw
  refine .ite (by rw [hw]) (fun _ => rfl) fun _ => ?_
  refine .add (by omega) (by omega) ?_
  intro udp udp' hudp hudp'
  refine hshift.u16At (by omega) (by omega) (by omega) ?_
  intro srcPort
  refine .add (by omega) (by omega) ?_
  intro lenOff lenOff' _ _
  refine hshift.u16At (by omega) (by omega) (by omega) ?_
  intro udpLen
  have hudpLen := udpLen.toNat_lt
  refine .ite Iff.rfl (fun _ => rfl) fun _ => ?_
  refine .add (by omega) (by omega) ?_
  intro stop stop' _ _
  refine .ite (by omega) (fun _ => rfl) fun _ => ?_
  refine .add (by omega) (by omega) ?_
  intro body body' _ _
  refine .add (by omega) (by omega) ?_
  intro stop stop' _ _
  refine hshift.slice (by omega) (by omega) (by omega) (by omega) (by omega) (by omega) ?_
  intro w w' hw
  exact congrArg (fun body => some (body, srcPort)) hw

omit hbound in
/-- An RT frame is the same behind the tags. -/
theorem parseEthernetFrame_tagged :
    Rt.parseEthernetFrame (tagged tags frame) = Rt.parseEthernetFrame frame := by
  have hlong := h.long
  have hlen := tagged_length h tags
  have hread : ∀ off off', 12 ≤ off → off' = off + 4 * tags.length →
      (tagged tags frame).getD off' 0 = frame.getD off 0 := by
    intro off off' hoff hoff'
    rw [List.getD_eq_getElem?_getD, List.getD_eq_getElem?_getD, (tagged_shifted h tags).getElem? hoff hoff']
  unfold Rt.parseEthernetFrame
  rw [tagged_skip h, h.skip]
  simp only
  have hshort : ¬ (tagged tags frame).length < 18 := by omega
  have hcut : ¬ (tagged tags frame).length < 12 + 4 * tags.length + 2 := by omega
  have hshort' : ¬ frame.length < 18 := by omega
  have hcut' : ¬ frame.length < 12 + 2 := by omega
  have hbody : (tagged tags frame).drop (12 + 4 * tags.length + 2) = frame.drop (12 + 2) :=
    tagged_drop h tags (by omega) (by omega)
  rw [if_neg hshort, if_neg hcut, if_neg hshort', if_neg hcut', hread 12 _ (by omega) rfl,
    hread 13 _ (by omega) (by omega), hbody]

end Tagged

/-! ## The cyclic frames

  Built with a priority tag, read with it or without. -/

/-- The frame without the tag behind its addresses. -/
def untagged (frame : List UInt8) : List UInt8 := frame.take 12 ++ frame.drop 16

/-- The frame with zeros behind it, up to the Ethernet minimum of 60 bytes. -/
def padded (frame : List UInt8) : List UInt8 := frame ++ List.replicate (60 - frame.length) 0

end Profinet

namespace Profinet.Rt

open Wire Checked Util

/-- A frame read back from its own bytes. -/
theorem RtFrame.fromBytes_toBytes (f : RtFrame) : RtFrame.fromBytes f.toBytes = .ok f := by
  have hlen : f.toBytes.length = 6 + f.payload.length := by
    unfold RtFrame.toBytes
    rw [List.length_append, List.length_append, List.length_append, be16_length, be16_length]
    show 2 + (f.payload.length + (2 + 2)) = _
    omega
  have hsplit : f.toBytes = (be16 f.frameId ++ f.payload)
      ++ (be16 f.cycleCounter ++ [f.dataStatus, f.transferStatus]) := by
    unfold RtFrame.toBytes
    rw [List.append_assoc]
  have hfront : (be16 f.frameId ++ f.payload).length = f.toBytes.length - 4 := by
    rw [List.length_append, be16_length]
    omega
  have htrailer : f.toBytes.drop (f.toBytes.length - 4)
      = be16 f.cycleCounter ++ [f.dataStatus, f.transferStatus] := by
    rw [← hfront, hsplit, List.drop_left]
  have hpayload : (f.toBytes.take (f.toBytes.length - 4)).drop 2 = f.payload := by
    rw [← hfront, hsplit, List.take_left]
    exact drop_append_exact (be16_length _) _
  have hshort : ¬ f.toBytes.length < 6 := by omega
  have hid : ofBe16 (f.toBytes.getD 0 0) (f.toBytes.getD 1 0) = f.frameId := ofBe16_be16 _
  have hcounter : ofBe16 ((be16 f.cycleCounter ++ [f.dataStatus, f.transferStatus]).getD 0 0)
      ((be16 f.cycleCounter ++ [f.dataStatus, f.transferStatus]).getD 1 0) = f.cycleCounter :=
    ofBe16_be16 _
  unfold RtFrame.fromBytes
  rw [if_neg hshort, htrailer, hpayload]
  simp only
  rw [hid, hcounter]
  rfl

/-- The frame as it is built, but for the tag. -/
def bareFrame (dstMac srcMac : Mac) (f : RtFrame) : List UInt8 :=
  dstMac.1 ++ (srcMac.1 ++ (be16 ethertypeProfinet ++ f.toBytes))

/-- The tag `build_ethernet_frame` puts in. -/
def rtTag : VlanTag := ⟨0x8100, 0xC000, by decide⟩

section Built

variable (dstMac srcMac : Mac) (f : RtFrame)

/-- What stands behind the addresses of a frame without a tag. -/
theorem bareFrame_drop :
    (bareFrame dstMac srcMac f).drop 12 = be16 ethertypeProfinet ++ f.toBytes := by
  have haddr : (dstMac.1 ++ srcMac.1).length = 12 := by
    rw [List.length_append, dstMac.2, srcMac.2]
  unfold bareFrame
  rw [← List.append_assoc]
  exact drop_append_exact haddr _

/-- The length of a frame without a tag. -/
theorem bareFrame_length : (bareFrame dstMac srcMac f).length = 20 + f.payload.length := by
  unfold bareFrame RtFrame.toBytes
  simp only [List.length_append, dstMac.2, srcMac.2, be16_length, List.length_cons,
    List.length_nil]
  omega

/-- The frame without a tag is untagged: its EtherType is PROFINET's. -/
theorem bareFrame_untagged : Untagged (bareFrame dstMac srcMac f) where
  long := by
    rw [bareFrame_length]
    omega
  ethertype := by
    have hread : rdU16 (bareFrame dstMac srcMac f) 12 false = ethertypeProfinet :=
      rdU16_be (bareFrame_drop dstMac srcMac f)
    rw [hread]
    rfl

/-- A built frame is the bare one with its tag. -/
theorem buildEthernetFrame_tagged :
    buildEthernetFrame dstMac srcMac f = tagged [rtTag] (bareFrame dstMac srcMac f) := by
  have haddr : (dstMac.1 ++ srcMac.1).length = 12 := by
    rw [List.length_append, dstMac.2, srcMac.2]
  have htake : (bareFrame dstMac srcMac f).take 12 = dstMac.1 ++ srcMac.1 := by
    unfold bareFrame
    rw [← List.append_assoc]
    exact take_append_exact haddr _
  unfold tagged
  rw [htake, bareFrame_drop, List.append_assoc]
  rfl

/-- Removing the priority tag of a built frame leaves the bare frame. -/
theorem untagged_built :
    untagged (buildEthernetFrame dstMac srcMac f) = bareFrame dstMac srcMac f := by
  have hbare := bareFrame_untagged dstMac srcMac f
  have hrest : (tagged [rtTag] (bareFrame dstMac srcMac f)).drop 16
      = (bareFrame dstMac srcMac f).drop 12 := tagged_drop hbare [rtTag] (by omega) rfl
  unfold untagged
  rw [buildEthernetFrame_tagged, tagged_take hbare, hrest, List.take_append_drop]

/-- A bare frame reads as the frame it was built from. -/
theorem parse_bareFrame : parseEthernetFrame (bareFrame dstMac srcMac f) = some f := by
  have hbare := bareFrame_untagged dstMac srcMac f
  have hlen := bareFrame_length dstMac srcMac f
  have hdrop := bareFrame_drop dstMac srcMac f
  have hbody : (bareFrame dstMac srcMac f).drop (12 + 2) = f.toBytes :=
    drop_field hdrop (be16_length _)
  have htype : ofBe16 ((bareFrame dstMac srcMac f).getD 12 0)
      ((bareFrame dstMac srcMac f).getD (12 + 1) 0) = ethertypeProfinet := rdU16_be hdrop
  have hshort : ¬ (bareFrame dstMac srcMac f).length < 18 := by omega
  have hcut : ¬ (bareFrame dstMac srcMac f).length < 12 + 2 := by omega
  unfold parseEthernetFrame
  rw [hbare.skip]
  simp only
  rw [if_neg hshort, if_neg hcut, htype, if_neg (fun hne => hne rfl), hbody,
    RtFrame.fromBytes_toBytes]
  rfl

/-- What was built is parsed. -/
theorem parse_built : parseEthernetFrame (buildEthernetFrame dstMac srcMac f) = some f := by
  rw [buildEthernetFrame_tagged, parseEthernetFrame_tagged (bareFrame_untagged dstMac srcMac f),
    parse_bareFrame]

/-- A payload of 40 bytes leaves nothing to pad. -/
theorem padded_bareFrame (hlong : 40 ≤ f.payload.length) :
    padded (bareFrame dstMac srcMac f) = bareFrame dstMac srcMac f := by
  have hlen := bareFrame_length dstMac srcMac f
  have hzero : 60 - (bareFrame dstMac srcMac f).length = 0 := by omega
  unfold padded
  rw [hzero]
  exact List.append_nil _

end Built

end Profinet.Rt

namespace Profinet.Cyclic

open Wire Checked Util Rt

/-- What the next output frame carries. -/
def Shared.nextRtFrame (s : Shared) (dataStatus : Option UInt8) : RtFrame where
  frameId := s.outputIocr.frameId
  cycleCounter := s.advanceCounter.cycleCounter
  dataStatus := dataStatus.getD Shared.runStatus
  transferStatus := 0x00
  payload := s.outputBuilder.swap.build

/-- The cyclic frame of a step is the built frame of its RT frame. -/
theorem nextOutputFrame_eq (s : Shared) (dataStatus : Option UInt8) :
    (s.nextOutputFrame dataStatus).1
      = buildEthernetFrame s.dstMac s.srcMac (s.nextRtFrame dataStatus) := rfl

/-- A controller of a built layout sends payloads of 40 bytes or more. -/
theorem nextRtFrame_long {slots : List Gsdml.IoSlot} {inputFrameId outputFrameId sendClockFactor
    reductionRatio watchdogFactor : UInt16} {s : Shared} (hs : s.outputBuilder.1.config =
      outputConfig slots inputFrameId outputFrameId sendClockFactor reductionRatio watchdogFactor)
    (dataStatus : Option UInt8) : 40 ≤ (s.nextRtFrame dataStatus).payload.length := by
  have hlen : s.outputBuilder.swap.build.length = s.outputBuilder.swap.1.config.dataLength :=
    s.outputBuilder.swap.2.sendLength
  show 40 ≤ s.outputBuilder.swap.build.length
  rw [hlen, s.outputBuilder.swap_facts.1, hs, output_dataLength]
  omega

end Profinet.Cyclic

namespace Profinet

open Wire Checked Util Rt Cyclic

/-- **Tags and padding are transparent.**  Whatever tags stand behind the addresses of a frame, its
    parsers return what they return without them, error texts aside; and what the controller of a
    built layout sends, in every state it can be in, is parsed as it was sent, with its tag and
    without it, zero-padded to the Ethernet minimum. -/
theorem tags_transparent :
    (∀ (frame : List UInt8) (tags : List VlanTag), Untagged frame →
      (tagged tags frame).length < 2 ^ 63 →
      parseEthernetFrame (tagged tags frame) = parseEthernetFrame frame
      ∧ (Dcp.parseIdentifyResponse (tagged tags frame)).map Except.toOption
        = (Dcp.parseIdentifyResponse frame).map Except.toOption
      ∧ (∀ xid, (Dcp.parseSetResponse (tagged tags frame) xid).map Except.toOption
        = (Dcp.parseSetResponse frame xid).map Except.toOption)
      ∧ (∀ option suboption xid,
        (Dcp.parseGetResponse (tagged tags frame) option suboption xid).map Except.toOption
          = (Dcp.parseGetResponse frame option suboption xid).map Except.toOption)
      ∧ Dcp.parseDcpXid (tagged tags frame) = Dcp.parseDcpXid frame
      ∧ (∀ deviceMac, Rta.checkLayer2Frame (tagged tags frame) deviceMac
        = Rta.checkLayer2Frame frame deviceMac)
      ∧ (∀ srcIp dstIp, RawUdp.parseUdpFrame (tagged tags frame) srcIp dstIp
        = RawUdp.parseUdpFrame frame srcIp dstIp))
    ∧ (∀ (slots : List Gsdml.IoSlot) (inputFrameId outputFrameId sendClockFactor reductionRatio
        watchdogFactor : UInt16) (srcMac dstMac : Mac) (inputIocr : IocrConfig)
        (maxConsecutiveTimeouts : UInt32) (now : Instant) (events : List CtlEvent)
        (dataStatus : Option UInt8),
      let s := Shared.fresh srcMac dstMac inputIocr
        (outputConfig slots inputFrameId outputFrameId sendClockFactor reductionRatio
          watchdogFactor)
        (output_fits slots inputFrameId outputFrameId sendClockFactor reductionRatio
          watchdogFactor) maxConsecutiveTimeouts now
      let t := (runCtl OutputBuilder.swap s events).1
      let frame := (t.nextOutputFrame dataStatus).1
      let sent : RtFrame :=
        { frameId := outputFrameId
          cycleCounter := (t.nextOutputFrame dataStatus).2.cycleCounter
          dataStatus := dataStatus.getD Shared.runStatus
          transferStatus := 0x00
          payload := (t.nextOutputFrame dataStatus).2.outputBuilder.build }
      parseEthernetFrame frame = some sent
      ∧ parseEthernetFrame (padded (untagged frame)) = some sent) := by
  constructor
  · intro frame tags h hbound
    exact ⟨parseEthernetFrame_tagged h tags, (parseIdentifyResponse_tagged h tags hbound).map_eq,
      fun xid => (parseSetResponse_tagged h tags hbound xid).map_eq,
      fun option suboption xid =>
        (parseGetResponse_tagged h tags hbound option suboption xid).map_eq,
      alike_eq.mp (parseDcpXid_tagged h tags hbound),
      fun deviceMac => alike_eq.mp (checkLayer2Frame_tagged h tags hbound deviceMac),
      fun srcIp dstIp => alike_eq.mp (parseUdpFrame_tagged h tags hbound srcIp dstIp)⟩
  · intro slots inputFrameId outputFrameId sendClockFactor reductionRatio watchdogFactor srcMac
      dstMac inputIocr maxConsecutiveTimeouts now events dataStatus s t frame sent
    have hrun := (refines_run commits_swap (refines_plain s) events).1
    have hbase : s.outputBuilder.1.config = outputConfig slots inputFrameId outputFrameId
        sendClockFactor reductionRatio watchdogFactor :=
      (OutputBuilder.new_facts _ (output_fits slots inputFrameId outputFrameId sendClockFactor
        reductionRatio watchdogFactor)).1
    have hconfig : t.outputBuilder.1.config = outputConfig slots inputFrameId outputFrameId
        sendClockFactor reductionRatio watchdogFactor :=
      hrun.config.trans hbase
    have hsent : t.nextRtFrame dataStatus = sent := by
      have hid : t.outputIocr.frameId = outputFrameId := by
        rw [hrun.outputIocr]
        rfl
      show RtFrame.mk t.outputIocr.frameId _ _ _ _ = _
      rw [hid]
      rfl
    have hframe : frame = buildEthernetFrame t.dstMac t.srcMac sent := by
      rw [← hsent]
      exact nextOutputFrame_eq t dataStatus
    constructor
    · rw [hframe, parse_built]
    · have hlong := nextRtFrame_long hconfig dataStatus
      rw [hsent] at hlong
      rw [hframe, untagged_built, padded_bareFrame _ _ _ hlong, parse_bareFrame]

/-- The first output frame of the bench, with a second tag in front of its own. -/
theorem tags_transparent_bench :
    parseEthernetFrame (tagged [rtTag, rtTag] (untagged (bench.nextOutputFrame none).1))
      = parseEthernetFrame (untagged (bench.nextOutputFrame none).1) := by
  have hbare : Untagged (untagged (bench.nextOutputFrame none).1) := by
    rw [nextOutputFrame_eq, untagged_built]
    exact bareFrame_untagged _ _ _
  have hbound : (tagged [rtTag, rtTag] (untagged (bench.nextOutputFrame none).1)).length
      < 2 ^ 63 := by
    rw [tagged_length hbare, nextOutputFrame_eq, untagged_built, bareFrame_length]
    decide
  exact (tags_transparent.1 _ [rtTag, rtTag] hbare hbound).1

end Profinet
