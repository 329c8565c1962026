/-
  UDP DATAGRAM: which frames the raw endpoint takes a payload from.

  `parseUdpFrame` compares the EtherType, the IP version, the header length, the fragment offset, the
  protocol, both addresses and the UDP length; `Accepted` is the list of these checks, over the bytes
  of the frame, and `parseUdpFrame_iff` says that they decide.

      ipAt        the IP header, behind any tags
      udpAt       the UDP header, behind the options
      udpLength   the length field the payload is cut to

  Two fields of the IP header are never read: the More-Fragments flag, and the total length.  So a
  first fragment is taken for a datagram, and a UDP length beyond the packet reaches into what
  follows it in the frame; any other frame is as the caller expects it (`whole_datagram_iff`).
-/
import Profinet.Capture
import Profinet.Lib.Yields

namespace Profinet.RawUdp

open Wire Checked Util

/-! ## Where the headers stand -/

/-- Where the IP header begins. -/
def ipAt (frame : List UInt8) : Nat := skipVlanTags frame + 2

/-- Length of the IP header, options included. -/
def headerLength (frame : List UInt8) : Nat := (frame.getD (ipAt frame) 0 &&& 0x0F).toNat * 4

/-- The total length the IP header announces. -/
def totalLength (frame : List UInt8) : Nat := (rdU16 frame (ipAt frame + 2) false).toNat

/-- Flags and fragment offset. -/
def fragmentField (frame : List UInt8) : UInt16 := rdU16 frame (ipAt frame + 6) false

/-- Where the UDP header begins. -/
def udpAt (frame : List UInt8) : Nat := ipAt frame + headerLength frame

/-- The length the UDP header announces. -/
def udpLength (frame : List UInt8) : Nat := (rdU16 frame (udpAt frame + 4) false).toNat

theorem headerLength_lt (frame : List UInt8) : headerLength frame < 2 ^ 10 := by
  have hnibble := (frame.getD (ipAt frame) 0 &&& 0x0F).toNat_lt
  unfold headerLength
  omega

/-! ## The checks of the parser -/

/-- What the parser compares. -/
structure Accepted (frame : List UInt8) (srcIp dstIp : Bytes 4) : Prop where
  ethertype : rdU16 frame (skipVlanTags frame) false = ethertypeIpv4
  version : frame.getD (ipAt frame) 0 >>> 4 = 4
  options : 20 ≤ headerLength frame
  header : udpAt frame + 8 ≤ frame.length
  offset : fragmentField frame &&& 0x1FFF = 0
  protocol : frame.getD (ipAt frame + 9) 0 = ipProtoUdp
  source : (frame.drop (ipAt frame + 12)).take 4 = srcIp.val
  destination : (frame.drop (ipAt frame + 16)).take 4 = dstIp.val
  counted : 8 ≤ udpLength frame
  captured : udpAt frame + udpLength frame ≤ frame.length

instance (frame : List UInt8) (srcIp dstIp : Bytes 4) : Decidable (Accepted frame srcIp dstIp) :=
  decidable_of_iff
    (rdU16 frame (skipVlanTags frame) false = ethertypeIpv4 ∧ frame.getD (ipAt frame) 0 >>> 4 = 4
      ∧ 20 ≤ headerLength frame ∧ udpAt frame + 8 ≤ frame.length
      ∧ fragmentField frame &&& 0x1FFF = 0 ∧ frame.getD (ipAt frame + 9) 0 = ipProtoUdp
      ∧ (frame.drop (ipAt frame + 12)).take 4 = srcIp.val
      ∧ (frame.drop (ipAt frame + 16)).take 4 = dstIp.val
      ∧ 8 ≤ udpLength frame ∧ udpAt frame + udpLength frame ≤ frame.length)
    ⟨fun ⟨a, b, c, d, e, f, g, h, i, j⟩ => ⟨a, b, c, d, e, f, g, h, i, j⟩,
      fun ⟨a, b, c, d, e, f, g, h, i, j⟩ => ⟨a, b, c, d, e, f, g, h, i, j⟩⟩

/-- What it returns. -/
def delivered (frame : List UInt8) : List UInt8 × UInt16 :=
  ((frame.drop (udpAt frame + 8)).take (udpLength frame - 8), rdU16 frame (udpAt frame) false)

section Parser

variable {frame : List UInt8} (hframe : frame.length < 2 ^ 63) {srcIp dstIp : Bytes 4}
include hframe

/-- **The parser takes the frames that pass its checks, and no others.** -/
theorem parseUdpFrame_iff {r : List UInt8 × UInt16} :
    Yields (parseUdpFrame frame srcIp dstIp) (some r)
      (Accepted frame srcIp dstIp ∧ r = delivered frame) := by
  have hbound := (skipVlanTags_bounds frame).2
  have hip : ipAt frame = skipVlanTags frame + 2 := rfl
  have hoptionsEnd : (frame.getD (ipAt frame) 0 &&& 0x0F).toNat * 4 = headerLength frame := rfl
  have hudp : udpAt frame = ipAt frame + headerLength frame := rfl
  have hihl := headerLength_lt frame
  have hudpLen : udpLength frame < 2 ^ 16 := UInt16.toNat_lt _
  -- each check of the parser is a field of `Accepted`, and no checked operation fails on the way
  unfold parseUdpFrame
  refine .check nofun (fun h hP => ?_) fun _ => ?_
  · have := hP.1.header
    have := hP.1.options
    omega
  rw [skipVlanTagsChecked_ok hframe, ok_bind]
  refine .add (by omega) fun typeEnd htypeEnd => .check nofun (fun h hP => ?_) fun htype => ?_
  · have := hP.1.header
    dsimp only at h
    omega
  dsimp only at htype
  refine .u16At hframe (by omega) (.check nofun (fun h hP => h hP.1.ethertype) fun hethertype => ?_)
  refine .add (by omega) ?_
  intro ip hip
  obtain rfl : ip = ipAt frame := hip
  dsimp only
  refine .add (by omega) fun ipEnd hipEnd => .check nofun (fun h hP => ?_) fun hheader => ?_
  · have := hP.1.header
    have := hP.1.options
    dsimp only at h
    omega
  dsimp only at hheader
  refine .index (by omega) (.check nofun (fun h hP => h hP.1.version) fun hversion => ?_)
  rw [hoptionsEnd]
  refine .check nofun (fun h hP => absurd hP.1.options (Nat.not_le.mpr h)) fun hoptions => ?_
  refine .add (by omega) ?_
  intro udp hudp
  obtain rfl : udp = udpAt frame := hudp
  dsimp only
  refine .add (by omega) fun udpEnd hudpEnd => .check nofun (fun h hP => ?_) fun hudpHeader => ?_
  · have := hP.1.header
    dsimp only at h
    omega
  dsimp only at hudpHeader
  refine .add (by omega) ?_
  intro fragment hfragment
  obtain rfl := hfragment
  refine .u16At hframe (by dsimp only; omega) (.check nofun (fun h hP => h hP.1.offset) fun hoffset => ?_)
  refine .add (by omega) ?_
  intro protocol hprotocol
  obtain rfl := hprotocol
  refine .index (by dsimp only; omega) (.check nofun (fun h hP => h hP.1.protocol) fun hprotocol => ?_)
  refine .add (by omega) fun src hsrc => .add (by omega) fun srcEnd hsrcEnd => ?_
  obtain rfl := hsrc
  obtain rfl := hsrcEnd
  dsimp only
  refine .slice (by omega) (by omega) ?_
  dsimp only
  rw [Nat.add_sub_add_left]
  refine .check nofun (fun h hP => h hP.1.source) fun hsource => ?_
  refine .add (by omega) fun dst hdst => .add (by omega) fun dstEnd hdstEnd => ?_
  obtain rfl := hdst
  obtain rfl := hdstEnd
  dsimp only
  refine .slice (by omega) (by omega) ?_
  dsimp only
  rw [Nat.add_sub_add_left]
  refine .check nofun (fun h hP => h hP.1.destination) fun hdestination => ?_
  refine .add (by omega) ?_
  intro udp hudp
  obtain rfl : udp = udpAt frame := hudp
  dsimp only
  refine .u16At hframe (by omega) (.add (by omega) fun lengthAt hlengthAt => ?_)
  obtain rfl := hlengthAt
  refine .u16At hframe (by dsimp only; omega) ?_
  dsimp only
  rw [← udpLength]
  refine .check nofun (fun h hP => absurd hP.1.counted (Nat.not_le.mpr h)) fun hcounted => ?_
  refine .add (by omega) fun stop hstop => .check nofun (fun h hP => ?_) fun hcaptured => ?_
  · have := hP.1.captured
    dsimp only at h
    omega
  dsimp only at hcaptured
  refine .add (by omega) fun body hbody => .add (by omega) fun stop hstop => ?_
  obtain rfl := hbody
  obtain rfl := hstop
  dsimp only
  refine .slice (by omega) (by omega) (.last ?_)
  dsimp only
  rw [Nat.add_sub_add_left]
  constructor
  · intro hr
    refine ⟨?_, (Option.some.inj hr).symm⟩
    exact
      { ethertype := not_not.mp hethertype
        version := not_not.mp hversion
        options := by omega
        header := by omega
        offset := not_not.mp hoffset
        protocol := not_not.mp hprotocol
        source := not_not.mp hsource
        destination := not_not.mp hdestination
        counted := by omega
        captured := by omega }
  · rintro ⟨-, rfl⟩
    rfl

end Parser

/-! ## Whole datagrams -/

/-- The payload is that of an unfragmented packet from `srcIp` to `dstIp`, and inside the length the
    packet declares. -/
structure WholeDatagram (frame : List UInt8) (srcIp dstIp : Bytes 4) (payload : List UInt8) :
    Prop where
  ethertype : rdU16 frame (skipVlanTags frame) false = ethertypeIpv4
  version : frame.getD (ipAt frame) 0 >>> 4 = 4
  protocol : frame.getD (ipAt frame + 9) 0 = ipProtoUdp
  source : (frame.drop (ipAt frame + 12)).take 4 = srcIp.val
  destination : (frame.drop (ipAt frame + 16)).take 4 = dstIp.val
  offset : fragmentField frame &&& 0x1FFF = 0
  moreFragments : fragmentField frame &&& 0x2000 = 0
  place : payload = (frame.drop (udpAt frame + 8)).take payload.length
  inside : headerLength frame + 8 + payload.length ≤ totalLength frame

/-- Whatever the parser returns of this frame is the payload of a whole datagram. -/
def DeliversWhole (frame : List UInt8) (srcIp dstIp : Bytes 4) : Prop :=
  ∀ payload port, parseUdpFrame frame srcIp dstIp = .ok (some (payload, port)) →
    WholeDatagram frame srcIp dstIp payload

/-- As long as the frame is accepted at all, the payload is as long as the UDP length says. -/
theorem delivered_length {frame : List UInt8} {srcIp dstIp : Bytes 4}
    (h : Accepted frame srcIp dstIp) : (delivered frame).1.length = udpLength frame - 8 := by
  have hcaptured := h.captured
  rw [delivered, List.length_take, List.length_drop]
  omega

/-- **When whole datagrams are all that is returned**: an accepted frame is no first fragment, and
    its UDP length stays inside the packet. -/
theorem whole_datagram_iff (frame : Slice) (srcIp dstIp : Bytes 4) :
    DeliversWhole frame.val srcIp dstIp
      ↔ (Accepted frame.val srcIp dstIp →
          fragmentField frame.val &&& 0x2000 = 0
            ∧ headerLength frame.val + udpLength frame.val ≤ totalLength frame.val) := by
  constructor
  -- the two tests the parser leaves out are what its result does not tell
  · intro h haccepted
    have hcounted := haccepted.counted
    have hlen := delivered_length haccepted
    have hwhole := h (delivered frame.val).1 (delivered frame.val).2
      ((parseUdpFrame_iff frame.2).mpr ⟨haccepted, rfl⟩)
    have hinside := hwhole.inside
    rw [hlen] at hinside
    exact ⟨hwhole.moreFragments, by omega⟩
  · intro h payload port hparse
    obtain ⟨haccepted, hdelivered⟩ := (parseUdpFrame_iff frame.2).mp hparse
    obtain ⟨hmore, htotal⟩ := h haccepted
    have hcounted := haccepted.counted
    have hlen := delivered_length haccepted
    obtain rfl : payload = (delivered frame.val).1 := congrArg Prod.fst hdelivered
    exact
      { ethertype := haccepted.ethertype
        version := haccepted.version
        protocol := haccepted.protocol
        source := haccepted.source
        destination := haccepted.destination
        offset := haccepted.offset
        moreFragments := hmore
        place := by
          rw [hlen]
          rfl
        inside := by
          rw [hlen]
          omega }

/-- A frame of 60 bytes with four bytes behind its UDP header, under an IP header with this total
    length and these flags. -/
def benchUdpFrame (totalLength flags : UInt8) : List UInt8 :=
  List.replicate 12 0 ++
  [0x08, 0x00, 0x45, 0x00, 0x00, totalLength, 0x00, 0x01, flags, 0x00, 64, 17, 0x00, 0x00] ++
  [192, 168, 0, 5, 192, 168, 0, 1] ++
  [0x88, 0x94, 0xC3, 0x50, 0x00, 12, 0x00, 0x00, 0xDE, 0xAD, 0xBE, 0xEF] ++
  List.replicate 14 0

/-- The sender of the example. -/
def benchSrcIp : Bytes 4 := ⟨[192, 168, 0, 5], rfl⟩

/-- The receiver of the example. -/
def benchDstIp : Bytes 4 := ⟨[192, 168, 0, 1], rfl⟩

/-- A first fragment is returned as a datagram; and of a packet of 28 bytes, which has no payload,
    four bytes of the padding behind it are. -/
theorem fragment_and_padding_delivered :
    ¬ DeliversWhole (benchUdpFrame 32 0x20) benchSrcIp benchDstIp
      ∧ ¬ DeliversWhole (benchUdpFrame 28 0x40) benchSrcIp benchDstIp := by
  have hfragment : Accepted (benchUdpFrame 32 0x20) benchSrcIp benchDstIp := by decide
  have hpadding : Accepted (benchUdpFrame 28 0x40) benchSrcIp benchDstIp := by decide
  constructor
  · intro h
    have hwhole := h _ _ ((parseUdpFrame_iff (by decide)).mpr ⟨hfragment, rfl⟩)
    exact absurd hwhole.moreFragments (by decide)
  · intro h
    have hwhole := h _ _ ((parseUdpFrame_iff (by decide)).mpr ⟨hpadding, rfl⟩)
    exact absurd hwhole.inside (by decide)

end Profinet.RawUdp
