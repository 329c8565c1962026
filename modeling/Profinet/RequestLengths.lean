/-
  REQUEST LENGTHS: what the length fields of a write say, and when they are right.

  The data of a write passes four encoders, and each counts what it wraps: the record header and the
  NRD header in 32 bits, the RPC header, the UDP header and the IP header in 16.  All of them cast,
  and nothing on the way refuses a length that does not fit.

      write            body 84 + data      packet 192 + data
      write_multiple   body 148 + blocks   packet 256 + blocks

  So a request is right as long as these sums are below 65536 (`request_lengths_iff`), and from there
  on it is sent all the same, with the length reduced.
-/
import Profinet.RpcSession
import Profinet.UdpFrame
import Profinet.WriteMultiple

namespace Profinet

open Wire Util

/-- What the raw endpoint writes into its frames. -/
structure RawUdp where
  srcMac : Mac
  dstMac : Mac
  srcIp : Bytes 4
  dstIp : Bytes 4
  localPort : UInt16
  ipId : UInt16

end Profinet

namespace Profinet.RawUdp

open Wire Checked Util

/-! ## The endpoint -/

/-- The frame given to the socket, and the endpoint with the next identification. -/
def sendToFrom (u : RawUdp) (build : Build) (payload : List UInt8) (srcPort dstPort : UInt16) :
    Comp (List UInt8) × RawUdp :=
  (buildUdpFrame build u.srcMac u.dstMac u.srcIp u.dstIp srcPort dstPort u.ipId payload,
    { u with ipId := u.ipId + 1 })

/-- `send_to`: the frame, with the next identification. -/
def sendTo (u : RawUdp) (build : Build) (payload : List UInt8) (dstPort : UInt16) :
    Comp (List UInt8) × RawUdp :=
  u.sendToFrom build payload u.localPort dstPort

/-- Without checks a sum is always some number. -/
theorem sumBeWords_release (data : List UInt8) : ∃ sum, sumBeWords .release data = .ok sum := by
  have hfrom (sum : UInt32) : ∃ total, sumBeWordsFrom .release sum data = .ok total := by
    induction data using OnesComplement.wordSum.induct generalizing sum with
    | case1 => exact ⟨sum, rfl⟩
    | case2 last => exact ⟨_, rfl⟩
    | case3 a b rest ih => exact ih _
  exact hfrom 0

/-- Without checks there is always a frame. -/
theorem buildUdpFrame_release (p : UdpPacket) :
    ∃ ipCksum udpCksum,
      buildUdpFrame .release p.srcMac p.dstMac p.srcIp p.dstIp p.srcPort p.dstPort p.ipId p.payload
        = .ok (udpFrame p ipCksum udpCksum) := by
  obtain ⟨ipSum, hip⟩ := sumBeWords_release (ipHeader p 0)
  obtain ⟨srcSum, hsrc⟩ := sumBeWords_release p.srcIp.val
  obtain ⟨dstSum, hdst⟩ := sumBeWords_release p.dstIp.val
  obtain ⟨udpSum, hudp⟩ := sumBeWords_release (udpDatagram p 0)
  have hipCksum : ∃ c, ipv4Checksum .release (ipHeader p 0) = .ok c := by
    unfold ipv4Checksum
    rw [hip, ok_bind, foldChecksum_ok]
    exact ⟨_, rfl⟩
  have hudpCksum : ∃ c, udpChecksum .release p.srcIp p.dstIp (udpDatagram p 0) = .ok c := by
    unfold udpChecksum
    rw [hsrc, ok_bind, hdst, ok_bind, hudp]
    simp only [addU32, ok_bind, foldChecksum_ok]
    exact ⟨_, rfl⟩
  obtain ⟨ipCksum, hipCksum⟩ := hipCksum
  obtain ⟨udpCksum, hudpCksum⟩ := hudpCksum
  refine ⟨ipCksum, udpCksum, ?_⟩
  rw [buildUdpFrame_eq, hipCksum, ok_bind, hudpCksum]
  rfl

/-- Total length and UDP length of a frame count its bytes. -/
def FrameLengthsExact (frame : List UInt8) : Prop :=
  (rdU16 frame 16 false).toNat = (frame.drop 14).length
    ∧ (rdU16 frame 38 false).toNat = (frame.drop 34).length

/-- A 16-bit length is exact below 65536. -/
theorem ofNat_exact_iff {n : Nat} : (UInt16.ofNat n).toNat = n ↔ n < 65536 := by
  rw [UInt16.toNat_ofNat']
  omega

/-- The packet is what has to fit. -/
theorem frameLengths_iff (p : UdpPacket) (ipCksum udpCksum : UInt16) :
    FrameLengthsExact (udpFrame p ipCksum udpCksum) ↔ 28 + p.payload.length < 65536 := by
  obtain ⟨-, hudp, hudpLen, -⟩ := udpFrame_parts p ipCksum udpCksum
  have hip := udpFrame_packet p ipCksum udpCksum
  have htotal : rdU16 (udpFrame p ipCksum udpCksum) 16 false
      = UInt16.ofNat (20 + (8 + p.payload.length)) := by
    have hread := rdU16_drop (udpFrame p ipCksum udpCksum) 14 2 false
    rw [hip] at hread
    rw [← hread]
    exact rdU16_be rfl
  unfold FrameLengthsExact
  rw [htotal, hudpLen, hip, hudp, List.length_append, ipHeader_length, udpDatagram_length,
    ofNat_exact_iff, ofNat_exact_iff]
  omega

end Profinet.RawUdp

namespace Profinet.Transport

open Wire Util RpcTransport Checked Blocks RawUdp

/-! ## Requests -/

/-- The RPC header of a datagram counts its body. -/
def BodyLengthExact (datagram : List UInt8) : Prop :=
  ∃ hdr, parseRpcHeader datagram = some hdr ∧ hdr.lengthOfBody.toNat = hdr.payload.length

theorem bodyLength_iff (objectUuid ifaceUuid activityUuid : Uuid) (seq : UInt32)
    (operation : UInt16) (body : List UInt8) :
    BodyLengthExact (Rpc.rpcRequest objectUuid ifaceUuid activityUuid seq operation body)
      ↔ body.length < 65536 := by
  unfold BodyLengthExact
  rw [parseRpcHeader_rpcRequest]
  constructor
  · rintro ⟨hdr, hhdr, hexact⟩
    obtain rfl := Option.some.inj hhdr
    exact ofNat_exact_iff.mp hexact
  · intro hfits
    exact ⟨_, rfl, ofNat_exact_iff.mpr hfits⟩

theorem rpcRequest_length (objectUuid ifaceUuid activityUuid : Uuid) (seq : UInt32)
    (operation : UInt16) (body : List UInt8) :
    (Rpc.rpcRequest objectUuid ifaceUuid activityUuid seq operation body).length
      = 80 + body.length := by
  rw [rpcRequest_eq, rpcBytes_length]
  rfl

/-- The body of a record operation. -/
theorem nrd_iodWriteRequest_length (arUuid : Uuid) (api : UInt32) (slot subslot index : UInt16)
    (payload : List UInt8) :
    (Rpc.nrd (iodWriteRequest arUuid api slot subslot index payload)).length
      = 84 + payload.length := by
  rw [nrd_eq, nrdBytes_length]
  show 20 + (iodWriteRequest arUuid api slot subslot index payload).length = _
  rw [iodWriteRequest, pniodHeader_length]
  omega

section Sent

variable {T : Type} [RpcTransport T]

/-- The datagrams given to the network between two states of a connection. -/
def newlySent (before after : RpcConn T) : List (List UInt8) :=
  (sent after.transport).drop (sent before.transport).length

/-- Their RPC headers are right. -/
def BodyLengthsExact (before after : RpcConn T) : Prop :=
  ∀ req ∈ newlySent before after, BodyLengthExact req

/-- On the raw endpoint, so are the headers of the frames they become. -/
def RawLengthsExact (u : RawUdp) (before after : RpcConn T) : Prop :=
  ∀ req ∈ newlySent before after, ∀ frame, (u.sendTo .release req 34964).1 = .ok frame →
    BodyLengthExact req ∧ FrameLengthsExact frame

/-- Behind a request the connection is the same, whatever the answer. -/
theorem call_asked {α : Type} (c : RpcConn T) (build : UInt32 → List UInt8)
    (look : ParsedRpc → Except String α) :
    (c.call build fun resp c => (look resp, c)).2 = c.asked (build c.sequenceNumber) := by
  rw [RpcConn.call_eq]
  cases (exchange c.transport (build c.sequenceNumber)).1 with
  | error e => rfl
  | ok resp => rfl

/-- An operation that asks sends one request. -/
theorem newlySent_call {α : Type} (c : RpcConn T) (opnum : UInt16) (body : List UInt8)
    (look : ParsedRpc → Except String α) :
    newlySent c (c.call (fun seq =>
        Rpc.rpcRequest c.objectUuid Rpc.ifaceUuidDevice c.activityUuid seq opnum body)
      fun resp c => (look resp, c)).2
      = [c.request opnum body] := by
  have hsent := (exchange_spec (t := c.transport) (c.parse_request opnum body)).1
  rw [call_asked]
  show (sent (exchange c.transport (c.request opnum body)).2).drop (sent c.transport).length = _
  rw [hsent, List.drop_left]

/-- One request: its body has to fit, and on the raw endpoint the packet around it. -/
theorem lengths_of_one {c c' : RpcConn T} {opnum : UInt16} {body : List UInt8} (u : RawUdp)
    (h : newlySent c c' = [c.request opnum body]) :
    (BodyLengthsExact c c' ↔ body.length < 65536)
      ∧ (RawLengthsExact u c c' ↔ 108 + body.length < 65536) := by
  have hbody : BodyLengthExact (c.request opnum body) ↔ body.length < 65536 := bodyLength_iff ..
  have hlen : (c.request opnum body).length = 80 + body.length := rpcRequest_length ..
  obtain ⟨ipCksum, udpCksum, hframe⟩ := buildUdpFrame_release
    ⟨u.srcMac, u.dstMac, u.srcIp, u.dstIp, u.localPort, 34964, u.ipId, c.request opnum body⟩
  have hlengths := frameLengths_iff
    ⟨u.srcMac, u.dstMac, u.srcIp, u.dstIp, u.localPort, 34964, u.ipId, c.request opnum body⟩
    ipCksum udpCksum
  dsimp only at hlengths
  rw [hlen] at hlengths
  unfold BodyLengthsExact RawLengthsExact
  rw [h]
  simp only [List.mem_singleton, forall_eq]
  refine ⟨hbody, ?_⟩
  constructor
  · intro hall
    have hexact := hlengths.mp (hall _ hframe).2
    omega
  · intro hfits frame hsent
    obtain rfl := Except.ok.inj (hframe.symm.trans hsent)
    exact ⟨hbody.mpr (by omega), hlengths.mpr (by omega)⟩

theorem lengths_of_write (c : RpcConn T) (u : RawUdp) (idx slot subslot : UInt16)
    (data : List UInt8) :
    (BodyLengthsExact c (c.write idx slot subslot data).2 ↔ 84 + data.length < 65536)
      ∧ (RawLengthsExact u c (c.write idx slot subslot data).2 ↔ 192 + data.length < 65536) := by
  obtain ⟨hbody, hraw⟩ := lengths_of_one u (newlySent_call c Rpc.write
    (Rpc.nrd (iodWriteRequest c.arUuid 0 slot subslot idx data))
    fun resp => (parseStatusResponse resp.payload resp.isLittleEndian).map fun _ => ())
  rw [nrd_iodWriteRequest_length] at hbody hraw
  refine ⟨hbody, hraw.trans ?_⟩
  omega

/-- The records of a multiple write, as the connection passes them on. -/
def entriesOf (writes : List (UInt16 × UInt16 × UInt16 × List UInt8)) : List MultiWrite :=
  writes.map fun (idx, slot, subslot, data) => ⟨0, slot, subslot, idx, data⟩

/-- Nothing is sent for no writes. -/
theorem lengths_of_writeMultiple (c : RpcConn T) (u : RawUdp)
    (writes : List (UInt16 × UInt16 × UInt16 × List UInt8)) :
    (BodyLengthsExact c (c.writeMultiple writes).2
        ↔ writes = [] ∨ 148 + blocksLength (entriesOf writes) < 65536)
      ∧ (RawLengthsExact u c (c.writeMultiple writes).2
        ↔ writes = [] ∨ 256 + blocksLength (entriesOf writes) < 65536) := by
  cases writes with
  | nil =>
    have hnothing : newlySent c (c.writeMultiple []).2 = [] := List.drop_length
    unfold BodyLengthsExact RawLengthsExact
    rw [hnothing]
    simp
  | cons w writes =>
    obtain ⟨hbody, hraw⟩ := lengths_of_one u (newlySent_call c Rpc.write
      (Rpc.nrd (iodWriteRequest c.arUuid 0xFFFFFFFF 0xFFFF 0xFFFF iodWriteMultipleIndex
        (iodWriteMultiplePayload c.arUuid 0 (entriesOf (w :: writes)))))
      fun resp => (parseStatusResponse resp.payload resp.isLittleEndian).map
        parseWriteMultipleResponse)
    rw [nrd_iodWriteRequest_length, iodWriteMultiplePayload_length] at hbody hraw
    have hsome : w :: writes ≠ [] := List.cons_ne_nil w writes
    refine ⟨hbody.trans ?_, hraw.trans ?_⟩
    · simp only [hsome, false_or]
      omega
    · simp only [hsome, false_or]
      omega

/-- **When the lengths of a request are exact**: its body fits 16 bits, and on the raw endpoint the
    packet around it does. -/
theorem request_lengths_iff (c : RpcConn T) (u : RawUdp) :
    (∀ idx slot subslot data,
      (BodyLengthsExact c (c.write idx slot subslot data).2 ↔ 84 + data.length < 65536)
      ∧ (RawLengthsExact u c (c.write idx slot subslot data).2 ↔ 192 + data.length < 65536))
    ∧ ∀ writes,
      (BodyLengthsExact c (c.writeMultiple writes).2
        ↔ writes = [] ∨ 148 + blocksLength (entriesOf writes) < 65536)
      ∧ (RawLengthsExact u c (c.writeMultiple writes).2
        ↔ writes = [] ∨ 256 + blocksLength (entriesOf writes) < 65536) :=
  ⟨fun _ _ _ _ => lengths_of_write c u .., fun _ => lengths_of_writeMultiple c u _⟩

end Sent

/-- An endpoint of the bench. -/
def benchRawUdp : RawUdp where
  srcMac := ⟨[2, 0, 0, 0, 0, 0x21], rfl⟩
  dstMac := ⟨[2, 0, 0, 0, 0, 0x22], rfl⟩
  srcIp := benchSrcIp
  dstIp := benchDstIp
  localPort := 50000
  ipId := 0

/-- 65452 bytes are sent under a body length of 0, and 65344 in a packet of total length 0. -/
theorem oversized_write_sent :
    ¬ BodyLengthsExact benchConn (benchConn.write 0x1234 1 1 (List.replicate 65452 0)).2
      ∧ ¬ RawLengthsExact benchRawUdp benchConn
        (benchConn.write 0x1234 1 1 (List.replicate 65344 0)).2 := by
  constructor
  · rw [(lengths_of_write benchConn benchRawUdp ..).1, List.length_replicate]
    decide
  · rw [(lengths_of_write benchConn benchRawUdp ..).2, List.length_replicate]
    decide

end Profinet.Transport
