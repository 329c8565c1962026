/-
  RAW PORT: the datagram port of a connection, over a capture of frames.

  `RawL2Transport` takes datagrams off a list.  Where they come from is a capture on the interface:
  the endpoint wraps what it sends into frames, and skips every frame of the segment that is not a
  datagram from its peer.  A call of the port is a call of the endpoint; one call may take several
  frames.

      recv_from        the next datagram from the peer, or the deadline
      datagrams        what the capture holds for it
      call, Port.call  a call of the port, over frames and over datagrams

  Every call over frames comes back as the one over datagrams does (`call_refines`), so a run does
  (`raw_port_refines`); and what the peer sent arrives, in order and once (`peer_heard`).
-/
import Profinet.Address
import Profinet.Lib.Await
import Profinet.Lib.Machine
import Profinet.RequestLengths

namespace Profinet.RawUdp

open Wire Checked Util Await Transport

/-! ## The endpoint with its socket

  A socket with the frames it will deliver and those it was given; sending may fail, receiving may
  time out. -/

/-- A capture (`RawSocket`): what its receive calls will come back with, which of its send calls
    fail, and the frames it was given. -/
structure RawSocket where
  captured : List (Receipt Slice String)
  failures : List (Option String)
  frames : List (List UInt8)

/-- The frame is on the wire, unless the socket fails. -/
def RawSocket.send (s : RawSocket) (frame : List UInt8) : Except String Unit × RawSocket :=
  ((sendResult s.failures).mapError ("pcap sendpacket failed: " ++ ·),
    { s with frames := s.frames ++ [frame], failures := s.failures.tail })

/-- The loop of `recv_from`.  The window ends in the socket or between two frames, which is the same
    here, and so does it when nothing is left. -/
def recvLoop (srcIp dstIp : Bytes 4) :
    List (Receipt Slice String) → Comp (Incoming UInt16 × List (Receipt Slice String))
  | [] => return (.ok none, [])
  | .expired :: rest => return (.ok none, rest)
  | .failed e :: rest => return (.error ("pcap next_packet failed: " ++ e), rest)
  | .item frame :: rest => do
    match ← parseUdpFrame frame.val srcIp dstIp with
    | some hit => return (.ok (some hit), rest)
    | none => recvLoop srcIp dstIp rest

/-- A point-to-point UDP endpoint over raw L2: `RawUdp` with its socket. -/
structure Endpoint where
  udp : RawUdp
  sock : RawSocket

namespace Endpoint

/-- `send_to_from`: one datagram from a given port. -/
def sendToFrom (e : Endpoint) (build : Build) (payload : List UInt8) (srcPort dstPort : UInt16) :
    Comp (Except String Unit × Endpoint) := do
  let (frame, udp) := e.udp.sendToFrom build payload srcPort dstPort
  let (result, sock) := e.sock.send (← frame)
  return (result, ⟨udp, sock⟩)

/-- `send_to`: one datagram from the endpoint's own port. -/
def sendTo (e : Endpoint) (build : Build) (payload : List UInt8) (dstPort : UInt16) :
    Comp (Except String Unit × Endpoint) :=
  e.sendToFrom build payload e.udp.localPort dstPort

/-- The next datagram from the peer and its source port. -/
def recvFrom (e : Endpoint) : Comp (Incoming UInt16 × Endpoint) := do
  let (incoming, captured) ← recvLoop e.udp.dstIp e.udp.srcIp e.sock.captured
  return (incoming, { e with sock.captured := captured })

end Endpoint

/-! ## What is received

  The datagrams of a capture: what `parseUdpFrame` makes of each frame, without those that are for
  others. -/

/-- What the receive calls over datagrams come back with, when these do over frames. -/
def datagrams (srcIp dstIp : Bytes 4) : List (Receipt Slice String) → List (Incoming UInt16)
  | [] => []
  | .expired :: rest => .ok none :: datagrams srcIp dstIp rest
  | .failed e :: rest =>
    .error ("pcap next_packet failed: " ++ e) :: datagrams srcIp dstIp rest
  | .item frame :: rest =>
    match parseUdpFrame frame.val srcIp dstIp with
    | .ok (some hit) => .ok (some hit) :: datagrams srcIp dstIp rest
    | _ => datagrams srcIp dstIp rest

section

variable {srcIp dstIp : Bytes 4} {frame : Slice} {rest captured : List (Receipt Slice String)}

/-- A frame that carries a datagram is delivered. -/
theorem datagrams_hit {hit : List UInt8 × UInt16}
    (h : parseUdpFrame frame.val srcIp dstIp = .ok (some hit)) :
    datagrams srcIp dstIp (.item frame :: rest) = .ok (some hit) :: datagrams srcIp dstIp rest := by
  rw [datagrams, h]

/-- A foreign frame is passed over. -/
theorem datagrams_foreign (h : parseUdpFrame frame.val srcIp dstIp = .ok none) :
    datagrams srcIp dstIp (.item frame :: rest) = datagrams srcIp dstIp rest := by
  rw [datagrams, h]

/-- The datagrams of two captures, one after the other. -/
theorem datagrams_append (a b : List (Receipt Slice String)) :
    datagrams srcIp dstIp (a ++ b) = datagrams srcIp dstIp a ++ datagrams srcIp dstIp b := by
  induction a with
  | nil => rfl
  | cons r a ih =>
    cases r with
    | expired => exact congrArg (_ :: ·) ih
    | failed e => exact congrArg (_ :: ·) ih
    | item frame =>
      obtain ⟨found, hfound, -⟩ := parseUdpFrame_safe frame.2 srcIp dstIp
      cases found with
      | none =>
        rw [List.cons_append, datagrams_foreign hfound, datagrams_foreign hfound]
        exact ih
      | some hit =>
        rw [List.cons_append, datagrams_hit hfound, datagrams_hit hfound, ih]
        rfl

/-- One receive call takes the first of the datagrams, and all frames before it. -/
theorem recvLoop_eq (captured : List (Receipt Slice String)) :
    ∃ rest, recvLoop srcIp dstIp captured
        = .ok ((datagrams srcIp dstIp captured).head?.getD (.ok none), rest) ∧
      datagrams srcIp dstIp rest = (datagrams srcIp dstIp captured).drop 1 := by
  induction captured with
  | nil => exact ⟨[], rfl, rfl⟩
  | cons r captured ih =>
    cases r with
    | expired => exact ⟨captured, rfl, rfl⟩
    | failed e => exact ⟨captured, rfl, rfl⟩
    | item frame =>
      obtain ⟨found, hfound, -⟩ := parseUdpFrame_safe frame.2 srcIp dstIp
      cases found with
      | some hit =>
        refine ⟨captured, ?_, ?_⟩
        · rw [recvLoop, hfound, datagrams_hit hfound]
          rfl
        · rw [datagrams_hit hfound]
          rfl
      | none =>
        rw [recvLoop, hfound, datagrams_foreign hfound]
        exact ih

end

/-- A receive delivers the first datagram of the capture. -/
theorem Endpoint.recvFrom_eq (e : Endpoint) :
    ∃ rest, e.recvFrom
        = .ok ((datagrams e.udp.dstIp e.udp.srcIp e.sock.captured).head?.getD (.ok none),
          { e with sock.captured := rest }) ∧
      datagrams e.udp.dstIp e.udp.srcIp rest
        = (datagrams e.udp.dstIp e.udp.srcIp e.sock.captured).drop 1 := by
  obtain ⟨rest, hrecv, hrest⟩ := @recvLoop_eq e.udp.dstIp e.udp.srcIp e.sock.captured
  refine ⟨rest, ?_, hrest⟩
  rw [Endpoint.recvFrom, hrecv]
  rfl

/-! ## What is sent

  A datagram that fits is sent as one frame, and the frame carries it. -/

/-- The frame that carries a packet. -/
def UdpPacket.frame (p : UdpPacket) : List UInt8 := udpFrame p (ipCksumOf p) (udpCksumOf p)

/-- What the endpoint makes of a payload. -/
def packet (u : RawUdp) (srcPort dstPort : UInt16) (payload : List UInt8) : UdpPacket :=
  ⟨u.srcMac, u.dstMac, u.srcIp, u.dstIp, srcPort, dstPort, u.ipId, payload⟩

/-- A payload that fits goes into one frame, and the next identification is taken. -/
theorem Endpoint.sendToFrom_eq (e : Endpoint) (build : Build) {payload : List UInt8}
    (hfits : 28 + payload.length ≤ 0xFFFF) (srcPort dstPort : UInt16) :
    e.sendToFrom build payload srcPort dstPort
      = .ok ((e.sock.send (e.udp.packet srcPort dstPort payload).frame).1,
        ⟨{ e.udp with ipId := e.udp.ipId + 1 },
          (e.sock.send (e.udp.packet srcPort dstPort payload).frame).2⟩) := by
  have hframe := buildUdpFrame_ok (e.udp.packet srcPort dstPort payload) build hfits
  show (buildUdpFrame build e.udp.srcMac e.udp.dstMac e.udp.srcIp e.udp.dstIp srcPort dstPort
    e.udp.ipId payload >>= _) = _
  rw [show buildUdpFrame build e.udp.srcMac e.udp.dstMac e.udp.srcIp e.udp.dstIp srcPort dstPort
    e.udp.ipId payload = .ok (e.udp.packet srcPort dstPort payload).frame from hframe]
  rfl

/-- What a device reads in a frame: who sends it, to which port, under which identification, and
    the payload. -/
structure Carries (frame : List UInt8) (p : UdpPacket) : Prop where
  parsed : parseUdpFrame frame p.srcIp p.dstIp = .ok (some (p.payload, p.srcPort))
  dstPort : rdU16 frame 36 false = p.dstPort
  ipId : rdU16 frame 18 false = p.ipId

/-- The frame of a packet that fits carries it. -/
theorem frame_carries {p : UdpPacket} (hfits : 28 + p.payload.length ≤ 0xFFFF) :
    Carries p.frame p := by
  have hwhole : p.frame = udpFrame p (ipCksumOf p) (udpCksumOf p) ++ [] :=
    (List.append_nil _).symm
  have h14 : p.frame.drop 14 = _ := drop_field (received_ethertype hwhole) rfl
  have h34 : p.frame.drop 34 = _ := drop_field h14 (ipHeader_length ..)
  refine ⟨?_, ?_, ?_⟩
  · have hlen := received_length hwhole
    have hparsed := @parseUdpFrame_built p (ipCksumOf p) (udpCksumOf p) hfits [] []
    rw [← hwhole] at hparsed
    have huntagged : tagged [] p.frame = p.frame := List.take_append_drop 12 p.frame
    rw [huntagged] at hparsed
    refine hparsed ?_
    rw [hlen]
    show 42 + p.payload.length + 0 < 2 ^ 63
    omega
  · simp only [udpDatagram, List.append_assoc] at h34
    have h36 : p.frame.drop 36 = _ := drop_field h34 rfl
    exact rdU16_be h36
  · simp only [ipHeader, List.cons_append, List.append_assoc] at h14
    have h16 := congrArg (List.drop 2) h14
    simp only [List.drop_drop, List.drop_succ_cons, List.drop_zero] at h16
    have h18 : p.frame.drop 18 = _ := drop_field h16 rfl
    exact rdU16_be h18

end Profinet.RawUdp

namespace Profinet.Transport

open Wire Checked Util Await RpcTransport RawUdp

/-! ## The port

  The calls of the port, over a transport of frames and over a transport of datagrams; `Refines`
  relates the two. -/

/-- What a port is asked, and what happens to it in between. -/
inductive PortCall (A : Type) where
  | sendRequest (data : List UInt8)
  | recvResponse
  | recvCcontrol
  | replyCcontrol (data : List UInt8)
  | arrive (a : A)

/-- What a call comes back with. -/
inductive PortResult where
  | sent (r : Except String Unit)
  | received (r : Received)
  | arrived

/-- A call of a port, over datagrams. -/
def Port.call {T : Type} [RpcTransport T] (t : T) : PortCall (Arrival T) → PortResult × T
  | .sendRequest data =>
    let (r, t) := RpcTransport.sendRequest t data
    (.sent r, t)
  | .recvResponse => (.received ((responses t).head?.getD (.ok none)), afterResponses 1 t)
  | .recvCcontrol => (.received ((ccontrols t).head?.getD (.ok none)), afterCcontrols 1 t)
  | .replyCcontrol data =>
    let (r, t) := RpcTransport.replyCcontrol t data
    (.sent r, t)
  | .arrive a => (.arrived, RpcTransport.arrive a t)

/-- `RPC_PORT`. -/
def rpcPort : UInt16 := 34964

/-- `RawL2Transport` with the endpoint it is made of. -/
structure RawPort where
  raw : Endpoint
  ccontrolSrc : Option UInt16

namespace RawPort

/-- A call of the port, over frames. -/
def call (build : Build) (p : RawPort) :
    PortCall (List (Receipt Slice String)) → Comp (PortResult × RawPort)
  | .sendRequest data => do
    let (r, raw) ← p.raw.sendTo build data rpcPort
    return (.sent r, { p with raw })
  | .recvResponse => do
    let (incoming, raw) ← p.raw.recvFrom
    return (.received incoming.received, { p with raw })
  | .recvCcontrol => do
    match ← p.raw.recvFrom with
    | (.ok (some (payload, srcPort)), raw) =>
      return (.received (.ok (some payload)), ⟨raw, some srcPort⟩)
    | (.ok none, raw) => return (.received (.ok none), { p with raw })
    | (.error e, raw) => return (.received (.error e), { p with raw })
  | .replyCcontrol data => do
    match p.ccontrolSrc with
    | none => return (.sent (.error "No CControl received to reply to"), p)
    | some srcPort =>
      let (r, raw) ← p.raw.sendToFrom build data rpcPort srcPort
      return (.sent r, { p with raw })
  | .arrive captured =>
    return (.arrived, { p with raw.sock.captured := p.raw.sock.captured ++ captured })

end RawPort

/-! ## One call

  Each call in turn.  Sending takes the next identification; receiving skips what the other port
  never sees. -/

/-- What a port sends: a request to the device's RPC port, or the confirmation of a CControl to the
    port it came from. -/
inductive Post where
  | request (data : List UInt8)
  | confirmation (dstPort : UInt16) (data : List UInt8)

namespace Post

/-- The packet of a post: requests go to the RPC port, confirmations come from it. -/
def packet (u : RawUdp) : Post → UdpPacket
  | request data => u.packet u.localPort rpcPort data
  | confirmation dstPort data => u.packet rpcPort dstPort data

/-- The payload of a post. -/
def payload : Post → List UInt8
  | request data => data
  | confirmation _ data => data

/-- The payload of a request. -/
def requested : Post → Option (List UInt8)
  | request data => some data
  | confirmation .. => none

/-- The port a confirmation goes to, and its payload. -/
def confirmed : Post → Option (UInt16 × List UInt8)
  | request _ => none
  | confirmation dstPort data => some (dstPort, data)

/-- The packets of posts that begin at this endpoint. -/
def packets (u : RawUdp) (posts : List Post) : List UdpPacket :=
  posts.mapIdx fun i post => post.packet { u with ipId := u.ipId + UInt16.ofNat i }

/-- Each packet takes the next identification. -/
theorem packets_concat (u : RawUdp) (posts : List Post) (post : Post) :
    packets u (posts ++ [post]) =
      packets u posts ++ [post.packet { u with ipId := u.ipId + UInt16.ofNat posts.length }] :=
  List.mapIdx_concat

end Post

/-- The port over datagrams, with its records empty. -/
def RawPort.transport (p : RawPort) : RawL2Transport where
  raw := datagrams p.raw.udp.dstIp p.raw.udp.srcIp p.raw.sock.captured
  ccontrolSrc := p.ccontrolSrc
  peer := (s2ip p.raw.udp.dstIp.val).toOption.getD "device"
  failures := p.raw.sock.failures.map (Option.map ("pcap sendpacket failed: " ++ ·))
  sent := []
  replied := []

/-- The same call, over datagrams. -/
def PortCall.datagrams (u : RawUdp) :
    PortCall (List (Receipt Slice String)) → PortCall (Arrival RawL2Transport)
  | .sendRequest data => .sendRequest data
  | .recvResponse => .recvResponse
  | .recvCcontrol => .recvCcontrol
  | .replyCcontrol data => .replyCcontrol data
  | .arrive captured => .arrive (RawUdp.datagrams u.dstIp u.srcIp captured)

/-- What is sent fits into one datagram. -/
def PortCall.Fits {A : Type} : PortCall A → Prop
  | .sendRequest data => 28 + data.length ≤ 0xFFFF
  | .replyCcontrol data => 28 + data.length ≤ 0xFFFF
  | _ => True

instance {A : Type} : (c : PortCall A) → Decidable c.Fits
  | .sendRequest data => inferInstanceAs (Decidable (28 + data.length ≤ 0xFFFF))
  | .replyCcontrol data => inferInstanceAs (Decidable (28 + data.length ≤ 0xFFFF))
  | .recvResponse => inferInstanceAs (Decidable True)
  | .recvCcontrol => inferInstanceAs (Decidable True)
  | .arrive _ => inferInstanceAs (Decidable True)

/-- The port over frames stands where the one over datagrams does, with these frames since. -/
structure Refines (p₀ p : RawPort) (t : RawL2Transport) (posts : List Post) : Prop where
  udp : p.raw.udp = { p₀.raw.udp with ipId := p₀.raw.udp.ipId + UInt16.ofNat posts.length }
  raw : t.raw = datagrams p₀.raw.udp.dstIp p₀.raw.udp.srcIp p.raw.sock.captured
  ccontrolSrc : t.ccontrolSrc = p.ccontrolSrc
  failures : t.failures = p.raw.sock.failures.map (Option.map ("pcap sendpacket failed: " ++ ·))
  frames : p.raw.sock.frames =
    p₀.raw.sock.frames ++ (Post.packets p₀.raw.udp posts).map UdpPacket.frame
  fits : ∀ post ∈ posts, 28 + post.payload.length ≤ 0xFFFF
  sent : t.sent = posts.filterMap Post.requested
  replied : t.replied = posts.filterMap Post.confirmed

/-- At the beginning nothing is posted. -/
theorem refines_start (p : RawPort) : Refines p p p.transport [] where
  udp := by
    show p.raw.udp = { p.raw.udp with ipId := p.raw.udp.ipId + 0 }
    rw [UInt16.add_zero]
  raw := rfl
  ccontrolSrc := rfl
  failures := rfl
  frames := (List.append_nil _).symm
  fits := nofun
  sent := rfl
  replied := rfl

/-- A send call over datagrams fails as that of the socket does. -/
theorem send_result (s : RawSocket) (frame : List UInt8) :
    sendResult (s.failures.map (Option.map ("pcap sendpacket failed: " ++ ·)))
      = (s.send frame).1 := by
  unfold RawSocket.send sendResult
  cases s.failures with
  | nil => rfl
  | cons f failures => cases f <;> rfl

section

variable {p₀ p : RawPort} {t : RawL2Transport} {posts : List Post}

/-- One more frame. -/
theorem Refines.post (h : Refines p₀ p t posts) (post : Post)
    (hfits : 28 + post.payload.length ≤ 0xFFFF) {t' : RawL2Transport}
    (hraw : t'.raw = t.raw) (hsrc : t'.ccontrolSrc = t.ccontrolSrc)
    (hfailures : t'.failures = t.failures.tail)
    (hsent : t'.sent = t.sent ++ [post].filterMap Post.requested)
    (hreplied : t'.replied = t.replied ++ [post].filterMap Post.confirmed) :
    Refines p₀ { p with raw := ⟨{ p.raw.udp with ipId := p.raw.udp.ipId + 1 },
      (p.raw.sock.send (post.packet p.raw.udp).frame).2⟩ } t' (posts ++ [post]) where
  -- one more frame with the next identification; everything else as it was
  udp := by
    show { p.raw.udp with ipId := p.raw.udp.ipId + 1 } = _
    rw [h.udp, List.length_append, UInt16.ofNat_add]
    simp only [List.length_singleton, UInt16.add_assoc]
    rfl
  raw := hraw.trans h.raw
  ccontrolSrc := hsrc.trans h.ccontrolSrc
  failures := by
    rw [hfailures, h.failures, ← List.map_tail]
    rfl
  frames := by
    show p.raw.sock.frames ++ [(post.packet p.raw.udp).frame] = _
    rw [h.frames, h.udp, Post.packets_concat, List.map_append, List.append_assoc]
    rfl
  fits := by
    intro post' hpost'
    rcases List.mem_append.mp hpost' with hpost' | hpost'
    · exact h.fits post' hpost'
    · rw [List.mem_singleton.mp hpost']
      exact hfits
  sent := by rw [hsent, h.sent, List.filterMap_append]
  replied := by rw [hreplied, h.replied, List.filterMap_append]

/-- A send call over frames comes back as the one over datagrams does. -/
theorem Refines.sends (h : Refines p₀ p t posts) (build : Build) {data : List UInt8}
    (hfits : 28 + data.length ≤ 0xFFFF) (srcPort dstPort : UInt16) :
    p.raw.sendToFrom build data srcPort dstPort = .ok (sendResult t.failures,
      ⟨{ p.raw.udp with ipId := p.raw.udp.ipId + 1 },
        (p.raw.sock.send (p.raw.udp.packet srcPort dstPort data).frame).2⟩) := by
  rw [h.failures, send_result p.raw.sock (p.raw.udp.packet srcPort dstPort data).frame]
  exact p.raw.sendToFrom_eq build hfits srcPort dstPort

/-- A receive call takes the first datagram, whatever the port makes of its source. -/
theorem Refines.receives (h : Refines p₀ p t posts) :
    ∃ rest, p.raw.recvFrom
        = .ok (t.raw.head?.getD (.ok none), { p.raw with sock.captured := rest }) ∧
      ∀ src, Refines p₀ ⟨{ p.raw with sock.captured := rest }, src⟩
        { t with raw := t.raw.drop 1, ccontrolSrc := src } posts := by
  obtain ⟨rest, hrecv, hrest⟩ := p.raw.recvFrom_eq
  have hraw : datagrams p.raw.udp.dstIp p.raw.udp.srcIp p.raw.sock.captured = t.raw := by
    rw [h.raw, h.udp]
  rw [hraw] at hrecv hrest
  refine ⟨rest, hrecv, fun src => ?_⟩
  exact
    { udp := h.udp
      raw := by
        rw [h.udp] at hrest
        exact hrest.symm
      ccontrolSrc := rfl
      failures := h.failures
      frames := h.frames
      fits := h.fits
      sent := h.sent
      replied := h.replied }

/-- More frames in the capture are more datagrams for the port. -/
theorem Refines.arrives (h : Refines p₀ p t posts) (captured : List (Receipt Slice String)) :
    Refines p₀ { p with raw.sock.captured := p.raw.sock.captured ++ captured }
      { t with raw := t.raw ++ datagrams p₀.raw.udp.dstIp p₀.raw.udp.srcIp captured } posts where
  udp := h.udp
  raw := by
    show t.raw ++ _ = _
    rw [h.raw, ← datagrams_append]
  ccontrolSrc := h.ccontrolSrc
  failures := h.failures
  frames := h.frames
  fits := h.fits
  sent := h.sent
  replied := h.replied

/-- No CControl has come, so a reply is refused. -/
theorem reply_none (h : t.ccontrolSrc = none) (data : List UInt8) :
    Port.call t (.replyCcontrol data)
      = (.sent (.error "No CControl received to reply to"), t) := by
  show (let (r, t) := RawL2Transport.replyCcontrol t data; (PortResult.sent r, t)) = _
  rw [RawL2Transport.replyCcontrol, h]

/-- A reply goes to the port the CControl came from. -/
theorem reply_some {srcPort : UInt16} (h : t.ccontrolSrc = some srcPort) (data : List UInt8) :
    Port.call t (.replyCcontrol data)
      = (.sent (sendResult t.failures), { t with
          replied := t.replied ++ [(srcPort, data)], failures := t.failures.tail }) := by
  show (let (r, t) := RawL2Transport.replyCcontrol t data; (PortResult.sent r, t)) = _
  rw [RawL2Transport.replyCcontrol, h]

/-- A confirmation goes to where the last CControl came from, if there was one. -/
theorem reply_refines (build : Build) (h : Refines p₀ p t posts) {data : List UInt8}
    (hfits : 28 + data.length ≤ 0xFFFF) :
    ∃ p', p.call build (.replyCcontrol data) = .ok ((Port.call t (.replyCcontrol data)).1, p') ∧
      ∃ posts', Refines p₀ p' (Port.call t (.replyCcontrol data)).2 posts' := by
  cases hsrc : p.ccontrolSrc with
  | none =>
    rw [reply_none (h.ccontrolSrc.trans hsrc)]
    refine ⟨p, ?_, posts, h⟩
    rw [RawPort.call, hsrc]
    rfl
  | some srcPort =>
    rw [reply_some (h.ccontrolSrc.trans hsrc)]
    have hpost := @Refines.post _ _ _ _ h (.confirmation srcPort data) hfits
      { t with replied := t.replied ++ [(srcPort, data)], failures := t.failures.tail }
      rfl rfl rfl (List.append_nil _).symm rfl
    refine ⟨_, ?_, _, hpost⟩
    rw [RawPort.call, hsrc]
    show (p.raw.sendToFrom build data rpcPort srcPort >>= _) = _
    rw [h.sends build hfits, ok_bind]
    rfl

/-- A call over frames comes back as the call over datagrams does. -/
theorem call_refines (build : Build) (h : Refines p₀ p t posts)
    (c : PortCall (List (Receipt Slice String))) (hfits : c.Fits) :
    ∃ p', p.call build c = .ok ((Port.call t (c.datagrams p₀.raw.udp)).1, p') ∧
      ∃ posts', Refines p₀ p' (Port.call t (c.datagrams p₀.raw.udp)).2 posts' := by
  -- sending is one more post, receiving takes a frame of the capture
  cases c with
  | sendRequest data =>
    have hpost := @Refines.post _ _ _ _ h (.request data) hfits
      (Port.call t (.sendRequest data)).2 rfl rfl rfl rfl (List.append_nil _).symm
    refine ⟨_, ?_, _, hpost⟩
    show (p.raw.sendToFrom build data p.raw.udp.localPort rpcPort >>= _) = _
    rw [h.sends build hfits, ok_bind]
    rfl
  | recvResponse =>
    obtain ⟨rest, hrecv, hnext⟩ := h.receives
    refine ⟨_, ?_, posts, hnext t.ccontrolSrc⟩
    show (p.raw.recvFrom >>= _) = _
    rw [hrecv, ok_bind, h.ccontrolSrc]
    show Except.ok (PortResult.received (t.raw.head?.getD (.ok none)).received, _) =
      .ok (PortResult.received ((t.raw.map Incoming.received).head?.getD (.ok none)), _)
    cases t.raw <;> rfl
  | recvCcontrol =>
    obtain ⟨rest, hrecv, hnext⟩ := h.receives
    refine ⟨_, ?_, posts, hnext (lastSource t.ccontrolSrc (t.raw.take 1))⟩
    show (p.raw.recvFrom >>= _) = _
    rw [hrecv, ok_bind, h.ccontrolSrc]
    show _ = Except.ok (PortResult.received ((t.raw.map Incoming.received).head?.getD (.ok none)), _)
    cases t.raw with
    | nil => rfl
    | cons i raw =>
      match i with
      | .ok (some (payload, srcPort)) => rfl
      | .ok none => rfl
      | .error e => rfl
  | replyCcontrol data => exact reply_refines build h hfits
  | arrive captured => exact ⟨_, rfl, posts, h.arrives captured⟩

end

/-! ## Whole runs

  The library's rule for machines: a simulation of one call is one of a run. -/

/-- A packet of posts has the addresses of the endpoint and the payload of a post. -/
theorem mem_packets {u : RawUdp} {posts : List Post} {p : UdpPacket}
    (h : p ∈ Post.packets u posts) :
    p.srcIp = u.srcIp ∧ p.dstIp = u.dstIp ∧ ∃ post ∈ posts, p.payload = post.payload := by
  obtain ⟨i, hi, rfl⟩ := List.mem_mapIdx.mp h
  have hmem := List.getElem_mem hi
  cases hpost : posts[i] with
  | request data =>
    rw [hpost] at hmem
    exact ⟨rfl, rfl, _, hmem, rfl⟩
  | confirmation dstPort data =>
    rw [hpost] at hmem
    exact ⟨rfl, rfl, _, hmem, rfl⟩

/-- The packets carry the payloads, in order. -/
theorem packets_payload (u : RawUdp) (posts : List Post) :
    (Post.packets u posts).map UdpPacket.payload = posts.map Post.payload := by
  apply List.ext_getElem
  · rw [List.length_map, List.length_map, Post.packets, List.length_mapIdx]
  · intro i hi hi'
    have hlt : i < posts.length := by
      rw [List.length_map] at hi'
      exact hi'
    rw [List.getElem_map, List.getElem_map]
    unfold Post.packets
    rw [List.getElem_mapIdx]
    cases posts[i] <;> rfl

/-- A post that fits is read by a device as it was given. -/
theorem packets_carried {u : RawUdp} {posts : List Post}
    (hfits : ∀ post ∈ posts, 28 + post.payload.length ≤ 0xFFFF) :
    List.Forall₂ Carries ((Post.packets u posts).map UdpPacket.frame) (Post.packets u posts) := by
  rw [List.forall₂_map_left_iff, List.forall₂_same]
  intro packet hpacket
  obtain ⟨-, -, post, hpost, hpayload⟩ := mem_packets hpacket
  refine frame_carries ?_
  rw [hpayload]
  exact hfits post hpost

/-- A run over frames, and where the run over datagrams stands behind it. -/
theorem port_run (build : Build) (p : RawPort)
    {calls : List (PortCall (List (Receipt Slice String)))} (hfits : ∀ c ∈ calls, c.Fits) :
    ∃ p' posts, Machine.run (RawPort.call build) p calls
        = .ok ((Machine.total Port.call p.transport
            (calls.map (PortCall.datagrams p.raw.udp))).1, p') ∧
      Refines p p' (Machine.total Port.call p.transport
        (calls.map (PortCall.datagrams p.raw.udp))).2 posts := by
  let R := fun (p' : RawPort) t => ∃ posts, Refines p p' t posts
  have hstep : ∀ p' t (c : PortCall (List (Receipt Slice String))), c.Fits → R p' t →
      ∃ p'', p'.call build c = .ok ((Port.call t (c.datagrams p.raw.udp)).1, p'') ∧
        R p'' (Port.call t (c.datagrams p.raw.udp)).2 := by
    rintro p' t c hc ⟨posts, h⟩
    exact call_refines build h c hc
  obtain ⟨p', hrun, posts, hend⟩ :=
    Machine.run_refines hstep hfits (⟨[], refines_start p⟩ : R p p.transport)
  exact ⟨p', posts, hrun, hend⟩

/-- **The port over frames is the port over datagrams.**  A run of calls over any capture comes back,
    call by call, as the same run does over the datagrams that the capture holds from the peer: each
    is received once and in order, and no other frame is seen.  What is sent in the run stands in
    the frames, one for each in the order of the calls, and a device reads it there. -/
theorem raw_port_refines (build : Build) (p : RawPort)
    (calls : List (PortCall (List (Receipt Slice String)))) (hfits : ∀ c ∈ calls, c.Fits) :
    ∃ results p' t posts frames,
      Machine.run (RawPort.call build) p calls = .ok (results, p') ∧
      Machine.total Port.call p.transport (calls.map (PortCall.datagrams p.raw.udp))
        = (results, t) ∧
      t.raw = datagrams p.raw.udp.dstIp p.raw.udp.srcIp p'.raw.sock.captured ∧
      t.sent = posts.filterMap Post.requested ∧ t.replied = posts.filterMap Post.confirmed ∧
      p'.raw.sock.frames = p.raw.sock.frames ++ frames ∧
      List.Forall₂ Carries frames (Post.packets p.raw.udp posts) := by
  obtain ⟨p', posts, hrun, hend⟩ := port_run build p hfits
  exact ⟨_, p', _, posts, _, hrun, rfl, hend.raw, hend.sent, hend.replied, hend.frames,
    packets_carried hend.fits⟩

/-- A port at the other end of the bench's endpoint. -/
def benchFacing : RawPort where
  raw :=
    { udp := ⟨benchRawUdp.dstMac, benchRawUdp.srcMac, benchDstIp, benchSrcIp, 50001, 0xFFFF⟩
      sock := ⟨[], [none, some "link down"], []⟩ }
  ccontrolSrc := none

/-- It is asked before the answer is there, then a frame arrives, and it replies. -/
def benchCalls : List (PortCall (List (Receipt Slice String))) :=
  [.sendRequest [1, 2, 3], .recvResponse, .arrive [.item ⟨benchUdpFrame 32 0x40, by decide⟩],
    .recvCcontrol, .replyCcontrol [4]]

/-- A session of a request, its response and a confirmation, with a foreign frame in between. -/
theorem raw_port_refines_bench :
    ∃ results p' t posts frames,
      Machine.run (RawPort.call .debug) benchFacing benchCalls = .ok (results, p') ∧
      Machine.total Port.call benchFacing.transport
        (benchCalls.map (PortCall.datagrams benchFacing.raw.udp)) = (results, t) ∧
      t.raw = datagrams benchSrcIp benchDstIp p'.raw.sock.captured ∧
      t.sent = posts.filterMap Post.requested ∧ t.replied = posts.filterMap Post.confirmed ∧
      p'.raw.sock.frames = [] ++ frames ∧
      List.Forall₂ Carries frames (Post.packets benchFacing.raw.udp posts) :=
  raw_port_refines .debug benchFacing benchCalls (by decide)

/-! ## Two ports that face each other

  What the one port sends is a capture for the other, with tags, padding and foreign frames added
  by the network. -/

/-- What the peer of `u` sends, between frames that are none of its. -/
inductive Passed (srcIp dstIp : Bytes 4) :
    List (List UInt8) → List (Receipt Slice String) → Prop where
  | done : Passed srcIp dstIp [] []
  | foreign {frame : Slice} {frames : List (List UInt8)} {captured : List (Receipt Slice String)}
      (h : parseUdpFrame frame.val srcIp dstIp = .ok none)
      (hrest : Passed srcIp dstIp frames captured) :
      Passed srcIp dstIp frames (.item frame :: captured)
  /-- A frame of the peer, under any tags and before any trailer. -/
  | shown {frame : Slice} {sent : List UInt8} {frames : List (List UInt8)}
      {captured : List (Receipt Slice String)} (tags : List VlanTag) (appended : List UInt8)
      (h : frame.val = tagged tags (sent ++ appended))
      (hrest : Passed srcIp dstIp frames captured) :
      Passed srcIp dstIp (sent :: frames) (.item frame :: captured)

/-- Packets that pass are received in order. -/
theorem passed_datagrams {srcIp dstIp : Bytes 4} {packets : List UdpPacket}
    (hpackets : ∀ p ∈ packets, p.srcIp = srcIp ∧ p.dstIp = dstIp ∧
      28 + p.payload.length ≤ 0xFFFF)
    {captured : List (Receipt Slice String)}
    (h : Passed srcIp dstIp (packets.map UdpPacket.frame) captured) :
    datagrams srcIp dstIp captured
      = packets.map fun p => .ok (some (p.payload, p.srcPort)) := by
  obtain ⟨frames, hframes⟩ : ∃ frames, frames = packets.map UdpPacket.frame := ⟨_, rfl⟩
  rw [← hframes] at h
  -- on how the capture lets the packets through
  induction h generalizing packets with
  | done =>
    rw [List.map_eq_nil_iff.mp hframes.symm]
    rfl
  | foreign hnone _ ih =>
    rw [datagrams_foreign hnone]
    exact ih hpackets hframes
  | @shown frame sent frames captured tags appended hframe _ ih =>
    cases packets with
    | nil => cases hframes
    | cons p packets =>
      obtain ⟨rfl, hmore⟩ := List.cons.inj hframes
      rw [List.forall_mem_cons] at hpackets
      obtain ⟨⟨rfl, rfl, hfits⟩, hpackets⟩ := hpackets
      have hparsed := @parseUdpFrame_built p (ipCksumOf p) (udpCksumOf p) hfits tags appended
      have hbound := frame.2
      rw [hframe] at hbound
      have hhit : parseUdpFrame frame.val p.srcIp p.dstIp
          = .ok (some (p.payload, p.srcPort)) := by
        rw [hframe]
        exact hparsed hbound
      rw [datagrams_hit hhit, ih hpackets hmore]
      rfl

/-- A call that takes a datagram, from either channel. -/
def PortCall.Receives {A : Type} : PortCall A → Prop
  | .recvResponse => True
  | .recvCcontrol => True
  | _ => False

/-- The calls that receive. -/
theorem PortCall.Receives.kind {A : Type} {c : PortCall A} (h : c.Receives) :
    c = .recvResponse ∨ c = .recvCcontrol := by
  cases c with
  | recvResponse => exact .inl rfl
  | recvCcontrol => exact .inr rfl
  | sendRequest data => exact h.elim
  | replyCcontrol data => exact h.elim
  | arrive a => exact h.elim

/-- A call that receives sends nothing, so it fits. -/
theorem PortCall.Receives.fits {A : Type} {c : PortCall A} (h : c.Receives) : c.Fits := by
  rcases h.kind with rfl | rfl
  · trivial
  · trivial

/-- A call that receives does so over datagrams too. -/
theorem PortCall.Receives.datagrams {c : PortCall (List (Receipt Slice String))} (h : c.Receives)
    (u : RawUdp) : (c.datagrams u).Receives := by
  rcases h.kind with rfl | rfl
  · trivial
  · trivial

/-- On either channel the first datagram is taken. -/
theorem PortCall.Receives.takes {c : PortCall (Arrival RawL2Transport)} (h : c.Receives)
    {t : RawL2Transport} {i : Incoming UInt16} {raw : List (Incoming UInt16)}
    (hraw : t.raw = i :: raw) :
    (Port.call t c).1 = .received i.received ∧ (Port.call t c).2.raw = raw := by
  have htaken : PortResult.received ((t.raw.map Incoming.received).head?.getD (.ok none))
        = .received i.received ∧ t.raw.drop 1 = raw := by
    rw [hraw]
    exact ⟨rfl, rfl⟩
  rcases h.kind with rfl | rfl
  · exact htaken
  · exact htaken

/-- As many receive calls as there are datagrams take them all, in order. -/
theorem total_receives {calls : List (PortCall (Arrival RawL2Transport))}
    (hcalls : ∀ c ∈ calls, c.Receives) {t : RawL2Transport} (hlen : calls.length = t.raw.length) :
    (Machine.total Port.call t calls).1 = t.raw.map (fun i => .received i.received) ∧
      (Machine.total Port.call t calls).2.raw = [] := by
  -- on the calls, one frame for each
  induction calls generalizing t with
  | nil =>
    have hraw := List.eq_nil_of_length_eq_zero hlen.symm
    rw [hraw]
    exact ⟨rfl, hraw⟩
  | cons c calls ih =>
    rw [List.forall_mem_cons] at hcalls
    cases hraw : t.raw with
    | nil =>
      rw [hraw] at hlen
      cases hlen
    | cons i raw =>
      have hhead := hcalls.1.takes hraw
      have hrest : calls.length = (Port.call t c).2.raw.length := by
        rw [hraw] at hlen
        rw [hhead.2]
        exact Nat.succ.inj hlen
      obtain ⟨hresults, hempty⟩ := ih hcalls.2 hrest
      refine ⟨?_, hempty⟩
      rw [Machine.total, hresults, hhead.1, hhead.2]
      rfl

/-- **What one port sends, the port that faces it receives.**  The ports are each other's peers, and
    what the first sends in a run of calls passes the capture of the other, in any frames of the
    segment.  Then the receive calls of the other, on whichever channel, come back with exactly
    these datagrams, each once, in order, and nothing is left. -/
theorem peer_heard (build : Build) (p q : RawPort)
    (hsrc : q.raw.udp.srcIp = p.raw.udp.dstIp) (hdst : q.raw.udp.dstIp = p.raw.udp.srcIp)
    (hdrained : datagrams p.raw.udp.dstIp p.raw.udp.srcIp p.raw.sock.captured = [])
    (calls : List (PortCall (List (Receipt Slice String)))) (hfits : ∀ c ∈ calls, c.Fits) :
    ∃ results q' t, ∃ posts : List Post, ∃ frames,
      Machine.run (RawPort.call build) q calls = .ok (results, q') ∧
      Machine.total Port.call q.transport (calls.map (PortCall.datagrams q.raw.udp))
        = (results, t) ∧
      t.sent = posts.filterMap Post.requested ∧ t.replied = posts.filterMap Post.confirmed ∧
      q'.raw.sock.frames = q.raw.sock.frames ++ frames ∧
      ∀ captured, Passed p.raw.udp.dstIp p.raw.udp.srcIp frames captured →
      ∀ receives : List (PortCall (List (Receipt Slice String))),
        (∀ c ∈ receives, c.Receives) → receives.length = posts.length →
      ∃ p', Machine.run (RawPort.call build) p (.arrive captured :: receives)
          = .ok (.arrived :: posts.map (fun post => .received (.ok (some post.payload))), p') ∧
        datagrams p.raw.udp.dstIp p.raw.udp.srcIp p'.raw.sock.captured = [] := by
  obtain ⟨q', posts, hrun, hend⟩ := port_run build q hfits
  refine ⟨_, q', _, posts, _, hrun, rfl, hend.sent, hend.replied, hend.frames, ?_⟩
  intro captured hpassed receives hreceives hlen
  have hheard : datagrams p.raw.udp.dstIp p.raw.udp.srcIp captured
      = (Post.packets q.raw.udp posts).map fun p => .ok (some (p.payload, p.srcPort)) := by
    refine passed_datagrams ?_ hpassed
    intro packet hpacket
    obtain ⟨hpsrc, hpdst, post, hpost, hpayload⟩ := mem_packets hpacket
    refine ⟨hpsrc.trans hsrc, hpdst.trans hdst, ?_⟩
    rw [hpayload]
    exact hend.fits post hpost
  have hreceivesFit : ∀ c ∈ PortCall.arrive captured :: receives, c.Fits := by
    rw [List.forall_mem_cons]
    exact ⟨trivial, fun c hc => (hreceives c hc).fits⟩
  obtain ⟨p', posts', hrun', hend'⟩ := port_run build p hreceivesFit
  -- the datagrams that the capture brings are all that there are to receive
  obtain ⟨t', ht'⟩ : ∃ t', t' = (Port.call p.transport
      (PortCall.datagrams p.raw.udp (.arrive captured))).2 := ⟨_, rfl⟩
  have hraw : t'.raw = (Post.packets q.raw.udp posts).map
      fun p => .ok (some (p.payload, p.srcPort)) := by
    rw [ht', ← hheard]
    show datagrams _ _ p.raw.sock.captured ++ _ = _
    rw [hdrained]
    rfl
  have hkinds : ∀ c ∈ receives.map (PortCall.datagrams p.raw.udp), c.Receives := by
    intro c hc
    obtain ⟨c', hc', rfl⟩ := List.mem_map.mp hc
    exact (hreceives c' hc').datagrams p.raw.udp
  have hcount : (receives.map (PortCall.datagrams p.raw.udp)).length = t'.raw.length := by
    rw [hraw, List.length_map, List.length_map, Post.packets, List.length_mapIdx, hlen]
  obtain ⟨hresults, hempty⟩ := total_receives hkinds hcount
  have hpayloads := congrArg (List.map fun data => PortResult.received (.ok (some data)))
    (packets_payload q.raw.udp posts)
  rw [List.map_map, List.map_map] at hpayloads
  refine ⟨p', ?_, ?_⟩
  · rw [hrun', List.map_cons, Machine.total, ← ht', hresults, hraw, List.map_map]
    exact congrArg (fun results => Except.ok (PortResult.arrived :: results, p')) hpayloads
  · rw [← hend'.raw, List.map_cons, Machine.total, ← ht']
    exact hempty

/-- The bench's endpoint sends two requests to the port that faces it. -/
theorem peer_heard_bench :
    ∃ results q' t, ∃ posts : List Post, ∃ frames,
      Machine.run (RawPort.call .release) ⟨⟨benchRawUdp, ⟨[], [], []⟩⟩, none⟩
        [.sendRequest [1, 2, 3], .sendRequest []] = .ok (results, q') ∧
      Machine.total Port.call (RawPort.transport ⟨⟨benchRawUdp, ⟨[], [], []⟩⟩, none⟩)
        [.sendRequest [1, 2, 3], .sendRequest []] = (results, t) ∧
      t.sent = posts.filterMap Post.requested ∧ t.replied = posts.filterMap Post.confirmed ∧
      q'.raw.sock.frames = [] ++ frames ∧
      ∀ captured, Passed benchSrcIp benchDstIp frames captured →
      ∀ receives : List (PortCall (List (Receipt Slice String))),
        (∀ c ∈ receives, c.Receives) → receives.length = posts.length →
      ∃ p', Machine.run (RawPort.call .release) benchFacing (.arrive captured :: receives)
          = .ok (.arrived :: posts.map (fun post => .received (.ok (some post.payload))), p') ∧
        datagrams benchSrcIp benchDstIp p'.raw.sock.captured = [] :=
  peer_heard .release benchFacing ⟨⟨benchRawUdp, ⟨[], [], []⟩⟩, none⟩ rfl rfl rfl
    [.sendRequest [1, 2, 3], .sendRequest []] (by decide)

end Profinet.Transport
