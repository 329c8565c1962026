/-
  RPC TRANSPORT: the port a connection sends and receives datagrams through.

  The source's trait has two channels, one for responses and one for the device's own CControl
  requests, because over UDP they arrive on two sockets.  What the receive calls come back with is
  data of the model: a list for each channel, and a loop takes what it receives off the front.

      UdpTransport      a list for each of its two sockets
      RawL2Transport    one list, the capture, behind both channels

  `RpcTransport` is the trait with the laws every connection proof uses: sending does not touch
  what will be received, receiving does not send.  `sent` and `replied` are the record of what was
  given to the network, whatever the send call came back with; no code reads them.
-/
import Mathlib.Data.List.Basic

namespace Profinet.Transport

/-- What one receive call of the network comes back with: a datagram and its source, nothing in
    time, or an error. -/
abbrev Incoming (Src : Type) := Except String (Option (List UInt8 × Src))

/-- What a receive call of the port comes back with. -/
abbrev Received := Except String (Option (List UInt8))

/-- A receive call forgets the source. -/
def Incoming.received {Src : Type} (i : Incoming Src) : Received := i.map (Option.map Prod.fst)

/-- The source of the last datagram received, `src` before the first. -/
def lastSource {Src : Type} (src : Option Src) : List (Incoming Src) → Option Src
  | [] => src
  | .ok (some (_, s)) :: rest => lastSource (some s) rest
  | _ :: rest => lastSource src rest

/-- Once a datagram has been received, its source is known. -/
theorem lastSource_of_data {Src : Type} {l : List (Incoming Src)} {n : Nat} {bytes : List UInt8}
    {s : Src} (h : l[n]? = some (.ok (some (bytes, s)))) (src : Option Src) :
    lastSource src (l.take (n + 1)) = some s := by
  induction l generalizing n src with
  | nil => nomatch h
  | cons i rest ih =>
    cases n with
    | zero =>
      obtain rfl := Option.some.inj h
      rw [List.take_succ_cons, List.take_zero]
      rfl
    | succ n =>
      rw [List.take_succ_cons]
      match i with
      | .ok (some (_, s')) => exact ih h (some s')
      | .ok none => exact ih h src
      | .error _ => exact ih h src

/-- A receive call that came back with a datagram had a source for it. -/
theorem received_data {Src : Type} {l : List (Incoming Src)} {n : Nat} {bytes : List UInt8}
    (h : (l.map Incoming.received)[n]? = some (.ok (some bytes))) :
    ∃ s, l[n]? = some (.ok (some (bytes, s))) := by
  rw [List.getElem?_map] at h
  obtain ⟨i, hi, hr⟩ := Option.map_eq_some_iff.mp h
  match i, hr with
  | .ok (some (_, s)), rfl => exact ⟨s, hi⟩

/-- The datagram port under a connection. -/
class RpcTransport (T : Type) where
  /-- Send a request datagram to the device's RPC port. -/
  sendRequest : T → List UInt8 → Except String Unit × T
  /-- What the calls of `recv_response` to come will come back with. -/
  responses : T → List Received
  /-- The port after that many calls of `recv_response`. -/
  afterResponses : Nat → T → T
  /-- What the calls of `recv_ccontrol` to come will come back with. -/
  ccontrols : T → List Received
  /-- The port after that many calls of `recv_ccontrol`, each remembering its source. -/
  afterCcontrols : Nat → T → T
  /-- Send a confirmation back to the source of the last CControl. -/
  replyCcontrol : T → List UInt8 → Except String Unit × T
  /-- Human-readable peer for error messages. -/
  peer : T → String
  /-- What can arrive between two operations, and the port after it has. -/
  Arrival : Type
  arrive : Arrival → T → T
  onResponses : Arrival → List Received
  /-- Record of the requests and of the confirmations given to the network. -/
  sent : T → List (List UInt8)
  replied : T → List (List UInt8)
  sendRequest_sent (t : T) (d : List UInt8) : sent (sendRequest t d).2 = sent t ++ [d]
  sendRequest_responses (t : T) (d : List UInt8) : responses (sendRequest t d).2 = responses t
  sendRequest_replied (t : T) (d : List UInt8) : replied (sendRequest t d).2 = replied t
  afterResponses_sent (n : Nat) (t : T) : sent (afterResponses n t) = sent t
  afterResponses_responses (n : Nat) (t : T) :
    responses (afterResponses n t) = (responses t).drop n
  afterResponses_replied (n : Nat) (t : T) : replied (afterResponses n t) = replied t
  afterCcontrols_sent (n : Nat) (t : T) : sent (afterCcontrols n t) = sent t
  afterCcontrols_responses (n : Nat) (t : T) :
    responses (afterCcontrols n t) <:+ responses t
  afterCcontrols_replied (n : Nat) (t : T) : replied (afterCcontrols n t) = replied t
  replyCcontrol_sent (t : T) (d : List UInt8) : sent (replyCcontrol t d).2 = sent t
  /-- After a CControl was received there is a route for the confirmation. -/
  replyCcontrol_replied {n : Nat} {t : T} {bytes : List UInt8}
    (h : (ccontrols t)[n]? = some (.ok (some bytes))) (d : List UInt8) :
    replied (replyCcontrol (afterCcontrols (n + 1) t) d).2 = replied t ++ [d]
  replyCcontrol_responses (t : T) (d : List UInt8) :
    responses (replyCcontrol t d).2 = responses t
  arrive_sent (a : Arrival) (t : T) : sent (arrive a t) = sent t
  arrive_responses (a : Arrival) (t : T) :
    responses (arrive a t) = responses t ++ onResponses a

/-- A send call: the first of the failures to come, `none` when it succeeds. -/
def sendResult (failures : List (Option String)) : Except String Unit :=
  match failures.head? with
  | some (some e) => .error e
  | _ => .ok ()

/-! ## Two UDP sockets -/

/-- Address of a datagram's sender over UDP. -/
structure SocketAddr where
  ip : UInt32
  port : UInt16
  deriving DecidableEq, Repr

/-- A request/response socket and a listener on port 34964 (`UdpTransport`). -/
structure UdpTransport where
  socket : List (Incoming SocketAddr)
  /-- The listener; a `bind` that fails is the error of the receive call that tried it. -/
  ccontrolSocket : List (Incoming SocketAddr)
  /-- Source of the last CControl datagram, for the confirmation route. -/
  ccontrolSrc : Option SocketAddr
  peer : String
  failures : List (Option String)
  sent : List (List UInt8)
  replied : List (SocketAddr × List UInt8)

namespace UdpTransport

/-- `send_request`: one datagram, and the failure of the socket, if any. -/
def sendRequest (t : UdpTransport) (data : List UInt8) : Except String Unit × UdpTransport :=
  ((sendResult t.failures).mapError ("Socket error: " ++ ·),
    { t with sent := t.sent ++ [data], failures := t.failures.tail })

/-- The confirmation goes back to the source of the last CControl. -/
def replyCcontrol (t : UdpTransport) (data : List UInt8) : Except String Unit × UdpTransport :=
  match t.ccontrolSrc with
  | none => (.error "No CControl received to reply to", t)
  | some addr =>
    ((sendResult t.failures).mapError ("Socket error: " ++ ·),
      { t with replied := t.replied ++ [(addr, data)], failures := t.failures.tail })

/-- Each socket has its own queue. -/
instance : RpcTransport UdpTransport where
  sendRequest := sendRequest
  responses t := t.socket.map Incoming.received
  afterResponses n t := { t with socket := t.socket.drop n }
  ccontrols t := t.ccontrolSocket.map Incoming.received
  afterCcontrols n t :=
    { t with ccontrolSocket := t.ccontrolSocket.drop n
             ccontrolSrc := lastSource t.ccontrolSrc (t.ccontrolSocket.take n) }
  replyCcontrol := replyCcontrol
  peer t := t.peer
  Arrival := List (Incoming SocketAddr) × List (Incoming SocketAddr)
  arrive a t :=
    { t with socket := t.socket ++ a.1, ccontrolSocket := t.ccontrolSocket ++ a.2 }
  onResponses a := a.1.map Incoming.received
  sent t := t.sent
  replied t := t.replied.map Prod.snd
  sendRequest_sent _ _ := rfl
  sendRequest_responses _ _ := rfl
  sendRequest_replied _ _ := rfl
  afterResponses_sent _ _ := rfl
  afterResponses_responses _ _ := List.map_drop
  afterResponses_replied _ _ := rfl
  afterCcontrols_sent _ _ := rfl
  afterCcontrols_responses _ _ := List.suffix_refl _
  afterCcontrols_replied _ _ := rfl
  replyCcontrol_sent t d := by
    rw [replyCcontrol]
    cases t.ccontrolSrc <;> rfl
  replyCcontrol_replied h d := by
    obtain ⟨s, hs⟩ := received_data h
    simp only [replyCcontrol, lastSource_of_data hs, List.map_append, List.map_cons, List.map_nil]
  replyCcontrol_responses t d := by
    rw [replyCcontrol]
    cases t.ccontrolSrc <;> rfl
  arrive_sent _ _ := rfl
  arrive_responses _ _ := List.map_append

end UdpTransport

/-! ## One raw capture -/

/-- A single capture carrying both flows, and the source port of the last CControl
    (`RawL2Transport`). -/
structure RawL2Transport where
  raw : List (Incoming UInt16)
  ccontrolSrc : Option UInt16
  peer : String
  failures : List (Option String)
  sent : List (List UInt8)
  replied : List (UInt16 × List UInt8)

namespace RawL2Transport

/-- `send_request`: one datagram, and the failure of the socket, if any. -/
def sendRequest (t : RawL2Transport) (data : List UInt8) :
    Except String Unit × RawL2Transport :=
  (sendResult t.failures, { t with sent := t.sent ++ [data], failures := t.failures.tail })

/-- The confirmation leaves from port 34964 to the port the CControl came from. -/
def replyCcontrol (t : RawL2Transport) (data : List UInt8) :
    Except String Unit × RawL2Transport :=
  match t.ccontrolSrc with
  | none => (.error "No CControl received to reply to", t)
  | some srcPort =>
    (sendResult t.failures,
      { t with replied := t.replied ++ [(srcPort, data)], failures := t.failures.tail })

/-- Both channels take from the capture. -/
instance : RpcTransport RawL2Transport where
  sendRequest := sendRequest
  responses t := t.raw.map Incoming.received
  afterResponses n t := { t with raw := t.raw.drop n }
  ccontrols t := t.raw.map Incoming.received
  afterCcontrols n t :=
    { t with raw := t.raw.drop n, ccontrolSrc := lastSource t.ccontrolSrc (t.raw.take n) }
  replyCcontrol := replyCcontrol
  peer t := t.peer
  Arrival := List (Incoming UInt16)
  arrive a t := { t with raw := t.raw ++ a }
  onResponses a := a.map Incoming.received
  sent t := t.sent
  replied t := t.replied.map Prod.snd
  sendRequest_sent _ _ := rfl
  sendRequest_responses _ _ := rfl
  sendRequest_replied _ _ := rfl
  afterResponses_sent _ _ := rfl
  afterResponses_responses _ _ := List.map_drop
  afterResponses_replied _ _ := rfl
  afterCcontrols_sent _ _ := rfl
  afterCcontrols_responses n t := by
    rw [List.map_drop]
    exact List.drop_suffix n _
  afterCcontrols_replied _ _ := rfl
  replyCcontrol_sent t d := by
    rw [replyCcontrol]
    cases t.ccontrolSrc <;> rfl
  replyCcontrol_replied h d := by
    obtain ⟨s, hs⟩ := received_data h
    simp only [replyCcontrol, lastSource_of_data hs, List.map_append, List.map_cons, List.map_nil]
  replyCcontrol_responses t d := by
    rw [replyCcontrol]
    cases t.ccontrolSrc <;> rfl
  arrive_sent _ _ := rfl
  arrive_responses _ _ := List.map_append

end RawL2Transport

end Profinet.Transport
