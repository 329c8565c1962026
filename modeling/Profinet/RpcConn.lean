/-
  RPC CONN: the operations of a connection.

  Every operation that waits for an answer has one shape (`call`): take the next sequence number,
  build a request, send it and receive the matching response, and go on with that response.  The
  operations below are that shape with their own request and their own ending; `release` sends
  without waiting, and `applicationReady` waits for a request of the device.

  `sendReceive` is the loop `nextRpcResponse` over what the transport will deliver: a receive call
  that times out, or the deadline of the loop, is its "No response".  `exchanges` is the record of
  what `sendReceive` was given and came back with; no code reads it.
-/
import Profinet.ConnectRequest
import Profinet.ConnectResponse
import Profinet.RpcTransport

namespace Profinet.Transport

open Wire Util RpcTransport

/-! ## A connection -/

/-- PROFINET DCE/RPC connection to an IO-Device (`RpcConn`). -/
structure RpcConn (T : Type) where
  transport : T
  objectUuid : Uuid
  activityUuid : Uuid
  arUuid : Uuid
  sessionKey : UInt16
  sequenceNumber : UInt32
  inputFrameId : UInt16
  outputFrameId : UInt16
  connected : Bool
  exchanges : List (List UInt8 × Except String ParsedRpc)

/-- A fresh connection (`with_transport`); the random UUIDs and the random session key, of which 0
    becomes 1, are arguments. -/
def withTransport {T : Type} (transport : T) (deviceId vendorId : UInt16)
    (activityUuid arUuid : Uuid) (sessionKey : UInt16) : RpcConn T where
  transport := transport
  objectUuid := Rpc.objectUuid (UInt8.ofNat (deviceId.toNat / 256)) (UInt8.ofNat deviceId.toNat)
    (UInt8.ofNat (vendorId.toNat / 256)) (UInt8.ofNat vendorId.toNat)
  activityUuid := activityUuid
  arUuid := arUuid
  sessionKey := if sessionKey = 0 then 1 else sessionKey
  sequenceNumber := 0
  inputFrameId := 0
  outputFrameId := 0
  connected := false
  exchanges := []

variable {T : Type} [RpcTransport T]

/-! ## Sending and receiving -/

/-- What the loop's `recv` comes back with: a receive call that times out is "No response". -/
def recvOutcome (noResponse : String) : Received → Except String (List UInt8)
  | .ok (some data) => .ok data
  | .ok none => .error noResponse
  | .error e => .error e

/-- Send a request and receive the matching response, on the transport (`send_receive`).  When the
    transport has nothing more to deliver, the deadline passes. -/
def exchange (t : T) (rpcBytes : List UInt8) : Except String ParsedRpc × T :=
  match parseRpcHeader rpcBytes with
  | none => (.error "outgoing RPC request too short to parse header", t)
  | some req =>
    match sendRequest t rpcBytes with
    | (.error e, t) => (.error e, t)
    | (.ok _, t) =>
      let noResponse := "No response from " ++ peer t
      let recv := (responses t).map (recvOutcome noResponse)
      match nextRpcResponse (drepNormalizedUuid req.activityUuid req.isLittleEndian)
          req.sequenceNumber recv with
      | some (result, rest) => (result, afterResponses (recv.length - rest.length) t)
      | none => (.error noResponse, afterResponses recv.length t)

namespace RpcConn

/-- `send_receive`: one request, and the response to it. -/
def sendReceive (c : RpcConn T) (rpcBytes : List UInt8) : Except String ParsedRpc × RpcConn T :=
  let (result, t) := exchange c.transport rpcBytes
  (result, { c with transport := t, exchanges := c.exchanges ++ [(rpcBytes, result)] })

/-- The shape of an operation: `next_seq`, build, `send_receive`, and what is made of the
    response. -/
def call {α : Type} (c : RpcConn T) (build : UInt32 → List UInt8)
    (finish : ParsedRpc → RpcConn T → Except String α × RpcConn T) :
    Except String α × RpcConn T :=
  let req := build c.sequenceNumber
  match { c with sequenceNumber := c.sequenceNumber + 1 }.sendReceive req with
  | (.error e, c) => (.error e, c)
  | (.ok resp, c) => finish resp c

/-! ## Operations -/

/-- Establish the AR with cyclic IO. -/
def connect (c : RpcConn T) (cmMac : Mac) (cmStationName : List UInt8)
    (setup : Connect.IocrSetup) : Except String ConnectResult × RpcConn T :=
  c.call
    (Connect.buildConnectRequest c.objectUuid Rpc.ifaceUuidDevice c.activityUuid c.arUuid
      c.sessionKey cmMac cmStationName setup)
    fun resp c =>
      match parseConnectResponse resp.payload resp.isLittleEndian with
      | .error e => (.error ("Failed to connect: " ++ e), c)
      | .ok result =>
        (.ok result,
          { c with inputFrameId := result.inputFrameId
                   outputFrameId := result.outputFrameId
                   connected := true })

/-- Establish a Device-Access AR for acyclic read/write only. -/
def connectDeviceAccess (c : RpcConn T) (cmMac : Mac) (cmStationName : List UInt8) :
    Except String Unit × RpcConn T :=
  c.call
    (Connect.buildDeviceAccessConnectRequest c.objectUuid Rpc.ifaceUuidDevice c.activityUuid
      c.arUuid c.sessionKey cmMac cmStationName)
    fun resp c =>
      match parseStatusResponse resp.payload resp.isLittleEndian with
      | .error e => (.error ("Failed to connect: " ++ e), c)
      | .ok _ => (.ok (), { c with connected := true })

/-- Send a CONTROL request; the result is the NRD payload of the response. -/
def sendControl (c : RpcConn T) (blockType controlCommand : UInt16) (subBlocks : List UInt8) :
    Except String (List UInt8) × RpcConn T :=
  if c.connected then
    let payload := iodControlBlock blockType c.arUuid c.sessionKey controlCommand ++ subBlocks
    c.call
      (fun seq =>
        Rpc.rpcRequest c.objectUuid Rpc.ifaceUuidDevice c.activityUuid seq Rpc.control
          (Rpc.nrd payload))
      fun resp c => (parseStatusResponse resp.payload resp.isLittleEndian, c)
  else (.error "Not connected", c)

/-- End of the parameter phase. -/
def prmEnd (c : RpcConn T) : Except String (List UInt8) × RpcConn T :=
  let (result, c) := c.sendControl blockIodControlPrmEndReq controlCmdPrmEnd []
  (result.mapError ("PrmEnd failed: " ++ ·), c)

/-- Begin of (re-)parameterization. -/
def prmBegin (c : RpcConn T) : Except String (List UInt8) × RpcConn T :=
  let (result, c) := c.sendControl blockPrmBeginReq controlCmdPrmBegin []
  (result.mapError ("PrmBegin failed: " ++ ·), c)

/-- Send a built read request and decode the record (`send_read`). -/
def sendRead (c : RpcConn T) (build : UInt32 → List UInt8) :
    Except String (List UInt8) × RpcConn T :=
  c.call build fun resp c => (parseReadResponse resp.payload resp.isLittleEndian, c)

/-- `read_raw`. -/
def readRaw (c : RpcConn T) (idx slot subslot : UInt16) (length : UInt32) :
    Except String (List UInt8) × RpcConn T :=
  c.sendRead fun seq =>
    Rpc.readRecordRequest c.objectUuid Rpc.ifaceUuidDevice c.activityUuid c.arUuid seq 0 slot
      subslot idx length

/-- Read a record without an established AR. -/
def readRawImplicit (c : RpcConn T) (idx slot subslot : UInt16) (length : UInt32) :
    Except String (List UInt8) × RpcConn T :=
  c.sendRead fun seq =>
    Rpc.readRecordImplicitRequest c.objectUuid Rpc.ifaceUuidDevice c.activityUuid seq 0 slot
      subslot idx length

/-- `write`. -/
def write (c : RpcConn T) (idx slot subslot : UInt16) (data : List UInt8) :
    Except String Unit × RpcConn T :=
  c.call
    (fun seq =>
      Rpc.writeRecordRequest c.objectUuid Rpc.ifaceUuidDevice c.activityUuid c.arUuid seq 0 slot
        subslot idx data)
    fun resp c => ((parseStatusResponse resp.payload resp.isLittleEndian).map fun _ => (), c)

/-- Write several records in one request; without any, nothing is sent. -/
def writeMultiple (c : RpcConn T) (writes : List (UInt16 × UInt16 × UInt16 × List UInt8)) :
    Except String (List Blocks.WriteMultipleResult) × RpcConn T :=
  if writes.isEmpty then (.ok [], c)
  else
    let entries := writes.map fun (idx, slot, subslot, data) =>
      (⟨0, slot, subslot, idx, data⟩ : Blocks.MultiWrite)
    c.call
      (fun seq =>
        Rpc.writeMultipleRequest c.objectUuid Rpc.ifaceUuidDevice c.activityUuid c.arUuid seq
          entries)
      fun resp c =>
        ((parseStatusResponse resp.payload resp.isLittleEndian).map
          Blocks.parseWriteMultipleResponse, c)

/-- Terminate the AR: fire-and-forget, a send failure only ends the local state. -/
def release (c : RpcConn T) : RpcConn T :=
  if c.connected then
    let req := releaseRequest c.objectUuid Rpc.ifaceUuidDevice c.activityUuid c.arUuid
      c.sessionKey c.sequenceNumber
    let (_, t) := sendRequest c.transport req
    { c with sequenceNumber := c.sequenceNumber + 1, transport := t, connected := false }
  else c

/-- What happens to the connection on every exit path. -/
def drop (c : RpcConn T) : RpcConn T := c.release

end RpcConn

/-! ## ApplicationReady -/

/-- The wait for the first ApplicationReady over what the receive calls come back with: what is not
    one is skipped. -/
def nextAppReady :
    List (Except String (List UInt8)) →
      Option (Except String (ParsedRpc × CControlRequest) × List (Except String (List UInt8)))
  | [] => none
  | .error e :: rest => some (.error e, rest)
  | .ok data :: rest =>
    match extractAppReady data with
    | some ready => some (.ok ready, rest)
    | none => nextAppReady rest

/-- Wait for the device's ApplicationReady and confirm it with DONE, within `timeout` seconds. -/
def RpcConn.applicationReady (c : RpcConn T) (timeout : Nat) :
    Except String (List UInt8) × RpcConn T :=
  if c.connected then
    let t := c.transport
    let timeoutErr := "No ApplicationReady from " ++ peer t ++ " within " ++ toString timeout ++ "s"
    let recv := (ccontrols t).map (recvOutcome timeoutErr)
    match nextAppReady recv with
    | none => (.error timeoutErr, { c with transport := afterCcontrols recv.length t })
    | some (.error e, rest) =>
      (.error e, { c with transport := afterCcontrols (recv.length - rest.length) t })
    | some (.ok (hdr, cc), rest) =>
      -- the control command is not looked at; the route is the one the transport recorded
      let resp := ccontrolResponse hdr c.arUuid c.sessionKey
      match replyCcontrol (afterCcontrols (recv.length - rest.length) t) resp with
      | (.error e, t) => (.error e, { c with transport := t })
      | (.ok _, t) => (.ok cc.nrdBody, { c with transport := t })
  else (.error "Not connected", c)

end Profinet.Transport
