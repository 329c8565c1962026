/-
  TRANSPORT: what the bytes of a received datagram say.

  A datagram is an 80-byte DCE/RPC header and a body.  The header's multi-byte fields stand in the
  byte order its DREP names (bit 4 of byte 4), so that every read takes the order as an argument;
  the first three fields of a UUID stand in that order too (`drepNormalizedUuid`).  The body starts
  with an NRD header, whose payload is a record (`parseIodHeader`), a control block
  (`parseCcontrolRequest`) or the blocks of a connect response.

      parseRpcHeader      datagram → header, or nothing when it is shorter than one
      parseRpcResponse    header → skip, response, or an error by its packet type
      nextRpcResponse     the receive loop: the first of our own responses, or the first error

  `rpcBytes` and `nrdBytes` write the headers back in either byte order; the requests and the
  confirmation of this controller are instances of them (`rpcRequest_eq`).
-/
import Profinet.Errors
import Profinet.Rpc
import Profinet.Lib.Scan

namespace Profinet.Transport

open Wire Errors

/-! ## Numbers -/

-- PNRPCHeader packet types.
/-- A request. -/
def packetTypeRequest : UInt8 := 0x00
/-- A response. -/
def packetTypeResponse : UInt8 := 0x02
/-- A fault. -/
def packetTypeFault : UInt8 := 0x03
/-- A reject. -/
def packetTypeReject : UInt8 := 0x06

-- IODControl block types and control commands.
/-- The end of parameterisation, from the controller. -/
def blockIodControlPrmEndReq : UInt16 := 0x0110
/-- The ApplicationReady, from the device. -/
def blockIodControlAppReadyReq : UInt16 := 0x0112
/-- The confirmation of an ApplicationReady. -/
def blockIodControlAppReadyRes : UInt16 := 0x8112
/-- The release of the AR. -/
def blockIodReleaseReq : UInt16 := 0x0114
/-- The beginning of parameterisation. -/
def blockPrmBeginReq : UInt16 := 0x0118
/-- The command that ends parameterisation. -/
def controlCmdPrmEnd : UInt16 := 0x0001
/-- The command that releases. -/
def controlCmdRelease : UInt16 := 0x0004
/-- The command of a confirmation. -/
def controlCmdDone : UInt16 := 0x0008
/-- The command that begins parameterisation. -/
def controlCmdPrmBegin : UInt16 := 0x0040

/-! ## The RPC header -/

/-- DCE/RPC header of a datagram, and the bytes behind it (`ParsedRpc`). -/
structure ParsedRpc where
  version : UInt8
  packetType : UInt8
  flags1 : UInt8
  flags2 : UInt8
  drep : Bytes 3
  serialHigh : UInt8
  objectUuid : Uuid
  interfaceUuid : Uuid
  activityUuid : Uuid
  serverBootTime : UInt32
  interfaceVersion : UInt32
  sequenceNumber : UInt32
  operationNumber : UInt16
  interfaceHint : UInt16
  activityHint : UInt16
  lengthOfBody : UInt16
  fragmentNumber : UInt16
  authProtocol : UInt8
  serialLow : UInt8
  isLittleEndian : Bool
  payload : List UInt8
  deriving DecidableEq, Repr

/-- The byte order a DREP byte names. -/
def drepLittleEndian (b : UInt8) : Bool := b &&& 0x10 ≠ 0

/-- DREP-aware parse of the 80-byte header (`parse_rpc_header`). -/
def parseRpcHeader (data : List UInt8) : Option ParsedRpc :=
  if data.length < 80 then none
  else
    let le := drepLittleEndian (data.getD 4 0)
    some
      { version := data.getD 0 0
        packetType := data.getD 1 0
        flags1 := data.getD 2 0
        flags2 := data.getD 3 0
        drep := bytesAt 3 data 4
        serialHigh := data.getD 7 0
        objectUuid := bytesAt 16 data 8
        interfaceUuid := bytesAt 16 data 24
        activityUuid := bytesAt 16 data 40
        serverBootTime := rdU32 data 56 le
        interfaceVersion := rdU32 data 60 le
        sequenceNumber := rdU32 data 64 le
        operationNumber := rdU16 data 68 le
        interfaceHint := rdU16 data 70 le
        activityHint := rdU16 data 72 le
        lengthOfBody := rdU16 data 74 le
        fragmentNumber := rdU16 data 76 le
        authProtocol := data.getD 78 0
        serialLow := data.getD 79 0
        isLittleEndian := le
        payload := data.drop 80 }

/-- Classify one received packet: an echoed REQUEST is skipped (`none`), a RESPONSE is the parsed
    header, everything else is an error. -/
def parseRpcResponse (data : List UInt8) : Except String (Option ParsedRpc) :=
  match parseRpcHeader data with
  | none =>
    .error ("Failed to parse RPC response: data too short (" ++ toString data.length ++ " bytes)")
  | some hdr =>
    if hdr.packetType = packetTypeRequest then .ok none
    else if hdr.packetType = packetTypeResponse then .ok (some hdr)
    else if hdr.packetType = packetTypeFault then
      .error ("RPC fault from device (fault code 0x" ++ hex 4 hdr.operationNumber.toNat ++ ")")
    else if hdr.packetType = packetTypeReject then .error "RPC request rejected by device"
    else .error ("Unexpected RPC packet type: 0x" ++ hex 2 hdr.packetType.toNat)

/-- A UUID in a form that does not depend on the byte order: of a little-endian packet, its first
    three fields are swapped (`drep_normalized_uuid`). -/
def drepNormalizedUuid (uuid : Uuid) (littleEndian : Bool) : Uuid :=
  if littleEndian then
    ⟨(uuid.val.take 4).reverse ++ -- time_low
      (((uuid.val.drop 4).take 2).reverse ++ -- time_mid
      (((uuid.val.drop 6).take 2).reverse ++ -- time_hi_and_version
      uuid.val.drop 8)), by
      have h := uuid.property
      simp only [List.length_append, List.length_reverse, List.length_take, List.length_drop]
      omega⟩
  else uuid

/-- Does a response belong to the request with this activity UUID and sequence number? -/
def isOurs (expectedUuid : Uuid) (expectedSeq : UInt32) (resp : ParsedRpc) : Bool :=
  drepNormalizedUuid resp.activityUuid resp.isLittleEndian = expectedUuid
    && resp.sequenceNumber = expectedSeq

/-- The receive loop over what the calls of `recv` return: the result, with what is left for the
    next loop; nothing while `recv` has not returned often enough. -/
def nextRpcResponse (expectedUuid : Uuid) (expectedSeq : UInt32) :
    List (Except String (List UInt8)) →
      Option (Except String ParsedRpc × List (Except String (List UInt8)))
  | [] => none
  | .error e :: rest => some (.error e, rest)
  | .ok data :: rest =>
    match parseRpcResponse data with
    | .error e => some (.error e, rest)
    | .ok none => nextRpcResponse expectedUuid expectedSeq rest
    | .ok (some resp) =>
      if isOurs expectedUuid expectedSeq resp then some (.ok resp, rest)
      else nextRpcResponse expectedUuid expectedSeq rest

/-! ## NRD and IOD headers -/

/-- PNNRDData: status, array counts and payload (`ParsedNrd`). -/
structure ParsedNrd where
  /-- args_maximum on requests, PNIO status on responses (non-zero = PNIO error). -/
  argsStatus : UInt32
  argsLength : UInt32
  maximumCount : UInt32
  offset : UInt32
  actualCount : UInt32
  payload : List UInt8
  deriving DecidableEq, Repr

/-- `parse_nrd`. -/
def parseNrd (data : List UInt8) (littleEndian : Bool) : Except String ParsedNrd :=
  if data.length < 20 then
    .error ("NRD header too short (" ++ toString data.length ++ " bytes)")
  else
    .ok
      { argsStatus := rdU32 data 0 littleEndian
        argsLength := rdU32 data 4 littleEndian
        maximumCount := rdU32 data 8 littleEndian
        offset := rdU32 data 12 littleEndian
        actualCount := rdU32 data 16 littleEndian
        payload := data.drop 20 }

/-- PNIODHeader of a response record, always big-endian (`ParsedIod`). -/
structure ParsedIod where
  blockType : UInt16
  blockLength : UInt16
  sequenceNumber : UInt16
  arUuid : Uuid
  api : UInt32
  slot : UInt16
  subslot : UInt16
  index : UInt16
  length : UInt32
  payload : List UInt8
  deriving DecidableEq, Repr

/-- `parse_iod_header`. -/
def parseIodHeader (data : List UInt8) : Except String ParsedIod :=
  if data.length < 64 then
    .error ("IOD header too short (" ++ toString data.length ++ " bytes)")
  else
    .ok
      { blockType := rdU16 data 0 false
        blockLength := rdU16 data 2 false
        sequenceNumber := rdU16 data 6 false
        arUuid := bytesAt 16 data 8
        api := rdU32 data 24 false
        slot := rdU16 data 28 false
        subslot := rdU16 data 30 false
        index := rdU16 data 34 false
        length := rdU32 data 36 false
        payload := data.drop 64 }

/-- A status as hexadecimal and in words (`pnio_status_str`). -/
def pnioStatusStr (argsStatus : UInt32) : String :=
  "0x" ++ hex 8 argsStatus.toNat ++ " (" ++ (fromBytes (be32 argsStatus)).display ++ ")"

/-- Body of a read response: status check, then the record behind the IOD header. -/
def parseReadResponse (rpcPayload : List UInt8) (littleEndian : Bool) :
    Except String (List UInt8) := do
  let nrd ← parseNrd rpcPayload littleEndian
  if nrd.argsStatus ≠ 0 then
    throw ("PNIO error status " ++ pnioStatusStr nrd.argsStatus)
  let iod ← parseIodHeader nrd.payload
  pure iod.payload

/-- Body of a write or control response: status check only. -/
def parseStatusResponse (rpcPayload : List UInt8) (littleEndian : Bool) :
    Except String (List UInt8) := do
  let nrd ← parseNrd rpcPayload littleEndian
  if nrd.argsStatus ≠ 0 then
    throw ("PNIO error status " ++ pnioStatusStr nrd.argsStatus)
  pure nrd.payload

/-! ## Control blocks -/

/-- IODControlReq/Res block, 32 bytes. -/
def iodControlBlock (blockType : UInt16) (arUuid : Uuid) (sessionKey controlCommand : UInt16) :
    List UInt8 :=
  Blocks.blockHeader blockType 28 1 0 ++
  (be16 0 ++ -- padding1
  (arUuid.val ++
  (be16 sessionKey ++
  (be16 0 ++ -- padding2
  (be16 controlCommand ++
  be16 0))))) -- control_block_properties

/-- The RELEASE request of an AR. -/
def releaseRequest (objectUuid ifaceUuid activityUuid arUuid : Uuid) (sessionKey : UInt16)
    (seq : UInt32) : List UInt8 :=
  let block := iodControlBlock blockIodReleaseReq arUuid sessionKey controlCmdRelease
  Rpc.rpcRequest objectUuid ifaceUuid activityUuid seq Rpc.release (Rpc.nrd block)

/-- A CControl request of the device (`CControlRequest`). -/
structure CControlRequest where
  blockType : UInt16
  controlCommand : UInt16
  /-- The NRD body, control block and sub-blocks, returned to the caller. -/
  nrdBody : List UInt8
  deriving DecidableEq, Repr

/-- A REQUEST with opnum CONTROL and a whole control block (`parse_ccontrol_request`); the errors
    are the packets `applicationReady` skips. -/
def parseCcontrolRequest (hdr : ParsedRpc) : Except String CControlRequest := do
  if hdr.packetType ≠ packetTypeRequest then
    throw ("Not a REQUEST (type=0x" ++ hex 2 hdr.packetType.toNat ++ ")")
  if hdr.operationNumber ≠ Rpc.control then
    throw ("Not CONTROL opnum (op=" ++ toString hdr.operationNumber.toNat ++ ")")
  let nrd ← parseNrd hdr.payload hdr.isLittleEndian
  if nrd.payload.length < 32 then
    throw ("CControl payload too short: " ++ toString nrd.payload.length ++ " bytes")
  pure
    { blockType := rdU16 nrd.payload 0 false
      controlCommand := rdU16 nrd.payload 28 false
      nrdBody := nrd.payload }

/-- The confirmation of an ApplicationReady: control block 0x8112 with command DONE, in the byte
    order of the request and under its header (`ccontrol_response`). -/
def ccontrolResponse (req : ParsedRpc) (arUuid : Uuid) (sessionKey : UInt16) : List UInt8 :=
  let le := req.isLittleEndian
  let control := iodControlBlock blockIodControlAppReadyRes arUuid sessionKey controlCmdDone
  let len := UInt32.ofNat control.length
  -- the capacity the request advertised, not the size of our own answer
  let reqMaxCount :=
    match parseNrd req.payload le with
    | .ok nrd => nrd.maximumCount
    | .error _ => len
  let nrd :=
    wrU32 0 le ++ -- pnio_status = OK
    (wrU32 len le ++ -- args_length
    (wrU32 reqMaxCount le ++ -- maximum_count
    (wrU32 0 le ++ -- offset
    (wrU32 len le ++ -- actual_count
    control))))
  req.version ::
  packetTypeResponse ::
  (Rpc.rpcFlags1Lastfrag ||| Rpc.rpcFlags1Nofack) ::
  0x00 :: -- flags2
  (req.drep.val ++
  (req.serialHigh ::
  (req.objectUuid.val ++
  (req.interfaceUuid.val ++
  (req.activityUuid.val ++
  (wrU32 0 le ++ -- server_boot_time
  (wrU32 req.interfaceVersion le ++
  (wrU32 req.sequenceNumber le ++
  (wrU16 req.operationNumber le ++
  (wrU16 0xFFFF le ++ -- interface_hint
  (wrU16 0xFFFF le ++ -- activity_hint
  (wrU16 (UInt16.ofNat nrd.length) le ++ -- length_of_body
  (wrU16 0 le ++ -- fragment_number
  (0x00 :: -- auth_protocol
  (req.serialLow ::
  nrd)))))))))))))))

/-- A datagram as an ApplicationReady of the device; anything else is skipped
    (`extract_app_ready`). -/
def extractAppReady (data : List UInt8) : Option (ParsedRpc × CControlRequest) := do
  let hdr ← parseRpcHeader data
  let cc ← (parseCcontrolRequest hdr).toOption
  if cc.blockType ≠ blockIodControlAppReadyReq then none
  else pure (hdr, cc)

/-! ## The headers written back -/

/-- A header and its payload in the header's own byte order. -/
def rpcBytes (h : ParsedRpc) : List UInt8 :=
  let le := h.isLittleEndian
  h.version ::
  h.packetType ::
  h.flags1 ::
  h.flags2 ::
  (h.drep.val ++
  (h.serialHigh ::
  (h.objectUuid.val ++
  (h.interfaceUuid.val ++
  (h.activityUuid.val ++
  (wrU32 h.serverBootTime le ++
  (wrU32 h.interfaceVersion le ++
  (wrU32 h.sequenceNumber le ++
  (wrU16 h.operationNumber le ++
  (wrU16 h.interfaceHint le ++
  (wrU16 h.activityHint le ++
  (wrU16 h.lengthOfBody le ++
  (wrU16 h.fragmentNumber le ++
  (h.authProtocol ::
  (h.serialLow ::
  h.payload)))))))))))))))

/-- The NDR header and what is behind it, as bytes. -/
def nrdBytes (n : ParsedNrd) (le : Bool) : List UInt8 :=
  wrU32 n.argsStatus le ++ (wrU32 n.argsLength le ++ (wrU32 n.maximumCount le ++
    (wrU32 n.offset le ++ (wrU32 n.actualCount le ++ n.payload))))

/-- The DREP of a header names the byte order its fields are in. -/
def ParsedRpc.Coherent (h : ParsedRpc) : Prop :=
  h.isLittleEndian = drepLittleEndian (h.drep.val.getD 0 0)

instance (h : ParsedRpc) : Decidable h.Coherent := inferInstanceAs (Decidable (_ = _))

/-- Eighty bytes and the payload. -/
theorem rpcBytes_length (h : ParsedRpc) : (rpcBytes h).length = 80 + h.payload.length := by
  simp only [rpcBytes, List.length_cons, List.length_append, h.drep.property,
    h.objectUuid.property, h.interfaceUuid.property, h.activityUuid.property, wrU32_length,
    wrU16_length]
  omega

/-- A header that was parsed says of itself which order it is in, and what follows it. -/
theorem parseRpcHeader_some {data : List UInt8} {h : ParsedRpc}
    (hparse : parseRpcHeader data = some h) :
    80 ≤ data.length ∧ h.payload = data.drop 80
      ∧ h.isLittleEndian = drepLittleEndian (data.getD 4 0) ∧ h.Coherent := by
  unfold parseRpcHeader at hparse
  split at hparse
  · cases hparse
  · obtain rfl := Option.some.inj hparse
    refine ⟨?_, rfl, rfl, rfl⟩
    omega

/-- **A header reads back**, in either byte order. -/
theorem parseRpcHeader_rpcBytes {h : ParsedRpc} (hle : h.Coherent) :
    parseRpcHeader (rpcBytes h) = some h := by
  have hlen := rpcBytes_length h
  obtain ⟨data, hdata⟩ : ∃ data, data = rpcBytes h := ⟨_, rfl⟩
  -- each field starts where the one before it ends
  have h4 := congrArg (List.drop 4) hdata
  simp only [rpcBytes, List.drop_succ_cons, List.drop_zero] at h4
  have h7 : data.drop 7 = _ := drop_field h4 h.drep.property
  have h8 : data.drop 8 = _ := drop_field (a := [_]) h7 rfl
  have h24 : data.drop 24 = _ := drop_field h8 h.objectUuid.property
  have h40 : data.drop 40 = _ := drop_field h24 h.interfaceUuid.property
  have h56 : data.drop 56 = _ := drop_field h40 h.activityUuid.property
  have h60 : data.drop 60 = _ := drop_field h56 (wrU32_length _ _)
  have h64 : data.drop 64 = _ := drop_field h60 (wrU32_length _ _)
  have h68 : data.drop 68 = _ := drop_field h64 (wrU32_length _ _)
  have h70 : data.drop 70 = _ := drop_field h68 (wrU16_length _ _)
  have h72 : data.drop 72 = _ := drop_field h70 (wrU16_length _ _)
  have h74 : data.drop 74 = _ := drop_field h72 (wrU16_length _ _)
  have h76 : data.drop 76 = _ := drop_field h74 (wrU16_length _ _)
  have h78 : data.drop 78 = _ := drop_field h76 (wrU16_length _ _)
  have h79 : data.drop 79 = _ := drop_field (a := [_]) h78 rfl
  have h80 : data.drop 80 = _ := drop_field (a := [_]) h79 rfl
  have hdrep : bytesAt 3 data 4 = h.drep := bytesAt_of_drop h4
  have horder : drepLittleEndian (data.getD 4 0) = h.isLittleEndian := by
    rw [hle, ← hdrep]
    rfl
  rw [← hdata] at hlen ⊢
  unfold parseRpcHeader
  rw [if_neg (by omega), horder]
  dsimp only
  rw [hdrep, getD_of_drop h7, bytesAt_of_drop h8, bytesAt_of_drop h24,
    bytesAt_of_drop h40, rdU32_of_drop h56, rdU32_of_drop h60, rdU32_of_drop h64,
    rdU16_of_drop h68, rdU16_of_drop h70, rdU16_of_drop h72, rdU16_of_drop h74, rdU16_of_drop h76,
    getD_of_drop h78, getD_of_drop h79, h80, hdata]
  rfl

/-- Twenty bytes and the payload. -/
theorem nrdBytes_length (n : ParsedNrd) (le : Bool) :
    (nrdBytes n le).length = 20 + n.payload.length := by
  simp only [nrdBytes, List.length_append, wrU32_length]
  omega

/-- **An NRD header reads back**, in either byte order. -/
theorem parseNrd_nrdBytes (n : ParsedNrd) (le : Bool) : parseNrd (nrdBytes n le) le = .ok n := by
  have hlen := nrdBytes_length n le
  obtain ⟨data, hdata⟩ : ∃ data, data = nrdBytes n le := ⟨_, rfl⟩
  have h0 := congrArg (List.drop 0) hdata
  rw [nrdBytes, List.drop_zero (l := _ ++ _)] at h0
  have h4 : data.drop 4 = _ := drop_field h0 (wrU32_length _ _)
  have h8 : data.drop 8 = _ := drop_field h4 (wrU32_length _ _)
  have h12 : data.drop 12 = _ := drop_field h8 (wrU32_length _ _)
  have h16 : data.drop 16 = _ := drop_field h12 (wrU32_length _ _)
  have h20 : data.drop 20 = _ := drop_field h16 (wrU32_length _ _)
  rw [← hdata] at hlen ⊢
  unfold parseNrd
  rw [if_neg (by omega), rdU32_of_drop h0, rdU32_of_drop h4, rdU32_of_drop h8, rdU32_of_drop h12,
    rdU32_of_drop h16, h20]

/-- The NDR header a request is wrapped in, with its fields. -/
theorem nrd_eq (payload : List UInt8) :
    Rpc.nrd payload
      = nrdBytes ⟨max Rpc.ndrArgsMaximum (UInt32.ofNat payload.length),
          UInt32.ofNat payload.length, max Rpc.ndrArgsMaximum (UInt32.ofNat payload.length), 0,
          UInt32.ofNat payload.length, payload⟩ false := rfl

/-- The control block, read back. -/
theorem iodControlBlock_fields (blockType : UInt16) (arUuid : Uuid) (sessionKey cmd : UInt16) :
    rdU16 (iodControlBlock blockType arUuid sessionKey cmd) 0 false = blockType
      ∧ bytesAt 16 (iodControlBlock blockType arUuid sessionKey cmd) 8 = arUuid
      ∧ rdU16 (iodControlBlock blockType arUuid sessionKey cmd) 24 false = sessionKey
      ∧ rdU16 (iodControlBlock blockType arUuid sessionKey cmd) 28 false = cmd
      ∧ (iodControlBlock blockType arUuid sessionKey cmd).length = 32 := by
  obtain ⟨data, hdata⟩ : ∃ data, data = iodControlBlock blockType arUuid sessionKey cmd := ⟨_, rfl⟩
  have h0 := congrArg (List.drop 0) hdata
  rw [List.drop_zero (l := iodControlBlock _ _ _ _), iodControlBlock, Blocks.blockHeader] at h0
  simp only [List.append_assoc] at h0
  have h2 : data.drop 2 = _ := drop_field h0 (be16_length _)
  have h4 : data.drop 4 = _ := drop_field h2 (be16_length _)
  have h6 : data.drop 6 = _ := drop_field h4 rfl
  have h8 : data.drop 8 = _ := drop_field h6 (be16_length _)
  have h24 : data.drop 24 = _ := drop_field h8 arUuid.property
  have h26 : data.drop 26 = _ := drop_field h24 (be16_length _)
  have h28 : data.drop 28 = _ := drop_field h26 (be16_length _)
  have hlen : data.length = 32 := by
    rw [hdata]
    simp only [iodControlBlock, List.length_append, Blocks.blockHeader_length, be16_length,
      arUuid.property]
  rw [← hdata]
  exact ⟨rdU16_be h0, bytesAt_of_drop h8, rdU16_be h24, rdU16_be h28, hlen⟩

/-- A status response whose NRD header parses is judged by its status. -/
theorem parseStatusResponse_of_nrd {data : List UInt8} {le : Bool} {n : ParsedNrd}
    (h : parseNrd data le = .ok n) :
    parseStatusResponse data le
      = if n.argsStatus ≠ 0 then .error ("PNIO error status " ++ pnioStatusStr n.argsStatus)
        else .ok n.payload := by
  simp only [parseStatusResponse, h, bind, Except.bind]
  by_cases hstatus : n.argsStatus ≠ 0
  · rw [if_pos hstatus, if_pos hstatus]
    rfl
  · rw [if_neg hstatus, if_neg hstatus]
    rfl

/-- A read response goes on to the IOD header. -/
theorem parseReadResponse_of_nrd {data : List UInt8} {le : Bool} {n : ParsedNrd}
    (h : parseNrd data le = .ok n) :
    parseReadResponse data le
      = if n.argsStatus ≠ 0 then .error ("PNIO error status " ++ pnioStatusStr n.argsStatus)
        else (parseIodHeader n.payload).map ParsedIod.payload := by
  simp only [parseReadResponse, h, bind, Except.bind]
  by_cases hstatus : n.argsStatus ≠ 0
  · rw [if_pos hstatus, if_pos hstatus]
    rfl
  · rw [if_neg hstatus, if_neg hstatus]
    cases parseIodHeader n.payload <;> rfl

/-- What a request of this controller says of itself. -/
def requestHeader (objectUuid ifaceUuid activityUuid : Uuid) (seq : UInt32) (operation : UInt16)
    (body : List UInt8) : ParsedRpc where
  version := 0x04
  packetType := packetTypeRequest
  flags1 := Rpc.rpcFlags1Idempotent
  flags2 := 0x00
  drep := ⟨[0x00, 0x00, 0x00], rfl⟩
  serialHigh := 0x00
  objectUuid := objectUuid
  interfaceUuid := ifaceUuid
  activityUuid := activityUuid
  serverBootTime := 0
  interfaceVersion := 1
  sequenceNumber := seq
  operationNumber := operation
  interfaceHint := 0xFFFF
  activityHint := 0xFFFF
  lengthOfBody := UInt16.ofNat body.length
  fragmentNumber := 0
  authProtocol := 0x00
  serialLow := 0x00
  isLittleEndian := false
  payload := body

/-- A request, with the fields of its header. -/
theorem rpcRequest_eq (objectUuid ifaceUuid activityUuid : Uuid) (seq : UInt32)
    (operation : UInt16) (body : List UInt8) :
    Rpc.rpcRequest objectUuid ifaceUuid activityUuid seq operation body
      = rpcBytes (requestHeader objectUuid ifaceUuid activityUuid seq operation body) := rfl

/-- A request parses as what it was built from. -/
theorem parseRpcHeader_rpcRequest (objectUuid ifaceUuid activityUuid : Uuid) (seq : UInt32)
    (operation : UInt16) (body : List UInt8) :
    parseRpcHeader (Rpc.rpcRequest objectUuid ifaceUuid activityUuid seq operation body)
      = some (requestHeader objectUuid ifaceUuid activityUuid seq operation body) := by
  have hle : false = drepLittleEndian 0x00 := by decide
  rw [rpcRequest_eq]
  exact parseRpcHeader_rpcBytes hle

/-! ## UUIDs in either byte order -/

/-- Swapping the three fields twice changes nothing: what a little-endian device writes for a
    UUID is normalized back to it. -/
theorem drepNormalizedUuid_twice (u : Uuid) (le : Bool) :
    drepNormalizedUuid (drepNormalizedUuid u le) le = u := by
  cases le with
  | false => rfl
  | true =>
    match u with
    | ⟨[_, _, _, _, _, _, _, _, _, _, _, _, _, _, _, _], _⟩ => rfl

/-! ## The receive loop as a scan -/

/-- What the loop makes of one return of `recv`: nothing, and it goes on, or its result. -/
def verdict (expectedUuid : Uuid) (expectedSeq : UInt32) :
    Except String (List UInt8) → Option (Except String ParsedRpc)
  | .error e => some (.error e)
  | .ok data =>
    match parseRpcResponse data with
    | .error e => some (.error e)
    | .ok none => none
    | .ok (some resp) => if isOurs expectedUuid expectedSeq resp then some (.ok resp) else none

/-- Waiting for a response scans the datagrams for the first that is one. -/
theorem nextRpcResponse_eq_scan (expectedUuid : Uuid) (expectedSeq : UInt32)
    (recv : List (Except String (List UInt8))) :
    nextRpcResponse expectedUuid expectedSeq recv
      = Scan.scan (verdict expectedUuid expectedSeq) recv := by
  induction recv with
  | nil => rfl
  | cons r rest ih =>
    cases r with
    | error e => rfl
    | ok data =>
      rw [nextRpcResponse, Scan.scan, verdict]
      cases parseRpcResponse data with
      | error e => rfl
      | ok o =>
        cases o with
        | none => exact ih
        | some resp =>
          dsimp only
          cases isOurs expectedUuid expectedSeq resp with
          | true => rfl
          | false => exact ih

/-- A datagram gives the loop a response exactly when it parses as one and is ours. -/
theorem verdict_ok {u : Uuid} {seq : UInt32} {r : Except String (List UInt8)} {resp : ParsedRpc} :
    verdict u seq r = some (.ok resp)
      ↔ ∃ data, r = .ok data ∧ parseRpcResponse data = .ok (some resp)
        ∧ isOurs u seq resp = true := by
  -- an answer of ours is a datagram that parses and belongs to us
  cases r with
  | error e =>
    constructor
    · intro h
      nomatch h
    · rintro ⟨data, h, -⟩
      nomatch h
  | ok data =>
    rw [verdict]
    constructor
    · intro h
      cases hp : parseRpcResponse data with
      | error e =>
        rw [hp] at h
        nomatch h
      | ok o =>
        rw [hp] at h
        cases o with
        | none => nomatch h
        | some resp' =>
          dsimp only at h
          split at h
          next hours =>
            obtain rfl := Except.ok.inj (Option.some.inj h)
            exact ⟨data, rfl, hp, hours⟩
          next => nomatch h
    · rintro ⟨_, h, hp, hours⟩
      obtain rfl := Except.ok.inj h
      rw [hp]
      exact if_pos hours

/-- A parsed response is the header of a packet of type RESPONSE. -/
theorem parseRpcResponse_ok {data : List UInt8} {resp : ParsedRpc} :
    parseRpcResponse data = .ok (some resp)
      ↔ parseRpcHeader data = some resp ∧ resp.packetType = packetTypeResponse := by
  rw [parseRpcResponse]
  cases parseRpcHeader data with
  | none =>
    constructor
    · intro h
      nomatch h
    · rintro ⟨h, -⟩
      nomatch h
  | some hdr =>
    dsimp only
    constructor
    · intro h
      split at h
      · nomatch h
      · split at h
        next htype =>
          obtain rfl := Option.some.inj (Except.ok.inj h)
          exact ⟨rfl, htype⟩
        next =>
          split at h
          · nomatch h
          · split at h <;> nomatch h
    · rintro ⟨h, htype⟩
      obtain rfl := Option.some.inj h
      rw [if_neg (by rw [htype]; decide), if_pos htype]

end Profinet.Transport
