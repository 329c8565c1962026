/-
  CONFIRMATION: what the device reads of our answer to its ApplicationReady.

  The device may speak either byte order, and the answer speaks the device's: the RPC header and the
  NRD header switch with the request's DREP, the UUIDs are echoed as they stand, and the control
  block is big-endian whatever the DREP says.

      RPC header    the order of the request     80 bytes
      NRD header    the order of the request     20 bytes
      control       big-endian                   32 bytes

  `ccontrolResponse_eq` puts the bytes the source writes one by one as headers written back
  (`rpcBytes`, `nrdBytes`); those read back in either order, so the device finds what
  `confirmation_round_trip` lists.
-/
import Profinet.ApplicationReady

namespace Profinet.Transport

open Wire

/-! ## The answer as headers -/

/-- The NRD of the answer: status OK, and one control block. -/
def confirmedNrd (maximumCount : UInt32) (arUuid : Uuid) (sessionKey : UInt16) : ParsedNrd where
  argsStatus := 0
  argsLength := 32
  maximumCount := maximumCount
  offset := 0
  actualCount := 32
  payload := iodControlBlock blockIodControlAppReadyRes arUuid sessionKey controlCmdDone

/-- The header of the answer. -/
def confirmedHeader (req : ParsedRpc) (body : List UInt8) : ParsedRpc where
  version := req.version
  packetType := packetTypeResponse
  flags1 := Rpc.rpcFlags1Lastfrag ||| Rpc.rpcFlags1Nofack
  flags2 := 0x00
  drep := req.drep
  serialHigh := req.serialHigh
  objectUuid := req.objectUuid
  interfaceUuid := req.interfaceUuid
  activityUuid := req.activityUuid
  serverBootTime := 0
  interfaceVersion := req.interfaceVersion
  sequenceNumber := req.sequenceNumber
  operationNumber := req.operationNumber
  interfaceHint := 0xFFFF
  activityHint := 0xFFFF
  lengthOfBody := UInt16.ofNat body.length
  fragmentNumber := 0
  authProtocol := 0x00
  serialLow := req.serialLow
  isLittleEndian := req.isLittleEndian
  payload := body

theorem ccontrolResponse_eq {req : ParsedRpc} {advertised : ParsedNrd}
    (h : parseNrd req.payload req.isLittleEndian = .ok advertised) (arUuid : Uuid)
    (sessionKey : UInt16) :
    ccontrolResponse req arUuid sessionKey
      = rpcBytes (confirmedHeader req
          (nrdBytes (confirmedNrd advertised.maximumCount arUuid sessionKey)
            req.isLittleEndian)) := by
  have hlen := (iodControlBlock_fields blockIodControlAppReadyRes arUuid sessionKey
    controlCmdDone).2.2.2.2
  unfold ccontrolResponse
  simp only [h, hlen]
  rfl

/-! ## What the device reads -/

/-- `data` is a confirmation of `req`, as a reader in the byte order of `req` finds it: `resp` is
    its header and `n` its NRD. -/
structure Confirms (req : ParsedRpc) (maximumCount : UInt32) (arUuid : Uuid) (sessionKey : UInt16)
    (data : List UInt8) (resp : ParsedRpc) (n : ParsedNrd) : Prop where
  header : parseRpcHeader data = some resp
  packetType : resp.packetType = packetTypeResponse
  drep : resp.drep = req.drep
  order : resp.isLittleEndian = req.isLittleEndian
  objectUuid : resp.objectUuid = req.objectUuid
  interfaceUuid : resp.interfaceUuid = req.interfaceUuid
  activityUuid : resp.activityUuid = req.activityUuid
  interfaceVersion : resp.interfaceVersion = req.interfaceVersion
  sequenceNumber : resp.sequenceNumber = req.sequenceNumber
  operationNumber : resp.operationNumber = req.operationNumber
  serials : resp.serialHigh = req.serialHigh ∧ resp.serialLow = req.serialLow
  lengthOfBody : resp.lengthOfBody.toNat = (data.drop 80).length
  nrd : parseNrd resp.payload req.isLittleEndian = .ok n
  status : n.argsStatus = 0
  offset : n.offset = 0
  lengths : n.argsLength = 32 ∧ n.actualCount = 32 ∧ n.payload.length = 32
  maximumCount : n.maximumCount = maximumCount
  blockType : rdU16 n.payload 0 false = blockIodControlAppReadyRes
  ar : bytesAt 16 n.payload 8 = arUuid
  key : rdU16 n.payload 24 false = sessionKey
  command : rdU16 n.payload 28 false = controlCmdDone

/-- **The confirmation reads back.**  For every datagram that is taken as an ApplicationReady, in
    either byte order, the answer is the RESPONSE to it that carries our AR and session key. -/
theorem confirmation_round_trip {data : List UInt8} {hdr : ParsedRpc} {cc : CControlRequest}
    (h : extractAppReady data = some (hdr, cc)) (arUuid : Uuid) (sessionKey : UInt16) :
    ∃ advertised resp nrd, parseNrd hdr.payload hdr.isLittleEndian = .ok advertised
      ∧ Confirms hdr advertised.maximumCount arUuid sessionKey
        (ccontrolResponse hdr arUuid sessionKey) resp nrd := by
  obtain ⟨hheader, -, -, advertised, hadvertised, -⟩ := extractAppReady_iff.mp h
  obtain ⟨-, -, -, hcoherent⟩ := parseRpcHeader_some hheader
  obtain ⟨htype, har, hkey, hcmd, hlen⟩ :=
    iodControlBlock_fields blockIodControlAppReadyRes arUuid sessionKey controlCmdDone
  have hbody : (nrdBytes (confirmedNrd advertised.maximumCount arUuid sessionKey)
      hdr.isLittleEndian).length = 52 := by
    rw [nrdBytes_length]
    exact congrArg (20 + ·) hlen
  have hnrd := parseNrd_nrdBytes (confirmedNrd advertised.maximumCount arUuid sessionKey)
    hdr.isLittleEndian
  rw [ccontrolResponse_eq hadvertised arUuid sessionKey]
  generalize nrdBytes (confirmedNrd advertised.maximumCount arUuid sessionKey)
    hdr.isLittleEndian = body at hbody hnrd ⊢
  have hparse : parseRpcHeader (rpcBytes (confirmedHeader hdr body))
      = some (confirmedHeader hdr body) := parseRpcHeader_rpcBytes hcoherent
  have hbehind : body = (rpcBytes (confirmedHeader hdr body)).drop 80 :=
    (parseRpcHeader_some hparse).2.1
  have hlength : (UInt16.ofNat body.length).toNat = body.length := by
    rw [hbody]
    rfl
  exact ⟨advertised, confirmedHeader hdr body, _, hadvertised,
    { header := hparse
      packetType := rfl
      drep := rfl
      order := rfl
      objectUuid := rfl
      interfaceUuid := rfl
      activityUuid := rfl
      interfaceVersion := rfl
      sequenceNumber := rfl
      operationNumber := rfl
      serials := ⟨rfl, rfl⟩
      lengthOfBody := hbehind ▸ hlength
      nrd := hnrd
      status := rfl
      offset := rfl
      lengths := ⟨rfl, rfl, hlen⟩
      maximumCount := rfl
      blockType := htype
      ar := har
      key := hkey
      command := hcmd }⟩

/-- An ApplicationReady of a little-endian device, which offers room for 100 bytes. -/
def benchLittleReady : List UInt8 :=
  rpcBytes
    { requestHeader (benchUuid 0) (benchUuid 0) (benchUuid 0xD0) 1 Rpc.control
        (nrdBytes ⟨100, 32, 100, 0, 32, iodControlBlock blockIodControlAppReadyReq (benchUuid 0xC0)
          99 0x0002⟩ true) with
      drep := ⟨[0x10, 0x00, 0x00], rfl⟩
      isLittleEndian := true }

/-- It is taken as one, and what the device reads of the answer repeats the room it offered. -/
theorem confirmation_round_trip_little :
    ∃ hdr cc, extractAppReady benchLittleReady = some (hdr, cc)
      ∧ ∃ advertised resp n, parseNrd hdr.payload hdr.isLittleEndian = .ok advertised
        ∧ Confirms hdr advertised.maximumCount (benchUuid 0xA0) 7
          (ccontrolResponse hdr (benchUuid 0xA0) 7) resp n := by
  have hready : (extractAppReady benchLittleReady).isSome = true := by decide +kernel
  obtain ⟨⟨hdr, cc⟩, hsome⟩ := Option.isSome_iff_exists.mp hready
  exact ⟨hdr, cc, hsome, confirmation_round_trip hsome (benchUuid 0xA0) 7⟩

end Profinet.Transport
