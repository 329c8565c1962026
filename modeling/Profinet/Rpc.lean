/-
  RPC: the DCE/RPC framing of requests.

  A request is an 80-byte header, whose multi-byte fields are big-endian (DREP 00 00 00), and a
  body; the body of every request here is an NRD header, which counts it, and a record.

      rpcRequest        header with object, interface and activity UUID, sequence number, opnum
      nrd               args maximum, args length, and the counts of the array
      read…, write…     the record operations
-/
import Profinet.Blocks

namespace Profinet.Rpc

open Wire Blocks

/-! ## Numbers -/

/-- The packet type of a request. -/
def request : UInt8 := 0x00

-- Operation numbers.
/-- Operation: connect. -/
def connect : UInt16 := 0x00
/-- Operation: release. -/
def release : UInt16 := 0x01
/-- Operation: read. -/
def read : UInt16 := 0x02
/-- Operation: write. -/
def write : UInt16 := 0x03
/-- Operation: control. -/
def control : UInt16 := 0x04
/-- Operation: read without a connection. -/
def implicitRead : UInt16 := 0x05

/-- `flags1`: the last fragment. -/
def rpcFlags1Lastfrag : UInt8 := 0x02
/-- `flags1`: no fragment acknowledgement. -/
def rpcFlags1Nofack : UInt8 := 0x08
/-- `flags1`: the operation may be repeated. -/
def rpcFlags1Idempotent : UInt8 := 0x20

/-- Response size a request advertises at least. -/
def ndrArgsMaximum : UInt32 := 4000

/-- Interface UUID of an IO-Device. -/
def ifaceUuidDevice : Uuid :=
  ⟨[0xDE, 0xA0, 0x00, 0x01, 0x6C, 0x97, 0x11, 0xD1, 0x82, 0x71, 0x00, 0xA0, 0x24, 0x42, 0xDF, 0x7D],
    rfl⟩

/-- Object UUID of a device: a fixed prefix, then instance, device and vendor. -/
def objectUuid (devHigh devLow venHigh venLow : UInt8) : Uuid :=
  ⟨[0xDE, 0xA0, 0x00, 0x00, 0x6C, 0x97, 0x11, 0xD1, 0x82, 0x71, 0x00, 0x01, devHigh, devLow,
    venHigh, venLow], rfl⟩

/-! ## Headers -/

/-- NRD header and payload.  ArgsMaximum is at least the length of the request itself. -/
def nrd (payload : List UInt8) : List UInt8 :=
  let len := UInt32.ofNat payload.length
  let argsMaximum := max ndrArgsMaximum len
  be32 argsMaximum ++ -- args_maximum_status
  (be32 len ++ -- args_length
  (be32 argsMaximum ++ -- maximum_count
  (be32 0 ++ -- offset
  (be32 len ++ -- actual_count
  payload))))

/-- PNRPCHeader of a request, and its body (`rpc_request`). -/
def rpcRequest (objectUuid ifaceUuid activityUuid : Uuid) (seq : UInt32) (operation : UInt16)
    (body : List UInt8) : List UInt8 :=
  0x04 :: -- version
  request ::
  rpcFlags1Idempotent ::
  0x00 :: -- flags2
  0x00 :: 0x00 :: 0x00 :: -- drep (BE, ASCII, IEEE float)
  0x00 :: -- serial_high
  (objectUuid.val ++
  (ifaceUuid.val ++
  (activityUuid.val ++
  (be32 0 ++ -- server_boot_time
  (be32 1 ++ -- interface_version
  (be32 seq ++
  (be16 operation ++
  (be16 0xFFFF ++ -- interface_hint
  (be16 0xFFFF ++ -- activity_hint
  (be16 (UInt16.ofNat body.length) ++ -- length_of_body
  (be16 0 ++ -- fragment_number
  0x00 :: -- authentication_protocol
  0x00 :: -- serial_low
  body)))))))))))

/-! ## Record operations -/

/-- The read request of both opnums (`read_request`). -/
def readRequest (objectUuid ifaceUuid activityUuid arUuid : Uuid) (opnum : UInt16)
    (seq api : UInt32) (slot subslot index : UInt16) (length : UInt32) : List UInt8 :=
  rpcRequest objectUuid ifaceUuid activityUuid seq opnum
    (nrd (iodReadRequest arUuid api slot subslot index length))

/-- The packet that reads a record. -/
def readRecordRequest (objectUuid ifaceUuid activityUuid arUuid : Uuid) (seq api : UInt32)
    (slot subslot index : UInt16) (length : UInt32) : List UInt8 :=
  readRequest objectUuid ifaceUuid activityUuid arUuid read seq api slot subslot index length

/-- An implicit read names no AR. -/
def readRecordImplicitRequest (objectUuid ifaceUuid activityUuid : Uuid) (seq api : UInt32)
    (slot subslot index : UInt16) (length : UInt32) : List UInt8 :=
  readRequest objectUuid ifaceUuid activityUuid ⟨List.replicate 16 0, List.length_replicate⟩
    implicitRead seq api slot subslot index length

/-- The packet that writes one. -/
def writeRecordRequest (objectUuid ifaceUuid activityUuid arUuid : Uuid) (seq api : UInt32)
    (slot subslot index : UInt16) (payload : List UInt8) : List UInt8 :=
  rpcRequest objectUuid ifaceUuid activityUuid seq write
    (nrd (iodWriteRequest arUuid api slot subslot index payload))

/-- The packet that writes several at once. -/
def writeMultipleRequest (objectUuid ifaceUuid activityUuid arUuid : Uuid) (seq : UInt32)
    (writes : List MultiWrite) : List UInt8 :=
  let payload := iodWriteMultiplePayload arUuid 0 writes
  rpcRequest objectUuid ifaceUuid activityUuid seq write
    (nrd (iodWriteRequest arUuid 0xFFFFFFFF 0xFFFF 0xFFFF iodWriteMultipleIndex payload))

end Profinet.Rpc
