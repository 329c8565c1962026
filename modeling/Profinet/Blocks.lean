/-
  BLOCKS: the records of acyclic reads and writes.

  Every record operation travels as a PNIODHeader, 64 fixed bytes, with its data behind it; a
  multiple write is a list of such blocks inside one more of them.  All fields are big-endian.
  `as u16` and `as u32` are `UInt16.ofNat` and `UInt32.ofNat`: what does not fit is reduced, as in
  the source.
-/
import Profinet.Lib.Endian

namespace Profinet

/-- A UUID as it stands on the wire, `[u8; 16]`. -/
abbrev Uuid := Wire.Bytes 16

end Profinet

namespace Profinet.Blocks

open Wire

/-- The header of a read request. -/
def iodReadRequestHeader : UInt16 := 0x0009
/-- The header of a write request. -/
def iodWriteRequestHeader : UInt16 := 0x0008
/-- The header of a write response. -/
def iodWriteResponseHeader : UInt16 := 0x8008

/-- Index of a multiple write. -/
def iodWriteMultipleIndex : UInt16 := 0xE040

/-- PNBlockHeader: type, length and version of a block. -/
def blockHeader (blockType blockLength : UInt16) (verHigh verLow : UInt8) : List UInt8 :=
  be16 blockType ++ (be16 blockLength ++ [verHigh, verLow])

/-- PNIODHeader and its payload (`pniod_header`). -/
def pniodHeader (blockType seq : UInt16) (arUuid : Uuid) (api : UInt32)
    (slot subslot index : UInt16) (length : UInt32) (payload : List UInt8) : List UInt8 :=
  blockHeader blockType 60 1 0 ++
  (be16 seq ++
  (arUuid.val ++
  (be32 api ++
  (be16 slot ++
  (be16 subslot ++
  (be16 0 ++ -- padding1
  (be16 index ++
  (be32 length ++
  (List.replicate 16 0 ++ -- target_ar_uuid
  (List.replicate 8 0 ++ -- padding2
  payload))))))))))

/-- `iod_read_request`: the header and no payload. -/
def iodReadRequest (arUuid : Uuid) (api : UInt32) (slot subslot index : UInt16)
    (length : UInt32) : List UInt8 :=
  pniodHeader iodReadRequestHeader 0 arUuid api slot subslot index length []

/-- `iod_write_request`: the header and the data. -/
def iodWriteRequest (arUuid : Uuid) (api : UInt32) (slot subslot index : UInt16)
    (payload : List UInt8) : List UInt8 :=
  pniodHeader iodWriteRequestHeader 0 arUuid api slot subslot index
    (UInt32.ofNat payload.length) payload

/-! ## Multiple write -/

/-- One record of a multiple write (`MultiWrite`). -/
structure MultiWrite where
  api : UInt32
  slot : UInt16
  subslot : UInt16
  index : UInt16
  data : List UInt8
  deriving DecidableEq, Repr

/-- Bytes from a length to the next multiple of four, `(4 - n % 4) % 4`. -/
def padTo4 (n : Nat) : Nat := (4 - n % 4) % 4

/-- The blocks of the records from number `i` on, each padded unless it is the last. -/
def multiWriteBlocks (arUuid : Uuid) : Nat → List MultiWrite → List UInt8
  | _, [] => []
  | i, w :: rest =>
    let block := pniodHeader iodWriteRequestHeader (UInt16.ofNat i) arUuid w.api w.slot w.subslot
      w.index (UInt32.ofNat w.data.length) w.data
    let pad := if rest.isEmpty then 0 else padTo4 block.length
    block ++ (List.replicate pad 0 ++ multiWriteBlocks arUuid (i + 1) rest)

/-- `iod_write_multiple_payload`: the outer header and the nested writes. -/
def iodWriteMultiplePayload (arUuid : Uuid) (seqNum : UInt16) (writes : List MultiWrite) :
    List UInt8 :=
  let blocks := multiWriteBlocks arUuid 0 writes
  pniodHeader iodWriteRequestHeader seqNum arUuid 0xFFFFFFFF 0xFFFF 0xFFFF iodWriteMultipleIndex
    (UInt32.ofNat blocks.length) [] ++ blocks

/-- What the device says of one record of a multiple write. -/
structure WriteMultipleResult where
  seqNum : UInt16
  api : UInt32
  slot : UInt16
  subslot : UInt16
  index : UInt16
  status : UInt32
  additionalValue1 : UInt16
  additionalValue2 : UInt16
  deriving DecidableEq, Repr

/-- The entries of a response, from where the loop stands to the end of the record. -/
def writeResults (body : List UInt8) : List WriteMultipleResult :=
  if 56 ≤ body.length then
    if rdU16 body 0 false = iodWriteResponseHeader then
      let blockSize := 4 + (rdU16 body 2 false).toNat
      { seqNum := rdU16 body 6 false
        api := rdU32 body 24 false
        slot := rdU16 body 28 false
        subslot := rdU16 body 30 false
        index := rdU16 body 34 false
        status := rdU32 body 44 false
        additionalValue1 := rdU16 body 40 false
        additionalValue2 := rdU16 body 42 false } ::
      writeResults (body.drop (blockSize + padTo4 blockSize))
    else []
  else []
  termination_by body.length
  decreasing_by
    rw [List.length_drop]
    omega

/-- `parse_write_multiple_response`: the results behind the outer header. -/
def parseWriteMultipleResponse (data : List UInt8) : List WriteMultipleResult :=
  if data.length < 64 then []
  else
    let recordLen := (rdU32 data 36 false).toNat
    writeResults ((data.take (64 + recordLen)).drop 64)

/-! ## Lengths -/

@[simp] theorem blockHeader_length (t l : UInt16) (a b : UInt8) :
    (blockHeader t l a b).length = 6 := rfl

/-- A record is its 64-byte header and its payload. -/
@[simp] theorem pniodHeader_length (blockType seq : UInt16) (arUuid : Uuid) (api : UInt32)
    (slot subslot index : UInt16) (length : UInt32) (payload : List UInt8) :
    (pniodHeader blockType seq arUuid api slot subslot index length payload).length
      = 64 + payload.length := by
  simp only [pniodHeader, List.length_append, blockHeader_length, be16_length, be32_length,
    List.length_replicate, arUuid.property]
  omega

end Profinet.Blocks
