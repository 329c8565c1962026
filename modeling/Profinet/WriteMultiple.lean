/-
  WRITE MULTIPLE: what a device reads of a multiple write.

  The request carries its blocks inside a record with index 0xE040.  `iodWriteMultiplePayload` builds
  that record, and `writeMultipleRequest` puts the whole of it as data into one more record of that
  index, so that two headers stand in front of the first block:

      NRD payload   header 0xE040   header 0xE040   block   pad   block   …   block

  `writeBlocks` is the walk over the blocks, the one `writeResults` makes over the answer.  It finds
  the writes behind the second header (`write_multiple_request_blocks`); behind the first one it
  finds a single write, which is the second record (`writeBlocks_nested`).
-/
import Profinet.Transport

namespace Profinet.Transport

open Wire Blocks

/-! ## The walk -/

/-- The records of a body and their sequence numbers: blocks of type 0x0008, each as long as it
    declares and padded to four bytes, up to the end. -/
def writeBlocks (body : List UInt8) : Option (List (MultiWrite × Nat)) :=
  if 0 < body.length then
    match parseIodHeader body with
    | .error _ => none
    | .ok iod =>
      let size := 64 + iod.length.toNat
      if iod.blockType = iodWriteRequestHeader ∧ iod.blockLength = 60 ∧ size ≤ body.length then
        (writeBlocks (body.drop (size + padTo4 size))).map
          ((⟨iod.api, iod.slot, iod.subslot, iod.index, iod.payload.take iod.length.toNat⟩,
            iod.sequenceNumber.toNat) :: ·)
      else none
  else some []
  termination_by body.length
  decreasing_by
    rw [List.length_drop]
    omega

/-- Length of the blocks of these writes: all but the last are padded. -/
def blocksLength : List MultiWrite → Nat
  | [] => 0
  | [w] => 64 + w.data.length
  | w :: rest => 64 + w.data.length + padTo4 w.data.length + blocksLength rest

/-- The NRD payload of a request datagram. -/
def nrdPayload (datagram : List UInt8) : Option (List UInt8) := do
  let hdr ← parseRpcHeader datagram
  let nrd ← (parseNrd hdr.payload hdr.isLittleEndian).toOption
  pure nrd.payload

/-- `record` is one IODWriteReq of index 0xE040, and `iod` what its header says; the length it
    declares is that of the bytes behind the header. -/
structure WriteMultipleHeader (record : List UInt8) (iod : ParsedIod) : Prop where
  parse : parseIodHeader record = .ok iod
  blockType : iod.blockType = iodWriteRequestHeader
  index : iod.index = iodWriteMultipleIndex
  length : iod.length.toNat = iod.payload.length

/-! ## A header reads back -/

theorem pniodHeader_append (blockType seq : UInt16) (arUuid : Uuid) (api : UInt32)
    (slot subslot index : UInt16) (length : UInt32) (payload more : List UInt8) :
    pniodHeader blockType seq arUuid api slot subslot index length payload ++ more
      = pniodHeader blockType seq arUuid api slot subslot index length (payload ++ more) := by
  simp only [pniodHeader, List.append_assoc]

theorem parseIodHeader_pniodHeader (blockType seq : UInt16) (arUuid : Uuid) (api : UInt32)
    (slot subslot index : UInt16) (length : UInt32) (payload : List UInt8) :
    parseIodHeader (pniodHeader blockType seq arUuid api slot subslot index length payload)
      = .ok ⟨blockType, 60, seq, arUuid, api, slot, subslot, index, length, payload⟩ := by
  have hlen := pniodHeader_length blockType seq arUuid api slot subslot index length payload
  obtain ⟨data, hdata⟩ : ∃ data,
      data = pniodHeader blockType seq arUuid api slot subslot index length payload := ⟨_, rfl⟩
  rw [← hdata] at hlen ⊢
  -- each field starts where the one before it ends
  have h0 := congrArg (List.drop 0) hdata
  simp only [pniodHeader, blockHeader, List.append_assoc] at h0
  have h2 : data.drop 2 = _ := drop_field h0 rfl
  have h4 : data.drop 4 = _ := drop_field h2 rfl
  have h6 : data.drop 6 = _ := drop_field h4 rfl
  have h8 : data.drop 8 = _ := drop_field h6 rfl
  have h24 : data.drop 24 = _ := drop_field h8 arUuid.property
  have h28 : data.drop 28 = _ := drop_field h24 rfl
  have h30 : data.drop 30 = _ := drop_field h28 rfl
  have h32 : data.drop 32 = _ := drop_field h30 rfl
  have h34 : data.drop 34 = _ := drop_field h32 rfl
  have h36 : data.drop 36 = _ := drop_field h34 rfl
  have h40 : data.drop 40 = _ := drop_field h36 rfl
  have h56 : data.drop 56 = _ := drop_field h40 List.length_replicate
  have h64 : data.drop 64 = _ := drop_field h56 List.length_replicate
  unfold parseIodHeader
  rw [if_neg (by omega), rdU16_be h0, rdU16_be h2, rdU16_be h6, bytesAt_of_drop h8, rdU32_be h24,
    rdU16_be h28, rdU16_be h30, rdU16_be h34, rdU32_be h36, h64]

/-! ## The walk reads the blocks back -/

/-- One block: its write, and the walk over what stands behind the padding. -/
theorem writeBlocks_block (seq : UInt16) (arUuid : Uuid) (w : MultiWrite)
    (hdata : w.data.length < 2 ^ 32) (more : List UInt8) :
    writeBlocks (pniodHeader iodWriteRequestHeader seq arUuid w.api w.slot w.subslot w.index
        (UInt32.ofNat w.data.length) w.data ++ more)
      = (writeBlocks (more.drop (padTo4 (64 + w.data.length)))).map ((w, seq.toNat) :: ·) := by
  have hdeclared : (UInt32.ofNat w.data.length).toNat = w.data.length := UInt32.toNat_ofNat_of_lt' hdata
  have hlen := pniodHeader_length iodWriteRequestHeader seq arUuid w.api w.slot w.subslot w.index
    (UInt32.ofNat w.data.length) (w.data ++ more)
  have hbehind := pniodHeader_length iodWriteRequestHeader seq arUuid w.api w.slot w.subslot w.index
    (UInt32.ofNat w.data.length) w.data
  rw [List.length_append] at hlen
  rw [writeBlocks, pniodHeader_append, if_pos (by omega), parseIodHeader_pniodHeader]
  dsimp only
  rw [hdeclared, if_pos ⟨rfl, rfl, by omega⟩, List.take_left, ← pniodHeader_append,
    ← List.drop_drop, drop_append_exact hbehind]

theorem padTo4_add_sixtyfour (n : Nat) : padTo4 (64 + n) = padTo4 n := by
  unfold padTo4
  omega

theorem blocksLength_cons_cons (w w' : MultiWrite) (rest : List MultiWrite) :
    blocksLength (w :: w' :: rest)
      = 64 + w.data.length + padTo4 w.data.length + blocksLength (w' :: rest) := rfl

/-- The blocks are as long as their writes say, wherever the numbering starts. -/
theorem multiWriteBlocks_length (arUuid : Uuid) (i : Nat) (writes : List MultiWrite) :
    (multiWriteBlocks arUuid i writes).length = blocksLength writes := by
  induction writes generalizing i with
  | nil => rfl
  | cons w rest ih =>
    rw [multiWriteBlocks, List.length_append, List.length_append, List.length_replicate, pniodHeader_length, ih]
    cases rest with
    | nil => rfl
    | cons w' rest =>
      rw [List.isEmpty_cons, if_neg Bool.false_ne_true, padTo4_add_sixtyfour,
        blocksLength_cons_cons]
      omega

/-- Every write is shorter than the blocks of all. -/
theorem blocksLength_cons (w : MultiWrite) (rest : List MultiWrite) :
    64 + w.data.length + blocksLength rest ≤ blocksLength (w :: rest) := by
  cases rest with
  | nil => exact Nat.le_refl _
  | cons w' rest =>
    rw [blocksLength_cons_cons]
    omega

/-- **The walk finds the writes**, numbered from `i` on. -/
theorem writeBlocks_multiWriteBlocks (arUuid : Uuid) {writes : List MultiWrite} {i : Nat}
    (hcount : i + writes.length ≤ 65536) (hlen : blocksLength writes < 2 ^ 32) :
    writeBlocks (multiWriteBlocks arUuid i writes) = some (writes.zipIdx i) := by
  induction writes generalizing i with
  | nil =>
    rw [multiWriteBlocks, writeBlocks]
    rfl
  | cons w rest ih =>
    have hw := blocksLength_cons w rest
    rw [List.length_cons] at hcount
    have hnumber : (UInt16.ofNat i).toNat = i := UInt16.toNat_ofNat_of_lt' (by unfold UInt16.size; omega)
    rw [multiWriteBlocks, writeBlocks_block _ _ _ (by omega), hnumber, List.zipIdx_cons]
    have hmore := ih (i := i + 1) (by omega) (by omega)
    -- the last block has no padding, and nothing behind it
    cases rest with
    | nil =>
      rw [List.isEmpty_nil, if_pos rfl, List.replicate_zero, List.nil_append, multiWriteBlocks,
        List.drop_nil, writeBlocks]
      rfl
    | cons w' rest =>
      rw [List.isEmpty_cons, if_neg Bool.false_ne_true, pniodHeader_length,
        drop_append_exact List.length_replicate, hmore]
      rfl

/-! ## The request -/

section Request

variable (objectUuid ifaceUuid activityUuid arUuid : Uuid) (seq : UInt32)
variable {writes : List MultiWrite}

theorem nrdPayload_rpcRequest (operation : UInt16) (record : List UInt8) :
    nrdPayload (Rpc.rpcRequest objectUuid ifaceUuid activityUuid seq operation (Rpc.nrd record))
      = some record := by
  unfold nrdPayload
  rw [parseRpcHeader_rpcRequest]
  show (do let nrd ← (parseNrd (Rpc.nrd record) false).toOption; pure nrd.payload) = some record
  rw [nrd_eq, parseNrd_nrdBytes]
  rfl

/-- The record of the request: a header, and the record of the builder as its data. -/
theorem nrdPayload_writeMultipleRequest (writes : List MultiWrite) :
    nrdPayload (Rpc.writeMultipleRequest objectUuid ifaceUuid activityUuid arUuid seq writes)
      = some (iodWriteRequest arUuid 0xFFFFFFFF 0xFFFF 0xFFFF iodWriteMultipleIndex
          (iodWriteMultiplePayload arUuid 0 writes)) := by
  unfold Rpc.writeMultipleRequest
  exact nrdPayload_rpcRequest ..

theorem iodWriteMultiplePayload_eq (arUuid : Uuid) (seqNum : UInt16) (writes : List MultiWrite) :
    iodWriteMultiplePayload arUuid seqNum writes
      = pniodHeader iodWriteRequestHeader seqNum arUuid 0xFFFFFFFF 0xFFFF 0xFFFF
          iodWriteMultipleIndex (UInt32.ofNat (blocksLength writes))
          (multiWriteBlocks arUuid 0 writes) := by
  unfold iodWriteMultiplePayload
  dsimp only
  rw [pniodHeader_append, List.nil_append, multiWriteBlocks_length]

theorem iodWriteMultiplePayload_length (arUuid : Uuid) (seqNum : UInt16)
    (writes : List MultiWrite) :
    (iodWriteMultiplePayload arUuid seqNum writes).length = 64 + blocksLength writes := by
  rw [iodWriteMultiplePayload_eq, pniodHeader_length, multiWriteBlocks_length]

/-- A record of index 0xE040 whose data fits a 32-bit length. -/
theorem writeMultipleHeader_of (seqNum : UInt16) (arUuid : Uuid) (api : UInt32)
    (slot subslot : UInt16) {data : List UInt8} (hdata : data.length < 2 ^ 32) :
    WriteMultipleHeader
      (pniodHeader iodWriteRequestHeader seqNum arUuid api slot subslot iodWriteMultipleIndex
        (UInt32.ofNat data.length) data)
      ⟨iodWriteRequestHeader, 60, seqNum, arUuid, api, slot, subslot, iodWriteMultipleIndex,
        UInt32.ofNat data.length, data⟩ where
  parse := parseIodHeader_pniodHeader ..
  blockType := rfl
  index := rfl
  length := UInt32.toNat_ofNat_of_lt' hdata

/-- **A multiple write is the list of its writes**, behind two headers: the record of the builder
    is the data of one more record, and both declare what follows them. -/
theorem write_multiple_request_blocks (hcount : writes.length ≤ 65535)
    (hlen : 64 + blocksLength writes < 2 ^ 32) :
    ∃ record outer inner,
      nrdPayload (Rpc.writeMultipleRequest objectUuid ifaceUuid activityUuid arUuid seq writes)
        = some record
      ∧ WriteMultipleHeader record outer ∧ WriteMultipleHeader outer.payload inner
      ∧ inner.sequenceNumber = 0 ∧ writeBlocks inner.payload = some writes.zipIdx := by
  have hblocks := multiWriteBlocks_length arUuid 0 writes
  have hpayload := iodWriteMultiplePayload_length arUuid 0 writes
  have hinnerFits : (multiWriteBlocks arUuid 0 writes).length < 2 ^ 32 := by omega
  have houterFits : (iodWriteMultiplePayload arUuid 0 writes).length < 2 ^ 32 := by omega
  have hinner := writeMultipleHeader_of 0 arUuid 0xFFFFFFFF 0xFFFF 0xFFFF hinnerFits
  have houter := writeMultipleHeader_of 0 arUuid 0xFFFFFFFF 0xFFFF 0xFFFF houterFits
  rw [hblocks, ← iodWriteMultiplePayload_eq] at hinner
  exact ⟨_, _, _, nrdPayload_writeMultipleRequest objectUuid ifaceUuid activityUuid arUuid seq writes,
    houter, hinner, rfl, writeBlocks_multiWriteBlocks arUuid (by omega) (by omega)⟩

/-- A write of that data. -/
def benchWrite (data : List UInt8) : MultiWrite := ⟨0, 1, 1, 0x1234, data⟩

/-- Three writes, the second without data. -/
theorem write_multiple_request_blocks_three :
    ∃ record outer inner,
      nrdPayload (Rpc.writeMultipleRequest (Rpc.objectUuid 0 1 0 0x2A) Rpc.ifaceUuidDevice
          Rpc.ifaceUuidDevice Rpc.ifaceUuidDevice 7
          [benchWrite [1, 2, 3], benchWrite [], benchWrite [4]])
        = some record
      ∧ WriteMultipleHeader record outer ∧ WriteMultipleHeader outer.payload inner
      ∧ inner.sequenceNumber = 0
      ∧ writeBlocks inner.payload
          = some [(benchWrite [1, 2, 3], 0), (benchWrite [], 1), (benchWrite [4], 2)] :=
  write_multiple_request_blocks _ _ _ _ 7 (by decide) (by decide)

/-- Behind the first header the walk finds one write: the second record, with all the blocks. -/
theorem writeBlocks_nested {arUuid : Uuid} (hlen : blocksLength writes < 2 ^ 32) :
    writeBlocks (iodWriteMultiplePayload arUuid 0 writes)
      = some [(⟨0xFFFFFFFF, 0xFFFF, 0xFFFF, iodWriteMultipleIndex,
          multiWriteBlocks arUuid 0 writes⟩, 0)] := by
  have hblocks := multiWriteBlocks_length arUuid 0 writes
  have hwalk := writeBlocks_block 0 arUuid ⟨0xFFFFFFFF, 0xFFFF, 0xFFFF, iodWriteMultipleIndex,
    multiWriteBlocks arUuid 0 writes⟩ (hblocks ▸ hlen) []
  dsimp only at hwalk
  rw [List.append_nil, List.drop_nil, hblocks, ← iodWriteMultiplePayload_eq] at hwalk
  rw [hwalk, writeBlocks]
  rfl

end Request

/-! ## Two headers, not one -/

/-- `record` is one header of index 0xE040, and behind it these writes. -/
def ListsWrites (record : List UInt8) (writes : List MultiWrite) : Prop :=
  ∃ iod, WriteMultipleHeader record iod ∧ writeBlocks iod.payload = some writes.zipIdx

/-- One write of the bench, as a datagram. -/
def benchWriteMultiple (data : List UInt8) : List UInt8 :=
  Rpc.writeMultipleRequest (Rpc.objectUuid 0 1 0 0x2A) Rpc.ifaceUuidDevice Rpc.ifaceUuidDevice
    Rpc.ifaceUuidDevice 1 [benchWrite data]

/-- The one header there is says what its data is. -/
theorem benchWriteMultiple_header {data record : List UInt8} {iod : ParsedIod}
    (hrecord : nrdPayload (benchWriteMultiple data) = some record)
    (hiod : WriteMultipleHeader record iod) :
    iod.payload = iodWriteMultiplePayload Rpc.ifaceUuidDevice 0 [benchWrite data]
      ∧ iod.length = UInt32.ofNat (128 + data.length) := by
  unfold benchWriteMultiple at hrecord
  rw [nrdPayload_writeMultipleRequest] at hrecord
  obtain rfl := Option.some.inj hrecord
  have hparse := hiod.parse
  unfold iodWriteRequest at hparse
  rw [parseIodHeader_pniodHeader] at hparse
  obtain rfl := Except.ok.inj hparse
  refine ⟨rfl, ?_⟩
  dsimp only
  rw [iodWriteMultiplePayload_length]
  show UInt32.ofNat (64 + (64 + data.length)) = _
  rw [← Nat.add_assoc]

/-- A single write of one byte is not what stands behind the header; and a write of 2³² bytes has
    no header that declares what follows. -/
theorem write_multiple_request_nested :
    ¬ (∃ record, nrdPayload (benchWriteMultiple [0xAA]) = some record
        ∧ ListsWrites record [benchWrite [0xAA]])
    ∧ ¬ (∃ record iod, nrdPayload (benchWriteMultiple (List.replicate (2 ^ 32) 0)) = some record
        ∧ WriteMultipleHeader record iod) := by
  constructor
  · rintro ⟨record, hrecord, iod, hiod, hwalk⟩
    rw [(benchWriteMultiple_header hrecord hiod).1, writeBlocks_nested (by decide)] at hwalk
    have hindex := congrArg (Option.map fun l => l.map fun entry => entry.1.index) hwalk
    exact absurd hindex (by decide)
  · rintro ⟨record, iod, hrecord, hiod⟩
    obtain ⟨hpayload, hdeclared⟩ := benchWriteMultiple_header hrecord hiod
    have hlength := hiod.length
    rw [hpayload, hdeclared, iodWriteMultiplePayload_length, List.length_replicate] at hlength
    have hblocks (data : List UInt8) : blocksLength [benchWrite data] = 64 + data.length := rfl
    rw [hblocks, List.length_replicate] at hlength
    exact absurd hlength (by decide)

end Profinet.Transport
