/-
  READ RECORD: what a read returns of the datagram that answers it.

  Four fields of a read response say how long it is: the body length of the RPC header, the actual
  count of the NRD array, the record length of the IOD header, and the fragment number with its
  flag.  `parseReadResponse` looks at none of them, and returns what stands behind the 164 bytes
  of the three headers (`parseReadResponse_ok`).

      0      RPC header     flags1 at 2, body length at 74, fragment number at 76
      80     NRD header     status at 80, actual count at 96
      100    IOD header     record length at 136
      164    the record, to the end of the datagram

  That is the record the sender declared (`Complete`) exactly for a datagram whose lengths agree
  (`read_complete`); a record cut short is returned as it is (`short_record_returned`).
-/
import Profinet.RpcSession

namespace Profinet.Transport

open Wire RpcTransport

/-! ## What a read response declares -/

/-- The byte order of a datagram. -/
def byteOrder (data : List UInt8) : Bool := drepLittleEndian (data.getD 4 0)

/-- The body length in the RPC header. -/
def declaredBody (data : List UInt8) : Nat := (rdU16 data 74 (byteOrder data)).toNat

/-- The actual count in the NDR header. -/
def declaredCount (data : List UInt8) : Nat := (rdU32 data 96 (byteOrder data)).toNat

/-- The record length in the read response. -/
def declaredRecord (data : List UInt8) : Nat := (rdU32 data 136 false).toNat

/-- The fragment flag of `flags1` is clear, and the fragment number is 0. -/
def Unfragmented (data : List UInt8) : Prop :=
  data.getD 2 0 &&& 0x04 = 0 ∧ rdU16 data 76 (byteOrder data) = 0

instance (data : List UInt8) : Decidable (Unfragmented data) :=
  inferInstanceAs (Decidable (_ ∧ _))

/-- The record that the declared lengths delimit, one inside the other. -/
def delimitedRecord (data : List UInt8) : List UInt8 :=
  let body := (data.drop 80).take (declaredBody data)
  let array := (body.drop 20).take (declaredCount data)
  (array.drop 64).take (declaredRecord data)

/-- What a returned record should be: of the declared length, out of an unfragmented response whose
    declared body is all there, and made of declared bytes only. -/
structure Complete (data record : List UInt8) : Prop where
  length : record.length = declaredRecord data
  unfragmented : Unfragmented data
  present : 80 + declaredBody data ≤ data.length
  delimited : record = delimitedRecord data

/-! ## What a read returns -/

/-- The three headers are there, and the status is 0. -/
def Readable (data : List UInt8) : Prop :=
  164 ≤ data.length ∧ rdU32 data 80 (byteOrder data) = 0

/-- The lengths of a datagram agree: the record fills the rest of it, the body is all there, and
    neither the body nor the array ends before the record does. -/
def LengthsAgree (data : List UInt8) : Prop :=
  data.length = 164 + declaredRecord data
    ∧ 80 + declaredBody data ≤ data.length
    ∧ (declaredRecord data = 0
      ∨ data.length ≤ 80 + declaredBody data ∧ data.length ≤ 100 + declaredCount data)

instance (data : List UInt8) : Decidable (LengthsAgree data) :=
  inferInstanceAs (Decidable (_ ∧ _ ∧ _))

/-- **A read returns everything behind the three headers.** -/
theorem parseReadResponse_ok {data record : List UInt8} {resp : ParsedRpc}
    (h : parseRpcHeader data = some resp) :
    parseReadResponse resp.payload resp.isLittleEndian = .ok record
      ↔ Readable data ∧ record = data.drop 164 := by
  obtain ⟨hlen, hpayload, hle, -⟩ := parseRpcHeader_some h
  have horder : resp.isLittleEndian = byteOrder data := hle
  rw [hpayload, horder]
  unfold Readable
  by_cases hnrd : data.length < 100
  · have hshort : (data.drop 80).length < 20 := by
      rw [List.length_drop]
      omega
    rw [parseReadResponse, parseNrd, if_pos hshort]
    constructor
    · intro hread
      cases hread
    · rintro ⟨⟨hlong, -⟩, -⟩
      omega
  · have hlong : ¬ (data.drop 80).length < 20 := by
      rw [List.length_drop]
      omega
    rw [parseReadResponse_of_nrd (if_neg hlong)]
    dsimp only
    rw [rdU32_drop, List.drop_drop]
    by_cases hstatus : rdU32 data 80 (byteOrder data) = 0
    · rw [if_neg (not_not.mpr hstatus), parseIodHeader, List.length_drop, List.drop_drop]
      split
      next hiod =>
        constructor
        · intro hread
          cases hread
        · rintro ⟨⟨hwhole, -⟩, -⟩
          omega
      next hiod =>
        constructor
        · intro hread
          exact ⟨⟨by omega, hstatus⟩, (Except.ok.inj hread).symm⟩
        · rintro ⟨-, rfl⟩
          rfl
    · rw [if_pos hstatus]
      constructor
      · intro hread
        cases hread
      · rintro ⟨⟨-, hzero⟩, -⟩
        exact absurd hzero hstatus

/-- The declared lengths delimit all of it exactly when none ends before the datagram does. -/
theorem delimitedRecord_whole (data : List UInt8) :
    data.drop 164 = delimitedRecord data
      ↔ data.length - 164
        ≤ min (declaredRecord data) (min (declaredCount data - 64) (declaredBody data - 84)) := by
  have hcut : delimitedRecord data
      = (data.drop 164).take (min (declaredRecord data)
          (min (declaredCount data - 64) (declaredBody data - 84))) := by
    unfold delimitedRecord
    simp only [List.drop_take, List.take_take, List.drop_drop]
    congr 1
    omega
  rw [hcut, ← List.length_drop, eq_comm, List.take_eq_self_iff]

/-- What is returned of a readable datagram is complete exactly when its lengths agree. -/
theorem complete_iff {data : List UInt8} (hread : Readable data) :
    Complete data (data.drop 164) ↔ Unfragmented data ∧ LengthsAgree data := by
  obtain ⟨hlen, -⟩ := hread
  constructor
  · rintro ⟨hlength, hfragment, hpresent, hdelimited⟩
    have hcut := (delimitedRecord_whole data).mp hdelimited
    rw [List.length_drop] at hlength
    refine ⟨hfragment, by omega, hpresent, ?_⟩
    by_cases hzero : declaredRecord data = 0
    · exact .inl hzero
    · right
      constructor <;> omega
  · rintro ⟨hfragment, hfill, hpresent, hinside⟩
    refine ⟨?_, hfragment, hpresent, (delimitedRecord_whole data).mpr ?_⟩
    · rw [List.length_drop]
      omega
    · rcases hinside with hzero | ⟨hbody, harray⟩
      · omega
      · omega

variable {T : Type} [RpcTransport T]

/-- **A read is complete or fails exactly on datagrams whose lengths agree.**  Of any queue whose
    first datagram that the loop does not pass over is the response to the read: whatever record
    the read returns is complete, if and only if the response is too short for its headers, has a
    status, or is unfragmented with lengths that agree. -/
theorem read_complete {c : RpcConn T} {build : UInt32 → List UInt8} {req : ParsedRpc}
    (hparse : parseRpcHeader (build c.sequenceNumber) = some req)
    (hsend : (sendRequest c.transport (build c.sequenceNumber)).1.isOk = true)
    {pre post : List Received} {data : List UInt8} {resp : ParsedRpc}
    (hqueue : responses c.transport = pre ++ .ok (some data) :: post)
    (hpre : ∀ r ∈ pre, ∀ e, verdict (drepNormalizedUuid req.activityUuid req.isLittleEndian)
      req.sequenceNumber (recvOutcome e r) = none)
    (hresp : parseRpcResponse data = .ok (some resp))
    (hours : isOurs (drepNormalizedUuid req.activityUuid req.isLittleEndian) req.sequenceNumber
      resp = true) :
    (∀ record, (c.sendRead build).1 = .ok record → Complete data record)
      ↔ (Readable data → Unfragmented data ∧ LengthsAgree data) := by
  have hresult : (c.sendRead build).1
      = parseReadResponse resp.payload resp.isLittleEndian := by
    rw [RpcConn.sendRead, RpcConn.call_eq,
      exchange_at hparse hsend hqueue hpre hresp hours]
  have hreturn (record : List UInt8) :
      parseReadResponse resp.payload resp.isLittleEndian = .ok record
        ↔ Readable data ∧ record = data.drop 164 :=
    parseReadResponse_ok (parseRpcResponse_ok.mp hresp).1
  constructor
  · intro hcomplete hread
    refine (complete_iff hread).mp (hcomplete _ ?_)
    rw [hresult]
    exact (hreturn _).mpr ⟨hread, rfl⟩
  · intro hagree record hok
    rw [hresult] at hok
    obtain ⟨hread, rfl⟩ := (hreturn record).mp hok
    exact (complete_iff hread).mpr (hagree hread)

/-! ## A read on the bench -/

/-- A little-endian response with a record declared to be 4 bytes long. -/
def benchRecordAnswer (record : List UInt8) : ParsedRpc :=
  benchAnswer true 0 (nrdBytes
    ⟨0, 68, 68, 0, 68, List.replicate 36 0 ++ be32 4 ++ List.replicate 24 0 ++ record⟩ true)

/-- A connection with this response to come. -/
def benchReading (record : List UInt8) : RpcConn UdpTransport :=
  { benchConn with
    transport := { benchConn.transport with
      socket := [.ok (some (rpcBytes (benchRecordAnswer record), ⟨1, 34964⟩))] } }

/-- A whole record is returned, and is complete. -/
theorem read_complete_bench :
    ((benchReading [1, 2, 3, 4]).readRaw 0xAFF0 0 1 4).1 = .ok [1, 2, 3, 4]
      ∧ Complete (rpcBytes (benchRecordAnswer [1, 2, 3, 4])) [1, 2, 3, 4] := by
  have hcoherent : true = drepLittleEndian 0x10 := by decide
  have hresp : parseRpcResponse (rpcBytes (benchRecordAnswer [1, 2, 3, 4]))
      = .ok (some (benchRecordAnswer [1, 2, 3, 4])) :=
    parseRpcResponse_ok.mpr ⟨parseRpcHeader_rpcBytes (h := benchRecordAnswer _) hcoherent, rfl⟩
  have hqueue : responses (benchReading [1, 2, 3, 4]).transport
      = [] ++ .ok (some (rpcBytes (benchRecordAnswer [1, 2, 3, 4]))) :: [] := rfl
  have hread : ((benchReading [1, 2, 3, 4]).readRaw 0xAFF0 0 1 4).1 = .ok [1, 2, 3, 4] := by
    decide +kernel
  refine ⟨hread, (read_complete (parseRpcHeader_rpcRequest _ _ _ _ _ _) rfl hqueue nofun hresp
    ?_).mpr ?_ _ hread⟩
  · decide +kernel
  · intro hreadable
    decide +kernel

/-- **A record cut short is returned**: of the 4 bytes declared the datagram holds 2, and the read
    comes back with them. -/
theorem short_record_returned :
    ((benchReading [1, 2]).readRaw 0xAFF0 0 1 4).1 = .ok [1, 2]
      ∧ ¬ Complete (rpcBytes (benchRecordAnswer [1, 2])) [1, 2] := by
  constructor
  · decide +kernel
  · rintro ⟨hlength, -, -, -⟩
    revert hlength
    decide +kernel

end Profinet.Transport
