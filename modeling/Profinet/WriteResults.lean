/-
  WRITE RESULTS: the answer to a multiple write.

  The answer is a 64-byte header and an IODWriteRes for each write.  The source reads the first 56
  bytes of such an entry, and goes on behind the length the entry itself declares, to the next
  multiple of four.  Two bounds end the walk: the record length in the header and the end of the
  bytes.

      writeResults_entry    one entry: its result, and the walk over what follows it
      writeResults_take     of fewer bytes, the walk finds the first of the results
-/
import Profinet.Blocks

namespace Profinet.Blocks

open Wire

/-- An IODWriteRes as it stands on the wire: the fields of a result among others, and what a longer
    block holds behind them. -/
structure WriteRes where
  version : Bytes 2
  arUuid : Uuid
  result : WriteMultipleResult
  padding1 : Bytes 2
  recordDataLength : UInt32
  padding2 : Bytes 8
  more : List UInt8
  align : Bytes (padTo4 (56 + more.length))
  fits : 52 + more.length < 65536

/-- The block of an entry; its length counts what stands behind type and length. -/
def WriteRes.block (e : WriteRes) : List UInt8 :=
  be16 iodWriteResponseHeader ++
  (be16 (UInt16.ofNat (52 + e.more.length)) ++
  (e.version.val ++
  (be16 e.result.seqNum ++
  (e.arUuid.val ++
  (be32 e.result.api ++
  (be16 e.result.slot ++
  (be16 e.result.subslot ++
  (e.padding1.val ++
  (be16 e.result.index ++
  (be32 e.recordDataLength ++
  (be16 e.result.additionalValue1 ++
  (be16 e.result.additionalValue2 ++
  (be32 e.result.status ++
  (e.padding2.val ++
  e.more))))))))))))))

/-- The block and what aligns it. -/
def WriteRes.bytes (e : WriteRes) : List UInt8 := e.block ++ e.align.val

theorem WriteRes.block_length (e : WriteRes) : e.block.length = 56 + e.more.length := by
  simp only [WriteRes.block, List.length_append, be16_length, be32_length, e.version.property,
    e.arUuid.property, e.padding1.property, e.padding2.property]
  omega

/-- **One entry**: its result, and the walk over the bytes behind it. -/
theorem writeResults_entry (e : WriteRes) (rest : List UInt8) :
    writeResults (e.bytes ++ rest) = e.result :: writeResults rest := by
  have hlen := e.block_length
  have hfits := e.fits
  have hdeclared : (UInt16.ofNat (52 + e.more.length)).toNat = 52 + e.more.length :=
    UInt16.toNat_ofNat_of_lt' hfits
  have hbytes : e.bytes ++ rest = e.block ++ (e.align.val ++ rest) := List.append_assoc ..
  obtain ⟨body, hbody⟩ : ∃ body, body = e.block ++ (e.align.val ++ rest) := ⟨_, rfl⟩
  have hbodyLen : 56 ≤ body.length := by
    rw [hbody, List.length_append]
    omega
  -- each field starts where the one before it ends
  have h0 : body.drop 0 = e.block ++ (e.align.val ++ rest) := hbody
  simp only [WriteRes.block, List.append_assoc] at h0
  have h2 : body.drop 2 = _ := drop_field h0 rfl
  have h4 : body.drop 4 = _ := drop_field h2 rfl
  have h6 : body.drop 6 = _ := drop_field h4 e.version.property
  have h8 : body.drop 8 = _ := drop_field h6 rfl
  have h24 : body.drop 24 = _ := drop_field h8 e.arUuid.property
  have h28 : body.drop 28 = _ := drop_field h24 rfl
  have h30 : body.drop 30 = _ := drop_field h28 rfl
  have h32 : body.drop 32 = _ := drop_field h30 rfl
  have h34 : body.drop 34 = _ := drop_field h32 e.padding1.property
  have h36 : body.drop 36 = _ := drop_field h34 rfl
  have h40 : body.drop 40 = _ := drop_field h36 rfl
  have h42 : body.drop 42 = _ := drop_field h40 rfl
  have h44 : body.drop 44 = _ := drop_field h42 rfl
  -- the declared length ends the block, and the padding brings it to a multiple of four
  have hbehind : body.drop (4 + (52 + e.more.length) + padTo4 (4 + (52 + e.more.length)))
      = rest := by
    have hsize : 4 + (52 + e.more.length) = 56 + e.more.length := by omega
    rw [hsize, ← List.drop_drop, hbody, drop_append_exact hlen, drop_append_exact e.align.property]
  rw [hbytes, ← hbody, writeResults, if_pos hbodyLen, rdU16_be h0, if_pos rfl]
  dsimp only
  rw [rdU16_be h2, hdeclared, hbehind, rdU16_be h6, rdU32_be h24, rdU16_be h28, rdU16_be h30,
    rdU16_be h34, rdU16_be h40, rdU16_be h42, rdU32_be h44]

/-- The walk over entries, by induction on them. -/
theorem writeResults_entries (entries : List WriteRes) :
    writeResults (entries.flatMap WriteRes.bytes) = entries.map WriteRes.result := by
  induction entries with
  | nil =>
    rw [List.flatMap_nil, writeResults]
    rfl
  | cons e rest ih =>
    rw [List.flatMap_cons, writeResults_entry, ih, List.map_cons]

theorem writeResults_short {body : List UInt8} (h : body.length < 56) : writeResults body = [] := by
  rw [writeResults, if_neg (by omega)]

/-- Only a cut behind the first 56 bytes has to be looked at. -/
theorem writeResults_take_of {body : List UInt8}
    (h : ∀ n, 56 ≤ n → n ≤ body.length → writeResults (body.take n) <+: writeResults body) (n : Nat) :
    writeResults (body.take n) <+: writeResults body := by
  rcases Nat.lt_or_ge n 56 with hshort | hwhole
  · have hlen : (body.take n).length < 56 := by
      rw [List.length_take]
      omega
    rw [writeResults_short hlen]
    exact List.nil_prefix
  · rcases Nat.lt_or_ge body.length n with hpast | hinside
    · have hall : body.take n = body := List.take_of_length_le (Nat.le_of_lt hpast)
      simp only [hall, List.prefix_rfl]
    · exact h n hwhole hinside

/-- **Of fewer bytes the walk finds the first of the results**: an entry is read as a whole or not
    at all. -/
theorem writeResults_take (body : List UInt8) :
    ∀ n, writeResults (body.take n) <+: writeResults body := by
  refine writeResults.induct
    (motive := fun body => ∀ n, writeResults (body.take n) <+: writeResults body) ?_ ?_ ?_ body
  · -- an entry, and the rest of the walk
    intro body hlen htype blockSize ih
    refine writeResults_take_of ?_
    intro n hwhole hinside
    have htake : (body.take n).length = n := List.length_take_of_le hinside
    rw [writeResults, if_pos (by omega)]
    simp (disch := omega) only [rdU16_take, rdU32_take]
    rw [if_pos htype, List.drop_take]
    nth_rewrite 2 [writeResults]
    rw [if_pos hlen, if_pos htype]
    exact (List.cons_prefix_cons).mpr ⟨rfl, ih _⟩
  · -- a block of another type ends both walks
    intro body hlen htype
    refine writeResults_take_of ?_
    intro n hwhole hinside
    have htake : (body.take n).length = n := List.length_take_of_le hinside
    rw [writeResults, if_pos (by omega), rdU16_take (by omega) hinside, if_neg htype]
    exact List.nil_prefix
  · -- no room for an entry
    intro body hlen
    refine writeResults_take_of ?_
    intro n hwhole hinside
    omega

/-- The same for the whole answer, header included. -/
theorem parseWriteMultipleResponse_take (data : List UInt8) (n : Nat) :
    parseWriteMultipleResponse (data.take n) <+: parseWriteMultipleResponse data := by
  rcases Nat.lt_or_ge data.length n with hpast | hinside
  · have hall : data.take n = data := List.take_of_length_le (Nat.le_of_lt hpast)
    simp only [hall, List.prefix_rfl]
  · have hlen : (data.take n).length = n := List.length_take_of_le hinside
    unfold parseWriteMultipleResponse
    rw [hlen]
    rcases Nat.lt_or_ge n 64 with hshort | hheader
    · rw [if_pos hshort]
      exact List.nil_prefix
    · rw [if_neg (by omega), if_neg (by omega), rdU32_take (by omega) hinside]
      dsimp only
      rw [List.take_take, Nat.min_comm, ← List.take_take, List.drop_take]
      exact writeResults_take _ _

/-- **The answer to a multiple write.**  One result for each entry, in their order and with their
    fields; of an answer that is cut off anywhere, the first of them. -/
theorem write_results (header : Bytes 64) (entries : List WriteRes)
    (hcover : (entries.flatMap WriteRes.bytes).length ≤ (rdU32 header.val 36 false).toNat) :
    parseWriteMultipleResponse (header.val ++ entries.flatMap WriteRes.bytes)
        = entries.map WriteRes.result
      ∧ ∀ n, parseWriteMultipleResponse ((header.val ++ entries.flatMap WriteRes.bytes).take n)
          <+: entries.map WriteRes.result := by
  have hheader : rdU32 (header.val ++ entries.flatMap WriteRes.bytes) 36 false
      = rdU32 header.val 36 false :=
    rdU32_append (by rw [header.property]; omega) _ _
  have hwhole : parseWriteMultipleResponse (header.val ++ entries.flatMap WriteRes.bytes)
      = entries.map WriteRes.result := by
    have hlen : (header.val ++ entries.flatMap WriteRes.bytes).length
        = 64 + (entries.flatMap WriteRes.bytes).length := by
      rw [List.length_append, header.property]
    unfold parseWriteMultipleResponse
    rw [if_neg (by omega), hheader]
    dsimp only
    rw [List.take_of_length_le (by omega), drop_append_exact header.property,
      writeResults_entries]
  refine ⟨hwhole, fun n => ?_⟩
  rw [← hwhole]
  exact parseWriteMultipleResponse_take _ n

/-- A refused write in a block of 52 bytes, and a successful one whose block is three bytes longer
    and padded by one. -/
def benchResults : List WriteRes :=
  [{ version := ⟨[1, 0], rfl⟩
     arUuid := ⟨List.replicate 16 0xA0, rfl⟩
     result := ⟨0, 0, 1, 1, 0x1234, 0xDF80B000, 7, 8⟩
     padding1 := ⟨[0, 0], rfl⟩
     recordDataLength := 4
     padding2 := ⟨List.replicate 8 0, rfl⟩
     more := []
     align := ⟨[], by decide⟩
     fits := by decide },
   { version := ⟨[1, 0], rfl⟩
     arUuid := ⟨List.replicate 16 0xA0, rfl⟩
     result := ⟨1, 0, 1, 2, 0x1235, 0, 0, 0⟩
     padding1 := ⟨[0, 0], rfl⟩
     recordDataLength := 2
     padding2 := ⟨List.replicate 8 0, rfl⟩
     more := [0xAA, 0xBB, 0xCC]
     align := ⟨[0], by decide⟩
     fits := by decide }]

/-- A header that declares these 116 bytes. -/
def benchResultsHeader : Bytes 64 :=
  ⟨List.replicate 36 0 ++ be32 116 ++ List.replicate 24 0, rfl⟩

theorem write_results_two :
    parseWriteMultipleResponse (benchResultsHeader.val ++ benchResults.flatMap WriteRes.bytes)
        = benchResults.map WriteRes.result
      ∧ ∀ n, parseWriteMultipleResponse
            ((benchResultsHeader.val ++ benchResults.flatMap WriteRes.bytes).take n)
          <+: benchResults.map WriteRes.result :=
  write_results benchResultsHeader benchResults (by decide)

end Profinet.Blocks
