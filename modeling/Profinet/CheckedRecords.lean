/-
  CHECKED RECORDS: the parsers of RPC bodies, with the checks of the language.

  `Transport`, `ConnectResponse`, `Blocks` and `ProcessImage` describe these functions as total
  ones, over the bytes from where a loop stands.  Here each stands as the source has it, on offsets
  into one buffer, with every index and every sum checked; and each returns what the total function
  says (`.._ok`), for every buffer.
-/
import Profinet.ConnectResponse
import Profinet.Lib.CountedLoop
import Profinet.ProcessImage

namespace Profinet.Transport

open Wire Checked Counted

/-! ## Headers

  Each header parser tests the length first, so every index behind the test is within the
  buffer. -/

/-- `parse_rpc_header` with its checks. -/
def parseRpcHeaderChecked (data : List UInt8) : Comp (Option ParsedRpc) := do
  if data.length < 80 then
    return none
  let le := drepLittleEndian (← index data 4)
  return some
    { version := ← index data 0
      packetType := ← index data 1
      flags1 := ← index data 2
      flags2 := ← index data 3
      drep := ← arrayAt 3 data 4
      serialHigh := ← index data 7
      objectUuid := ← arrayAt 16 data 8
      interfaceUuid := ← arrayAt 16 data 24
      activityUuid := ← arrayAt 16 data 40
      serverBootTime := ← u32At data 56 le
      interfaceVersion := ← u32At data 60 le
      sequenceNumber := ← u32At data 64 le
      operationNumber := ← u16At data 68 le
      interfaceHint := ← u16At data 70 le
      activityHint := ← u16At data 72 le
      lengthOfBody := ← u16At data 74 le
      fragmentNumber := ← u16At data 76 le
      authProtocol := ← index data 78
      serialLow := ← index data 79
      isLittleEndian := le
      payload := ← sliceFrom data 80 }

/-- `parse_nrd` with its checks. -/
def parseNrdChecked (data : List UInt8) (littleEndian : Bool) :
    Comp (Except String ParsedNrd) := do
  if data.length < 20 then
    return .error ("NRD header too short (" ++ toString data.length ++ " bytes)")
  return .ok
    { argsStatus := ← u32At data 0 littleEndian
      argsLength := ← u32At data 4 littleEndian
      maximumCount := ← u32At data 8 littleEndian
      offset := ← u32At data 12 littleEndian
      actualCount := ← u32At data 16 littleEndian
      payload := ← sliceFrom data 20 }

/-- `parse_iod_header` with its checks. -/
def parseIodHeaderChecked (data : List UInt8) : Comp (Except String ParsedIod) := do
  if data.length < 64 then
    return .error ("IOD header too short (" ++ toString data.length ++ " bytes)")
  return .ok
    { arUuid := ← arrayAt 16 data 8
      blockType := ← u16At data 0 false
      blockLength := ← u16At data 2 false
      sequenceNumber := ← u16At data 6 false
      api := ← u32At data 24 false
      slot := ← u16At data 28 false
      subslot := ← u16At data 30 false
      index := ← u16At data 34 false
      length := ← u32At data 36 false
      payload := ← sliceFrom data 64 }

section Headers

variable {data : List UInt8} (hdata : data.length < 2 ^ 63)
include hdata

/-- The checked RPC header parser is the one over lists. -/
theorem parseRpcHeaderChecked_ok : parseRpcHeaderChecked data = .ok (parseRpcHeader data) := by
  unfold parseRpcHeaderChecked parseRpcHeader
  by_cases hshort : data.length < 80
  · rw [if_pos hshort, if_pos hshort]
    rfl
  · rw [if_neg hshort, if_neg hshort]
    simp (disch := omega) only [index_ok, arrayAt_ok hdata, u32At_ok hdata, u16At_ok hdata,
      sliceFrom_ok, ok_bind]
    rfl

/-- The checked NDR header parser is the one over lists. -/
theorem parseNrdChecked_ok (littleEndian : Bool) :
    parseNrdChecked data littleEndian = .ok (parseNrd data littleEndian) := by
  unfold parseNrdChecked parseNrd
  by_cases hshort : data.length < 20
  · rw [if_pos hshort, if_pos hshort]
    rfl
  · rw [if_neg hshort, if_neg hshort]
    simp (disch := omega) only [u32At_ok hdata, sliceFrom_ok, ok_bind]
    rfl

/-- The checked IOD header parser is the one over lists. -/
theorem parseIodHeaderChecked_ok : parseIodHeaderChecked data = .ok (parseIodHeader data) := by
  unfold parseIodHeaderChecked parseIodHeader
  by_cases hshort : data.length < 64
  · rw [if_pos hshort, if_pos hshort]
    rfl
  · rw [if_neg hshort, if_neg hshort]
    simp (disch := omega) only [arrayAt_ok hdata, u32At_ok hdata, u16At_ok hdata, sliceFrom_ok,
      ok_bind]
    rfl

end Headers

/-! ## The blocks of a connect response

  The scans move by the length of each block, a word.  An offset stays within a word of the end of
  the buffer, which is all that the sums need; the nested counts are bounded by `stop` in the same
  way. -/

/-- The loop of `parse_iocr_block_res`, from an offset on. -/
def iocrBlockResFrom (responseData : List UInt8) (iocrType : UInt16) (offset : Nat) :
    Comp UInt16 := do
  let head ← add offset 6
  if head ≤ responseData.length then
    let blockType ← u16At responseData offset false
    let blockLength := (← u16At responseData (← add offset 2) false).toNat
    let whole ← add offset 12
    if blockType = iocrBlockRes ∧ whole ≤ responseData.length then
      let resType ← u16At responseData (← add offset 6) false
      if resType = iocrType then u16At responseData (← add offset 10) false
      else
        let next ← add offset (4 + blockLength)
        iocrBlockResFrom responseData iocrType next
    else
      let next ← add offset (4 + blockLength)
      iocrBlockResFrom responseData iocrType next
  else return 0
  termination_by responseData.length - offset
  decreasing_by
    all_goals
      have := head.2
      have := next.2
      omega

/-- `parse_iocr_block_res` with its checks. -/
def parseIocrBlockResChecked (responseData : List UInt8) (iocrType : UInt16) : Comp UInt16 :=
  iocrBlockResFrom responseData iocrType 0

/-- One round of the loop over the submodules of a module. -/
def submoduleAt (responseData : List UInt8) (stop : Nat) (slot : UInt16) (p : Nat) :
    Comp (Option (List SubmoduleDiff × Nat)) := do
  let next ← add p 8
  if stop < next then
    return none
  let subslot ← u16At responseData p false
  let submoduleIdent ← u32At responseData (← add p 2) false
  let state ← u16At responseData (← add p 6) false
  return some ([{ slot, subslot, submoduleIdent, state }], next)

/-- One round of the loop over modules. -/
def moduleAt (responseData : List UInt8) (stop p : Nat) :
    Comp (Option (List SubmoduleDiff × Nat)) := do
  let next ← add p 10
  if stop < next then
    return none
  let slot ← u16At responseData p false
  let submodules ← u16At responseData (← add p 8) false
  return some (← countedFrom (submoduleAt responseData stop slot) submodules.toNat next)

/-- One round of the loop over APIs. -/
def apiAt (responseData : List UInt8) (stop p : Nat) :
    Comp (Option (List SubmoduleDiff × Nat)) := do
  let next ← add p 6
  if stop < next then
    return none
  let modules ← u16At responseData (← add p 4) false
  return some (← countedFrom (moduleAt responseData stop) modules.toNat next)

/-- The submodules of the ModuleDiffBlock at `offset`. -/
def moduleDiffAt (responseData : List UInt8) (offset blockLength : Nat) :
    Comp (List SubmoduleDiff) := do
  let blockEnd ← add offset (4 + blockLength)
  let stop := min blockEnd.val responseData.length
  let p ← add offset 6
  let first ← add p 2
  if first ≤ stop then
    let apis ← u16At responseData p false
    return (← countedFrom (apiAt responseData stop) apis.toNat first).1
  else return []

/-- The loop of `parse_module_diff_block`, from an offset on. -/
def moduleDiffFrom (responseData : List UInt8) (offset : Nat) : Comp (List SubmoduleDiff) := do
  let head ← add offset 6
  if head ≤ responseData.length then
    let blockType ← u16At responseData offset false
    let blockLength := (← u16At responseData (← add offset 2) false).toNat
    let found ←
      if blockType = moduleDiffBlock then moduleDiffAt responseData offset blockLength
      else pure []
    let next ← add offset (4 + blockLength)
    return found ++ (← moduleDiffFrom responseData next)
  else return []
  termination_by responseData.length - offset
  decreasing_by
    have := head.2
    have := next.2
    omega

/-- `parse_module_diff_block` with its checks. -/
def parseModuleDiffBlockChecked (responseData : List UInt8) : Comp (List SubmoduleDiff) :=
  moduleDiffFrom responseData 0

/-- `parse_connect_response` with its checks. -/
def parseConnectResponseChecked (rpcPayload : List UInt8) (littleEndian : Bool) :
    Comp (Except String ConnectResult) := do
  match ← parseNrdChecked rpcPayload littleEndian with
  | .error e => return .error e
  | .ok nrd =>
    if nrd.argsStatus ≠ 0 then
      return .error ("Connect rejected by device: PNIO status " ++ pnioStatusStr nrd.argsStatus)
    let diffs ← parseModuleDiffBlockChecked nrd.payload
    let withheld := diffs.filter fun d => !d.isOurs
    if withheld ≠ [] then
      return .error (withheldMessage withheld)
    let inputFrameId ← parseIocrBlockResChecked nrd.payload 1
    let outputFrameId ← parseIocrBlockResChecked nrd.payload 2
    return .ok
      { inputFrameId := inputFrameId
        outputFrameId := outputFrameId
        hasCyclic := inputFrameId ≠ 0 || outputFrameId ≠ 0 }

section Blocks

variable {data : List UInt8} (hdata : data.length < 2 ^ 63)
include hdata

/-- From any offset the checked IOCR scan is the one over lists. -/
theorem iocrBlockResFrom_ok (iocrType : UInt16) {offset : Nat}
    (hoff : offset ≤ data.length + 65540) :
    iocrBlockResFrom data iocrType offset = .ok (parseIocrBlockRes (data.drop offset) iocrType) := by
  unfold iocrBlockResFrom
  rw [parseIocrBlockRes, add_ok (by omega), List.length_drop]
  simp only [ok_bind]
  by_cases hhead : offset + 6 ≤ data.length
  · have hlen := (rdU16 data (offset + 2) false).toNat_lt
    rw [if_pos hhead, if_pos (by omega), u16At_ok hdata (by omega), add_ok (by omega),
      add_ok (by omega)]
    simp only [ok_bind, rdU16_drop, List.drop_drop, Nat.add_zero]
    rw [u16At_ok hdata (by omega)]
    simp only [ok_bind]
    -- the rest is the rest of the list, at a later offset
    have hgo : (do
        let next ← add offset (4 + (rdU16 data (offset + 2) false).toNat)
        iocrBlockResFrom data iocrType next) =
          .ok (parseIocrBlockRes
            (data.drop (offset + (4 + (rdU16 data (offset + 2) false).toNat))) iocrType) := by
      rw [add_ok (by omega)]
      simp only [ok_bind]
      exact iocrBlockResFrom_ok iocrType (by omega)
    -- the first IOCR response of this direction ends the scan
    by_cases hblock : rdU16 data offset false = iocrBlockRes ∧ offset + 12 ≤ data.length
    · obtain ⟨htype, hwhole⟩ := hblock
      rw [if_pos ⟨htype, hwhole⟩, add_ok (by omega)]
      simp only [ok_bind]
      rw [u16At_ok hdata (by omega)]
      simp only [ok_bind]
      by_cases hres : rdU16 data (offset + 6) false = iocrType
      · rw [if_pos hres, if_pos ⟨htype, by omega, hres⟩]
        exact u16At_ok hdata (by omega) false
      · rw [if_neg hres, if_neg (fun h => hres h.2.2), hgo]
    · rw [if_neg hblock, if_neg (fun h => hblock ⟨h.1, by omega⟩), hgo]
  · rw [if_neg hhead, if_neg (by omega)]
    rfl
  termination_by data.length - offset

/-- The checked IOCR response parser is the one over lists. -/
theorem parseIocrBlockResChecked_ok (iocrType : UInt16) :
    parseIocrBlockResChecked data iocrType = .ok (parseIocrBlockRes data iocrType) :=
  iocrBlockResFrom_ok hdata iocrType (by omega)

section Diff

variable {stop : Nat} (hstop : stop ≤ data.length)
include hstop

/-- A submodule is read the same within its bound. -/
theorem submoduleAt_agrees (slot : UInt16) :
    Agrees (submoduleAt data stop slot) (readSubmodule slot) data stop := by
  intro p hp
  unfold submoduleAt readSubmodule
  rw [add_ok (by omega), span_length hstop]
  simp only [ok_bind]
  by_cases hshort : stop < p + 8
  · rw [if_pos hshort, if_pos (by omega)]
    exact .inl ⟨rfl, rfl⟩
  · refine .inr ⟨[⟨slot, rdU16 data p false, rdU32 data (p + 2) false,
      rdU16 data (p + 6) false⟩], p + 8, by omega, ?_, ?_⟩
    · rw [if_neg hshort]
      simp (disch := omega) only [add_ok, u16At_ok hdata, u32At_ok hdata, ok_bind]
      rfl
    · rw [if_neg (by omega), rdU16_span (by omega) hstop, rdU32_span (by omega) hstop,
        rdU16_span (by omega) hstop, span_drop]
      rfl

/-- A module is read the same within its bound. -/
theorem moduleAt_agrees : Agrees (moduleAt data stop) readModule data stop := by
  intro p hp
  unfold moduleAt readModule
  rw [add_ok (by omega), span_length hstop]
  simp only [ok_bind]
  by_cases hshort : stop < p + 10
  · rw [if_pos hshort, if_pos (by omega)]
    exact .inl ⟨rfl, rfl⟩
  · rw [if_neg hshort, if_neg (by omega), rdU16_span (by omega) hstop,
      rdU16_span (by omega) hstop, span_drop]
    obtain ⟨found, p', hp', hfrom, hcounted⟩ := countedFrom_ok
      (submoduleAt_agrees hdata hstop (rdU16 data p false)) (rdU16 data (p + 8) false).toNat
      (p := p + 10) (by omega)
    refine .inr ⟨found, p', hp', ?_, congrArg some hcounted⟩
    simp (disch := omega) only [add_ok, u16At_ok hdata, ok_bind]
    rw [hfrom]
    rfl

/-- An API is read the same within its bound. -/
theorem apiAt_agrees : Agrees (apiAt data stop) readApi data stop := by
  intro p hp
  unfold apiAt readApi
  rw [add_ok (by omega), span_length hstop]
  simp only [ok_bind]
  by_cases hshort : stop < p + 6
  · rw [if_pos hshort, if_pos (by omega)]
    exact .inl ⟨rfl, rfl⟩
  · rw [if_neg hshort, if_neg (by omega), rdU16_span (by omega) hstop, span_drop]
    obtain ⟨found, p', hp', hfrom, hcounted⟩ := countedFrom_ok (moduleAt_agrees hdata hstop)
      (rdU16 data (p + 4) false).toNat (p := p + 6) (by omega)
    refine .inr ⟨found, p', hp', ?_, congrArg some hcounted⟩
    simp (disch := omega) only [add_ok, u16At_ok hdata, ok_bind]
    rw [hfrom]
    rfl

end Diff

/-- The module differences are read the same within the block. -/
theorem moduleDiffAt_ok {offset blockLength : Nat} (hoff : offset + 6 ≤ data.length)
    (hlen : blockLength < 65536) :
    moduleDiffAt data offset blockLength =
      .ok (readModuleDiff ((data.drop offset).take (4 + blockLength))) := by
  have hstop : min (offset + (4 + blockLength)) data.length ≤ data.length := Nat.min_le_right _ _
  unfold moduleDiffAt readModuleDiff
  rw [drop_take_eq_span, span_drop]
  simp (disch := omega) only [add_ok, ok_bind, span_length hstop]
  generalize min (offset + (4 + blockLength)) data.length = stop at hstop
  by_cases hfirst : offset + 6 + 2 ≤ stop
  · rw [if_pos hfirst, if_pos (by omega), rdU16_span (by omega) hstop, span_drop,
      u16At_ok hdata (by omega)]
    simp only [ok_bind]
    obtain ⟨found, p', -, hfrom, hcounted⟩ := countedFrom_ok (apiAt_agrees hdata hstop)
      (rdU16 data (offset + 6) false).toNat (p := offset + 6 + 2) hfirst
    rw [hfrom, Nat.add_zero, hcounted]
    rfl
  · rw [if_neg hfirst, if_neg (by omega)]
    rfl

/-- From any offset the checked scan for the block is the one over lists. -/
theorem moduleDiffFrom_ok {offset : Nat} (hoff : offset ≤ data.length + 65540) :
    moduleDiffFrom data offset = .ok (parseModuleDiffBlock (data.drop offset)) := by
  unfold moduleDiffFrom
  rw [parseModuleDiffBlock, add_ok (by omega), List.length_drop]
  simp only [ok_bind]
  by_cases hhead : offset + 6 ≤ data.length
  · have hlen := (rdU16 data (offset + 2) false).toNat_lt
    rw [if_pos hhead, if_pos (by omega), u16At_ok hdata (by omega), add_ok (by omega)]
    simp only [ok_bind, rdU16_drop, List.drop_drop, Nat.add_zero]
    rw [u16At_ok hdata (by omega)]
    simp only [ok_bind]
    rw [moduleDiffAt_ok hdata hhead hlen, add_ok (by omega)]
    simp only [ok_bind]
    rw [moduleDiffFrom_ok (by omega)]
    split
    · rfl
    · rfl
  · rw [if_neg hhead, if_neg (by omega)]
    rfl
  termination_by data.length - offset

/-- The checked module difference parser is the one over lists. -/
theorem parseModuleDiffBlockChecked_ok :
    parseModuleDiffBlockChecked data = .ok (parseModuleDiffBlock data) :=
  moduleDiffFrom_ok hdata (by omega)

/-- The checked CONNECT response parser is the one over lists. -/
theorem parseConnectResponseChecked_ok (littleEndian : Bool) :
    parseConnectResponseChecked data littleEndian = .ok (parseConnectResponse data littleEndian) := by
  unfold parseConnectResponseChecked parseConnectResponse
  rw [parseNrdChecked_ok hdata]
  simp only [ok_bind]
  cases hnrd : parseNrd data littleEndian with
  | error e => rfl
  | ok nrd =>
    have hpayload : nrd.payload.length < 2 ^ 63 := by
      unfold parseNrd at hnrd
      split at hnrd
      · cases hnrd
      · cases hnrd
        simp only [List.length_drop]
        omega
    simp only [ok_bind]
    by_cases hstatus : nrd.argsStatus ≠ 0
    · rw [if_pos hstatus, if_pos hstatus]
      rfl
    · rw [if_neg hstatus, if_neg hstatus, parseModuleDiffBlockChecked_ok hpayload,
        parseIocrBlockResChecked_ok hpayload, parseIocrBlockResChecked_ok hpayload]
      simp only [ok_bind]
      split
      · rfl
      · rfl

end Blocks

end Profinet.Transport

/-! ## The response to a multiple write

  An entry is a window of 56 bytes; the next one begins behind it and its padding. -/

namespace Profinet.Blocks

open Wire Checked Counted

/-- The loop of `parse_write_multiple_response`, from an offset on. -/
def writeResultsFrom (data : List UInt8) (stop offset : Nat) :
    Comp (List WriteMultipleResult) := do
  let entryEnd ← add offset 56
  if entryEnd ≤ stop then
    let entry ← slice data offset entryEnd
    if (← u16At entry 0 false) ≠ iodWriteResponseHeader then
      return []
    let result : WriteMultipleResult :=
      { seqNum := ← u16At entry 6 false
        api := ← u32At entry 24 false
        slot := ← u16At entry 28 false
        subslot := ← u16At entry 30 false
        index := ← u16At entry 34 false
        status := ← u32At entry 44 false
        additionalValue1 := ← u16At entry 40 false
        additionalValue2 := ← u16At entry 42 false }
    let blockSize ← add 4 (← u16At entry 2 false).toNat
    let next ← add offset (blockSize + padTo4 blockSize)
    return result :: (← writeResultsFrom data stop next)
  else return []
  termination_by stop - offset
  decreasing_by
    have := blockSize.2
    have := entryEnd.2
    have := next.2
    omega

/-- `parse_write_multiple_response` with its checks. -/
def parseWriteMultipleResponseChecked (data : List UInt8) : Comp (List WriteMultipleResult) := do
  if data.length < 64 then
    return []
  let recordLen := (← u32At data 36 false).toNat
  let stop ← add 64 recordLen
  writeResultsFrom data (min stop.val data.length) 64

/-- At most three bytes of padding. -/
theorem padTo4_lt (n : Nat) : padTo4 n < 4 := by
  unfold padTo4
  omega

/-- From any offset the checked write results are the ones over lists. -/
theorem writeResultsFrom_ok {data : List UInt8} (hdata : data.length < 2 ^ 63) {stop : Nat}
    (hstop : stop ≤ data.length) {offset : Nat} (hoff : offset ≤ stop + 65543) :
    writeResultsFrom data stop offset = .ok (writeResults (span data stop offset)) := by
  unfold writeResultsFrom
  rw [writeResults, add_ok (by omega), span_length hstop]
  simp only [ok_bind]
  by_cases hentry : offset + 56 ≤ stop
  -- an entry is 56 bytes whole, so every field of it is within the window
  · have hwindow : ((data.drop offset).take (offset + 56 - offset)).length = 56 := by
      rw [List.length_take, List.length_drop]
      omega
    have hread (k : Nat) (hk : k + 2 ≤ 56) :
        u16At ((data.drop offset).take (offset + 56 - offset)) k false =
          .ok (rdU16 (span data stop offset) k false) := by
      rw [u16At_ok (by omega) (by omega), rdU16_take (by omega) (by rw [List.length_drop]; omega),
        rdU16_drop, rdU16_span (by omega) hstop]
    have hread' (k : Nat) (hk : k + 4 ≤ 56) :
        u32At ((data.drop offset).take (offset + 56 - offset)) k false =
          .ok (rdU32 (span data stop offset) k false) := by
      rw [u32At_ok (by omega) (by omega), rdU32_take (by omega) (by rw [List.length_drop]; omega),
        rdU32_drop, rdU32_span (by omega) hstop]
    have hlen := (rdU16 (span data stop offset) 2 false).toNat_lt
    have hpad := padTo4_lt (4 + (rdU16 (span data stop offset) 2 false).toNat)
    rw [if_pos hentry, if_pos (by omega), slice_ok (by omega) (by omega)]
    simp (disch := omega) only [ok_bind, hread, hread', add_ok, span_drop]
    -- the next entry begins behind the padding, whatever the type of this one
    rw [writeResultsFrom_ok hdata hstop (by omega)]
    by_cases htype : rdU16 (span data stop offset) 0 false = iodWriteResponseHeader
    · rw [if_neg (not_not.mpr htype), if_pos htype]
      rfl
    · rw [if_pos htype, if_neg htype]
      rfl
  · rw [if_neg hentry, if_neg (by omega)]
    rfl
  termination_by stop - offset

/-- The entries behind the 64-byte header, up to the declared end of the record. -/
theorem writeRecord_ok {data : List UInt8} (hdata : data.length < 2 ^ 63)
    (hhead : 64 ≤ data.length) {recordLen : Nat} (hlen : recordLen < 2 ^ 32) :
    (do
      let stop ← add 64 recordLen
      writeResultsFrom data (min stop.val data.length) 64) =
      .ok (writeResults ((data.take (64 + recordLen)).drop 64)) := by
  have hread : writeResultsFrom data (min (64 + recordLen) data.length) 64 =
      .ok (writeResults (span data (64 + recordLen) 64)) := by
    rw [writeResultsFrom_ok hdata (Nat.min_le_right _ _) (by omega), span_min]
  calc _ = writeResultsFrom data (min (64 + recordLen) data.length) 64 := by
        rw [add_ok (by omega)]
        rfl
    _ = .ok (writeResults (span data (64 + recordLen) 64)) := hread
    _ = _ := rfl

/-- The checked write-multiple parser is the one over lists. -/
theorem parseWriteMultipleResponseChecked_ok {data : List UInt8} (hdata : data.length < 2 ^ 63) :
    parseWriteMultipleResponseChecked data = .ok (parseWriteMultipleResponse data) := by
  unfold parseWriteMultipleResponseChecked parseWriteMultipleResponse
  by_cases hshort : data.length < 64
  · rw [if_pos hshort, if_pos hshort]
    rfl
  · rw [if_neg hshort, if_neg hshort, u32At_ok hdata (by omega), ok_bind]
    exact writeRecord_ok hdata (by omega) (rdU32 data 36 false).toNat_lt

end Profinet.Blocks

/-! ## Process images

  Here the source itself adds with checks: `checked_add` gives `None`, which ends the parser, and
  no overflow is left to look for. -/

namespace Profinet

open Wire Checked

/-- `parse_output_control_byte` with its checks. -/
def parseOutputControlByteChecked (record : List UInt8) : Comp (Option UInt8) := do
  if record.length < 12 then
    return none
  if (← index record 0) ≠ 0x00 then
    return none
  if (← index record 1) ≠ 0x16 then
    return none
  let lenIocs := (← index record 8).toNat
  if (← u16At record 10 false) = 0 then
    return none
  let first ← add 12 lenIocs
  return record[first.val]?

/-- The checked output record parser is the one over lists. -/
theorem parseOutputControlByteChecked_ok {record : List UInt8} (hrecord : record.length < 2 ^ 63) :
    parseOutputControlByteChecked record = .ok (parseOutputControlByte record) := by
  have hlen := (record.getD 8 0).toNat_lt
  unfold parseOutputControlByteChecked parseOutputControlByte
  by_cases hshort : record.length < 12
  · rw [if_pos hshort, if_pos (.inl hshort)]
    rfl
  · rw [if_neg hshort]
    simp (disch := omega) only [index_ok, u16At_ok hrecord, add_ok, ok_bind]
    by_cases hhigh : record.getD 0 0 = 0x00
    · by_cases hlow : record.getD 1 0 = 0x16
      · have hnot : ¬(record.length < 12 ∨ record.getD 0 0 ≠ 0x00 ∨ record.getD 1 0 ≠ 0x16) := by
          tauto
        rw [if_neg (not_not.mpr hhigh), if_neg (not_not.mpr hlow), if_neg hnot]
        by_cases hnone : rdU16 record 10 false = 0
        · rw [if_pos hnone]
          exact congrArg Except.ok (if_pos hnone).symm
        · rw [if_neg hnone]
          exact congrArg Except.ok (if_neg hnone).symm
      · rw [if_neg (not_not.mpr hhigh), if_pos hlow, if_pos (.inr (.inr hlow))]
        rfl
    · rw [if_pos hhigh, if_pos (.inr (.inl hhigh))]
      rfl

/-- `statusBytesEnd` with sums that abort. -/
def statusBytesEndChecked (record : List UInt8) (pos : Nat) : Comp (Option Nat) :=
  match record[pos]? with
  | none => return none
  | some count => do
    let pos ← add pos 1
    let stop ← add pos count.toNat
    return some stop

/-- `parse_input_data_length` with a sum that aborts in the place of each `checked_add`: the source
    has none that does. -/
def parseInputDataLengthChecked (record : List UInt8) : Comp (Option Nat) := do
  match ← statusBytesEndChecked record 6 with
  | none => return none
  | some pos =>
    match ← statusBytesEndChecked record pos with
    | none => return none
    | some pos =>
      match record[pos]? with
      | none => return none
      | some high =>
        let second ← add pos 1
        match record[second.val]? with
        | none => return none
        | some low =>
          let len := (ofBe16 high low).toNat
          let data ← add pos 2
          let stop ← add data len
          if record.length < stop then return none else return some len

section InputLength

variable {record : List UInt8} (hrecord : record.length < 2 ^ 63)
include hrecord

/-- A status array that is there ends within 256 bytes of where it begins. -/
theorem statusBytesEndChecked_ok (pos : Nat) :
    statusBytesEndChecked record pos = .ok (statusBytesEnd record pos) ∧
      ∀ stop, statusBytesEnd record pos = some stop → stop ≤ record.length + 256 := by
  unfold statusBytesEndChecked statusBytesEnd
  cases hcount : record[pos]? with
  | none => exact ⟨rfl, nofun⟩
  | some count =>
    have hpos : pos < record.length := (List.getElem?_eq_some_iff.mp hcount).1
    have hbyte := count.toNat_lt
    have hfirst : checkedAdd pos 1 = some (pos + 1) := checkedAdd_eq (by omega)
    have hsecond : checkedAdd (pos + 1) count.toNat = some (pos + 1 + count.toNat) :=
      checkedAdd_eq (by omega)
    simp only [Option.bind_eq_bind, Option.bind_some, hfirst, hsecond]
    rw [add_ok (by omega)]
    simp only [ok_bind]
    rw [add_ok (by omega)]
    refine ⟨rfl, fun stop hstop => ?_⟩
    cases hstop
    omega

/-- The checked input record parser is the one over lists. -/
theorem parseInputDataLengthChecked_ok :
    parseInputDataLengthChecked record = .ok (parseInputDataLength record) := by
  -- both walks stop at the same missing byte, so the case is over as soon as one of them is
  unfold parseInputDataLengthChecked parseInputDataLength
  rw [(statusBytesEndChecked_ok hrecord 6).1]
  cases statusBytesEnd record 6 with
  | none => rfl
  | some iops =>
    simp only [ok_bind, Option.bind_eq_bind, Option.bind_some]
    rw [(statusBytesEndChecked_ok hrecord iops).1]
    cases hpos : statusBytesEnd record iops with
    | none => rfl
    | some pos =>
      have hbound := (statusBytesEndChecked_ok hrecord iops).2 pos hpos
      have hsecond : checkedAdd pos 1 = some (pos + 1) := checkedAdd_eq (by omega)
      simp only [ok_bind, Option.bind_some, hsecond]
      cases record[pos]? with
      | none => rfl
      | some high =>
        rw [add_ok (by omega)]
        simp only [ok_bind, Option.bind_some]
        cases record[pos + 1]? with
        | none => rfl
        | some low =>
          have hlen := (ofBe16 high low).toNat_lt
          have hdata : checkedAdd pos 2 = some (pos + 2) := checkedAdd_eq (by omega)
          have hstop : checkedAdd (pos + 2) (ofBe16 high low).toNat =
              some (pos + 2 + (ofBe16 high low).toNat) := checkedAdd_eq (by omega)
          simp only [Option.bind_some, hdata, hstop]
          rw [add_ok (by omega)]
          simp only [ok_bind]
          rw [add_ok (by omega)]
          simp only [ok_bind]
          split
          · rfl
          · rfl

end InputLength

end Profinet
