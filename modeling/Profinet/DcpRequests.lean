/-
  DCP REQUESTS: the frames this side sends, and what a device reads in them.

      identify_all_request   one block without payload, to the multicast address
      set_request            one block: a qualifier and a value, brought to an even length
      get_request            one block without payload; DCPDataLength says two of its four bytes

  Names, IP parameters, signals and resets are SET requests with their own option, qualifier and
  value.  `readSetRequest` reads such a frame by the layout, with every length it announces.  It
  accepts exactly the frames `set_request` builds from a value that the announced lengths can hold,
  and reads what they were built from (`set_requests_read`).
-/
import Mathlib.Tactic.MkIffOfInductiveProp
import Profinet.DcpSet
import Profinet.Lib.Utf8Text

namespace Profinet.Dcp

open Wire Checked Util Utf8

/-! ## Numbers -/

/-- DCP multicast address (IEC 61158-6-10). -/
def dcpMulticastMac : Mac := ⟨[0x01, 0x0E, 0xCF, 0x00, 0x00, 0x00], rfl⟩

/-- The frame id of an Identify request. -/
def dcpIdentifyRequestFrameId : UInt16 := 0xFEFE
/-- The Get service. -/
def dcpServiceIdGet : UInt8 := 0x03
/-- The Identify service. -/
def dcpServiceIdIdentify : UInt8 := 0x05
/-- The type of a request. -/
def dcpServiceTypeRequest : UInt8 := 0x00
/-- The option that asks for all. -/
def dcpOptionAll : UInt8 := 0xFF
/-- The Signal suboption of Control. -/
def dcpSuboptionControlSignal : UInt8 := 0x03
/-- The FactoryReset suboption of Control. -/
def dcpSuboptionControlResetFactory : UInt8 := 0x05
/-- The ResetToFactory suboption of Control. -/
def dcpSuboptionControlResetToFactory : UInt8 := 0x06

/-- DCP maximum Name-of-Station length. -/
def dcpMaxNameLength : Nat := 240

/-- Identify response delay in 10 ms units. -/
def dcpResponseDelay : UInt16 := 0x0080

/-! ## Builders

  One function for each request; all but Identify and GET are SETs of one block, and so instances
  of `setRequest`. -/

/-- Ethernet header and payload. -/
def ethFrame (dst src : Mac) (ethertype : UInt16) (payload : List UInt8) : List UInt8 :=
  dst.val ++ (src.val ++ (be16 ethertype ++ payload))

/-- DCP header and payload. -/
def dcpHeader (frameId : UInt16) (serviceId serviceType : UInt8) (xid : UInt32)
    (resp length : UInt16) (payload : List UInt8) : List UInt8 :=
  be16 frameId ++ (serviceId :: serviceType :: (be32 xid ++ (be16 resp ++ (be16 length ++ payload))))

/-- Block header and payload; the caller says the length. -/
def blockRequest (option suboption : UInt8) (length : UInt16) (payload : List UInt8) :
    List UInt8 :=
  option :: suboption :: (be16 length ++ payload)

/-- Identify-All multicast request. -/
def identifyAllRequest (srcMac : Mac) (xid : UInt32) : List UInt8 :=
  let block := blockRequest dcpOptionAll dcpOptionAll 0 []
  ethFrame dcpMulticastMac srcMac profinetEthertype
    (dcpHeader dcpIdentifyRequestFrameId dcpServiceIdIdentify dcpServiceTypeRequest xid
      dcpResponseDelay (UInt16.ofNat block.length) block)

/-- The block of a SET request: a pad byte behind a value of odd length. -/
def setBlock (option suboption : UInt8) (qualifier : UInt16) (value : List UInt8) : List UInt8 :=
  blockRequest option suboption (UInt16.ofNat (value.length + 2)) (be16 qualifier ++ value)
    ++ if value.length % 2 = 1 then [0x00] else []

/-- SET request frame: one block with a qualifier and a value. -/
def setRequest (srcMac dstMac : Mac) (xid : UInt32) (option suboption : UInt8) (qualifier : UInt16)
    (value : List UInt8) : List UInt8 :=
  let block := setBlock option suboption qualifier value
  ethFrame dstMac srcMac profinetEthertype
    (dcpHeader dcpGetSetFrameId dcpServiceIdSet dcpServiceTypeRequest xid 0
      (UInt16.ofNat block.length) block)

/-- Set Name-of-Station; bit 0 of the qualifier asks the device to keep it. -/
def setNameRequestQualified (srcMac dstMac : Mac) (xid : UInt32) (name : String)
    (permanent : Bool) : List UInt8 :=
  setRequest srcMac dstMac xid dcpOptionDevice dcpSuboptionDeviceName
    (if permanent then 0x0001 else 0x0000) (utf8 name.toList)

/-- `set_name_request`: the name, not kept across a power cycle. -/
def setNameRequest (srcMac dstMac : Mac) (xid : UInt32) (name : String) : List UInt8 :=
  setNameRequestQualified srcMac dstMac xid name false

/-- Set the IP parameters: address, netmask and gateway. -/
def setIpRequestQualified (srcMac dstMac : Mac) (xid : UInt32) (ip netmask gateway : Bytes 4)
    (permanent : Bool) : List UInt8 :=
  setRequest srcMac dstMac xid dcpOptionIp dcpSuboptionIpParameter
    (if permanent then 0x0001 else 0x0000) (ip.val ++ netmask.val ++ gateway.val)

/-- `set_ip_request`: the same, with the qualifier that does not ask to keep it. -/
def setIpRequest (srcMac dstMac : Mac) (xid : UInt32) (ip netmask gateway : Bytes 4) :
    List UInt8 :=
  setRequest srcMac dstMac xid dcpOptionIp dcpSuboptionIpParameter 0x0000
    (ip.val ++ netmask.val ++ gateway.val)

/-- `set_param_request`: any block, not kept across a power cycle. -/
def setParamRequest (srcMac dstMac : Mac) (xid : UInt32) (option suboption : UInt8)
    (value : List UInt8) : List UInt8 :=
  setRequest srcMac dstMac xid option suboption 0x0000 value

/-- Flash the LEDs; the duration goes in units of 100 ms. -/
def signalRequest (srcMac dstMac : Mac) (xid durationMs : UInt32) : List UInt8 :=
  let durationUnits := UInt16.ofNat (max (durationMs.toNat / 100) 1)
  setRequest srcMac dstMac xid dcpOptionControl dcpSuboptionControlSignal 0x0001
    (be16 durationUnits)

/-- ResetToFactory with a mode, which is its qualifier. -/
def resetRequest (srcMac dstMac : Mac) (xid : UInt32) (qualifier : UInt16) : List UInt8 :=
  setRequest srcMac dstMac xid dcpOptionControl dcpSuboptionControlResetToFactory qualifier []

/-- FactoryReset, the older service without modes. -/
def factoryResetRequest (srcMac dstMac : Mac) (xid : UInt32) : List UInt8 :=
  setRequest srcMac dstMac xid dcpOptionControl dcpSuboptionControlResetFactory 0x0000 []

/-- GET request for one block.  DCPDataLength is 2 though the block has four bytes. -/
def getRequest (srcMac dstMac : Mac) (xid : UInt32) (option suboption : UInt8) : List UInt8 :=
  ethFrame dstMac srcMac profinetEthertype
    (dcpHeader dcpGetSetFrameId dcpServiceIdGet dcpServiceTypeRequest xid 0 2
      (blockRequest option suboption 0 []))

/-! ## Headers

  The headers are of fixed lengths, so a field of the frame is a byte of the lists it was built
  from. -/

/-- Behind the addresses of a frame stand its EtherType and its payload. -/
theorem ethFrame_drop (dst src : Mac) (ethertype : UInt16) (payload : List UInt8) :
    (ethFrame dst src ethertype payload).drop 12 = be16 ethertype ++ payload := by
  have h0 : (ethFrame dst src ethertype payload).drop 0 = _ := rfl
  have h6 : (ethFrame dst src ethertype payload).drop 6 = _ := drop_field h0 dst.property
  exact drop_field h6 src.property

/-- The addresses and the EtherType take fourteen bytes. -/
@[simp] theorem ethFrame_length (dst src : Mac) (ethertype : UInt16) (payload : List UInt8) :
    (ethFrame dst src ethertype payload).length = 14 + payload.length := by
  unfold ethFrame
  rw [List.length_append, List.length_append, List.length_append, dst.property, src.property,
    be16_length]
  omega

/-- A DCP header takes twelve bytes. -/
@[simp] theorem dcpHeader_length (frameId : UInt16) (serviceId serviceType : UInt8) (xid : UInt32)
    (resp length : UInt16) (payload : List UInt8) :
    (dcpHeader frameId serviceId serviceType xid resp length payload).length
      = 12 + payload.length := by
  simp only [dcpHeader, List.length_append, List.length_cons, be16_length, be32_length]
  omega

/-- Every parser reads the payload behind an Ethernet header of this side. -/
theorem dcpPayload_ethFrame (dst src : Mac) {payload : List UInt8} (hlong : 4 ≤ payload.length)
    (hshort : payload.length < 2 ^ 62) :
    dcpPayload (ethFrame dst src profinetEthertype payload) = .ok (.ok payload) := by
  have hlen := ethFrame_length dst src profinetEthertype payload
  have hbound : (ethFrame dst src profinetEthertype payload).length < 2 ^ 63 := by omega
  have h12 := ethFrame_drop dst src profinetEthertype payload
  have h14 : (ethFrame dst src profinetEthertype payload).drop 14 = _ := drop_field h12 rfl
  have huntagged : Untagged (ethFrame dst src profinetEthertype payload) :=
    { long := by omega
      ethertype := by
        rw [rdU16_be h12]
        decide }
  unfold dcpPayload stripEth
  rw [if_neg (by omega), skipVlanTagsChecked_ok hbound, ok_bind, huntagged.skip,
    add_ok (by omega), ok_bind]
  dsimp only
  rw [if_neg (by omega), u16At_ok hbound (by omega), ok_bind, rdU16_be h12, if_neg (by decide),
    ok_bind]
  dsimp only
  rw [sliceFrom_ok (by omega), ok_bind]
  exact congrArg (fun payload => Except.ok (Except.ok payload)) h14

/-- The fields of a DCP header, where they stand. -/
structure HeaderFields (payload : List UInt8) (frameId : UInt16) (serviceId serviceType : UInt8)
    (xid : UInt32) (resp length : UInt16) (blocks : List UInt8) : Prop where
  frameId : rdU16 payload 0 false = frameId
  serviceId : payload.getD 2 0 = serviceId
  serviceType : payload.getD 3 0 = serviceType
  xid : rdU32 payload 4 false = xid
  resp : rdU16 payload 8 false = resp
  length : rdU16 payload 10 false = length
  blocks : payload.drop 12 = blocks

/-- A DCP header is read back field by field. -/
theorem dcpHeader_fields (frameId : UInt16) (serviceId serviceType : UInt8) (xid : UInt32)
    (resp length : UInt16) (payload : List UInt8) :
    HeaderFields (dcpHeader frameId serviceId serviceType xid resp length payload) frameId serviceId
      serviceType xid resp length payload := by
  obtain ⟨data, hdata⟩ :
      ∃ data, data = dcpHeader frameId serviceId serviceType xid resp length payload := ⟨_, rfl⟩
  have h0 : data.drop 0 = _ := hdata
  unfold dcpHeader at h0
  have h2 : data.drop 2 = _ := drop_field h0 rfl
  have h3 := congrArg (List.drop 1) h2
  have h4 := congrArg (List.drop 2) h2
  simp only [List.drop_drop, List.drop_succ_cons, List.drop_zero] at h3 h4
  have h8 : data.drop 8 = _ := drop_field h4 rfl
  have h10 : data.drop 10 = _ := drop_field h8 rfl
  have h12 : data.drop 12 = _ := drop_field h10 rfl
  rw [← hdata]
  exact
    { frameId := rdU16_be h0
      serviceId := getD_of_drop h2
      serviceType := getD_of_drop h3
      xid := rdU32_be h4
      resp := rdU16_be h8
      length := rdU16_be h10
      blocks := h12 }

/-! ## A request is no answer

  A capture may hold our own requests.  They are told from the answer to a SET by the service
  type, whatever their transaction id. -/

/-- The service type of a request. -/
structure IsRequest (frame : List UInt8) (xid : UInt32) : Prop where
  short : frame.length < 2 ^ 63
  payload : ∃ p, dcpPayload frame = .ok (.ok p) ∧ 12 ≤ p.length ∧ p.length < 2 ^ 63
    ∧ p.getD 3 0 = dcpServiceTypeRequest ∧ rdU32 p 4 false = xid

/-- The frame of a header is a request of that service. -/
theorem isRequest_frame (dst src : Mac) (frameId : UInt16) (serviceId : UInt8) (xid : UInt32)
    (resp length : UInt16) {payload : List UInt8} (h : payload.length < 2 ^ 61) :
    IsRequest (ethFrame dst src profinetEthertype
      (dcpHeader frameId serviceId dcpServiceTypeRequest xid resp length payload)) xid := by
  have hfields := dcpHeader_fields frameId serviceId dcpServiceTypeRequest xid resp length payload
  have hlen := dcpHeader_length frameId serviceId dcpServiceTypeRequest xid resp length payload
  refine ⟨?_, _, dcpPayload_ethFrame dst src (by omega) (by omega), by omega, by omega,
    hfields.serviceType, hfields.xid⟩
  rw [ethFrame_length]
  omega

/-- Its transaction id is found. -/
theorem IsRequest.xid {frame : List UInt8} {xid : UInt32} (h : IsRequest frame xid) :
    parseDcpXid frame = .ok (some xid) := by
  obtain ⟨-, p, hp, hlong, hbound, -, hxid⟩ := h
  unfold parseDcpXid
  rw [hp, ok_bind]
  dsimp only
  rw [if_pos (by omega), u32At_ok hbound (by omega), ok_bind, hxid]
  rfl

/-- **A request is not taken for the answer to a SET**, whatever its transaction id. -/
theorem IsRequest.no_answer {frame : List UInt8} {xid : UInt32} (h : IsRequest frame xid)
    (expectedXid : UInt32) : parseSetResponse frame expectedXid = .ok (.ok none) := by
  obtain ⟨hshort, p, hp, -, -, htype, -⟩ := h
  have hnot {t : UInt8} (ht : t ≠ dcpServiceTypeRequest) : ¬ OwnAnswer p expectedXid t :=
    fun hown => ht (hown.serviceType.symm.trans htype)
  rcases set_response_cases hshort expectedXid with ⟨e, he, -⟩ | ⟨p', hp', hcases⟩
  · rw [hp] at he
    cases he
  · obtain rfl : p = p' := by
      rw [hp] at hp'
      cases hp'
      rfl
    rcases hcases with ⟨hown, -⟩ | ⟨hown, -⟩ | ⟨-, -, hnone⟩
    · exact absurd hown (hnot (by decide))
    · exact absurd hown (hnot (by decide))
    · exact hnone

/-! ## What a device reads

  `readSetRequest` reads the fields where the layout puts them, without a look at the builder.
  That it accepts what was built is one direction; that it accepts nothing else is the other
  (`frame_of_readSetRequest`). -/

/-- A SET request by its fields. -/
structure SetRequest where
  src : Mac
  dst : Mac
  xid : UInt32
  option : UInt8
  suboption : UInt8
  qualifier : UInt16
  value : List UInt8
  deriving DecidableEq

/-- The frame of a SET request. -/
def SetRequest.frame (r : SetRequest) : List UInt8 :=
  setRequest r.src r.dst r.xid r.option r.suboption r.qualifier r.value

/-- The announced lengths can hold the value. -/
def SetRequest.Fits (r : SetRequest) : Prop := r.value.length ≤ 65528

/-- The frame has the header of a SET request, and is as long as it says: DCPDataLength counts the
    block with its pad byte, the block length the qualifier and the value. -/
@[mk_iff] structure Announced (frame : List UInt8) : Prop where
  long : 32 ≤ frame.length
  ethertype : rdU16 frame 12 false = profinetEthertype
  frameId : rdU16 frame 14 false = dcpGetSetFrameId
  serviceId : frame.getD 16 0 = dcpServiceIdSet
  serviceType : frame.getD 17 0 = dcpServiceTypeRequest
  resp : rdU16 frame 22 false = 0
  data : frame.length = 26 + (rdU16 frame 24 false).toNat
  qualified : 2 ≤ (rdU16 frame 28 false).toNat
  block : (rdU16 frame 24 false).toNat
    = 4 + (rdU16 frame 28 false).toNat + (rdU16 frame 28 false).toNat % 2
  pad : frame.drop (30 + (rdU16 frame 28 false).toNat)
    = List.replicate ((rdU16 frame 28 false).toNat % 2) 0x00

instance (frame : List UInt8) : Decidable (Announced frame) :=
  decidable_of_iff _ (announced_iff frame).symm

/-- The fields of a SET request, read where the layout has them. -/
def readSetRequest (frame : List UInt8) : Option SetRequest :=
  if Announced frame then
    some
      { src := bytesAt 6 frame 6
        dst := bytesAt 6 frame 0
        xid := rdU32 frame 18 false
        option := frame.getD 26 0
        suboption := frame.getD 27 0
        qualifier := rdU16 frame 30 false
        value := (frame.drop 32).take ((rdU16 frame 28 false).toNat - 2) }
  else none

/-- A SET block takes six bytes, the value and padding. -/
theorem setBlock_length (option suboption : UInt8) (qualifier : UInt16) (value : List UInt8) :
    (setBlock option suboption qualifier value).length = 6 + value.length + value.length % 2 := by
  unfold setBlock blockRequest
  simp only [List.length_append, List.length_cons, be16_length]
  split_ifs with hodd
  · rw [List.length_singleton]
    omega
  · rw [List.length_nil]
    omega

/-- A value of odd length has a pad byte. -/
theorem pad_eq (n : Nat) :
    (if n % 2 = 1 then [0x00] else [] : List UInt8) = List.replicate (n % 2) 0x00 := by
  rcases Nat.mod_two_eq_zero_or_one n with h | h
  · rw [if_neg (by omega), h]
    rfl
  · rw [if_pos h, h]
    rfl

section Read

variable (r : SetRequest)

/-- The fields of the frame, one behind the other. -/
theorem SetRequest.frame_fields : ∃ data block : UInt16,
    r.frame = r.dst.val ++ (r.src.val ++ (be16 profinetEthertype ++ (be16 dcpGetSetFrameId
      ++ (dcpServiceIdSet :: dcpServiceTypeRequest :: (be32 r.xid ++ (be16 0 ++ (be16 data
        ++ (r.option :: r.suboption :: (be16 block ++ (be16 r.qualifier ++ (r.value
          ++ List.replicate (r.value.length % 2) 0x00)))))))))))
    ∧ data = UInt16.ofNat (6 + r.value.length + r.value.length % 2)
    ∧ block = UInt16.ofNat (r.value.length + 2) := by
  refine ⟨_, _, ?_, rfl, rfl⟩
  unfold SetRequest.frame setRequest
  simp only
  rw [setBlock_length, ← pad_eq]
  unfold setBlock blockRequest ethFrame dcpHeader
  simp only [List.cons_append, List.append_assoc]

/-- The length of a SET request. -/
theorem SetRequest.frame_length :
    r.frame.length = 32 + r.value.length + r.value.length % 2 := by
  obtain ⟨data, block, hframe, -, -⟩ := r.frame_fields
  rw [hframe]
  simp only [List.length_append, List.length_cons, be16_length, be32_length,
    List.length_replicate, r.src.property, r.dst.property]
  omega

/-- What was built is read. -/
theorem readSetRequest_frame (hfits : r.Fits) : readSetRequest r.frame = some r := by
  have hvalue : r.value.length ≤ 65528 := hfits
  have hlen := r.frame_length
  obtain ⟨data, block, hframe, hdata, hblock⟩ := r.frame_fields
  have hdata' : data.toNat = 6 + r.value.length + r.value.length % 2 := by
    rw [hdata]
    exact UInt16.toNat_ofNat_of_lt' (show _ < 65536 by omega)
  have hblock' : block.toNat = r.value.length + 2 := by
    rw [hblock]
    exact UInt16.toNat_ofNat_of_lt' (show _ < 65536 by omega)
  have h0 : r.frame.drop 0 = _ := hframe
  have h6 : r.frame.drop 6 = _ := drop_field h0 r.dst.property
  have h12 : r.frame.drop 12 = _ := drop_field h6 r.src.property
  have h14 : r.frame.drop 14 = _ := drop_field h12 rfl
  have h16 : r.frame.drop 16 = _ := drop_field h14 rfl
  have h17 := congrArg (List.drop 1) h16
  have h18 := congrArg (List.drop 2) h16
  simp only [List.drop_drop, List.drop_succ_cons, List.drop_zero] at h17 h18
  have h22 : r.frame.drop 22 = _ := drop_field h18 rfl
  have h24 : r.frame.drop 24 = _ := drop_field h22 rfl
  have h26 : r.frame.drop 26 = _ := drop_field h24 rfl
  have h27 := congrArg (List.drop 1) h26
  have h28 := congrArg (List.drop 2) h26
  simp only [List.drop_drop, List.drop_succ_cons, List.drop_zero] at h27 h28
  have h30 : r.frame.drop 30 = _ := drop_field h28 rfl
  have h32 : r.frame.drop 32 = _ := drop_field h30 rfl
  have hpad : r.frame.drop (32 + r.value.length) = _ := drop_field h32 rfl
  have hannounced : Announced r.frame :=
    { long := by omega
      ethertype := rdU16_be h12
      frameId := rdU16_be h14
      serviceId := getD_of_drop h16
      serviceType := getD_of_drop h17
      resp := rdU16_be h22
      data := by
        rw [rdU16_be h24, hdata']
        omega
      qualified := by
        rw [rdU16_be h28, hblock']
        omega
      block := by
        rw [rdU16_be h24, rdU16_be h28, hdata', hblock']
        omega
      pad := by
        rw [rdU16_be h28, hblock', Nat.add_mod_right, Nat.add_comm r.value.length 2,
          ← Nat.add_assoc]
        exact hpad }
  unfold readSetRequest
  rw [if_pos hannounced, bytesAt_of_drop h6, bytesAt_of_drop h0, rdU32_be h18, getD_of_drop h26,
    getD_of_drop h27, rdU16_be h30, rdU16_be h28, hblock', Nat.add_sub_cancel, h32,
    take_append_exact rfl]

end Read

/-- The header of any frame that is long enough for one, field by field. -/
theorem take_header {frame : List UInt8} (h : 32 ≤ frame.length) :
    frame.take 32 = (bytesAt 6 frame 0).val ++ ((bytesAt 6 frame 6).val
      ++ (be16 (rdU16 frame 12 false) ++ (be16 (rdU16 frame 14 false)
        ++ (frame.getD 16 0 :: frame.getD 17 0 :: (be32 (rdU32 frame 18 false)
          ++ (be16 (rdU16 frame 22 false) ++ (be16 (rdU16 frame 24 false)
            ++ (frame.getD 26 0 :: frame.getD 27 0 :: (be16 (rdU16 frame 28 false)
              ++ be16 (rdU16 frame 30 false)))))))))) := by
  have hword (off : Nat) : (bytesAt 2 frame off).val = be16 (rdU16 frame off false) :=
    (wrU16_rdU16 frame off false).symm
  have hlong (off : Nat) : (bytesAt 4 frame off).val = be32 (rdU32 frame off false) :=
    (wrU32_rdU32 frame off false).symm
  have hbytes (off : Nat) : (bytesAt 2 frame off).val = [frame.getD off 0, frame.getD (off + 1) 0] :=
    rfl
  have htake : bytesAt 32 frame 0 = ⟨frame.take 32, List.length_take_of_le h⟩ :=
    bytesAt_of_drop (List.take_append_drop 32 frame).symm
  calc frame.take 32
      = (bytesAt (6 + (6 + (2 + (2 + (2 + (4 + (2 + (2 + (2 + (2 + 2)))))))))) frame 0).val := by
        rw [htake]
    _ = (bytesAt 6 frame 0).val ++ ((bytesAt 6 frame 6).val ++ ((bytesAt 2 frame 12).val
          ++ ((bytesAt 2 frame 14).val ++ ((bytesAt 2 frame 16).val ++ ((bytesAt 4 frame 18).val
            ++ ((bytesAt 2 frame 22).val ++ ((bytesAt 2 frame 24).val ++ ((bytesAt 2 frame 26).val
              ++ ((bytesAt 2 frame 28).val ++ (bytesAt 2 frame 30).val))))))))) := by
        rw [bytesAt_add 6, bytesAt_add 6, bytesAt_add 2, bytesAt_add 2, bytesAt_add 2, bytesAt_add 4,
          bytesAt_add 2, bytesAt_add 2, bytesAt_add 2, bytesAt_add 2]
    _ = _ := by
        rw [hword 12, hword 14, hbytes 16, hlong 18, hword 22, hword 24, hbytes 26, hword 28,
          hword 30]
        rfl

/-- What is read was built. -/
theorem frame_of_readSetRequest {frame : List UInt8} {r : SetRequest}
    (h : readSetRequest frame = some r) : r.Fits ∧ frame = r.frame := by
  unfold readSetRequest at h
  split at h
  · rename_i hann
    have hlong := hann.long
    have hlength := hann.data
    have hblock := hann.block
    have hqualified := hann.qualified
    have hword := (rdU16 frame 24 false).toNat_lt
    have hrequest := Option.some.inj h
    have hsrc : bytesAt 6 frame 6 = r.src := congrArg SetRequest.src hrequest
    have hdst : bytesAt 6 frame 0 = r.dst := congrArg SetRequest.dst hrequest
    have hxid : rdU32 frame 18 false = r.xid := congrArg SetRequest.xid hrequest
    have hoption : frame.getD 26 0 = r.option := congrArg SetRequest.option hrequest
    have hsuboption : frame.getD 27 0 = r.suboption := congrArg SetRequest.suboption hrequest
    have hqualifier : rdU16 frame 30 false = r.qualifier := congrArg SetRequest.qualifier hrequest
    have hvalue : (frame.drop 32).take ((rdU16 frame 28 false).toNat - 2) = r.value :=
      congrArg SetRequest.value hrequest
    have hlen : r.value.length + 2 = (rdU16 frame 28 false).toNat := by
      rw [← hvalue, List.length_take, List.length_drop]
      omega
    have hfits : r.Fits := by
      show r.value.length ≤ 65528
      omega
    obtain ⟨data, block, hframe, hdata, hblock'⟩ := r.frame_fields
    have hdataWord : rdU16 frame 24 false = data := by
      rw [hdata, ← UInt16.toNat_inj, UInt16.toNat_ofNat_of_lt' (show _ < 65536 by omega)]
      omega
    have hblockWord : rdU16 frame 28 false = block := by
      rw [hblock', ← UInt16.toNat_inj, UInt16.toNat_ofNat_of_lt' (show _ < 65536 by omega)]
      omega
    -- what stands behind the header is the value and its pad byte
    have hrest : frame.drop 32 = r.value ++ List.replicate (r.value.length % 2) 0x00 := by
      have hpad := hann.pad
      rw [← hlen, Nat.add_mod_right] at hpad
      rw [← hlen, Nat.add_sub_cancel] at hvalue
      have hdrop : (frame.drop 32).drop r.value.length = frame.drop (30 + (r.value.length + 2)) := by
        rw [List.drop_drop]
        congr 1
        omega
      calc frame.drop 32
          = (frame.drop 32).take r.value.length ++ (frame.drop 32).drop r.value.length :=
            (List.take_append_drop _ _).symm
        _ = _ := by rw [hvalue, hdrop, hpad]
    refine ⟨hfits, ?_⟩
    rw [hframe, ← List.take_append_drop 32 frame, take_header hlong, hrest, hann.ethertype,
      hann.frameId, hann.serviceId, hann.serviceType, hann.resp, hsrc, hdst, hxid, hoption,
      hsuboption, hqualifier, hdataWord, hblockWord]
    simp only [List.cons_append, List.append_assoc]
  · cases h

/-- **A device reads exactly the SET requests this side can send**, and in each of them what it was
    built from: a frame is read exactly if it was built from a value the announced lengths hold. -/
theorem set_requests_read (frame : List UInt8) (r : SetRequest) :
    readSetRequest frame = some r ↔ r.Fits ∧ frame = r.frame := by
  constructor
  · exact frame_of_readSetRequest
  · rintro ⟨hfits, rfl⟩
    exact readSetRequest_frame r hfits

end Profinet.Dcp
