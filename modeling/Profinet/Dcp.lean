/-
  DCP: what a device answers to a discovery, a GET or a SET.

  Behind the Ethernet header stands a 12-byte DCP header (frame ID, service, transaction id, length
  of the data) and then blocks, each an option, a suboption and a length of its own, aligned to two
  bytes.  A walk over the blocks goes on while the DCP length, which it counts down as a signed
  number, and the bytes of the frame both have a block header left; a block that is longer than the
  frame is cut.

      parseDcpXid             the transaction id, of any DCP frame
      parseSetResponse        the error byte of the Control/Response block
      parseGetResponse        the payload of one block
      parseIdentifyResponse   a device, from all blocks
      aggregateResponses      the devices among the captured frames, the latest answer of each
-/
import Profinet.Capture
import Profinet.Lib.Utf8

namespace Profinet.Dcp

open Wire Checked Util Errors Utf8

/-! ## Numbers -/

/-- The EtherType of PROFINET. -/
def profinetEthertype : UInt16 := 0x8892
/-- The frame ID of an Identify response. -/
def dcpIdentifyResponseFrameId : UInt16 := 0xFEFF
/-- The frame ID of Get and Set, both ways. -/
def dcpGetSetFrameId : UInt16 := 0xFEFD
/-- The service Set. -/
def dcpServiceIdSet : UInt8 := 0x04
/-- Service type of a response: performed. -/
def dcpServiceTypeResponseSuccess : UInt8 := 0x01
/-- Service type of a response: not supported. -/
def dcpServiceTypeResponseUnsupported : UInt8 := 0x05
/-- Option: the IP parameters. -/
def dcpOptionIp : UInt8 := 0x01
/-- Option: the properties of the device. -/
def dcpOptionDevice : UInt8 := 0x02
/-- Option: control. -/
def dcpOptionControl : UInt8 := 0x05
/-- Suboption of IP: address, netmask and gateway. -/
def dcpSuboptionIpParameter : UInt8 := 0x02
/-- Suboption of the device: its type. -/
def dcpSuboptionDeviceType : UInt8 := 0x01
/-- Suboption of the device: its name. -/
def dcpSuboptionDeviceName : UInt8 := 0x02
/-- Suboption of the device: vendor and device id. -/
def dcpSuboptionDeviceId : UInt8 := 0x03
/-- Suboption of the device: its role. -/
def dcpSuboptionDeviceRole : UInt8 := 0x04
/-- Suboption of control: the result of a Set. -/
def dcpSuboptionControlResponse : UInt8 := 0x04
/-- Block error: none. -/
def dcpBlockErrorOk : UInt8 := 0x00

/-- The payload of a DCP frame, behind the Ethernet header and its tags. -/
def dcpPayload (frame : List UInt8) : Comp (Except String (List UInt8)) :=
  stripEth frame profinetEthertype

/-- The transaction id; none if the frame is too short or not a DCP frame. -/
def parseDcpXid (frame : List UInt8) : Comp (Option UInt32) := do
  match ← dcpPayload frame with
  | .error _ => return none
  | .ok payload => if 8 ≤ payload.length then return some (← u32At payload 4 false) else return none

/-! ## SET -/

/-- The blocks of a SET response, while more than `4` of the DCP length remain: the error byte of
    the first Control/Response block, success if there is none. -/
def setBlocks (blocks : List UInt8) (remaining : Int) : Comp UInt8 := do
  if 4 < remaining then
    if blocks.length < 4 then
      return dcpBlockErrorOk
    let option ← index blocks 0
    let suboption ← index blocks 1
    let blockLength := (← u16At blocks 2 false).toNat
    let stop ← add 4 blockLength
    let blockPayload ← slice blocks 4 (min stop blocks.length)
    if option = dcpOptionControl ∧ suboption = dcpSuboptionControlResponse then
      if blockPayload.val.length = 0 then
        return dcpBlockErrorOk
      else if blockPayload.val.length ≤ 2 then index blockPayload 0
      else index blockPayload 2
    else
      -- blocks are 2-byte aligned
      let blockLen ← add (4 + blockLength) (blockLength % 2)
      let rest ← sliceFrom blocks (min blockLen blocks.length)
      let remaining ← subI32 remaining (asI32 blockLen)
      setBlocks rest remaining
  else return dcpBlockErrorOk
  termination_by blocks.length
  decreasing_by
    have := blockLen.2
    rw [rest.2, List.length_drop]
    omega

/-- A SET response with our transaction id (`parse_set_response`); `none` for any other frame. -/
def parseSetResponse (frame : List UInt8) (expectedXid : UInt32) :
    Comp (Except String (Option UInt8)) := do
  match ← dcpPayload frame with
  | .error e => return .error e
  | .ok payload =>
    if payload.length < 12 then
      return .ok none
    let frameId ← u16At payload 0 false
    let serviceId ← index payload 2
    let serviceType ← index payload 3
    let xid ← u32At payload 4 false
    if frameId ≠ dcpGetSetFrameId ∨ serviceId ≠ dcpServiceIdSet ∨ xid ≠ expectedXid then
      return .ok none
    if serviceType = dcpServiceTypeResponseUnsupported then
      return .error "DCP SET: service not supported by device"
    if serviceType ≠ dcpServiceTypeResponseSuccess then
      return .ok none
    let remaining := ((← u16At payload 10 false).toNat : Int)
    let error ← setBlocks (← sliceFrom payload 12) remaining
    return .ok (some error)

/-! ## GET -/

/-- The blocks of a GET response, while more than `6` of the DCP length remain: the payload of the
    first block with this option and suboption, behind its BlockInfo word. -/
def getBlocks (option suboption : UInt8) (blocks : List UInt8) (length : Int) :
    Comp (Option (List UInt8)) := do
  if 6 < length then
    if blocks.length < 6 then
      return none
    let blockOption ← index blocks 0
    let blockSuboption ← index blocks 1
    let blockLength := (← u16At blocks 2 false).toNat
    -- the block length counts the BlockInfo word
    let payloadLen := blockLength - 2
    let stop ← add 6 payloadLen
    let blockPayload ← slice blocks 6 (min stop blocks.length)
    if blockOption = option ∧ blockSuboption = suboption then
      return some blockPayload
    else
      let blockLen ← add blockLength (blockLength % 2)
      let advance ← add 4 blockLen
      let rest ← sliceFrom blocks (min advance blocks.length)
      let length ← subI32 length (asI32 advance)
      getBlocks option suboption rest length
  else return none
  termination_by blocks.length
  decreasing_by
    have := advance.2
    rw [rest.2, List.length_drop]
    omega

/-- One block of a GET response with our transaction id (`parse_get_response`). -/
def parseGetResponse (frame : List UInt8) (option suboption : UInt8) (expectedXid : UInt32) :
    Comp (Except String (Option (List UInt8))) := do
  match ← dcpPayload frame with
  | .error e => return .error e
  | .ok payload =>
    if payload.length < 12 then
      return .error ("payload too short for DCP header: " ++ toString payload.length ++ " bytes")
    let frameId ← u16At payload 0 false
    let xid ← u32At payload 4 false
    if frameId ≠ dcpGetSetFrameId ∨ xid ≠ expectedXid then
      return .ok none
    let serviceType ← index payload 3
    if serviceType ≠ dcpServiceTypeResponseSuccess then
      return .error ("not a DCP response: service_type 0x" ++ hex 2 serviceType.toNat)
    let length := ((← u16At payload 10 false).toNat : Int)
    let found ← getBlocks option suboption (← sliceFrom payload 12) length
    return .ok found

/-! ## Identify -/

/-- Device information from a DCP Identify response. -/
structure DcpDevice where
  mac : Mac
  name : String
  deviceType : String
  ip : Bytes 4
  netmask : Bytes 4
  gateway : Bytes 4
  vendorId : UInt16
  deviceId : UInt16
  role : UInt8
  /-- Status word of the IP parameter block; none when the response carried no such block. -/
  ipBlockInfo : Option UInt16
  deriving DecidableEq, Repr

/-- No address: all zero. -/
def noAddress : Bytes 4 := ⟨[0, 0, 0, 0], rfl⟩

/-- A device of which only the source address is known. -/
def DcpDevice.ofMac (mac : Mac) : DcpDevice :=
  { mac := mac
    name := ""
    deviceType := ""
    ip := noAddress
    netmask := noAddress
    gateway := noAddress
    vendorId := 0
    deviceId := 0
    role := 0
    ipBlockInfo := none }

/-- What one block says of the device. -/
def DcpDevice.withBlock (device : DcpDevice) (option suboption : UInt8)
    (blocks blockPayload : List UInt8) : Comp DcpDevice := do
  if option = dcpOptionDevice ∧ suboption = dcpSuboptionDeviceType then
    match rposition (· ≠ 0) blockPayload with
    | none => return { device with deviceType := "" }
    | some i =>
      let trimmed ← slice blockPayload 0 (← add i 1)
      return { device with deviceType := fromUtf8Lossy trimmed }
  else if option = dcpOptionDevice ∧ suboption = dcpSuboptionDeviceName then
    return { device with name := fromUtf8Lossy blockPayload }
  else if option = dcpOptionIp ∧ suboption = dcpSuboptionIpParameter
      ∧ 12 ≤ blockPayload.length then
    let info ← u16At blocks 4 false
    let ip ← arrayAt 4 blockPayload 0
    let netmask ← arrayAt 4 blockPayload 4
    let gateway ← arrayAt 4 blockPayload 8
    return { device with ipBlockInfo := some info, ip, netmask, gateway }
  else if option = dcpOptionDevice ∧ suboption = dcpSuboptionDeviceId
      ∧ 4 ≤ blockPayload.length then
    let vendorId ← u16At blockPayload 0 false
    let deviceId ← u16At blockPayload 2 false
    return { device with vendorId, deviceId }
  else if option = dcpOptionDevice ∧ suboption = dcpSuboptionDeviceRole
      ∧ 0 < blockPayload.length then
    return { device with role := ← index blockPayload 0 }
  else return device

/-- The blocks of an Identify response, while more than `6` of the DCP length remain. -/
def identifyBlocks (device : DcpDevice) (blocks : List UInt8) (length : Int) :
    Comp DcpDevice := do
  if 6 < length then
    if blocks.length < 6 then
      return device
    let option ← index blocks 0
    let suboption ← index blocks 1
    let blockLength := (← u16At blocks 2 false).toNat
    let payloadLen := blockLength - 2
    let stop ← add 6 payloadLen
    let blockPayload ← slice blocks 6 (min stop blocks.length)
    let device ← device.withBlock option suboption blocks blockPayload
    let blockLen ← add blockLength (blockLength % 2)
    let advance ← add 4 blockLen
    let rest ← sliceFrom blocks (min advance blocks.length)
    let length ← subI32 length (asI32 advance)
    identifyBlocks device rest length
  else return device
  termination_by blocks.length
  decreasing_by
    have := advance.2
    rw [rest.2, List.length_drop]
    omega

/-- A DCP Identify response as a device (`parse_identify_response`). -/
def parseIdentifyResponse (frame : List UInt8) : Comp (Except String DcpDevice) := do
  if frame.length < 14 then
    return .error ("frame too short for Ethernet header: " ++ toString frame.length ++ " bytes")
  let src ← arrayAt 6 frame 6
  match ← dcpPayload frame with
  | .error e => return .error e
  | .ok payload =>
    if payload.length < 12 then
      return .error ("payload too short for DCP header: " ++ toString payload.length ++ " bytes")
    let frameId ← u16At payload 0 false
    if frameId ≠ dcpIdentifyResponseFrameId then
      return .error ("not a DCP Identify response: frame_id 0x" ++ hex 4 frameId.toNat)
    let serviceType ← index payload 3
    if serviceType ≠ dcpServiceTypeResponseSuccess then
      return .error ("not a DCP response: service_type 0x" ++ hex 2 serviceType.toNat)
    let length := ((← u16At payload 10 false).toNat : Int)
    let device ← identifyBlocks (.ofMac src) (← sliceFrom payload 12) length
    return .ok device

/-- The device of a captured frame, if it is addressed to us, echoes our transaction id and
    parses. -/
def acceptResponse (myMac : Mac) (expectedXid : UInt32) (frame : List UInt8) :
    Comp (Option DcpDevice) := do
  if frame.length < 14 then
    return none
  if (← slice frame 0 6).val ≠ myMac.val then
    return none
  if (← parseDcpXid frame) ≠ some expectedXid then
    return none
  return (← parseIdentifyResponse frame).toOption

/-- A later response replaces the earlier one of the same source MAC. -/
def replaceOrPush (devices : List DcpDevice) (device : DcpDevice) : List DcpDevice :=
  match devices.findIdx? (·.mac = device.mac) with
  | some i => devices.set i device
  | none => devices ++ [device]

/-- The devices among the captured frames, added to those found so far. -/
def aggregateFrom (myMac : Mac) (expectedXid : UInt32) (devices : List DcpDevice) :
    List (List UInt8) → Comp (List DcpDevice)
  | [] => return devices
  | frame :: frames => do
    match ← acceptResponse myMac expectedXid frame with
    | none => aggregateFrom myMac expectedXid devices frames
    | some device => aggregateFrom myMac expectedXid (replaceOrPush devices device) frames

/-- `aggregate_responses`. -/
def aggregateResponses (frames : List (List UInt8)) (myMac : Mac) (expectedXid : UInt32) :
    Comp (List DcpDevice) :=
  aggregateFrom myMac expectedXid [] frames

/-! ## They return for every frame -/

/-- The transaction id is looked for in any frame. -/
theorem parseDcpXid_safe {frame : List UInt8} (hframe : frame.length < 2 ^ 63) :
    Safe (parseDcpXid frame) := by
  refine (stripEth_returns hframe profinetEthertype).bind ?_
  intro r hr
  rcases r with e | payload
  · exact safe_ok _
  · exact .ite (fun _ => .u32At (hr _ rfl) (by omega) fun _ _ => safe_ok _) fun _ => safe_ok _

/-- Whatever a block says its length is, the walk goes on behind its header. -/
theorem setBlocks_safe {blocks : List UInt8} (hblocks : blocks.length < 2 ^ 63) {remaining : Int}
    (hrem : remaining < 2147483648) : Safe (setBlocks blocks remaining) := by
  unfold setBlocks
  refine .ite (fun hmore => .ite (fun _ => safe_ok _) fun hhead => ?_) fun _ => safe_ok _
  refine .index (by omega) fun _ => .index (by omega) fun _ => ?_
  refine .u16At hblocks (by omega) fun len hlen => .add (by omega) fun stop hstop => ?_
  refine .slice (by omega) (by omega) ?_
  intro payload hpayload
  refine .ite (fun _ => ?_) fun _ => ?_
  · refine .ite (fun _ => safe_ok _) fun _ => .ite (fun _ => ?_) fun _ => ?_
    · exact safe_index (by omega)
    · exact safe_index (by omega)
  · refine .add (by omega) ?_
    intro blockLen hblockLen
    refine .sliceFrom (by omega) ?_
    intro rest hrest
    rw [asI32_eq (by omega)]
    refine .subI32 (by omega) (by omega) ?_
    intro next hnext
    exact setBlocks_safe (by omega) (by omega)
  termination_by blocks.length
  decreasing_by omega

/-- A Set response is looked for in any frame. -/
theorem parseSetResponse_safe {frame : List UInt8} (hframe : frame.length < 2 ^ 63)
    (expectedXid : UInt32) : Safe (parseSetResponse frame expectedXid) := by
  refine (stripEth_returns hframe profinetEthertype).bind ?_
  intro r hr
  rcases r with e | payload
  · exact safe_ok _
  · have hpayload := hr payload rfl
    refine .ite (fun _ => safe_ok _) fun hhead => ?_
    refine .u16At hpayload (by omega) ?_
    intro _ _
    refine .index (by omega) fun _ => .index (by omega) fun _ => ?_
    refine .u32At hpayload (by omega) ?_
    intro _ _
    refine .ite (fun _ => safe_ok _) fun _ => .ite (fun _ => safe_ok _) fun _ => ?_
    refine .ite (fun _ => safe_ok _) fun _ => ?_
    refine .u16At hpayload (by omega) ?_
    intro len hlen
    refine .sliceFrom (by omega) ?_
    intro blocks hblocks
    exact (setBlocks_safe (by omega) (by omega)).bind fun _ _ => safe_ok _

/-- A block is looked for in any data, whatever the length says. -/
theorem getBlocks_safe (option suboption : UInt8) {blocks : List UInt8}
    (hblocks : blocks.length < 2 ^ 63) {length : Int} (hlength : length < 2147483648) :
    Safe (getBlocks option suboption blocks length) := by
  unfold getBlocks
  refine .ite (fun hmore => .ite (fun _ => safe_ok _) fun hhead => ?_) fun _ => safe_ok _
  refine .index (by omega) fun _ => .index (by omega) fun _ => ?_
  refine .u16At hblocks (by omega) fun len hlen => .add (by omega) fun stop hstop => ?_
  refine .slice (by omega) (by omega) fun _ _ => .ite (fun _ => safe_ok _) fun _ => ?_
  refine .add (by omega) fun blockLen hblockLen => .add (by omega) fun advance hadvance => ?_
  refine .sliceFrom (by omega) ?_
  intro rest hrest
  rw [asI32_eq (by omega)]
  refine .subI32 (by omega) (by omega) ?_
  intro next hnext
  exact getBlocks_safe option suboption (by omega) (by omega)
  termination_by blocks.length
  decreasing_by omega

/-- A Get response is looked for in any frame. -/
theorem parseGetResponse_safe {frame : List UInt8} (hframe : frame.length < 2 ^ 63)
    (option suboption : UInt8) (expectedXid : UInt32) :
    Safe (parseGetResponse frame option suboption expectedXid) := by
  refine (stripEth_returns hframe profinetEthertype).bind ?_
  intro r hr
  rcases r with e | payload
  · exact safe_ok _
  · have hpayload := hr payload rfl
    refine .ite (fun _ => safe_ok _) fun hhead => ?_
    refine .u16At hpayload (by omega) fun _ _ => .u32At hpayload (by omega) fun _ _ => ?_
    refine .ite (fun _ => safe_ok _) fun _ => .index (by omega) fun _ => ?_
    refine .ite (fun _ => safe_ok _) fun _ => ?_
    refine .u16At hpayload (by omega) ?_
    intro len hlen
    refine .sliceFrom (by omega) ?_
    intro blocks hblocks
    exact (getBlocks_safe option suboption (by omega) (by omega)).bind fun _ _ => safe_ok _

/-- A block says nothing of the address. -/
theorem withBlock_returns (device : DcpDevice) (option suboption : UInt8)
    {blocks blockPayload : List UInt8} (hblocks : blocks.length < 2 ^ 63)
    (hhead : 6 ≤ blocks.length) (hpayload : blockPayload.length < 2 ^ 63) :
    Returns (device.withBlock option suboption blocks blockPayload) (·.mac = device.mac) := by
  unfold DcpDevice.withBlock
  refine .ite (fun _ => ?_) fun _ => .ite (fun _ => returns_ok rfl) fun _ => ?_
  · -- the type, without its trailing zeros
    cases hlast : rposition (· ≠ 0) blockPayload with
    | none => exact returns_ok rfl
    | some i =>
      have hi := rposition_lt hlast
      refine .add (by omega) ?_
      intro stop hstop
      exact .slice (by omega) (by omega) fun _ _ => returns_ok rfl
  · refine .ite (fun hip => ?_) fun _ => .ite (fun hid => ?_) fun _ => ?_
    · have hlong := hip.2.2
      refine .u16At hblocks (by omega) fun _ _ => .arrayAt hpayload (by omega) fun _ => ?_
      refine .arrayAt hpayload (by omega) fun _ => .arrayAt hpayload (by omega) fun _ => ?_
      exact returns_ok rfl
    · have hlong := hid.2.2
      refine .u16At hpayload (by omega) fun _ _ => .u16At hpayload (by omega) fun _ _ => ?_
      exact returns_ok rfl
    · refine .ite (fun hrole => ?_) fun _ => returns_ok rfl
      exact .index hrole.2.2 fun _ => returns_ok rfl

/-- Any blocks add up to a device, of the same address. -/
theorem identifyBlocks_returns (device : DcpDevice) {blocks : List UInt8}
    (hblocks : blocks.length < 2 ^ 63) {length : Int} (hlength : length < 2147483648) :
    Returns (identifyBlocks device blocks length) (·.mac = device.mac) := by
  unfold identifyBlocks
  refine .ite (fun hmore => .ite (fun _ => returns_ok rfl) fun hhead => ?_) fun _ => returns_ok rfl
  refine .index (by omega) fun option => .index (by omega) fun suboption => ?_
  refine .u16At hblocks (by omega) fun len hlen => .add (by omega) fun stop hstop => ?_
  refine .slice (by omega) (by omega) ?_
  intro payload hpayload
  refine (withBlock_returns device option suboption hblocks (by omega) (by omega)).bind ?_
  intro device' hmac
  refine .add (by omega) fun blockLen hblockLen => .add (by omega) fun advance hadvance => ?_
  refine .sliceFrom (by omega) ?_
  intro rest hrest
  rw [asI32_eq (by omega), ← hmac]
  refine .subI32 (by omega) (by omega) ?_
  intro next hnext
  exact identifyBlocks_returns device' (by omega) (by omega)
  termination_by blocks.length
  decreasing_by omega

/-- The device of a response is the station that sent it. -/
theorem parseIdentifyResponse_returns {frame : List UInt8} (hframe : frame.length < 2 ^ 63) :
    Returns (parseIdentifyResponse frame) fun r => ∀ d, r = .ok d → d.mac = bytesAt 6 frame 6 := by
  unfold parseIdentifyResponse
  refine .ite (fun _ => returns_ok (by rintro d ⟨⟩)) fun heth => ?_
  rw [arrayAt_ok hframe (by omega), ok_bind]
  refine (stripEth_returns hframe profinetEthertype).bind ?_
  intro r hr
  rcases r with e | payload
  · exact returns_ok (by rintro d ⟨⟩)
  · have hpayload := hr payload rfl
    refine .ite (fun _ => returns_ok (by rintro d ⟨⟩)) fun hhead => ?_
    refine .u16At hpayload (by omega) ?_
    intro _ _
    refine .ite (fun _ => returns_ok (by rintro d ⟨⟩)) fun _ => .index (by omega) fun _ => ?_
    refine .ite (fun _ => returns_ok (by rintro d ⟨⟩)) fun _ => ?_
    refine .u16At hpayload (by omega) ?_
    intro len hlen
    refine .sliceFrom (by omega) ?_
    intro blocks hblocks
    refine (identifyBlocks_returns _ (by omega) (by omega)).bind ?_
    intro device hmac
    apply returns_ok
    rintro d ⟨⟩
    exact hmac

/-- An Identify response is looked for in any frame. -/
theorem parseIdentifyResponse_safe {frame : List UInt8} (hframe : frame.length < 2 ^ 63) :
    Safe (parseIdentifyResponse frame) := by
  obtain ⟨r, hr, _⟩ := parseIdentifyResponse_returns hframe
  exact ⟨r, hr, trivial⟩

/-- A frame is accepted or not. -/
theorem acceptResponse_safe {frame : List UInt8} (hframe : frame.length < 2 ^ 63) (myMac : Mac)
    (expectedXid : UInt32) : Safe (acceptResponse myMac expectedXid frame) := by
  unfold acceptResponse
  refine .ite (fun _ => safe_ok _) fun heth => .slice (by omega) (by omega) fun _ _ => ?_
  refine .ite (fun _ => safe_ok _) fun _ => (parseDcpXid_safe hframe).bind fun _ _ => ?_
  refine .ite (fun _ => safe_ok _) fun _ => ?_
  exact (parseIdentifyResponse_safe hframe).bind fun _ _ => safe_ok _

/-- All frames of a capture are gone through. -/
theorem aggregateFrom_safe (myMac : Mac) (expectedXid : UInt32) {frames : List (List UInt8)}
    (hframes : ∀ frame ∈ frames, frame.length < 2 ^ 63) (devices : List DcpDevice) :
    Safe (aggregateFrom myMac expectedXid devices frames) := by
  induction frames generalizing devices with
  | nil => exact safe_ok _
  | cons frame frames ih =>
    have hrest := ih fun f hf => hframes f (List.mem_cons_of_mem _ hf)
    have hframe := hframes frame List.mem_cons_self
    refine (acceptResponse_safe hframe myMac expectedXid).bind ?_
    intro accepted _
    rcases accepted with _ | device
    · exact hrest devices
    · exact hrest (replaceOrPush devices device)

end Profinet.Dcp
