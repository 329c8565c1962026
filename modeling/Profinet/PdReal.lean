/-
  PD REAL DATA: the record in which a device describes its ports and its interface (index 0xF841).

  The record is a sequence of MultipleBlockHeader blocks, one for each subslot, and each of these
  holds nested blocks.  A port block lists strings, addresses and numbers, with padding between
  them; where the bytes run out the fields that are missing have their defaults, and a field that
  does not fit leaves the offset where it is.  Only the first padding of a port is counted on the
  offset in the record; all others are counted on the offset in the body.

      parsePdInterfaceDataReal   chassis, MAC and IP configuration; fails where one does not fit
      parsePdPortDataReal        a port and its peers; never fails
      parsePdRealData            everything in the record; malformed blocks are skipped
-/
import Profinet.Im

namespace Profinet.Im

open Wire Checked

/-! ## What the record says -/

/-- An LLDP peer of a port. -/
structure PeerInfo where
  portId : String
  chassisId : String
  macAddress : Bytes 6
  deriving DecidableEq, Repr

/-- `PortInfo`. -/
structure PortInfo where
  slot : UInt16
  subslot : UInt16
  portId : String
  mauType : UInt16
  linkStatePort : UInt8
  linkStateLink : UInt8
  mediaType : UInt32
  peers : List PeerInfo
  domainBoundary : UInt32
  multicastBoundary : UInt32
  deriving DecidableEq, Repr

/-- `InterfaceInfo`. -/
structure InterfaceInfo where
  chassisId : String
  macAddress : Bytes 6
  ipAddress : Bytes 4
  subnetMask : Bytes 4
  gateway : Bytes 4
  deriving DecidableEq, Repr

/-- `PdRealData`. -/
structure PdRealData where
  slots : List SlotInfo
  interface : Option InterfaceInfo
  ports : List PortInfo
  /-- API, slot, subslot and bytes of each MultipleBlockHeader block. -/
  rawBlocks : List (UInt32 × UInt16 × UInt16 × List UInt8)
  deriving DecidableEq, Repr

/-- Nothing found yet. -/
def PdRealData.empty : PdRealData := ⟨[], none, [], []⟩

/-- What was found, and then what was found behind it: the last interface counts. -/
def PdRealData.append (found more : PdRealData) : PdRealData where
  slots := found.slots ++ more.slots
  interface := more.interface <|> found.interface
  ports := found.ports ++ more.ports
  rawBlocks := found.rawBlocks ++ more.rawBlocks

/-! ## The interface

  An interface block is read field by field behind its header; one whose fields run out is no
  interface. -/

/-- `BLOCK_HEADER_SIZE`. -/
def blockHeaderSize : Nat := 6

/-- `align_from_block`: the next offset that is aligned in the block, counted from its header. -/
def alignFromBlock (start bodyOffset : Nat) : Comp Nat := do
  let rel ← sub bodyOffset start
  let blockOffset ← add blockHeaderSize rel
  let aligned ← align4 blockOffset
  let body ← sub aligned blockHeaderSize
  let offset ← add start body
  return offset

/-- Address, mask and gateway. -/
def parseIpConfiguration (data : List UInt8) (offset : Nat) (chassisId : String)
    (macAddress : Bytes 6) : Comp (Except String InterfaceInfo) := do
  if data.length < (← add offset 12) then
    return .error "Truncated IP configuration"
  let ipAddress ← arrayAt 4 data offset
  let subnetMask ← arrayAt 4 data (← add offset 4)
  let gateway ← arrayAt 4 data (← add offset 8)
  return .ok { chassisId, macAddress, ipAddress, subnetMask, gateway }

/-- `parse_pd_interface_data_real`: the station name, the MAC address and the IP configuration. -/
def parsePdInterfaceDataReal (data : List UInt8) (offset : Nat) :
    Comp (Except String InterfaceInfo) := do
  let start := offset
  if data.length ≤ offset then
    return .error "Truncated chassis ID"
  let chassisLen := (← index data offset).toNat
  let offset ← add offset 1
  let stop ← add offset chassisLen
  if data.length < stop then
    return .error "Truncated chassis ID"
  let chassisId := decodeLatin1 (← slice data offset stop)
  let offset ← alignFromBlock start stop
  let stop ← add offset 6
  if data.length < stop then
    return .error "Truncated MAC address"
  let macAddress ← arrayAt 6 data offset
  let offset ← alignFromBlock start stop
  parseIpConfiguration data offset chassisId macAddress

/-! ## A port

  A port is read as far as it goes: a number or an address that does not fit has its default and
  takes no bytes. -/

/-- `start + align4(offset - start)`. -/
def alignFrom (start offset : Nat) : Comp Nat := do
  let rel ← sub offset start
  let aligned ← align4 rel
  let offset ← add start aligned
  return offset

/-- A field of `n` bytes: what `read` makes of it and the offset behind it, or the default where it
    does not fit. -/
def fieldAt {α : Type} (data : List UInt8) (n : Nat) (read : Nat → Comp α) (default : α)
    (offset : Nat) : Comp (α × Nat) := do
  let stop ← add offset n
  if stop ≤ data.length then return (← read offset, stop) else return (default, offset)

/-- A length byte and a string of that length; empty where it does not fit. -/
def stringAt (data : List UInt8) (offset : Nat) : Comp (String × Nat) := do
  let len := (← index data offset).toNat
  let start ← add offset 1
  let stop ← add start len
  if stop ≤ data.length then return (decodeLatin1 (← slice data start stop), stop)
  else return ("", start)

/-- Two words, one behind the other. -/
def wordsAt (data : List UInt8) (offset : Nat) : Comp (UInt16 × UInt16) := do
  let first ← u16At data offset false
  let second ← u16At data (← add offset 2) false
  return (first, second)

/-- Domain boundary and multicast boundary. -/
def boundariesAt (data : List UInt8) (offset : Nat) : Comp (UInt32 × UInt32) := do
  let domain ← u32At data offset false
  let multicast ← u32At data (← add offset 4) false
  return (domain, multicast)

/-- The state of the port and of its link. -/
def linkStateAt (data : List UInt8) (offset : Nat) : Comp (UInt8 × UInt8) := do
  let port ← index data offset
  let link ← index data (← add offset 1)
  return (port, link)

/-- The zero MAC address, where none is read. -/
def noMac : Bytes 6 := ⟨List.replicate 6 0, rfl⟩

/-- The loop over the peers of a port, and the offset it ends at. -/
def peersFrom (data : List UInt8) (start : Nat) : Nat → Nat → Comp (List PeerInfo × Nat)
  | 0, offset => return ([], offset)
  | count + 1, offset => do
    if data.length < (← add offset 1) then
      return ([], offset)
    let (portId, offset) ← stringAt data offset
    if data.length < (← add offset 1) then
      return ([], offset)
    let (chassisId, offset) ← stringAt data offset
    let offset ← alignFrom start offset
    let (macAddress, offset) ← fieldAt data 6 (arrayAt 6 data) noMac offset
    let offset ← alignFrom start offset
    let (more, offset) ← peersFrom data start count offset
    return ({ portId, chassisId, macAddress } :: more, offset)

/-- How many peers follow. -/
def peerCountAt (data : List UInt8) (offset : Nat) : Comp (Nat × Nat) := do
  if offset < data.length then
    let count ← index data offset
    let next ← add offset 1
    return (count.toNat, next)
  else return (0, offset)

/-- The numbers behind the peers. -/
def parsePortNumbers (data : List UInt8) (start offset : Nat) (port : PortInfo) :
    Comp PortInfo := do
  let (mauType, offset) ← fieldAt data 2 (fun p => u16At data p false) 0 offset
  let offset ← alignFrom start offset
  let (boundaries, offset) ← fieldAt data 8 (boundariesAt data) (0, 0) offset
  let (linkState, offset) ← fieldAt data 2 (linkStateAt data) (0, 0) offset
  let offset ← alignFrom start offset
  let (mediaType, _) ← fieldAt data 4 (fun p => u32At data p false) 0 offset
  return { port with
    mauType, mediaType
    domainBoundary := boundaries.1
    multicastBoundary := boundaries.2
    linkStatePort := linkState.1
    linkStateLink := linkState.2 }

/-- `parse_pd_port_data_real`: the port id, the peers and the port's numbers. -/
def parsePdPortDataReal (data : List UInt8) (offset : Nat) (slot subslot : UInt16) :
    Comp PortInfo := do
  let start := offset
  let offset ← align4 offset
  let ((slot, subslot), offset) ← fieldAt data 4 (wordsAt data) (slot, subslot) offset
  let port : PortInfo := ⟨slot, subslot, "", 0, 0, 0, 0, [], 0, 0⟩
  if data.length < (← add offset 1) then
    return port
  let (portId, offset) ← stringAt data offset
  let (numPeers, offset) ← peerCountAt data offset
  let offset ← alignFrom start offset
  let (peers, offset) ← peersFrom data start numPeers offset
  parsePortNumbers data start offset { port with portId, peers }

/-! ## The record

  Two nested walks, over the blocks of the record and over the blocks in a MultipleBlockHeader.
  What is found is added up in the order it is found in. -/

/-- What one nested block adds. -/
def nestedBlock (data : List UInt8) (slotNr subslotNr blockType : UInt16) (body : Nat) :
    Comp PdRealData := do
  if blockType = blockPdInterfaceDataReal then
    match ← parsePdInterfaceDataReal data body with
    | .ok interface => return { PdRealData.empty with interface := some interface }
    | .error _ => return .empty
  else if blockType = blockPdPortDataReal then
    let port ← parsePdPortDataReal data body slotNr subslotNr
    return { PdRealData.empty with ports := [port] }
  else return .empty

/-- The nested blocks from `offset` on: their names, and what they add. -/
def nestedFrom (data : List UInt8) (slotNr subslotNr : UInt16) (blockEnd offset : Nat) :
    Comp (List String × PdRealData) := do
  let head ← add offset 6
  if head ≤ blockEnd then
    match ← parseBlockHeader data offset with
    | .error _ => return ([], .empty)
    | .ok (header, body) =>
      let next ← add body (← header.bodyLength)
      let found ← nestedBlock data slotNr subslotNr header.blockType body
      let (names, more) ← nestedFrom data slotNr subslotNr blockEnd next
      return (header.typeName :: names, found.append more)
  else return ([], .empty)
  termination_by blockEnd - offset
  decreasing_by
    have := head.2
    have := body.2
    have := next.2
    omega

/-- What a block of the record adds: nothing, unless it is a MultipleBlockHeader. -/
def multipleBlock (data : List UInt8) (blockType : UInt16) (body blockEnd : Nat) :
    Comp PdRealData := do
  if blockType = blockMultipleHeader then
    match ← parseMultipleBlockHeader data body with
    | .error _ => return .empty
    | .ok (api, slotNr, subslotNr, nested) =>
      let (names, found) ← nestedFrom data slotNr subslotNr blockEnd nested
      let raw ← slice data body (min blockEnd data.length)
      return found.append { PdRealData.empty with
        slots := [{ slot := slotNr, subslot := subslotNr, api := api, moduleIdent := 0,
                    submoduleIdent := 0, blocks := names }]
        rawBlocks := [(api, slotNr, subslotNr, raw)] }
  else return .empty

/-- The blocks from `offset` on. -/
def pdBlocksFrom (data : List UInt8) (offset : Nat) : Comp PdRealData := do
  let head ← add offset 6
  if head ≤ data.length then
    match ← parseBlockHeader data offset with
    | .error _ => return .empty
    | .ok (header, body) =>
      let blockEnd ← add body (← header.bodyLength)
      let found ← multipleBlock data header.blockType body blockEnd
      let more ← pdBlocksFrom data blockEnd
      return found.append more
  else return .empty
  termination_by data.length - offset
  decreasing_by
    have := head.2
    have := body.2
    have := blockEnd.2
    omega

/-- `parse_pd_real_data`: all blocks of the record. -/
def parsePdRealData (data : List UInt8) : Comp PdRealData := pdBlocksFrom data 0

/-! ## They return for every record

  Offsets grow with what is read, and by a word at most where the record only announces a length.
  None is ever far behind the end of the record, so no sum of theirs overflows. -/

/-- The next aligned offset is at most three bytes away. -/
theorem alignFromBlock_returns {start bodyOffset : Nat} (hstart : start ≤ bodyOffset)
    (hoff : bodyOffset < 2 ^ 63 + 65536) :
    Returns (alignFromBlock start bodyOffset) fun n => bodyOffset ≤ n ∧ n ≤ bodyOffset + 3 := by
  have hsize : blockHeaderSize = 6 := rfl
  refine .sub hstart fun rel hrel => .add (by omega) fun blockOffset hblock => ?_
  refine .align4 (by omega) fun aligned haligned => .sub (by omega) fun body hbody => ?_
  refine .add (by omega) fun offset hoffset => returns_ok ?_
  constructor <;> omega

/-- Aligning moves forward by three bytes at most. -/
theorem alignFrom_returns {start offset : Nat} (hstart : start ≤ offset)
    (hoff : offset < 2 ^ 63 + 65536) :
    Returns (alignFrom start offset) fun n => offset ≤ n ∧ n ≤ offset + 3 := by
  refine .sub hstart fun rel hrel => .align4 (by omega) fun aligned haligned => ?_
  refine .add (by omega) fun next hnext => returns_ok ?_
  constructor <;> omega

section Fields

variable {data : List UInt8} (hdata : data.length < 2 ^ 63) {offset : Nat}
include hdata

/-- The IP configuration is read within the record or not at all. -/
theorem parseIpConfiguration_safe (hoff : offset ≤ data.length + 65536) (chassisId : String)
    (macAddress : Bytes 6) : Safe (parseIpConfiguration data offset chassisId macAddress) := by
  refine .add (by omega) fun stop hstop => .ite (fun _ => safe_ok _) fun hfits => ?_
  refine .arrayAt hdata (by omega) fun _ => .add (by omega) fun maskOff hmask => ?_
  refine .arrayAt hdata (by omega) fun _ => .add (by omega) fun gatewayOff hgateway => ?_
  exact .arrayAt hdata (by omega) fun _ => safe_ok _

/-- The interface block is read within the record, whatever it holds. -/
theorem parsePdInterfaceDataReal_safe : Safe (parsePdInterfaceDataReal data offset) := by
  refine .ite (fun _ => safe_ok _) fun hsome => .index (by omega) fun len => ?_
  have hlen := len.toNat_lt
  refine .add (by omega) fun first hfirst => .add (by omega) fun stop hstop => ?_
  refine .ite (fun _ => safe_ok _) fun hchassis => .slice (by omega) (by omega) fun _ _ => ?_
  refine (alignFromBlock_returns (by omega) (by omega)).bind ?_
  intro macOff hmacOff
  refine .add (by omega) fun macStop hmacStop => .ite (fun _ => safe_ok _) fun hmac => ?_
  refine .arrayAt hdata (by omega) ?_
  intro macAddress
  refine (alignFromBlock_returns (by omega) (by omega)).bind ?_
  intro ipOff hipOff
  exact parseIpConfiguration_safe hdata (by omega) _ macAddress

/-- A field that is read where it fits leaves the offset in the record, or where it was. -/
theorem fieldAt_returns {α : Type} {n : Nat} {read : Nat → Comp α} (default : α) (hn : n ≤ 8)
    (hread : offset + n ≤ data.length → Safe (read offset)) (hoff : offset ≤ data.length + 65536) :
    Returns (fieldAt data n read default offset) fun r =>
      offset ≤ r.2 ∧ (r.2 = offset ∨ r.2 ≤ data.length) := by
  refine .add (by omega) fun stop hstop => .ite (fun hfits => ?_) fun _ => ?_
  · refine (hread (by omega)).bind fun _ _ => returns_ok ⟨?_, .inr hfits⟩
    show offset ≤ (stop : Nat)
    omega
  · exact returns_ok ⟨Nat.le_refl _, .inl rfl⟩

/-- A string that starts within the record ends within it. -/
theorem stringAt_returns (hoff : offset < data.length) :
    Returns (stringAt data offset) fun r => offset ≤ r.2 ∧ r.2 ≤ data.length := by
  refine .index hoff ?_
  intro len
  have hlen := len.toNat_lt
  refine .add (by omega) fun start hstart => .add (by omega) fun stop hstop => ?_
  refine .ite (fun hfits => .slice (by omega) hfits fun _ _ => ?_) fun _ => ?_
  · refine returns_ok ⟨?_, hfits⟩
    show offset ≤ (stop : Nat)
    omega
  · refine returns_ok ⟨?_, ?_⟩
    · show offset ≤ (start : Nat)
      omega
    · show (start : Nat) ≤ data.length
      omega

/-- Four bytes in the record: both words are read. -/
theorem wordsAt_safe (h : offset + 4 ≤ data.length) : Safe (wordsAt data offset) := by
  refine .u16At hdata (by omega) fun _ _ => .add (by omega) fun second hsecond => ?_
  exact .u16At hdata (by omega) fun _ _ => safe_ok _

/-- Eight bytes in the record: both boundaries are read. -/
theorem boundariesAt_safe (h : offset + 8 ≤ data.length) : Safe (boundariesAt data offset) := by
  refine .u32At hdata (by omega) fun _ _ => .add (by omega) fun second hsecond => ?_
  exact .u32At hdata (by omega) fun _ _ => safe_ok _

/-- Two bytes in the record: both states are read. -/
theorem linkStateAt_safe (h : offset + 2 ≤ data.length) : Safe (linkStateAt data offset) := by
  refine .index (by omega) fun _ => .add (by omega) fun second hsecond => ?_
  exact .index (by omega) fun _ => safe_ok _

/-- The peer count is read within the record or taken as zero. -/
theorem peerCountAt_returns (hoff : offset ≤ data.length) :
    Returns (peerCountAt data offset) fun r => offset ≤ r.2 ∧ r.2 ≤ data.length := by
  refine .ite (fun hmore => .index hmore fun _ => ?_) fun _ => returns_ok ⟨Nat.le_refl _, hoff⟩
  refine .add (by omega) fun next hnext => returns_ok ⟨?_, ?_⟩
  · show offset ≤ (next : Nat)
    omega
  · show (next : Nat) ≤ data.length
    omega

end Fields

section Records

variable {data : List UInt8} (hdata : data.length < 2 ^ 63)
include hdata

/-- The loop over the peers stays behind the start of the body and near the record. -/
theorem peersFrom_returns {start : Nat} (count : Nat) {offset : Nat} (hstart : start ≤ offset)
    (hoff : offset ≤ data.length + 65000) :
    Returns (peersFrom data start count offset) fun r =>
      start ≤ r.2 ∧ r.2 ≤ data.length + 65000 := by
  induction count generalizing offset with
  | zero => exact returns_ok ⟨hstart, hoff⟩
  | succ count ih =>
    refine .add (by omega) fun stop hstop => .ite (fun _ => ?_) fun hport => ?_
    · exact returns_ok ⟨hstart, hoff⟩
    refine (stringAt_returns hdata (by omega)).bind fun ⟨portId, second⟩ hsecond => ?_
    have hsecond : offset ≤ second ∧ second ≤ data.length := hsecond
    refine .add (by omega) fun stop hstop => .ite (fun _ => ?_) fun hchassis => ?_
    · refine returns_ok ⟨?_, ?_⟩
      · show start ≤ second
        omega
      · show second ≤ data.length + 65000
        omega
    refine (stringAt_returns hdata (by omega)).bind fun ⟨chassisId, third⟩ hthird => ?_
    have hthird : second ≤ third ∧ third ≤ data.length := hthird
    refine (alignFrom_returns (by omega) (by omega)).bind ?_
    intro macOff hmacOff
    refine (fieldAt_returns hdata noMac (by omega) (fun hfits => ?_) (by omega)).bind
      fun ⟨mac, fourth⟩ hfourth => ?_
    · exact ⟨_, arrayAt_ok hdata hfits, trivial⟩
    have hfourth : macOff ≤ fourth ∧ (fourth = macOff ∨ fourth ≤ data.length) := hfourth
    refine (alignFrom_returns (by omega) (by omega)).bind ?_
    intro next hnext
    exact (ih (by omega) (by omega)).bind fun ⟨more, last⟩ hlast => returns_ok hlast

/-- The numbers behind the peers are read within the record or left at zero. -/
theorem parsePortNumbers_safe {start offset : Nat} (hstart : start ≤ offset)
    (hoff : offset ≤ data.length + 65000) (port : PortInfo) :
    Safe (parsePortNumbers data start offset port) := by
  refine (fieldAt_returns hdata 0 (by omega) (fun hfits => ?_) (by omega)).bind
    fun ⟨mauType, first⟩ hfirst => ?_
  · exact ⟨_, u16At_ok hdata hfits _, trivial⟩
  have hfirst : offset ≤ first ∧ (first = offset ∨ first ≤ data.length) := hfirst
  refine (alignFrom_returns (by omega) (by omega)).bind ?_
  intro boundOff hboundOff
  refine (fieldAt_returns hdata (0, 0) (by omega) (boundariesAt_safe hdata) (by omega)).bind
    fun ⟨boundaries, second⟩ hsecond => ?_
  have hsecond : boundOff ≤ second ∧ (second = boundOff ∨ second ≤ data.length) := hsecond
  refine (fieldAt_returns hdata (0, 0) (by omega) (linkStateAt_safe hdata) (by omega)).bind
    fun ⟨linkState, third⟩ hthird => ?_
  have hthird : second ≤ third ∧ (third = second ∨ third ≤ data.length) := hthird
  refine (alignFrom_returns (by omega) (by omega)).bind ?_
  intro mediaOff hmediaOff
  refine (fieldAt_returns hdata 0 (by omega) (fun hfits => ?_) (by omega)).bind
    fun ⟨mediaType, last⟩ _ => safe_ok _
  exact ⟨_, u32At_ok hdata hfits _, trivial⟩

/-- The port block is read within the record, whatever it holds. -/
theorem parsePdPortDataReal_safe {offset : Nat} (hoff : offset ≤ data.length)
    (slot subslot : UInt16) : Safe (parsePdPortDataReal data offset slot subslot) := by
  refine .align4 (by omega) ?_
  intro aligned haligned
  refine (fieldAt_returns hdata (slot, subslot) (by omega) (wordsAt_safe hdata) (by omega)).bind
    fun ⟨⟨slot, subslot⟩, first⟩ hfirst => ?_
  have hfirst : (aligned : Nat) ≤ first ∧ (first = aligned ∨ first ≤ data.length) := hfirst
  refine .add (by omega) fun stop hstop => .ite (fun _ => safe_ok _) fun hport => ?_
  refine (stringAt_returns hdata (by omega)).bind fun ⟨portId, second⟩ hsecond => ?_
  have hsecond : first ≤ second ∧ second ≤ data.length := hsecond
  refine (peerCountAt_returns hdata (by omega)).bind fun ⟨numPeers, third⟩ hthird => ?_
  have hthird : second ≤ third ∧ third ≤ data.length := hthird
  refine (alignFrom_returns (by omega) (by omega)).bind ?_
  intro peerOff hpeerOff
  refine (peersFrom_returns hdata numPeers (by omega) (by omega)).bind
    fun ⟨peers, fourth⟩ hfourth => ?_
  exact parsePortNumbers_safe hdata hfourth.1 hfourth.2 _

/-- A nested block of any type is read within the record. -/
theorem nestedBlock_safe {body : Nat} (hbody : body ≤ data.length) (slotNr subslotNr : UInt16)
    (blockType : UInt16) : Safe (nestedBlock data slotNr subslotNr blockType body) := by
  refine .ite (fun _ => ?interface) fun _ => .ite (fun _ => ?port) fun _ => safe_ok _
  case interface =>
    refine (parsePdInterfaceDataReal_safe hdata).bind ?_
    intro r _
    rcases r with e | interface
    · exact safe_ok _
    · exact safe_ok _
  case port =>
    exact (parsePdPortDataReal_safe hdata hbody slotNr subslotNr).bind fun _ _ => safe_ok _

/-- A block begins at most 65533 bytes behind the header of the one before, which is in the record,
    whatever the outer block declares. -/
theorem nestedFrom_safe (slotNr subslotNr : UInt16) (blockEnd : Nat) {offset : Nat}
    (hoff : offset ≤ data.length + 65536) :
    Safe (nestedFrom data slotNr subslotNr blockEnd offset) := by
  unfold nestedFrom
  refine .add (by omega) fun head hhead => .ite (fun hmore => ?_) fun _ => safe_ok _
  refine (parseBlockHeader_returns hdata hoff).bind ?_
  intro r hr
  rcases r with e | ⟨header, body⟩
  · exact safe_ok _
  have hinside : offset + 6 ≤ data.length := hr header body rfl
  have hbody := body.2
  refine (bodyLength_returns header).bind fun len hlen => .add (by omega) fun next hnext => ?_
  refine (nestedBlock_safe hdata (by omega) slotNr subslotNr header.blockType).bind ?_
  intro _ _
  exact (nestedFrom_safe slotNr subslotNr blockEnd (by omega)).bind fun _ _ => safe_ok _
  termination_by blockEnd - offset
  decreasing_by omega

/-- A multiple header is read within the record. -/
theorem multipleBlock_safe (blockType : UInt16) {body blockEnd : Nat} (hbody : body ≤ data.length)
    (hend : body ≤ blockEnd) : Safe (multipleBlock data blockType body blockEnd) := by
  refine .ite (fun _ => ?_) fun _ => safe_ok _
  refine (parseMultipleBlockHeader_safe hdata (by omega)).bind ?_
  intro r _
  rcases r with e | ⟨api, slotNr, subslotNr, nested⟩
  · exact safe_ok _
  have hnested := nested.2
  refine (nestedFrom_safe hdata slotNr subslotNr blockEnd (by omega)).bind fun ⟨names, found⟩ _ => ?_
  exact .slice (by omega) (Nat.min_le_right _ _) fun _ _ => safe_ok _

/-- From any offset the remaining blocks are read within the record. -/
theorem pdBlocksFrom_safe {offset : Nat} (hoff : offset ≤ data.length + 65536) :
    Safe (pdBlocksFrom data offset) := by
  unfold pdBlocksFrom
  refine .add (by omega) fun head hhead => .ite (fun hmore => ?_) fun _ => safe_ok _
  refine (parseBlockHeader_returns hdata hoff).bind ?_
  intro r _
  rcases r with e | ⟨header, body⟩
  · exact safe_ok _
  have hbody := body.2
  refine (bodyLength_returns header).bind fun len hlen => .add (by omega) fun blockEnd hend => ?_
  refine (multipleBlock_safe hdata header.blockType (by omega) (by omega)).bind ?_
  intro _ _
  exact (pdBlocksFrom_safe (by omega)).bind fun _ _ => safe_ok _
  termination_by data.length - offset
  decreasing_by omega

/-- The record is read without a panic, whatever it holds. -/
theorem parsePdRealData_safe : Safe (parsePdRealData data) :=
  pdBlocksFrom_safe hdata (by omega)

end Records

end Profinet.Im
