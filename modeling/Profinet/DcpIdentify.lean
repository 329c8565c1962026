/-
  DCP IDENTIFY: which device a well-formed response describes.

  The parser walks over the blocks and lets each of them write its fields of the device, so in
  general the last block of a kind would win, and what a later block says could depend on where it
  stands.  A well-formed response has at most one block of each known kind.  Then the device is a
  table of its blocks, looked up kind by kind (`deviceOf`), and the table does not know their order,
  the other blocks or the bytes behind them (`identify_response`).

      DcpDevice.learn    the fields a block writes
      identifyBlocks_ok  the walk is a fold of it over the blocks it visits
      visited_field      one field after the walk
-/
import Mathlib.Data.List.DropRight
import Profinet.DcpMessage
import Profinet.Lib.LastWrite

namespace Profinet.Dcp

open Wire Checked Util Utf8 LastWrite

/-! ## The device of a list of blocks -/

/-- The kinds of block an Identify response is read for. -/
def knownKinds : List (UInt8 × UInt8) :=
  [(dcpOptionDevice, dcpSuboptionDeviceType), (dcpOptionDevice, dcpSuboptionDeviceName),
    (dcpOptionIp, dcpSuboptionIpParameter), (dcpOptionDevice, dcpSuboptionDeviceId),
    (dcpOptionDevice, dcpSuboptionDeviceRole)]

/-- One of the blocks the parser knows. -/
def Block.known (b : Block) : Bool := knownKinds.any fun kind => b.is kind.1 kind.2

/-- What the block of this kind says, or the default if there is none. -/
def valueOf {α : Type} (blocks : List Block) (option suboption : UInt8) (read : Block → α)
    (default : α) : α :=
  ((blocks.find? (Block.is option suboption)).map read).getD default

/-- A type comes with trailing zeros. -/
def Block.typeText (b : Block) : String := fromUtf8Lossy (b.payload.rdropWhile (· = 0))

/-- The device these blocks describe. -/
def deviceOf (src : Mac) (blocks : List Block) : DcpDevice :=
  { mac := src
    name := valueOf blocks dcpOptionDevice dcpSuboptionDeviceName (fromUtf8Lossy ·.payload) ""
    deviceType := valueOf blocks dcpOptionDevice dcpSuboptionDeviceType Block.typeText ""
    ip := valueOf blocks dcpOptionIp dcpSuboptionIpParameter (bytesAt 4 ·.payload 0) noAddress
    netmask := valueOf blocks dcpOptionIp dcpSuboptionIpParameter (bytesAt 4 ·.payload 4) noAddress
    gateway := valueOf blocks dcpOptionIp dcpSuboptionIpParameter (bytesAt 4 ·.payload 8) noAddress
    vendorId := valueOf blocks dcpOptionDevice dcpSuboptionDeviceId (rdU16 ·.payload 0 false) 0
    deviceId := valueOf blocks dcpOptionDevice dcpSuboptionDeviceId (rdU16 ·.payload 2 false) 0
    role := valueOf blocks dcpOptionDevice dcpSuboptionDeviceRole (·.payload.getD 0 0) 0
    ipBlockInfo := valueOf blocks dcpOptionIp dcpSuboptionIpParameter
      (fun b => some (rdU16 b.content 0 false)) none }

/-- A block is long enough for its kind. -/
structure Block.Sized (b : Block) : Prop where
  ip : b.is dcpOptionIp dcpSuboptionIpParameter = true → 12 ≤ b.payload.length
  deviceId : b.is dcpOptionDevice dcpSuboptionDeviceId = true → 4 ≤ b.payload.length
  role : b.is dcpOptionDevice dcpSuboptionDeviceRole = true → 0 < b.payload.length

/-- The blocks of a well-formed response. -/
structure Identified (blocks : List Block) : Prop where
  sized : ∀ b ∈ blocks, b.Sized
  once : ∀ kind ∈ knownKinds, AtMostOne (Block.is kind.1 kind.2) blocks

/-! ## What one block writes -/

/-- The device with the fields of the block, if it is of a known kind. -/
def DcpDevice.learn (device : DcpDevice) (b : Block) : DcpDevice :=
  { mac := device.mac
    name := if b.is dcpOptionDevice dcpSuboptionDeviceName then fromUtf8Lossy b.payload
      else device.name
    deviceType := if b.is dcpOptionDevice dcpSuboptionDeviceType then b.typeText
      else device.deviceType
    ip := if b.is dcpOptionIp dcpSuboptionIpParameter then bytesAt 4 b.payload 0 else device.ip
    netmask := if b.is dcpOptionIp dcpSuboptionIpParameter then bytesAt 4 b.payload 4
      else device.netmask
    gateway := if b.is dcpOptionIp dcpSuboptionIpParameter then bytesAt 4 b.payload 8
      else device.gateway
    vendorId := if b.is dcpOptionDevice dcpSuboptionDeviceId then rdU16 b.payload 0 false
      else device.vendorId
    deviceId := if b.is dcpOptionDevice dcpSuboptionDeviceId then rdU16 b.payload 2 false
      else device.deviceId
    role := if b.is dcpOptionDevice dcpSuboptionDeviceRole then b.payload.getD 0 0 else device.role
    ipBlockInfo := if b.is dcpOptionIp dcpSuboptionIpParameter then some (rdU16 b.content 0 false)
      else device.ipBlockInfo }

/-- Cutting behind the last byte with the property drops the others from the right. -/
theorem take_rposition (data : List UInt8) :
    (match rposition (· ≠ 0) data with
      | none => []
      | some i => data.take (i + 1)) = data.rdropWhile (· = 0) := by
  induction data using List.reverseRecOn with
  | nil => rfl
  | append_singleton data b ih =>
    rw [rposition_concat, List.rdropWhile_concat, ← ih]
    by_cases hzero : b = 0
    · rw [if_neg (by simp [hzero]), if_pos (by simp [hzero])]
      cases hlast : rposition (· ≠ 0) data with
      | none => rfl
      | some i =>
        have hi := rposition_lt hlast
        exact List.take_append_of_le_length (by omega)
    · rw [if_pos (by simp [hzero]), if_neg (by simp [hzero])]
      refine List.take_of_length_le ?_
      rw [List.length_append, List.length_singleton]

/-- A block is of one kind only. -/
theorem Block.is_eq {b : Block} {option suboption : UInt8}
    (h : b.option = option ∧ b.suboption = suboption) (option' suboption' : UInt8) :
    b.is option' suboption' = decide (option = option' ∧ suboption = suboption') := by
  rw [Block.is, h.1, h.2]

theorem Block.is_of {b : Block} {option suboption : UInt8}
    (h : b.option = option ∧ b.suboption = suboption) : b.is option suboption = true :=
  decide_eq_true h

/-- The type is cut behind its last byte that is not zero. -/
theorem withBlock_type (device : DcpDevice) (data : List UInt8) {payload : List UInt8}
    (hpayload : payload.length < 2 ^ 63) :
    device.withBlock dcpOptionDevice dcpSuboptionDeviceType data payload
      = .ok { device with deviceType := fromUtf8Lossy (payload.rdropWhile (· = 0)) } := by
  unfold DcpDevice.withBlock
  rw [if_pos ⟨rfl, rfl⟩, ← take_rposition]
  cases hlast : rposition (· ≠ 0) payload with
  | none =>
    dsimp only
    rw [fromUtf8Lossy_nil]
    rfl
  | some i =>
    have hi := rposition_lt hlast
    dsimp only
    rw [add_ok (by omega), ok_bind]
    dsimp only
    rw [slice_ok (by omega) (by omega)]
    rfl

/-- **What the parser takes from a block is what the block writes.** -/
theorem withBlock_learn (device : DcpDevice) {b : Block} (hsized : b.Sized) {data rest : List UInt8}
    (hdata : data.drop 4 = b.content ++ rest) (hbound : data.length < 2 ^ 63) :
    device.withBlock b.option b.suboption data b.payload = .ok (device.learn b) := by
  have hlen : b.payload.length = b.content.length - 2 := List.length_drop
  have hroom : data.length - 4 = b.content.length + rest.length := by
    rw [← List.length_drop, hdata, List.length_append]
  have hpayload : b.payload.length < 2 ^ 63 := by omega
  -- the kinds of block in the order in which the parser asks for them
  by_cases htype : b.option = dcpOptionDevice ∧ b.suboption = dcpSuboptionDeviceType
  · have hlearn : device.learn b = { device with deviceType := b.typeText } := by
      simp only [DcpDevice.learn, Block.is_eq htype]
      rfl
    rw [htype.1, htype.2, withBlock_type device data hpayload, hlearn]
    rfl
  unfold DcpDevice.withBlock
  rw [if_neg htype]
  by_cases hname : b.option = dcpOptionDevice ∧ b.suboption = dcpSuboptionDeviceName
  · have hlearn : device.learn b = { device with name := fromUtf8Lossy b.payload } := by
      simp only [DcpDevice.learn, Block.is_eq hname]
      rfl
    rw [if_pos hname, hlearn]
    rfl
  rw [if_neg hname]
  by_cases hip : b.option = dcpOptionIp ∧ b.suboption = dcpSuboptionIpParameter
  · have hlong := hsized.ip (Block.is_of hip)
    have hinfo : rdU16 data 4 false = rdU16 b.content 0 false := by
      have hread := rdU16_drop data 4 0 false
      rw [hdata, rdU16_append (by omega)] at hread
      exact hread.symm
    have hlearn : device.learn b
        = { device with
            ipBlockInfo := some (rdU16 b.content 0 false)
            ip := bytesAt 4 b.payload 0
            netmask := bytesAt 4 b.payload 4
            gateway := bytesAt 4 b.payload 8 } := by
      simp only [DcpDevice.learn, Block.is_eq hip]
      rfl
    rw [if_pos ⟨hip.1, hip.2, hlong⟩, u16At_ok hbound (by omega), ok_bind, hinfo,
      arrayAt_ok hpayload (by omega), ok_bind, arrayAt_ok hpayload (by omega), ok_bind,
      arrayAt_ok hpayload (by omega), ok_bind, hlearn]
    rfl
  rw [if_neg fun h => hip ⟨h.1, h.2.1⟩]
  by_cases hid : b.option = dcpOptionDevice ∧ b.suboption = dcpSuboptionDeviceId
  · have hlong := hsized.deviceId (Block.is_of hid)
    have hlearn : device.learn b
        = { device with
            vendorId := rdU16 b.payload 0 false
            deviceId := rdU16 b.payload 2 false } := by
      simp only [DcpDevice.learn, Block.is_eq hid]
      rfl
    rw [if_pos ⟨hid.1, hid.2, hlong⟩, u16At_ok hpayload (by omega), ok_bind,
      u16At_ok hpayload (by omega), ok_bind, hlearn]
    rfl
  rw [if_neg fun h => hid ⟨h.1, h.2.1⟩]
  by_cases hrole : b.option = dcpOptionDevice ∧ b.suboption = dcpSuboptionDeviceRole
  · have hlong := hsized.role (Block.is_of hrole)
    have hlearn : device.learn b = { device with role := b.payload.getD 0 0 } := by
      simp only [DcpDevice.learn, Block.is_eq hrole]
      rfl
    rw [if_pos ⟨hrole.1, hrole.2, hlong⟩, index_ok hlong, ok_bind, hlearn]
    rfl
  · rw [if_neg fun h => hrole ⟨h.1, h.2.1⟩]
    simp only [DcpDevice.learn, Block.is, htype, hname, hip, hid, hrole]
    rfl

/-! ## The walk -/

/-- One turn of it. -/
theorem identifyBlocks_cons (device : DcpDevice) {b : Block} (hsized : b.Sized) {more : List UInt8}
    {length : Nat} (hgo : 6 < length) (hlength : length < 65536) (hfits : b.bytes.length ≤ length)
    (hroom : length ≤ (b.bytes ++ more).length) (hshort : (b.bytes ++ more).length < 2 ^ 63) :
    identifyBlocks device (b.bytes ++ more) length
      = identifyBlocks (device.learn b) more (length - b.bytes.length : Nat) := by
  have hbytes := b.bytes_length
  have hcontent : b.content.length < 65536 := by omega
  obtain ⟨hoption, hsuboption, hblockLen, hbehind, -⟩ := b.head more hcontent
  have hcut := b.cut more hcontent
  have hgo' : (6 : Int) < length := by omega
  rw [identifyBlocks, if_pos hgo', if_neg (by omega), index_ok (by omega), ok_bind,
    index_ok (by omega), ok_bind, u16At_ok hshort (by omega), ok_bind, hoption, hsuboption]
  dsimp only
  rw [hblockLen, add_ok (by omega), ok_bind]
  dsimp only
  rw [slice_ok (by omega) (by omega), ok_bind]
  dsimp only
  rw [hcut, withBlock_learn device hsized hbehind hshort, ok_bind]
  exact b.skip hlength hfits (identifyBlocks (device.learn b))

/-- **Every block the walk visits writes its fields.** -/
theorem identifyBlocks_ok (device : DcpDevice) {blocks : List Block} {trailing : List UInt8}
    (hsized : ∀ b ∈ blocks, b.Sized) (hfits : (blockBytes blocks).length < 65536)
    (hshort : (blockBytes blocks ++ trailing).length < 2 ^ 63) :
    identifyBlocks device (blockBytes blocks ++ trailing) (blockBytes blocks).length
      = .ok ((visited blocks).foldl DcpDevice.learn device) := by
  -- on the blocks: each is read, and the count left is that of the others
  induction blocks generalizing device with
  | nil =>
    rw [identifyBlocks, if_neg (by decide)]
    rfl
  | cons b rest ih =>
    have hstop := visited_stop b rest
    have hcons := blockBytes_cons_append b rest trailing
    have hlen := blockBytes_cons_length b rest
    rw [visited]
    -- a last block of no more than its header is not visited
    by_cases hlast : rest = [] ∧ b.payload = []
    · have hend : ¬ 6 < (blockBytes (b :: rest)).length := fun h => hstop.mp h hlast
      rw [if_pos hlast, identifyBlocks, if_neg (by omega)]
      rfl
    · have hgo := hstop.mpr hlast
      have hroom : (blockBytes (b :: rest)).length
          ≤ (b.bytes ++ (blockBytes rest ++ trailing)).length := by
        rw [← hcons, List.length_append]
        omega
      have hrest := ih (device.learn b) (fun b' hb' => hsized b' (List.mem_cons_of_mem b hb'))
        (by omega) (by
          rw [hcons, List.length_append] at hshort
          exact Nat.lt_of_le_of_lt (Nat.le_add_left ..) hshort)
      have hleft : (blockBytes (b :: rest)).length - b.bytes.length = (blockBytes rest).length := by
        omega
      rw [hcons] at hshort ⊢
      rw [if_neg hlast, identifyBlocks_cons device (hsized b List.mem_cons_self) hgo hfits
        (by omega) hroom hshort, hleft]
      exact hrest

/-! ## The fields after the walk -/

/-- **A field after the walk** is what the block of its kind says: a last block that the walk does
    not visit would write the default. -/
theorem visited_field {γ : Type} {field : DcpDevice → γ} {option suboption : UInt8}
    {read : Block → γ}
    (hlearn : ∀ d b, field (d.learn b) = if b.is option suboption then read b else field d)
    {blocks : List Block} (honce : AtMostOne (Block.is option suboption) blocks) (device : DcpDevice)
    (hempty : ∀ b ∈ blocks, b.is option suboption = true → b.payload = [] → read b = field device) :
    field ((visited blocks).foldl DcpDevice.learn device)
      = valueOf blocks option suboption read (field device) := by
  rw [foldl_field (fun b _ d => hlearn d b) device, valueOf]
  rcases List.eq_nil_or_concat' blocks with rfl | ⟨pre, b, rfl⟩
  · rfl
  · rw [visited_snoc]
    by_cases hpayload : b.payload = []
    · rw [if_pos hpayload, (honce.sublist (List.sublist_append_left pre [b])).find?_reverse,
        List.find?_append]
      cases pre.find? (Block.is option suboption) with
      | some first => rfl
      | none =>
        rw [List.find?_cons]
        cases hkind : b.is option suboption with
        | true =>
          have hb : b ∈ pre ++ [b] := List.mem_append_right pre List.mem_cons_self
          exact (hempty b hb hkind hpayload).symm
        | false => rfl
    · rw [if_neg hpayload, honce.find?_reverse]

/-- A block of a kind that always has a payload is visited. -/
theorem visited_field_long {γ : Type} {field : DcpDevice → γ} {option suboption : UInt8}
    {read : Block → γ}
    (hlearn : ∀ d b, field (d.learn b) = if b.is option suboption then read b else field d)
    {blocks : List Block} (honce : AtMostOne (Block.is option suboption) blocks) (device : DcpDevice)
    (hlong : ∀ b ∈ blocks, b.is option suboption = true → 0 < b.payload.length) :
    field ((visited blocks).foldl DcpDevice.learn device)
      = valueOf blocks option suboption read (field device) := by
  refine visited_field hlearn honce device ?_
  intro b hb hkind hpayload
  exact absurd hpayload (List.ne_nil_of_length_pos (hlong b hb hkind))

theorem learn_mac (device : DcpDevice) (blocks : List Block) :
    (blocks.foldl DcpDevice.learn device).mac = device.mac := by
  induction blocks generalizing device with
  | nil => rfl
  | cons b rest ih =>
    rw [List.foldl_cons, ih]
    rfl

attribute [ext] DcpDevice

/-- **The walk fills in the table.** -/
theorem visited_device (src : Mac) {blocks : List Block} (h : Identified blocks) :
    (visited blocks).foldl DcpDevice.learn (.ofMac src) = deviceOf src blocks := by
  have hname := h.once (dcpOptionDevice, dcpSuboptionDeviceName) (by decide)
  have htype := h.once (dcpOptionDevice, dcpSuboptionDeviceType) (by decide)
  have hip := h.once (dcpOptionIp, dcpSuboptionIpParameter) (by decide)
  have hid := h.once (dcpOptionDevice, dcpSuboptionDeviceId) (by decide)
  have hrole := h.once (dcpOptionDevice, dcpSuboptionDeviceRole) (by decide)
  -- blocks of the last three kinds are never without payload
  have hlongIp : ∀ b ∈ blocks, b.is dcpOptionIp dcpSuboptionIpParameter = true →
      0 < b.payload.length :=
    fun b hb hkind => Nat.lt_of_lt_of_le (by decide) ((h.sized b hb).ip hkind)
  have hlongId : ∀ b ∈ blocks, b.is dcpOptionDevice dcpSuboptionDeviceId = true →
      0 < b.payload.length :=
    fun b hb hkind => Nat.lt_of_lt_of_le (by decide) ((h.sized b hb).deviceId hkind)
  have hlongRole : ∀ b ∈ blocks, b.is dcpOptionDevice dcpSuboptionDeviceRole = true →
      0 < b.payload.length := fun b hb hkind => (h.sized b hb).role hkind
  apply DcpDevice.ext
  · exact learn_mac (.ofMac src) (visited blocks)
  · refine visited_field (fun _ _ => rfl) hname (.ofMac src) ?_
    intro b _ _ hpayload
    rw [hpayload, fromUtf8Lossy_nil]
    rfl
  · refine visited_field (fun _ _ => rfl) htype (.ofMac src) ?_
    intro b _ _ hpayload
    rw [Block.typeText, hpayload, List.rdropWhile_nil, fromUtf8Lossy_nil]
    rfl
  · exact visited_field_long (fun _ _ => rfl) hip (.ofMac src) hlongIp
  · exact visited_field_long (fun _ _ => rfl) hip (.ofMac src) hlongIp
  · exact visited_field_long (fun _ _ => rfl) hip (.ofMac src) hlongIp
  · exact visited_field_long (fun _ _ => rfl) hid (.ofMac src) hlongId
  · exact visited_field_long (fun _ _ => rfl) hid (.ofMac src) hlongId
  · exact visited_field_long (fun _ _ => rfl) hrole (.ofMac src) hlongRole
  · exact visited_field_long (fun _ _ => rfl) hip (.ofMac src) hlongIp

/-! ## Other orders, other blocks -/

theorem Block.known_of_is {b : Block} {kind : UInt8 × UInt8} (hkind : kind ∈ knownKinds)
    (h : b.is kind.1 kind.2 = true) : b.known = true :=
  List.any_eq_true.mpr ⟨kind, hkind, h⟩

section Reordered

variable {blocks blocks' : List Block} (hknown : (blocks.filter Block.known).Perm
  (blocks'.filter Block.known))
include hknown

/-- The block of a kind is the same one, wherever it stands and whatever stands around it. -/
theorem find?_reordered {kind : UInt8 × UInt8} (hkind : kind ∈ knownKinds)
    (honce : AtMostOne (Block.is kind.1 kind.2) blocks) :
    blocks'.find? (Block.is kind.1 kind.2) = blocks.find? (Block.is kind.1 kind.2) := by
  have himp : ∀ b : Block, b.is kind.1 kind.2 = true → b.known = true :=
    fun b h => b.known_of_is hkind h
  rw [← find?_filter_of_imp himp blocks, ← find?_filter_of_imp himp blocks',
    (honce.sublist List.filter_sublist).find?_perm hknown]

theorem deviceOf_reordered (h : Identified blocks) (src : Mac) :
    deviceOf src blocks' = deviceOf src blocks := by
  have hfind (option suboption : UInt8) (hkind : (option, suboption) ∈ knownKinds) :
      blocks'.find? (Block.is option suboption) = blocks.find? (Block.is option suboption) :=
    find?_reordered hknown hkind (h.once (option, suboption) hkind)
  unfold deviceOf valueOf
  rw [hfind dcpOptionDevice dcpSuboptionDeviceName (by decide),
    hfind dcpOptionDevice dcpSuboptionDeviceType (by decide),
    hfind dcpOptionIp dcpSuboptionIpParameter (by decide),
    hfind dcpOptionDevice dcpSuboptionDeviceId (by decide),
    hfind dcpOptionDevice dcpSuboptionDeviceRole (by decide)]

theorem Identified.reordered (h : Identified blocks) : Identified blocks' where
  sized b hb := by
    have hmem (kind : UInt8 × UInt8) (hkind : kind ∈ knownKinds) (his : b.is kind.1 kind.2 = true) :
        b.Sized := by
      have hfiltered := List.mem_filter.mpr ⟨hb, b.known_of_is hkind his⟩
      exact h.sized b (List.mem_of_mem_filter (hknown.mem_iff.mpr hfiltered))
    exact
      { ip := fun his => (hmem (dcpOptionIp, dcpSuboptionIpParameter) (by decide) his).ip his
        deviceId := fun his =>
          (hmem (dcpOptionDevice, dcpSuboptionDeviceId) (by decide) his).deviceId his
        role := fun his => (hmem (dcpOptionDevice, dcpSuboptionDeviceRole) (by decide) his).role his }
  once kind hkind := by
    have himp : ∀ b : Block, b.is kind.1 kind.2 = true → b.known = true :=
      fun b his => b.known_of_is hkind his
    exact (h.once kind hkind).of_filter_perm himp hknown

end Reordered

/-! ## The answer -/

/-- The source address stands in front of the tags. -/
theorem Message.frame_src (m : Message) (frameId : UInt16) (serviceId serviceType : UInt8) :
    bytesAt 6 (m.frame frameId serviceId serviceType) 6 = m.src := by
  have h0 : (m.bare frameId serviceId serviceType).drop 0 = _ := rfl
  have h6 : (m.bare frameId serviceId serviceType).drop 6 = _ := drop_field h0 m.dst.property
  rw [Message.frame, tagged_src (m.bare_untagged frameId serviceId serviceType) m.tags]
  exact bytesAt_of_drop h6

theorem parseIdentifyResponse_frame (m : Message) (serviceId : UInt8) (h : Identified m.blocks) :
    parseIdentifyResponse
        (m.frame dcpIdentifyResponseFrameId serviceId dcpServiceTypeResponseSuccess)
      = .ok (.ok (deviceOf m.src m.blocks)) := by
  have hshort := m.short
  have hframe := m.frame_length dcpIdentifyResponseFrameId serviceId dcpServiceTypeResponseSuccess
  have hlen := m.payload_length dcpIdentifyResponseFrameId serviceId dcpServiceTypeResponseSuccess
  have hheader := m.payload_header dcpIdentifyResponseFrameId serviceId
    dcpServiceTypeResponseSuccess
  unfold parseIdentifyResponse
  rw [if_neg (by omega), arrayAt_ok (by omega) (by omega), ok_bind, m.frame_src,
    m.dcpPayload_frame, ok_bind]
  generalize m.payload dcpIdentifyResponseFrameId serviceId dcpServiceTypeResponseSuccess = payload
    at hheader hlen ⊢
  have hbound : payload.length < 2 ^ 63 := by omega
  dsimp only
  rw [if_neg (by omega), u16At_ok hbound (by omega), ok_bind, hheader.frameId, if_neg (by simp),
    index_ok (by omega), ok_bind, hheader.serviceType, if_neg (by simp),
    u16At_ok hbound (by omega), ok_bind, sliceFrom_ok (by omega), ok_bind]
  dsimp only
  rw [hheader.length, hheader.blocks, identifyBlocks_ok (.ofMac m.src) h.sized m.fits (by
    rw [List.length_append]
    omega), ok_bind, visited_device m.src h]
  rfl

/-- **The device of a well-formed response** is the table of its blocks; and any other response of
    this station with the same known blocks, in whatever order, among whatever other blocks and with
    whatever behind them, gives the same device. -/
theorem identify_response (m : Message) (serviceId : UInt8) (h : Identified m.blocks) :
    parseIdentifyResponse
        (m.frame dcpIdentifyResponseFrameId serviceId dcpServiceTypeResponseSuccess)
      = .ok (.ok (deviceOf m.src m.blocks))
    ∧ ∀ (m' : Message) (serviceId' : UInt8), m'.src = m.src →
        (m.blocks.filter Block.known).Perm (m'.blocks.filter Block.known) →
        parseIdentifyResponse
            (m'.frame dcpIdentifyResponseFrameId serviceId' dcpServiceTypeResponseSuccess)
          = parseIdentifyResponse
            (m.frame dcpIdentifyResponseFrameId serviceId dcpServiceTypeResponseSuccess) := by
  refine ⟨parseIdentifyResponse_frame m serviceId h, ?_⟩
  intro m' serviceId' hsrc hknown
  rw [parseIdentifyResponse_frame m serviceId h,
    parseIdentifyResponse_frame m' serviceId' (h.reordered hknown), hsrc,
    deviceOf_reordered hknown h]

/-- The type `x`, with two trailing zeros; of odd length. -/
def benchType : Block := ⟨dcpOptionDevice, dcpSuboptionDeviceType, [0, 0, 0x78, 0, 0], ⟨[9], rfl⟩⟩

/-- A name block of an even length. -/
def benchName : Block := ⟨dcpOptionDevice, dcpSuboptionDeviceName, [0, 0, 0x61, 0x31],
  ⟨[], by decide⟩⟩

/-- An IP block. -/
def benchIp : Block :=
  ⟨dcpOptionIp, dcpSuboptionIpParameter,
    [0, 1, 192, 168, 0, 5, 255, 255, 255, 0, 192, 168, 0, 1], ⟨[], by decide⟩⟩

/-- The options a device supports: a block that is not looked at. -/
def benchOptions : Block := ⟨dcpOptionDevice, 0x05, [0, 0, 1, 2, 2], ⟨[7], rfl⟩⟩

theorem identified_bench : Identified [benchType, benchName, benchOptions, benchIp] where
  sized b hb := by
    simp only [List.mem_cons, List.not_mem_nil, or_false] at hb
    rcases hb with rfl | rfl | rfl | rfl
    all_goals exact ⟨by decide, by decide, by decide⟩
  once kind hkind := by
    simp only [knownKinds, List.mem_cons, List.not_mem_nil, or_false] at hkind
    rcases hkind with rfl | rfl | rfl | rfl | rfl
    all_goals decide

/-- The same device, from its blocks in another order. -/
theorem identify_response_bench :
    parseIdentifyResponse
        ((benchResponse [benchType, benchName, benchOptions, benchIp] (by decide)).frame
          dcpIdentifyResponseFrameId 0x05 dcpServiceTypeResponseSuccess)
      = .ok (.ok
        { mac := ⟨[2, 0, 0, 0, 0, 0x12], rfl⟩
          name := "a1"
          deviceType := "x"
          ip := ⟨[192, 168, 0, 5], rfl⟩
          netmask := ⟨[255, 255, 255, 0], rfl⟩
          gateway := ⟨[192, 168, 0, 1], rfl⟩
          vendorId := 0
          deviceId := 0
          role := 0
          ipBlockInfo := some 1 })
    ∧ parseIdentifyResponse
        ((benchResponse [benchIp, benchName, benchType] (by decide)).frame
          dcpIdentifyResponseFrameId 0x05 dcpServiceTypeResponseSuccess)
      = parseIdentifyResponse
        ((benchResponse [benchType, benchName, benchOptions, benchIp] (by decide)).frame
          dcpIdentifyResponseFrameId 0x05 dcpServiceTypeResponseSuccess) := by
  obtain ⟨hdevice, hsame⟩ := identify_response
    (benchResponse [benchType, benchName, benchOptions, benchIp] (by decide)) 0x05 identified_bench
  refine ⟨hdevice.trans ?_, ?_⟩
  · congr 2
    apply DcpDevice.ext
    · rfl
    · show fromUtf8Lossy [0x61, 0x31] = "a1"
      simp [fromUtf8Lossy, lossyChars]
    · show fromUtf8Lossy [0x78] = "x"
      simp [fromUtf8Lossy, lossyChars]
    all_goals rfl
  -- the names of the blocks decide, not their order
  · refine hsame (benchResponse [benchIp, benchName, benchType] (by decide)) 0x05 rfl ?_
    show [benchType, benchName, benchIp].Perm [benchIp, benchName, benchType]
    exact (List.reverse_perm [benchIp, benchName, benchType])

end Profinet.Dcp
