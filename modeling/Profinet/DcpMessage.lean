/-
  DCP MESSAGE: a well-formed response, block by block.

  A response is an Ethernet header with any tags, the 12-byte DCP header, its blocks, and whatever
  the frame has behind them.  A block is an option, a suboption and a content of any length, brought
  to an even number of bytes by a pad byte of any value; DCPDataLength counts the blocks.

      Message.frame     a response as it stands in a capture
      dcpPayload_frame  every parser reads the same payload of it, whatever its tags
      Block.head        where the fields of the first block stand
      Block.skip        how a walk steps over it
      visited           the blocks a walk gets to that wants more than six bytes
-/
import Profinet.VlanTags

namespace Profinet.Dcp

open Wire Checked Util

/-! ## Blocks -/

/-- A block of a response. -/
structure Block where
  option : UInt8
  suboption : UInt8
  content : List UInt8
  pad : Bytes (content.length % 2)

/-- The block as bytes, with its padding. -/
def Block.bytes (b : Block) : List UInt8 :=
  b.option :: b.suboption :: (be16 (UInt16.ofNat b.content.length) ++ (b.content ++ b.pad.val))

/-- Is it the block with this option and suboption? -/
def Block.is (option suboption : UInt8) (b : Block) : Bool :=
  b.option = option ∧ b.suboption = suboption

/-- What stands behind the BlockInfo word. -/
def Block.payload (b : Block) : List UInt8 := b.content.drop 2

/-- Blocks, one behind the other. -/
abbrev blockBytes (blocks : List Block) : List UInt8 := blocks.flatMap Block.bytes

theorem Block.bytes_length (b : Block) :
    b.bytes.length = 4 + b.content.length + b.content.length % 2 := by
  simp only [Block.bytes, List.length_cons, List.length_append, be16_length, b.pad.property]
  omega

theorem blockBytes_cons (b : Block) (rest : List Block) :
    blockBytes (b :: rest) = b.bytes ++ blockBytes rest := List.flatMap_cons ..

theorem blockBytes_cons_append (b : Block) (rest : List Block) (trailing : List UInt8) :
    blockBytes (b :: rest) ++ trailing = b.bytes ++ (blockBytes rest ++ trailing) := by
  rw [blockBytes_cons, List.append_assoc]

theorem blockBytes_cons_length (b : Block) (rest : List Block) :
    (blockBytes (b :: rest)).length = b.bytes.length + (blockBytes rest).length := by
  rw [blockBytes_cons, List.length_append]

/-- Where the fields of a block stand, and what follows it. -/
theorem Block.head (b : Block) (more : List UInt8) (hlen : b.content.length < 65536) :
    (b.bytes ++ more).getD 0 0 = b.option ∧ (b.bytes ++ more).getD 1 0 = b.suboption
      ∧ (rdU16 (b.bytes ++ more) 2 false).toNat = b.content.length
      ∧ (b.bytes ++ more).drop 4 = b.content ++ (b.pad.val ++ more)
      ∧ (b.bytes ++ more).drop (4 + (b.content.length + b.content.length % 2)) = more := by
  have h2 : (b.bytes ++ more).drop 2
      = be16 (UInt16.ofNat b.content.length) ++ (b.content ++ (b.pad.val ++ more)) := by
    simp only [Block.bytes, List.cons_append, List.append_assoc, List.drop_succ_cons,
      List.drop_zero]
  have h4 : (b.bytes ++ more).drop 4 = _ := drop_field h2 rfl
  refine ⟨rfl, rfl, ?_, h4, ?_⟩
  · rw [rdU16_be h2]
    exact UInt16.toNat_ofNat_of_lt' hlen
  · rw [← List.drop_drop, h4, ← List.append_assoc]
    refine drop_append_exact ?_ more
    rw [List.length_append, b.pad.property]

/-- The payload a walk cuts out of the bytes, behind the BlockInfo word. -/
theorem Block.cut (b : Block) (more : List UInt8) (hlen : b.content.length < 65536) :
    ((b.bytes ++ more).drop 6).take
        (min (6 + (b.content.length - 2)) (b.bytes ++ more).length - 6) = b.payload := by
  have hbytes := b.bytes_length
  obtain ⟨-, -, -, h4, -⟩ := b.head more hlen
  have hpayload : b.payload.length = b.content.length - 2 := List.length_drop
  rcases Nat.lt_or_ge b.content.length 2 with hnone | hinfo
  · -- a block without a BlockInfo word has no payload either
    have hnil : b.payload = [] := List.length_eq_zero_iff.mp (by omega)
    rw [hnil, List.take_eq_nil_iff]
    exact .inl (by omega)
  have h6 : (b.bytes ++ more).drop 6 = b.payload ++ (b.pad.val ++ more) := by
    show (b.bytes ++ more).drop (4 + 2) = _
    rw [← List.drop_drop, h4, List.drop_append_of_le_length hinfo]
    rfl
  rw [h6]
  refine take_append_exact ?_ _
  rw [List.length_append]
  omega

/-- How a walk steps over a block. -/
theorem Block.skip {α : Type} (b : Block) {more : List UInt8} {length : Nat}
    (hlength : length < 65536) (hfits : b.bytes.length ≤ length)
    (next : List UInt8 → Int → Comp α) :
    (do
      let blockLen ← add b.content.length (b.content.length % 2)
      let advance ← add 4 blockLen
      let rest ← sliceFrom (b.bytes ++ more) (min advance (b.bytes ++ more).length)
      let length ← subI32 length (asI32 advance)
      next rest length)
      = next more (length - b.bytes.length : Nat) := by
  have hbytes := b.bytes_length
  have hlen : (b.bytes ++ more).length = b.bytes.length + more.length := List.length_append
  obtain ⟨-, -, -, -, hmore⟩ := b.head more (by omega)
  rw [add_ok (by omega), ok_bind]
  dsimp only
  rw [add_ok (by omega), ok_bind]
  dsimp only
  rw [sliceFrom_ok (by omega), ok_bind]
  dsimp only
  rw [asI32_eq (by omega), subI32_ok (by omega) (by omega), ok_bind]
  dsimp only
  rw [Nat.min_eq_left (by omega), hmore]
  congr 1
  omega

/-! ## The response -/

/-- A response, but for the three fields that say what it answers. -/
structure Message where
  dst : Mac
  src : Mac
  tags : List VlanTag
  xid : UInt32
  responseDelay : UInt16
  blocks : List Block
  trailing : List UInt8
  fits : (blockBytes blocks).length < 65536
  short : 26 + 4 * tags.length + (blockBytes blocks).length + trailing.length < 2 ^ 63

namespace Message

variable (m : Message) (frameId : UInt16) (serviceId serviceType : UInt8)

/-- DCP header, blocks and trailer. -/
def payload : List UInt8 :=
  be16 frameId ++ (serviceId :: serviceType :: (be32 m.xid ++ (be16 m.responseDelay ++
    (be16 (UInt16.ofNat (blockBytes m.blocks).length) ++ (blockBytes m.blocks ++ m.trailing)))))

/-- The frame without its tags. -/
def bare : List UInt8 :=
  m.dst.val ++ (m.src.val ++ (be16 profinetEthertype ++ m.payload frameId serviceId serviceType))

/-- The frame, with the tags in front of its EtherType. -/
def frame : List UInt8 := tagged m.tags (m.bare frameId serviceId serviceType)

theorem payload_length : (m.payload frameId serviceId serviceType).length
    = 12 + (blockBytes m.blocks).length + m.trailing.length := by
  simp only [payload, List.length_append, List.length_cons, be16_length, be32_length]
  omega

theorem bare_length : (m.bare frameId serviceId serviceType).length
    = 26 + (blockBytes m.blocks).length + m.trailing.length := by
  simp only [bare, List.length_append, m.dst.property, m.src.property, be16_length, payload_length]
  omega

theorem bare_drop : (m.bare frameId serviceId serviceType).drop 12
    = be16 profinetEthertype ++ m.payload frameId serviceId serviceType := by
  have h0 : (m.bare frameId serviceId serviceType).drop 0 = _ := rfl
  have h6 : (m.bare frameId serviceId serviceType).drop 6 = _ := drop_field h0 m.dst.property
  exact drop_field h6 m.src.property

theorem bare_untagged : Untagged (m.bare frameId serviceId serviceType) where
  long := by
    rw [bare_length]
    omega
  ethertype := by
    rw [rdU16_be (m.bare_drop frameId serviceId serviceType)]
    decide

theorem frame_length : (m.frame frameId serviceId serviceType).length
    = 26 + 4 * m.tags.length + (blockBytes m.blocks).length + m.trailing.length := by
  rw [frame, tagged_length (m.bare_untagged frameId serviceId serviceType), bare_length]
  omega

/-- What a parser finds in the header of the payload. -/
structure Header (payload : List UInt8) : Prop where
  frameId : rdU16 payload 0 false = frameId
  serviceId : payload.getD 2 0 = serviceId
  serviceType : payload.getD 3 0 = serviceType
  xid : rdU32 payload 4 false = m.xid
  length : (rdU16 payload 10 false).toNat = (blockBytes m.blocks).length
  blocks : payload.drop 12 = blockBytes m.blocks ++ m.trailing

theorem payload_header :
    m.Header frameId serviceId serviceType (m.payload frameId serviceId serviceType) := by
  obtain ⟨data, hdata⟩ : ∃ data, data = m.payload frameId serviceId serviceType := ⟨_, rfl⟩
  have h0 : data.drop 0 = _ := hdata
  unfold payload at h0
  have h2 : data.drop 2 = _ := drop_field h0 rfl
  have h3 := congrArg (List.drop 1) h2
  have h4 := congrArg (List.drop 2) h2
  simp only [List.drop_drop, List.drop_succ_cons, List.drop_zero] at h3 h4
  have h8 : data.drop 8 = _ := drop_field h4 rfl
  have h10 : data.drop 10 = _ := drop_field h8 rfl
  have h12 : data.drop 12 = _ := drop_field h10 rfl
  rw [← hdata]
  exact
    { frameId := rdU16_be h0
      serviceId := getD_of_drop h2
      serviceType := getD_of_drop h3
      xid := rdU32_be h4
      length := by
        rw [rdU16_be h10]
        exact UInt16.toNat_ofNat_of_lt' m.fits
      blocks := h12 }

theorem bare_payload (hbound : (m.bare frameId serviceId serviceType).length < 2 ^ 63) :
    dcpPayload (m.bare frameId serviceId serviceType)
      = .ok (.ok (m.payload frameId serviceId serviceType)) := by
  have hlen := m.bare_length frameId serviceId serviceType
  have h12 := m.bare_drop frameId serviceId serviceType
  have h14 : (m.bare frameId serviceId serviceType).drop 14 = _ := drop_field h12 rfl
  unfold dcpPayload stripEth
  rw [if_neg (by omega), skipVlanTagsChecked_ok hbound, ok_bind,
    (m.bare_untagged frameId serviceId serviceType).skip, add_ok (by omega), ok_bind]
  dsimp only
  rw [if_neg (by omega), u16At_ok hbound (by omega), ok_bind, rdU16_be h12, if_neg (by decide),
    ok_bind]
  dsimp only
  rw [sliceFrom_ok (by omega), ok_bind]
  exact congrArg (fun payload => Except.ok (Except.ok payload)) h14

/-- **Every parser reads the same payload**, whatever the tags. -/
theorem dcpPayload_frame :
    dcpPayload (m.frame frameId serviceId serviceType)
      = .ok (.ok (m.payload frameId serviceId serviceType)) := by
  have hshort := m.short
  have hlen := m.bare_length frameId serviceId serviceType
  have hbound : (m.frame frameId serviceId serviceType).length < 2 ^ 63 := by
    rw [frame_length]
    exact hshort
  have hbare := m.bare_payload frameId serviceId serviceType (by omega)
  have halike := stripEth_tagged (m.bare_untagged frameId serviceId serviceType) m.tags hbound
    profinetEthertype
  unfold dcpPayload at hbare
  rw [hbare] at halike
  unfold dcpPayload
  show stripEth (tagged m.tags (m.bare frameId serviceId serviceType)) profinetEthertype = _
  cases hstrip : stripEth (tagged m.tags (m.bare frameId serviceId serviceType))
      profinetEthertype with
  | error p =>
    rw [hstrip] at halike
    exact halike.elim
  | ok r =>
    rw [hstrip] at halike
    have hsame : r.toOption = some (m.payload frameId serviceId serviceType) := halike
    cases r with
    | error e => cases hsame
    | ok payload =>
      obtain rfl := Option.some.inj hsame
      rfl

end Message

/-- A tagged and padded response with these blocks. -/
def benchResponse (blocks : List Block) (fits : (blockBytes blocks).length < 1000) : Message where
  dst := ⟨[2, 0, 0, 0, 0, 0x11], rfl⟩
  src := ⟨[2, 0, 0, 0, 0, 0x12], rfl⟩
  tags := [Rt.rtTag]
  xid := 7
  responseDelay := 0
  blocks := blocks
  trailing := List.replicate 20 0
  fits := Nat.lt_trans fits (by decide)
  short := by
    rw [List.length_replicate]
    simp only [List.length_singleton]
    omega

/-! ## The blocks a walk gets to -/

/-- A walk that goes on while more than six bytes are left does not look at a last block that has
    nothing behind its BlockInfo word. -/
def visited : List Block → List Block
  | [] => []
  | b :: rest =>
    if rest = [] ∧ b.payload = [] then [] else b :: visited rest

/-- Such a walk ends exactly where no more than six bytes are left. -/
theorem visited_stop (b : Block) (rest : List Block) :
    6 < (blockBytes (b :: rest)).length ↔ ¬ (rest = [] ∧ b.payload = []) := by
  have hbytes := b.bytes_length
  have hpayload : b.payload.length = b.content.length - 2 := List.length_drop
  rw [blockBytes_cons_length]
  cases rest with
  | nil =>
    simp only [true_and]
    rw [← List.length_eq_zero_iff (l := b.payload)]
    show 6 < b.bytes.length + 0 ↔ _
    omega
  | cons b' rest =>
    have hbytes' := b'.bytes_length
    rw [blockBytes_cons_length]
    constructor
    · rintro - ⟨hnil, -⟩
      cases hnil
    · intro _
      omega

/-- Only a last block can be missed. -/
theorem visited_snoc (pre : List Block) (b : Block) :
    visited (pre ++ [b]) = if b.payload = [] then pre else pre ++ [b] := by
  induction pre with
  | nil =>
    show (if [] = [] ∧ b.payload = [] then [] else b :: visited []) = _
    by_cases h : b.payload = []
    · rw [if_pos ⟨rfl, h⟩, if_pos h]
    · rw [if_neg fun hand => h hand.2, if_neg h]
      rfl
  | cons b' pre ih =>
    have hmore : ¬ (pre ++ [b] = [] ∧ b'.payload = []) := by
      rintro ⟨hnil, -⟩
      exact absurd hnil (List.append_ne_nil_of_right_ne_nil pre (List.cons_ne_nil b []))
    rw [List.cons_append, visited, if_neg hmore, ih]
    by_cases h : b.payload = []
    · rw [if_pos h, if_pos h]
    · rw [if_neg h, if_neg h]

end Profinet.Dcp
