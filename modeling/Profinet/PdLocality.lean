/-
  LOCALITY OF NESTED BLOCKS: when a nested block says the same wherever it stands.

  A place is an offset of a record that the loops of the parser come to (`Visited`), with the bytes
  of the block there.  Behind the block stands whatever the record goes on with, and of the offset
  the body parsers see the residue modulo 4.  So two places are compared by their residues:

      one residue     what the block adds is the same everywhere exactly where the block is whole,
                      by its own lengths and counts (`Whole`)
      more of them    exactly where it is whole from each of them, and a port has the same fields
                      from each of them (`Settled`)

  Enough is shown by reading a whole body; that it is needed, by putting the block at one offset of
  each residue (`placed`) and different bytes behind it.
-/
import Profinet.PdRecord
import Profinet.PdVisits
import Profinet.PortBytes

namespace Profinet.Im

open Wire Checked

/-! ## Blocks -/

/-- A header and the body it declares. -/
structure Block where
  header : BlockHeader
  body : List UInt8
  declared : header.bodyLength = .ok body.length

namespace Block

/-- The block as bytes. -/
def bytes (b : Block) : List UInt8 := b.header.bytes ++ b.body

theorem bytes_length (b : Block) : b.bytes.length = 6 + b.body.length := by
  rw [bytes, List.length_append, BlockHeader.bytes_length]

theorem body_lt (b : Block) : b.body.length < 65536 := by
  obtain ⟨n, hn, hlt⟩ := bodyLength_returns b.header
  rw [b.declared] at hn
  cases hn
  exact hlt

/-- The lengths and counts of the body do not reach over its end, from an offset with residue `r`. -/
structure Whole (b : Block) (r : Nat) : Prop where
  interface : b.header.blockType = blockPdInterfaceDataReal → interfaceEnd b.body ≤ b.body.length
  port : b.header.blockType = blockPdPortDataReal →
    portEnd b.body (toAligned (r + 6)) ≤ b.body.length

/-- Whole from offsets with these residues, with the same fields from each of them. -/
structure Settled (b : Block) (R : Nat → Prop) : Prop where
  whole : ∀ r < 4, R r → b.Whole r
  same : b.header.blockType = blockPdPortDataReal → ∀ r < 4, R r → ∀ s < 4, R s →
    portBytes b.body (toAligned (r + 6)) = portBytes b.body (toAligned (s + 6))

end Block

/-- The block stands at a visited offset whose residue is one of these. -/
structure PlacedAt (R : Nat → Prop) (slot subslot : UInt16) (b : Block) (data : Slice) (off : Nat) :
    Prop where
  residue : R (off % 4)
  visited : Visited data.val slot subslot b.header off
  stands : Stands data.val off b.bytes

/-- What the block adds is the same at all these places. -/
def LocalAt (R : Nat → Prop) (slot subslot : UInt16) (b : Block) : Prop :=
  ∀ data off data' off', PlacedAt R slot subslot b data off → PlacedAt R slot subslot b data' off' →
    nestedBlock data.val slot subslot b.header.blockType (off + 6)
      = nestedBlock data'.val slot subslot b.header.blockType (off' + 6)

/-! ## A block at a place -/

theorem toAligned_mod (off : Nat) : toAligned (off + 6) = toAligned (off % 4 + 6) := by
  show (off + 6 + 3) / 4 * 4 - (off + 6) = (off % 4 + 6 + 3) / 4 * 4 - (off % 4 + 6)
  omega

/-- Where the block stands it is read with what is behind it. -/
theorem Block.read (b : Block) {data behind : List UInt8} (hdata : data.length < 2 ^ 63) {off : Nat}
    (hoff : off + 6 ≤ data.length) (hhere : data.drop off = b.bytes ++ behind)
    (slot subslot : UInt16) :
    nestedBlock data slot subslot b.header.blockType (off + 6)
      = .ok (readNested (b.body ++ behind) (toAligned (off % 4 + 6)) slot subslot
          b.header.blockType) := by
  rw [Block.bytes, List.append_assoc] at hhere
  rw [nestedBlock_eq hdata hoff, drop_field hhere (BlockHeader.bytes_length _), ← toAligned_mod]

theorem PlacedAt.read {R : Nat → Prop} {slot subslot : UInt16} {b : Block} {data : Slice} {off : Nat}
    (h : PlacedAt R slot subslot b data off) :
    ∃ behind, nestedBlock data.val slot subslot b.header.blockType (off + 6)
      = .ok (readNested (b.body ++ behind) (toAligned (off % 4 + 6)) slot subslot
          b.header.blockType) := by
  obtain ⟨hfits, behind, hhere⟩ := h.stands
  rw [b.bytes_length] at hfits
  exact ⟨behind, b.read data.property (by omega) hhere slot subslot⟩

/-- A whole block is read without it. -/
theorem Block.Whole.read {b : Block} {r : Nat} (h : b.Whole r) (behind : List UInt8)
    (slot subslot : UInt16) :
    readNested (b.body ++ behind) (toAligned (r + 6)) slot subslot b.header.blockType
      = readNested b.body (toAligned (r + 6)) slot subslot b.header.blockType := by
  unfold readNested
  by_cases hinterface : b.header.blockType = blockPdInterfaceDataReal
  · rw [if_pos hinterface, if_pos hinterface, readInterface_append behind (h.interface hinterface)]
  rw [if_neg hinterface, if_neg hinterface]
  by_cases hport : b.header.blockType = blockPdPortDataReal
  · rw [if_pos hport, if_pos hport, readPort_append behind (h.port hport)]
  · rw [if_neg hport, if_neg hport]

theorem readNested_port {rest : List UInt8} {first : Nat} {slot subslot blockType : UInt16}
    (h : blockType = blockPdPortDataReal) :
    readNested rest first slot subslot blockType
      = { PdRealData.empty with ports := [readPort rest first slot subslot] } := by
  rw [h]
  rfl

/-- **A settled block adds the same at every place.** -/
theorem localAt_of_settled {R : Nat → Prop} {b : Block} (h : b.Settled R) (slot subslot : UInt16) :
    LocalAt R slot subslot b := by
  intro data off data' off' hplace hplace'
  obtain ⟨behind, hread⟩ := hplace.read
  obtain ⟨behind', hread'⟩ := hplace'.read
  have hlt : off % 4 < 4 := Nat.mod_lt off (by omega)
  have hlt' : off' % 4 < 4 := Nat.mod_lt off' (by omega)
  have hwhole := h.whole (off % 4) hlt hplace.residue
  have hwhole' := h.whole (off' % 4) hlt' hplace'.residue
  rw [hread, hread', hwhole.read behind, hwhole'.read behind']
  by_cases hport : b.header.blockType = blockPdPortDataReal
  · have hsame := h.same hport _ hlt hplace.residue _ hlt' hplace'.residue
    rw [readNested_port hport, readNested_port hport,
      (readPort_eq_iff (hwhole.port hport) (hwhole'.port hport) slot subslot).mpr hsame]
  · -- nothing but a port looks at the residue
    unfold readNested
    rw [if_neg hport, if_neg hport]

/-! ## A place for every residue -/

section Placing

variable (slot subslot : UInt16) (b : Block) (k : Nat)

/-- A block of an unknown type, with `k` bytes. -/
def filler : BlockHeader := ⟨0, UInt16.ofNat (2 + k), 0, 0⟩

/-- The MultipleBlockHeader before the filler and the block: it covers them both, as far as its
    length field reaches. -/
def outer : BlockHeader :=
  ⟨blockMultipleHeader, UInt16.ofNat (2 + min 65533 (16 + k + b.bytes.length)), 0, 0⟩

/-- A header for the submodule, with no blocks in it. -/
def subslotHead : SubslotBlock := ⟨0, 0, noPadding, 0, slot, subslot, [], by decide⟩

/-- A record with the block at `22 + k`. -/
def placing (behind : List UInt8) : List UInt8 :=
  (outer b k).bytes ++ ((subslotHead slot subslot).head
    ++ ((filler k).bytes ++ (List.replicate k 0 ++ (b.bytes ++ behind))))

theorem placing_length (behind : List UInt8) :
    (placing slot subslot b k behind).length = 22 + k + b.bytes.length + behind.length := by
  unfold placing
  rw [List.length_append, List.length_append, List.length_append, List.length_append,
    List.length_append, BlockHeader.bytes_length, BlockHeader.bytes_length,
    SubslotBlock.head_length, List.length_replicate]
  omega

variable {k} (hk : k < 4) {behind : List UInt8} (hbehind : behind.length ≤ 140003)
include hk hbehind

theorem placing_lt : (placing slot subslot b k behind).length < 2 ^ 63 := by
  have hlen := placing_length slot subslot b k behind
  have hbytes := b.bytes_length
  have hbody := b.body_lt
  omega

/-- The block stands there, and the loops come to it. -/
theorem placed {R : Nat → Prop} (hr : R ((22 + k) % 4)) :
    PlacedAt R slot subslot b ⟨placing slot subslot b k behind, placing_lt slot subslot b hk hbehind⟩
      (22 + k) := by
  have hdata := placing_lt slot subslot b hk hbehind
  have hlen := placing_length slot subslot b k behind
  have hbytes := b.bytes_length
  have h : Stands (placing slot subslot b k behind) 0 (placing slot subslot b k behind) :=
    stands_whole _
  obtain ⟨houter, h⟩ := h.split (BlockHeader.bytes_length _)
  obtain ⟨hhead, h⟩ := h.split (SubslotBlock.head_length _)
  obtain ⟨hfiller, h⟩ := h.split (BlockHeader.bytes_length _)
  obtain ⟨-, h⟩ := h.split List.length_replicate
  have hstands : Stands (placing slot subslot b k behind) (22 + k) b.bytes := h.left
  -- the loop over the nested blocks begins at the filler, whose length sends it to the block
  have hfirst : NestedAt (placing slot subslot b k behind) slot subslot
      (0 + 6 + min 65533 (16 + k + b.bytes.length)) 16 :=
    .first .first (by omega) (parseBlockHeader_ok hdata houter) rfl
      (bodyLength_ok (by omega) rfl) rfl (parseMultipleBlockHeader_ok hdata _ hhead)
  have hnext := hfirst.next (by omega) (parseBlockHeader_ok hdata hfiller)
    (bodyLength_ok (n := k) (by omega) rfl)
  exact ⟨hr, ⟨_, hnext, by omega, parseBlockHeader_ok hdata hstands.left⟩, hstands⟩

omit hk hbehind in
theorem placing_drop :
    (placing slot subslot b k behind).drop (22 + k) = b.bytes ++ behind := by
  have h : (placing slot subslot b k behind).drop 0 = placing slot subslot b k behind := rfl
  have h := drop_field h (BlockHeader.bytes_length _)
  have h := drop_field h (SubslotBlock.head_length _)
  have h := drop_field h (BlockHeader.bytes_length _)
  exact drop_field h List.length_replicate

end Placing

/-- At these places the block is read with anything behind it. -/
theorem LocalAt.read {R : Nat → Prop} {slot subslot : UInt16} {b : Block}
    (h : LocalAt R slot subslot b) {r s : Nat} (hr : r < 4) (hs : s < 4) (hR : R r) (hS : R s)
    {x y : List UInt8} (hx : x.length ≤ 140003) (hy : y.length ≤ 140003) :
    readNested (b.body ++ x) (toAligned (r + 6)) slot subslot b.header.blockType
      = readNested (b.body ++ y) (toAligned (s + 6)) slot subslot b.header.blockType := by
  -- a filler of this many bytes puts the block where it is wanted
  have hmod : (22 + (r + 2) % 4) % 4 = r := by omega
  have hmod' : (22 + (s + 2) % 4) % 4 = s := by omega
  have hk : (r + 2) % 4 < 4 := Nat.mod_lt _ (by omega)
  have hk' : (s + 2) % 4 < 4 := Nat.mod_lt _ (by omega)
  have hlen := placing_length slot subslot b ((r + 2) % 4) x
  have hlen' := placing_length slot subslot b ((s + 2) % 4) y
  have hbytes := b.bytes_length
  have hsame := h _ _ _ _ (placed slot subslot b hk hx (by rw [hmod]; exact hR))
    (placed slot subslot b hk' hy (by rw [hmod']; exact hS))
  rw [b.read (placing_lt slot subslot b hk hx) (by omega) (placing_drop slot subslot b),
    b.read (placing_lt slot subslot b hk' hy) (by omega) (placing_drop slot subslot b), hmod,
    hmod'] at hsame
  exact Except.ok.inj hsame

/-- An interface that is not whole is one with enough bytes behind it, and none without. -/
theorem interface_whole {R : Nat → Prop} {slot subslot : UInt16} {b : Block}
    (h : LocalAt R slot subslot b) {r : Nat} (hr : r < 4) (hR : R r)
    (htype : b.header.blockType = blockPdInterfaceDataReal) :
    interfaceEnd b.body ≤ b.body.length := by
  by_contra hshort
  have hsame := h.read hr hr hR hR (x := []) (y := List.replicate 300 0) (by decide)
    (by rw [List.length_replicate]; omega)
  have hlen : (b.body ++ List.replicate 300 (0 : UInt8)).length = b.body.length + 300 := by
    rw [List.length_append, List.length_replicate]
  have hend := interfaceEnd_le (b.body ++ List.replicate 300 0)
  obtain ⟨error, hnone⟩ := readInterface_short (Nat.not_le.mp hshort)
  unfold readNested at hsame
  rw [if_pos htype, if_pos htype, List.append_nil, hnone,
    readInterface_whole (hend.trans (by omega))] at hsame
  cases hsame

/-- A port that is not whole is another one with other bytes behind it. -/
theorem port_whole {R : Nat → Prop} {slot subslot : UInt16} {b : Block}
    (h : LocalAt R slot subslot b) {r : Nat} (hr : r < 4) (hR : R r)
    (htype : b.header.blockType = blockPdPortDataReal) :
    portEnd b.body (toAligned (r + 6)) ≤ b.body.length := by
  have hlt := toAligned_lt (r + 6)
  have hlen (v : UInt8) : (List.replicate 140003 v).length = 140003 := List.length_replicate
  have hsame := h.read hr hr hR hR (x := List.replicate 140003 0xFF) (y := List.replicate 140003 0xFE)
    (hlen _).le (hlen _).le
  rw [readNested_port htype, readNested_port htype] at hsame
  have hport := (List.cons.inj (congrArg PdRealData.ports hsame)).1
  -- the two tails differ in every byte a port can reach
  refine portEnd_le_of_eq ?_ ?_ ?_ hport
  · rw [hlen]
    omega
  · rw [hlen]
    omega
  · intro i hi
    have hget (v : UInt8) : (List.replicate 140003 v).getD i 0 = v := by
      rw [List.getD_eq_getElem _ _ (by rw [hlen]; omega), List.getElem_replicate]
    rw [hget, hget]
    decide

/-- **What is local is settled.** -/
theorem settled_of_localAt {R : Nat → Prop} {slot subslot : UInt16} {b : Block}
    (h : LocalAt R slot subslot b) : b.Settled R where
  whole r hr hR := ⟨interface_whole h hr hR, port_whole h hr hR⟩
  same htype r hr hR s hs hS := by
    have hsame := h.read hr hs hR hS (x := []) (y := []) (Nat.zero_le _) (Nat.zero_le _)
    rw [List.append_nil, readNested_port htype, readNested_port htype] at hsame
    have hport := (List.cons.inj (congrArg PdRealData.ports hsame)).1
    exact (readPort_eq_iff (port_whole h hr hR htype) (port_whole h hs hS htype) slot subslot).mp hport

theorem localAt_iff (R : Nat → Prop) (slot subslot : UInt16) (b : Block) :
    LocalAt R slot subslot b ↔ b.Settled R :=
  ⟨settled_of_localAt, fun h => localAt_of_settled h slot subslot⟩

end Profinet.Im
