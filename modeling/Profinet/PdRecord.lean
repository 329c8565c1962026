/-
  PD RECORDS: a PDRealData record as a list of blocks, and the walk over it.

  A record is a sequence of blocks, of which those with a MultipleBlockHeader (`SubslotBlock`) hold
  nested blocks.  Each block carries its own length, so the two loops of the parser find every block
  where the one before ends; what they find in it is `recordFound`: the sum of what is read of each
  nested block, from its body on, with everything behind it.
-/
import Mathlib.Data.List.Basic
import Profinet.PdRead

namespace Profinet.Im

open Wire Checked

/-! ## Records -/

/-- A block with its declared body. -/
structure NestedBlock where
  blockType : UInt16
  versionHigh : UInt8
  versionLow : UInt8
  body : List UInt8
  fits : 2 + body.length < 65536

namespace NestedBlock

/-- The declared length counts the two version bytes. -/
def header (b : NestedBlock) : BlockHeader where
  blockType := b.blockType
  blockLength := UInt16.ofNat (2 + b.body.length)
  versionHigh := b.versionHigh
  versionLow := b.versionLow

/-- The bytes of a nested block, with the header that counts them. -/
def bytes (b : NestedBlock) : List UInt8 := b.header.bytes ++ b.body

/-- A header, and the body. -/
theorem bytes_length (b : NestedBlock) : b.bytes.length = 6 + b.body.length := by
  rw [bytes, List.length_append, BlockHeader.bytes_length]

end NestedBlock

/-- The two bytes of padding in a block header. -/
def noPadding : Bytes 2 := ⟨List.replicate 2 0, rfl⟩

/-- A MultipleBlockHeader and the blocks in it. -/
structure SubslotBlock where
  versionHigh : UInt8
  versionLow : UInt8
  padding : Bytes 2
  api : UInt32
  slot : UInt16
  subslot : UInt16
  nested : List NestedBlock
  fits : 12 + (nested.flatMap NestedBlock.bytes).length < 65536

namespace SubslotBlock

/-- The header of a MultipleBlockHeader counts what is nested in it. -/
def header (b : SubslotBlock) : BlockHeader where
  blockType := blockMultipleHeader
  blockLength := UInt16.ofNat (12 + (b.nested.flatMap NestedBlock.bytes).length)
  versionHigh := b.versionHigh
  versionLow := b.versionLow

/-- API, slot and subslot, behind two bytes of padding. -/
def head (b : SubslotBlock) : List UInt8 :=
  b.padding.val ++ (be32 b.api ++ (be16 b.slot ++ be16 b.subslot))

/-- What is behind the header: the place of the submodule, and its blocks. -/
def body (b : SubslotBlock) : List UInt8 := b.head ++ b.nested.flatMap NestedBlock.bytes

/-- The place takes ten bytes. -/
theorem head_length (b : SubslotBlock) : b.head.length = 10 := by
  rw [head, List.length_append, b.padding.property]
  rfl

/-- So a body is ten bytes and what is nested. -/
theorem body_length (b : SubslotBlock) :
    b.body.length = 10 + (b.nested.flatMap NestedBlock.bytes).length := by
  rw [body, List.length_append, b.head_length]

end SubslotBlock

/-- A block of a record; what is not a MultipleBlockHeader is skipped. -/
inductive RecordBlock where
  | subslot (b : SubslotBlock)
  | other (b : NestedBlock) (htype : b.blockType ≠ blockMultipleHeader)

namespace RecordBlock

/-- The header of an outer block of either kind. -/
def header : RecordBlock → BlockHeader
  | subslot b => b.header
  | other b _ => b.header

/-- And its body. -/
def body : RecordBlock → List UInt8
  | subslot b => b.body
  | other b _ => b.body

/-- The bytes of an outer block. -/
def bytes (b : RecordBlock) : List UInt8 := b.header.bytes ++ b.body

/-- A header, and the body. -/
theorem bytes_length (b : RecordBlock) : b.bytes.length = 6 + b.body.length := by
  rw [bytes, List.length_append, BlockHeader.bytes_length]

end RecordBlock

/-! ## What is found in them -/

/-- The nested blocks from `off` on, with `after` behind them. -/
def nestedFound (slot subslot : UInt16) : Nat → List NestedBlock → List UInt8 → PdRealData
  | _, [], _ => .empty
  | off, b :: bs, after =>
    (readNested (b.body ++ (bs.flatMap NestedBlock.bytes ++ after)) (toAligned (off + 6)) slot
      subslot b.blockType).append (nestedFound slot subslot (off + b.bytes.length) bs after)

/-- What a MultipleBlockHeader block at `off` adds, with `after` behind it. -/
def SubslotBlock.found (b : SubslotBlock) (off : Nat) (after : List UInt8) : PdRealData :=
  (nestedFound b.slot b.subslot (off + 16) b.nested after).append
    { PdRealData.empty with
      slots := [{ slot := b.slot, subslot := b.subslot, api := b.api, moduleIdent := 0,
                  submoduleIdent := 0, blocks := b.nested.map (·.header.typeName) }]
      rawBlocks := [(b.api, b.slot, b.subslot, b.body)] }

/-- What is found in an outer block at `off` with `after` behind it: nothing in one of another
    type. -/
def RecordBlock.found (off : Nat) (after : List UInt8) : RecordBlock → PdRealData
  | .subslot b => b.found off after
  | .other _ _ => .empty

/-- What is found in a whole record, block by block. -/
def recordFound : Nat → List RecordBlock → List UInt8 → PdRealData
  | _, [], _ => .empty
  | off, b :: bs, after =>
    (b.found off (bs.flatMap RecordBlock.bytes ++ after)).append
      (recordFound (off + b.bytes.length) bs after)

/-! ## The walk -/

/-- A block length that counts the version and `n` bytes stands for a body of `n` bytes. -/
theorem bodyLength_ok {n : Nat} (hn : 2 + n < 65536) {header : BlockHeader}
    (h : header.blockLength = UInt16.ofNat (2 + n)) : header.bodyLength = .ok n := by
  have hlen : header.blockLength.toNat = 2 + n := by
    rw [h]
    exact UInt16.toNat_ofNat_of_lt' hn
  unfold BlockHeader.bodyLength
  rw [if_pos (by omega), sub_ok (by omega), ok_bind]
  dsimp only
  rw [hlen, Nat.add_sub_cancel_left]
  rfl

/-- Every outer block says how long it is. -/
theorem RecordBlock.bodyLength_ok (b : RecordBlock) : b.header.bodyLength = .ok b.body.length := by
  cases b with
  | other b htype => exact Im.bodyLength_ok b.fits rfl
  | subslot b =>
    have hlen := b.body_length
    have hfits := b.fits
    refine Im.bodyLength_ok (n := b.body.length) (by omega) ?_
    show UInt16.ofNat _ = UInt16.ofNat _
    rw [hlen, ← Nat.add_assoc]

section Walk

variable {data : List UInt8} (hdata : data.length < 2 ^ 63)
include hdata

/-- The place of a submodule is read back. -/
theorem parseMultipleBlockHeader_ok {off : Nat} (b : SubslotBlock) (h : Stands data off b.head) :
    parseMultipleBlockHeader data off
      = .ok (.ok (b.api, b.slot, b.subslot, ⟨off + 10, rfl⟩)) := by
  have hfits := h.fits
  rw [b.head_length] at hfits
  obtain ⟨-, h⟩ := h.split b.padding.property
  obtain ⟨hapi, h⟩ := h.split (be32_length b.api)
  obtain ⟨hslot, hsubslot⟩ := h.split (be16_length b.slot)
  unfold parseMultipleBlockHeader
  rw [add_ok (by omega), ok_bind, if_neg (by dsimp only; omega), add_ok (by omega), ok_bind,
    hapi.u32At hdata, ok_bind, add_ok (by omega), ok_bind, hslot.u16At hdata, ok_bind,
    add_ok (by omega), ok_bind, hsubslot.u16At hdata, ok_bind]
  rfl

/-- The loop over nested blocks finds each of them. -/
theorem nestedFrom_blocks (slot subslot : UInt16) (bs : List NestedBlock) {off : Nat}
    {after : List UInt8} (hoff : off ≤ data.length)
    (h : data.drop off = bs.flatMap NestedBlock.bytes ++ after) {blockEnd : Nat}
    (hend : blockEnd = off + (bs.flatMap NestedBlock.bytes).length) :
    nestedFrom data slot subslot blockEnd off
      = .ok (bs.map (·.header.typeName), nestedFound slot subslot off bs after) := by
  induction bs generalizing off with
  | nil =>
    rw [List.flatMap_nil, List.length_nil] at hend
    unfold nestedFrom
    rw [add_ok (by omega), ok_bind, if_neg (by dsimp only; omega)]
    rfl
  | cons b bs ih =>
    rw [List.flatMap_cons, List.append_assoc] at h
    rw [List.flatMap_cons, List.length_append] at hend
    have hlen := congrArg List.length h
    rw [List.length_drop, List.length_append] at hlen
    have hb := b.bytes_length
    have hstands : Stands data off b.bytes := ⟨by omega, _, h⟩
    have hbody : data.drop (off + 6) = b.body ++ (bs.flatMap NestedBlock.bytes ++ after) := by
      rw [NestedBlock.bytes, List.append_assoc] at h
      exact drop_field h (BlockHeader.bytes_length _)
    have hnext : data.drop (off + 6 + b.body.length) = bs.flatMap NestedBlock.bytes ++ after :=
      drop_field hbody rfl
    -- the declared length sends the loop to the next block, whatever is read of this one
    unfold nestedFrom
    rw [add_ok (by omega), ok_bind, if_pos (by dsimp only; omega),
      parseBlockHeader_ok hdata hstands.left, ok_bind]
    dsimp only
    rw [bodyLength_ok b.fits rfl, ok_bind, add_ok (by omega), ok_bind,
      nestedBlock_eq hdata (by omega), ok_bind]
    dsimp only
    rw [ih (by omega) hnext (by omega), ok_bind, hbody, nestedFound, hb, Nat.add_assoc off 6]
    rfl

/-- A block whose body stands behind its header adds what is found in it. -/
theorem multipleBlock_found (b : RecordBlock) {off : Nat} {after : List UInt8}
    (hoff : off ≤ data.length) (h : data.drop (off + 6) = b.body ++ after)
    (hbody : off + 6 + b.body.length ≤ data.length) :
    multipleBlock data b.header.blockType (off + 6) (off + 6 + b.body.length)
      = .ok (b.found off after) := by
  cases b with
  | other b htype =>
    have hskip : (RecordBlock.other b htype).header.blockType ≠ blockMultipleHeader := htype
    unfold multipleBlock
    rw [if_neg hskip]
    rfl
  | subslot b =>
    have hlen : (RecordBlock.subslot b).body.length = b.body.length := rfl
    have hstands : Stands data (off + 6) b.body := ⟨hbody, after, h⟩
    have hnested : data.drop (off + 6 + 10) = b.nested.flatMap NestedBlock.bytes ++ after := by
      refine drop_field (a := b.head) ?_ b.head_length
      rw [h]
      exact List.append_assoc _ _ _
    have hbytes := b.body_length
    have htype : (RecordBlock.subslot b).header.blockType = blockMultipleHeader := rfl
    unfold multipleBlock
    rw [if_pos htype, parseMultipleBlockHeader_ok hdata b hstands.left, ok_bind]
    dsimp only
    rw [nestedFrom_blocks hdata b.slot b.subslot b.nested (by omega) hnested (by omega), ok_bind]
    dsimp only
    rw [hlen, Nat.min_eq_left (by omega), slice_ok (by omega) (by omega), ok_bind, h,
      Nat.add_sub_cancel_left, take_append_exact hlen]
    rfl

/-- The loop over the blocks of a record. -/
theorem pdBlocksFrom_blocks (bs : List RecordBlock) {off : Nat} (hoff : off ≤ data.length)
    (h : data.drop off = bs.flatMap RecordBlock.bytes) :
    pdBlocksFrom data off = .ok (recordFound off bs []) := by
  induction bs generalizing off with
  | nil =>
    have hlen := congrArg List.length h
    rw [List.length_drop, List.flatMap_nil, List.length_nil] at hlen
    unfold pdBlocksFrom
    rw [add_ok (by omega), ok_bind, if_neg (by dsimp only; omega)]
    rfl
  | cons b bs ih =>
    rw [List.flatMap_cons] at h
    have hlen := congrArg List.length h
    rw [List.length_drop, List.length_append] at hlen
    have hb := b.bytes_length
    have hstands : Stands data off b.bytes := ⟨by omega, _, h⟩
    have hbody : data.drop (off + 6) = b.body ++ bs.flatMap RecordBlock.bytes := by
      rw [RecordBlock.bytes, List.append_assoc] at h
      exact drop_field h (BlockHeader.bytes_length _)
    have hnext : data.drop (off + 6 + b.body.length) = bs.flatMap RecordBlock.bytes :=
      drop_field hbody rfl
    unfold pdBlocksFrom
    rw [add_ok (by omega), ok_bind, if_pos (by dsimp only; omega),
      parseBlockHeader_ok hdata hstands.left, ok_bind]
    dsimp only
    rw [b.bodyLength_ok, ok_bind, add_ok (by omega), ok_bind]
    dsimp only
    rw [multipleBlock_found hdata b hoff hbody (by omega), ok_bind, ih (by omega) hnext, ok_bind,
      recordFound, hb, Nat.add_assoc off 6, List.append_nil]
    rfl

end Walk

/-- **A record of whole blocks is read block by block.** -/
theorem parsePdRealData_blocks {bs : List RecordBlock}
    (hdata : (bs.flatMap RecordBlock.bytes).length < 2 ^ 63) :
    parsePdRealData (bs.flatMap RecordBlock.bytes) = .ok (recordFound 0 bs []) :=
  pdBlocksFrom_blocks hdata bs (Nat.zero_le _) rfl

end Profinet.Im
