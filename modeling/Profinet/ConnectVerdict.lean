/-
  CONNECT VERDICT: a connect response says what the device really gave.

  `Block` is a block of a connect response as the device builds it: an IOCRBlockRes, a
  ModuleDiffBlock with its tree of APIs, modules and submodules, an AlarmCRBlockRes, or one this
  controller does not know.  A response is any list of them, in any order.

      parseModuleDiffBlock_blocks    every listed submodule with its module's slot, in order
      parseModuleDiffBlock_cut       a prefix of these when the bytes end too soon
      parseIocrBlockRes_blocks       the frame ID of the first IOCRBlockRes of a type

  `connect_verdict` puts them together: the connect succeeds exactly when the status is 0 and
  every listed submodule is ours.
-/
import Profinet.ConnectResponse

namespace Profinet.Transport

open Wire Counted

/-! ## Blocks as a device builds them

  The tree of a ModuleDiffBlock and its bytes: counts first, then what is counted, with nothing
  between. -/

/-- A submodule under its module: subslot, ident and `SubmoduleState`. -/
structure SubmoduleEntry where
  subslot : UInt16
  submoduleIdent : UInt32
  state : UInt16
  deriving DecidableEq, Repr

/-- A module with the submodules listed under it. -/
structure ModuleDiff where
  slot : UInt16
  moduleIdent : UInt32
  moduleState : UInt16
  submodules : List SubmoduleEntry
  deriving DecidableEq, Repr

/-- An API with the modules listed under it. -/
structure ApiDiff where
  api : UInt32
  modules : List ModuleDiff
  deriving DecidableEq, Repr

/-- A submodule that differs: where, what is plugged there, and how it differs. -/
def SubmoduleEntry.bytes (e : SubmoduleEntry) : List UInt8 :=
  be16 e.subslot ++ (be32 e.submoduleIdent ++ be16 e.state)

/-- What stands before the submodules of a module. -/
def ModuleDiff.head (m : ModuleDiff) : List UInt8 :=
  be16 m.slot ++ (be32 m.moduleIdent ++ (be16 m.moduleState ++
    be16 (UInt16.ofNat m.submodules.length)))

/-- A module that differs, with its submodules. -/
def ModuleDiff.bytes (m : ModuleDiff) : List UInt8 :=
  m.head ++ m.submodules.flatMap SubmoduleEntry.bytes

/-- What stands before the modules of an API. -/
def ApiDiff.head (a : ApiDiff) : List UInt8 :=
  be32 a.api ++ be16 (UInt16.ofNat a.modules.length)

/-- An API with its modules. -/
def ApiDiff.bytes (a : ApiDiff) : List UInt8 := a.head ++ a.modules.flatMap ModuleDiff.bytes

/-- The submodule as the parser reports it. -/
def SubmoduleEntry.inSlot (slot : UInt16) (e : SubmoduleEntry) : SubmoduleDiff :=
  ⟨slot, e.subslot, e.submoduleIdent, e.state⟩

/-- The submodules a module lists, with its slot. -/
def ModuleDiff.listed (m : ModuleDiff) : List SubmoduleDiff :=
  m.submodules.map (SubmoduleEntry.inSlot m.slot)

/-- What a device lists under one API. -/
def ApiDiff.listed (a : ApiDiff) : List SubmoduleDiff := a.modules.flatMap ModuleDiff.listed

/-- What a block is about. -/
inductive BlockContent where
  | iocrRes (iocrType iocrReference frameId : UInt16)
  | moduleDiff (apis : List ApiDiff)
  | alarmCrRes (alarmCrType localAlarmReference maxAlarmDataLength : UInt16)
  | unknown (blockType : UInt16) (body : List UInt8)

namespace BlockContent

/-- The type of a block. -/
def blockType : BlockContent → UInt16
  | iocrRes .. => iocrBlockRes
  | moduleDiff _ => moduleDiffBlock
  | alarmCrRes .. => 0x8103
  | unknown t _ => t

/-- The bytes behind the block header. -/
def bytes : BlockContent → List UInt8
  | iocrRes t r f => be16 t ++ (be16 r ++ be16 f)
  | moduleDiff apis => be16 (UInt16.ofNat apis.length) ++ apis.flatMap ApiDiff.bytes
  | alarmCrRes t r l => be16 t ++ (be16 r ++ be16 l)
  | unknown _ body => body

/-- What a block lists: nothing, if it is not a module diff. -/
def listed : BlockContent → List SubmoduleDiff
  | moduleDiff apis => apis.flatMap ApiDiff.listed
  | _ => []

/-- The frame ID of an IOCRBlockRes of this type. -/
def frameId (iocrType : UInt16) : BlockContent → Option UInt16
  | iocrRes t _ f => if t = iocrType then some f else none
  | _ => none

/-- An unknown block is not of a type the walkers look for. -/
def Named : BlockContent → Prop
  | unknown t _ => t ≠ iocrBlockRes ∧ t ≠ moduleDiffBlock
  | _ => True

end BlockContent

/-- A well-formed block: its length, with the two version bytes, fits the length field. -/
structure Block where
  version : Bytes 2
  content : BlockContent
  named : content.Named
  fits : 2 + content.bytes.length < 65536

namespace Block

/-- The length field counts the version and the content. -/
def length (b : Block) : Nat := 2 + b.content.bytes.length

/-- Type, length and version. -/
def head (b : Block) : List UInt8 :=
  be16 b.content.blockType ++ (be16 (UInt16.ofNat b.length) ++ b.version.val)

/-- The bytes of a block. -/
def bytes (b : Block) : List UInt8 := b.head ++ b.content.bytes

/-- What a block lists. -/
def listed (b : Block) : List SubmoduleDiff := b.content.listed

end Block

/-! ## Reading a ModuleDiffBlock

  In a block that fits its length field every count fits its two bytes.  `Reads` of the counted
  loops says what is read of a list of elements, whole or cut; it is shown for submodules, then
  for modules with their submodules, then for APIs. -/

/-- An entry has eight bytes. -/
@[simp] theorem SubmoduleEntry.bytes_length (e : SubmoduleEntry) : e.bytes.length = 8 := rfl
/-- A module has ten in front of its entries. -/
@[simp] theorem ModuleDiff.head_length (m : ModuleDiff) : m.head.length = 10 := rfl
/-- An API has six in front of its modules. -/
@[simp] theorem ApiDiff.head_length (a : ApiDiff) : a.head.length = 6 := rfl

/-- A module is its head and its entries. -/
theorem ModuleDiff.bytes_length (m : ModuleDiff) :
    m.bytes.length = 10 + (m.submodules.flatMap SubmoduleEntry.bytes).length := by
  rw [ModuleDiff.bytes, List.length_append, m.head_length]

/-- An API is its head and its modules. -/
theorem ApiDiff.bytes_length (a : ApiDiff) :
    a.bytes.length = 6 + (a.modules.flatMap ModuleDiff.bytes).length := by
  rw [ApiDiff.bytes, List.length_append, a.head_length]

/-- The counts of a tree fit their fields. -/
def ModuleDiff.Fits (m : ModuleDiff) : Prop := m.submodules.length < 65536

/-- The counts of an API fit two bytes. -/
def ApiDiff.Fits (a : ApiDiff) : Prop := a.modules.length < 65536 ∧ ∀ m ∈ a.modules, m.Fits

/-- A module that is short enough has counts that fit. -/
theorem ModuleDiff.fits_of_length {m : ModuleDiff} (h : m.bytes.length < 65536) : m.Fits := by
  have hpos (e : SubmoduleEntry) : 0 < e.bytes.length := Nat.zero_lt_succ 7
  have hcount := count_le_flatMap hpos m.submodules
  rw [m.bytes_length] at h
  unfold ModuleDiff.Fits
  omega

/-- So has an API. -/
theorem ApiDiff.fits_of_length {a : ApiDiff} (h : a.bytes.length < 65536) : a.Fits := by
  have hpos (m : ModuleDiff) : 0 < m.bytes.length := by
    rw [m.bytes_length]
    omega
  have hcount := count_le_flatMap hpos a.modules
  rw [a.bytes_length] at h
  refine ⟨by omega, ?_⟩
  intro m hm
  have hle := length_le_flatMap ModuleDiff.bytes hm
  exact ModuleDiff.fits_of_length (by omega)

/-- A submodule takes eight bytes. -/
theorem reads_submodule (slot : UInt16) :
    Reads 8 (readSubmodule slot) SubmoduleEntry.bytes (fun e => [e.inSlot slot])
      fun _ => True where
  whole e rest _ := by
    obtain ⟨data, hdata⟩ : ∃ data, data = e.bytes ++ rest := ⟨_, rfl⟩
    have h0 := congrArg (List.drop 0) hdata
    rw [List.drop_zero (l := _ ++ _), SubmoduleEntry.bytes, List.append_assoc,
      List.append_assoc] at h0
    have h2 : data.drop 2 = _ := drop_field h0 (be16_length _)
    have h6 : data.drop 6 = _ := drop_field h2 (be32_length _)
    have h8 : data.drop 8 = _ := drop_field h6 (be16_length _)
    have hlen : ¬ data.length < 8 := by
      rw [hdata, List.length_append, e.bytes_length]
      omega
    rw [← hdata, readSubmodule, if_neg hlen, rdU16_be h0, rdU32_be h2, rdU16_be h6, h8]
    rfl
  cut e m _ hm := by
    rw [e.bytes_length] at hm
    refine .inl ⟨?_, hm⟩
    rw [readSubmodule, if_pos]
    rw [List.length_take]
    omega
  short p hp := .inl (by rw [readSubmodule, if_pos hp])

/-- A module takes ten bytes before its submodules, and one cut short there is not begun. -/
theorem ModuleDiff.readModule_head (m : ModuleDiff) (hm : m.Fits) (tail : List UInt8) :
    readModule (m.head ++ tail) = some (counted (readSubmodule m.slot) m.submodules.length tail) := by
  obtain ⟨data, hdata⟩ : ∃ data, data = m.head ++ tail := ⟨_, rfl⟩
  have h0 := congrArg (List.drop 0) hdata
  rw [List.drop_zero (l := _ ++ _), ModuleDiff.head] at h0
  simp only [List.append_assoc] at h0
  have h2 : data.drop 2 = _ := drop_field h0 (be16_length _)
  have h6 : data.drop 6 = _ := drop_field h2 (be32_length _)
  have h8 : data.drop 8 = _ := drop_field h6 (be16_length _)
  have h10 : data.drop 10 = tail := drop_field h8 (be16_length _)
  have hlen : ¬ data.length < 10 := by
    rw [hdata, List.length_append, m.head_length]
    omega
  rw [← hdata, readModule, if_neg hlen, rdU16_be h0, rdU16_be h8, h10]
  dsimp only
  rw [UInt16.toNat_ofNat_of_lt' hm]

/-- An API is read by its modules. -/
theorem ApiDiff.readApi_head (a : ApiDiff) (ha : a.Fits) (tail : List UInt8) :
    readApi (a.head ++ tail) = some (counted readModule a.modules.length tail) := by
  obtain ⟨data, hdata⟩ : ∃ data, data = a.head ++ tail := ⟨_, rfl⟩
  have h0 := congrArg (List.drop 0) hdata
  rw [List.drop_zero (l := _ ++ _), ApiDiff.head, List.append_assoc] at h0
  have h4 : data.drop 4 = _ := drop_field h0 (be32_length _)
  have h6 : data.drop 6 = tail := drop_field h4 (be16_length _)
  have hlen : ¬ data.length < 6 := by
    rw [hdata, List.length_append, a.head_length]
    omega
  rw [← hdata, readApi, if_neg hlen, rdU16_be h4, h6]
  dsimp only
  rw [UInt16.toNat_ofNat_of_lt' ha.1]

/-- Modules are read whole or, cut short, as a prefix that leaves too few bytes for another. -/
theorem reads_module : Reads 10 readModule ModuleDiff.bytes ModuleDiff.listed ModuleDiff.Fits where
  whole m rest hm := by
    have hsubs := (reads_submodule m.slot).whole_list (l := m.submodules) (fun _ _ => trivial) rest
    rw [ModuleDiff.bytes, List.append_assoc, m.readModule_head hm, hsubs, ← List.map_eq_flatMap]
    rfl
  cut m n hm hn := by
    rw [m.bytes_length] at hn
    by_cases hhead : n < 10
    · refine .inl ⟨?_, hhead⟩
      rw [readModule, if_pos]
      rw [List.length_take]
      omega
    · obtain ⟨found, rest, hread, hpre, hshort⟩ := (reads_submodule m.slot).cut_list
        (l := m.submodules) (fun _ _ => trivial) (m := n - 10) (by omega)
      refine .inr ⟨found, rest, ?_, ?_, by omega⟩
      · rw [ModuleDiff.bytes, List.take_append, List.take_of_length_le (by rw [m.head_length]; omega),
          m.readModule_head hm, m.head_length, hread]
      · rwa [← List.map_eq_flatMap] at hpre
  short p hp := .inl (by rw [readModule, if_pos hp])

/-- APIs likewise: behind one cut short there may be bytes for an API head, but none for a module
    of it. -/
theorem reads_api : Reads 10 readApi ApiDiff.bytes ApiDiff.listed ApiDiff.Fits where
  whole a rest ha := by
    have hmods := reads_module.whole_list ha.2 rest
    rw [ApiDiff.bytes, List.append_assoc, a.readApi_head ha, hmods]
    rfl
  cut a n ha hn := by
    rw [a.bytes_length] at hn
    by_cases hhead : n < 6
    · refine .inl ⟨?_, by omega⟩
      rw [readApi, if_pos]
      rw [List.length_take]
      omega
    · obtain ⟨found, rest, hread, hpre, hshort⟩ := reads_module.cut_list ha.2 (m := n - 6)
        (by omega)
      refine .inr ⟨found, rest, ?_, hpre, hshort⟩
      rw [ApiDiff.bytes, List.take_append, List.take_of_length_le (by rw [a.head_length]; omega),
        a.readApi_head ha, a.head_length, hread]
  short p hp := by
    by_cases hhead : p.length < 6
    · exact .inl (by rw [readApi, if_pos hhead])
    · obtain ⟨rest, hread, hshort⟩ := reads_module.short_list (p := p.drop 6)
        (by rw [List.length_drop]; omega) (rdU16 p 4 false).toNat
      refine .inr ⟨rest, ?_, hshort⟩
      rw [readApi, if_neg hhead]
      dsimp only
      rw [hread]

/-! ## Walking over the blocks

  The walker goes from block to block by the length field.  Where the data are cut, the last block
  is shorter than it says, and what is read of it is a prefix. -/

/-- A block has six bytes in front of its content. -/
@[simp] theorem Block.head_length (b : Block) : b.head.length = 6 := by
  simp only [Block.head, List.length_append, be16_length, b.version.property]

/-- A walker reads type and length of a block, and the length leads it to the next one. -/
theorem Block.fields {b : Block} {data tail : List UInt8} (h : data = b.head ++ tail) :
    rdU16 data 0 false = b.content.blockType ∧ (rdU16 data 2 false).toNat = b.length
      ∧ data.drop 6 = tail ∧ 6 ≤ data.length := by
  have hlen : 6 ≤ data.length := by
    rw [h, List.length_append, b.head_length]
    omega
  have h0 := congrArg (List.drop 0) h
  rw [List.drop_zero (l := _ ++ _), Block.head] at h0
  simp only [List.append_assoc] at h0
  have h2 : data.drop 2 = _ := drop_field h0 (be16_length _)
  have h4 : data.drop 4 = _ := drop_field h2 (be16_length _)
  have hcount := UInt16.toNat_ofNat_of_lt' b.fits
  refine ⟨rdU16_be h0, ?_, drop_field h4 b.version.property, hlen⟩
  rw [rdU16_be h2]
  exact hcount

/-- The block and what follows it. -/
theorem Block.take_drop (b : Block) (rest : List UInt8) :
    (b.bytes ++ rest).take (4 + b.length) = b.bytes
      ∧ (b.bytes ++ rest).drop (4 + b.length) = rest := by
  have hlen : b.bytes.length = 4 + b.length := by
    rw [Block.bytes, List.length_append, b.head_length, Block.length]
    omega
  exact ⟨take_append_exact hlen rest, drop_append_exact hlen rest⟩

/-- Too short a block lists nothing. -/
theorem parseModuleDiffBlock_short {data : List UInt8} (h : data.length < 6) :
    parseModuleDiffBlock data = [] := by
  rw [parseModuleDiffBlock, if_neg (by omega)]

/-- An empty block lists nothing. -/
theorem parseModuleDiffBlock_nil : parseModuleDiffBlock [] = [] :=
  parseModuleDiffBlock_short (Nat.zero_lt_succ 5)

/-- One round of the walker over a block, whole or not. -/
theorem parseModuleDiffBlock_head (b : Block) (tail : List UInt8) :
    parseModuleDiffBlock (b.head ++ tail)
      = (if b.content.blockType = moduleDiffBlock then
          readModuleDiff ((b.head ++ tail).take (4 + b.length)) else [])
        ++ parseModuleDiffBlock ((b.head ++ tail).drop (4 + b.length)) := by
  obtain ⟨htype, hlength, -, hlen⟩ := Block.fields (b := b) (rfl : b.head ++ tail = _)
  rw [parseModuleDiffBlock, if_pos hlen]
  dsimp only
  rw [htype, hlength]

/-- The counted APIs of a block are all that is read of it. -/
theorem readModuleDiff_of_body {block tail : List UInt8} {n : Nat}
    (h : block.drop 6 = be16 (UInt16.ofNat n) ++ tail) (hn : n < 65536) :
    readModuleDiff block = (counted readApi n tail).1 := by
  have h0 : (block.drop 6).drop 0 = be16 (UInt16.ofNat n) ++ tail := h
  have h2 : (block.drop 6).drop 2 = tail := drop_field h0 (be16_length _)
  have hlen : 2 ≤ (block.drop 6).length := by
    rw [h, List.length_append, be16_length]
    omega
  unfold readModuleDiff
  dsimp only
  rw [if_pos hlen, rdU16_be h0, h2, UInt16.toNat_ofNat_of_lt' hn]

/-- In a block that fits its length field the tree fits its counts. -/
theorem Block.apis_fit {b : Block} {apis : List ApiDiff} (hb : b.content = .moduleDiff apis) :
    apis.length < 65536 ∧ ∀ a ∈ apis, a.Fits := by
  have hfits := b.fits
  rw [hb, BlockContent.bytes, List.length_append, be16_length] at hfits
  have hpos (a : ApiDiff) : 0 < a.bytes.length := by
    rw [a.bytes_length]
    omega
  have hcount := count_le_flatMap hpos apis
  refine ⟨by omega, ?_⟩
  intro a ha
  have hle := length_le_flatMap ApiDiff.bytes ha
  exact ApiDiff.fits_of_length (by omega)

/-- What a ModuleDiffBlock lists is what its tree lists. -/
theorem readModuleDiff_whole {b : Block} {apis : List ApiDiff}
    (hb : b.content = .moduleDiff apis) : readModuleDiff b.bytes = apis.flatMap ApiDiff.listed := by
  obtain ⟨-, -, hbody, -⟩ := Block.fields (b := b) (rfl : b.head ++ b.content.bytes = _)
  obtain ⟨hcount, hall⟩ := Block.apis_fit hb
  have hread := reads_api.whole_list hall []
  rw [List.append_nil] at hread
  rw [hb, BlockContent.bytes] at hbody
  rw [Block.bytes, hb, BlockContent.bytes, readModuleDiff_of_body hbody hcount, hread]

/-- Of a ModuleDiffBlock cut short a prefix is read. -/
theorem readModuleDiff_cut {b : Block} {apis : List ApiDiff} (hb : b.content = .moduleDiff apis)
    {n : Nat} (hn : n < b.content.bytes.length) :
    readModuleDiff (b.head ++ b.content.bytes.take n) <+: apis.flatMap ApiDiff.listed := by
  obtain ⟨-, -, hbody, -⟩ :=
    Block.fields (b := b) (rfl : b.head ++ b.content.bytes.take n = _)
  obtain ⟨hcount, hall⟩ := Block.apis_fit hb
  rw [hb, BlockContent.bytes, List.length_append, be16_length] at hn
  by_cases htwo : 2 ≤ n
  · have hsplit : b.content.bytes.take n
        = be16 (UInt16.ofNat apis.length) ++ (apis.flatMap ApiDiff.bytes).take (n - 2) := by
      rw [hb, BlockContent.bytes, List.take_append,
        List.take_of_length_le (by rw [be16_length]; omega), be16_length]
    obtain ⟨found, rest, hread, hpre, -⟩ := reads_api.cut_list hall (m := n - 2) (by omega)
    rw [hsplit] at hbody ⊢
    rw [readModuleDiff_of_body hbody hcount, hread]
    exact hpre
  · -- the number of APIs is not there
    have hshort : ¬ 2 ≤ (b.content.bytes.take n).length := by
      rw [List.length_take]
      omega
    rw [readModuleDiff, hbody, if_neg hshort]
    exact List.nil_prefix

/-- What the walker finds in one whole block. -/
theorem Block.found (b : Block) :
    (if b.content.blockType = moduleDiffBlock then readModuleDiff b.bytes else []) = b.listed := by
  have hnamed := b.named
  unfold Block.listed
  cases hc : b.content with
  | moduleDiff apis => exact (if_pos rfl).trans (readModuleDiff_whole hc)
  | iocrRes t r f => rfl
  | alarmCrRes t r l => rfl
  | unknown t body =>
    rw [hc] at hnamed
    exact if_neg hnamed.2

/-- **Every listed submodule is returned**, with its module's slot and in order. -/
theorem parseModuleDiffBlock_blocks (blocks : List Block) :
    parseModuleDiffBlock (blocks.flatMap Block.bytes) = blocks.flatMap Block.listed := by
  induction blocks with
  | nil => exact parseModuleDiffBlock_nil
  | cons b blocks ih =>
    obtain ⟨htake, hdrop⟩ := b.take_drop (blocks.flatMap Block.bytes)
    rw [List.flatMap_cons, List.flatMap_cons]
    rw [Block.bytes, List.append_assoc] at htake hdrop ⊢
    rw [parseModuleDiffBlock_head, htake, hdrop, ih]
    exact congrArg (· ++ _) b.found

/-- **Of block bytes cut short a prefix of the submodules is returned**, none is invented. -/
theorem parseModuleDiffBlock_cut (blocks : List Block) (n : Nat) :
    parseModuleDiffBlock ((blocks.flatMap Block.bytes).take n) <+: blocks.flatMap Block.listed := by
  induction blocks generalizing n with
  | nil =>
    rw [List.flatMap_nil, List.take_nil, parseModuleDiffBlock_nil]
    exact List.nil_prefix
  | cons b blocks ih =>
    have hlen : b.bytes.length = 6 + b.content.bytes.length := by
      rw [Block.bytes, List.length_append, b.head_length]
    rw [List.flatMap_cons, List.flatMap_cons]
    by_cases hwhole : b.bytes.length ≤ n
    · -- the cut lies behind this block
      rw [List.take_append, List.take_of_length_le hwhole]
      obtain ⟨htake, hdrop⟩ := b.take_drop ((blocks.flatMap Block.bytes).take (n - b.bytes.length))
      have hrest := ih (n - b.bytes.length)
      have hfound := b.found
      have happ : b.bytes ++ (blocks.flatMap Block.bytes).take (n - b.bytes.length)
          = b.head ++ (b.content.bytes
            ++ (blocks.flatMap Block.bytes).take (n - b.bytes.length)) := by
        rw [Block.bytes, List.append_assoc]
      rw [happ, parseModuleDiffBlock_head, ← happ, htake, hdrop, hfound]
      exact (List.prefix_append_right_inj _).mpr hrest
    · rw [List.take_append_of_le_length (by omega)]
      refine List.IsPrefix.trans ?_ (List.prefix_append _ _)
      by_cases hhead : n < 6
      · rw [parseModuleDiffBlock_short (by rw [List.length_take]; omega)]
        exact List.nil_prefix
      · -- the cut lies in this block, behind its header
        have hcut : b.bytes.take n = b.head ++ b.content.bytes.take (n - 6) := by
          rw [Block.bytes, List.take_append, List.take_of_length_le (by rw [b.head_length]; omega),
            b.head_length]
        have hall : (b.head ++ b.content.bytes.take (n - 6)).length ≤ 4 + b.length := by
          rw [List.length_append, b.head_length, List.length_take, Block.length]
          omega
        rw [hcut, parseModuleDiffBlock_head, List.take_of_length_le hall,
          List.drop_of_length_le hall, parseModuleDiffBlock_nil,
          List.append_nil]
        split
        next htype =>
          have hnamed := b.named
          unfold Block.listed
          cases hc : b.content with
          | moduleDiff apis =>
            rw [← hc]
            have hpre := readModuleDiff_cut hc (n := n - 6) (by omega)
            rw [hc] at hpre ⊢
            exact hpre
          | iocrRes t r f =>
            rw [hc] at htype
            nomatch htype
          | alarmCrRes t r l =>
            rw [hc] at htype
            nomatch htype
          | unknown t body =>
            rw [hc] at htype hnamed
            exact absurd htype hnamed.2
        next => exact List.nil_prefix

/-! ## Frame IDs

  The other walker, which stops at the first block of its type. -/

/-- The frame ID of the first IOCRBlockRes of a type, 0 if there is none. -/
def firstFrameId (iocrType : UInt16) (blocks : List Block) : UInt16 :=
  (blocks.findSome? fun b => b.content.frameId iocrType).getD 0

/-- What the walker makes of one whole block. -/
theorem parseIocrBlockRes_head (iocrType : UInt16) (b : Block) (rest : List UInt8) :
    parseIocrBlockRes (b.bytes ++ rest) iocrType
      = (b.content.frameId iocrType).getD (parseIocrBlockRes rest iocrType) := by
  obtain ⟨-, hdrop⟩ := b.take_drop rest
  obtain ⟨data, hdata⟩ : ∃ data, data = b.bytes ++ rest := ⟨_, rfl⟩
  have hhead : data = b.head ++ (b.content.bytes ++ rest) := by
    rw [hdata, Block.bytes, List.append_assoc]
  -- type and length of the first block decide whether it is looked into
  obtain ⟨htype, hlength, h6, hlen⟩ := Block.fields hhead
  have hnamed := b.named
  rw [← hdata] at hdrop ⊢
  rw [parseIocrBlockRes, if_pos hlen]
  dsimp only
  rw [htype, hlength, hdrop]
  cases hc : b.content with
  | iocrRes t r f =>
    rw [hc] at h6
    simp only [BlockContent.bytes, List.append_assoc] at h6
    have h8 : data.drop 8 = _ := drop_field h6 (be16_length _)
    have h10 : data.drop 10 = _ := drop_field h8 (be16_length _)
    have h12 : 12 ≤ data.length := by
      rw [hhead, List.length_append, b.head_length, hc]
      simp only [BlockContent.bytes, List.length_append, be16_length]
      omega
    rw [rdU16_be h6, rdU16_be h10]
    -- an IOCR response of the other direction is passed over
    by_cases ht : t = iocrType
    · rw [if_pos ⟨rfl, h12, ht⟩, BlockContent.frameId, if_pos ht]
      rfl
    · rw [if_neg (fun h => ht h.2.2), BlockContent.frameId, if_neg ht]
      rfl
  | moduleDiff apis => exact if_neg fun h => nomatch h.1
  | alarmCrRes t r l => exact if_neg fun h => nomatch h.1
  | unknown t body =>
    rw [hc] at hnamed
    exact if_neg fun h => hnamed.1 h.1

/-- **The frame ID is that of the first IOCRBlockRes of the type.** -/
theorem parseIocrBlockRes_blocks (iocrType : UInt16) (blocks : List Block) :
    parseIocrBlockRes (blocks.flatMap Block.bytes) iocrType = firstFrameId iocrType blocks := by
  induction blocks with
  | nil =>
    rw [List.flatMap_nil, parseIocrBlockRes, if_neg (by decide)]
    rfl
  | cons b blocks ih =>
    rw [List.flatMap_cons, parseIocrBlockRes_head, ih, firstFrameId, firstFrameId,
      List.findSome?_cons]
    cases b.content.frameId iocrType <;> rfl

/-! ## The verdict

  The status of the response decides first; only a response of status 0 is searched for what it
  withholds. -/

/-- What the connect answers for these blocks. -/
def connectResult (blocks : List Block) : ConnectResult :=
  let inputFrameId := firstFrameId 1 blocks
  let outputFrameId := firstFrameId 2 blocks
  ⟨inputFrameId, outputFrameId, inputFrameId ≠ 0 || outputFrameId ≠ 0⟩

/-- The submodules a response withholds. -/
def withheld (n : ParsedNrd) : List SubmoduleDiff :=
  (parseModuleDiffBlock n.payload).filter fun d => !d.isOurs

/-- Nothing is withheld exactly if every listed submodule is ours. -/
theorem withheld_eq_nil {n : ParsedNrd} :
    withheld n = [] ↔ ∀ d ∈ parseModuleDiffBlock n.payload, d.isOurs = true := by
  rw [withheld, List.filter_eq_nil_iff]
  simp only [Bool.not_eq_true', Bool.not_eq_false]

/-- The verdict on a response that can be parsed: the status first, then what is withheld. -/
theorem parseConnectResponse_of_nrd {data : List UInt8} {le : Bool} {n : ParsedNrd}
    (h : parseNrd data le = .ok n) :
    parseConnectResponse data le
      = if n.argsStatus ≠ 0 then
          .error ("Connect rejected by device: PNIO status " ++ pnioStatusStr n.argsStatus)
        else if withheld n ≠ [] then .error (withheldMessage (withheld n))
        else
          .ok
            ⟨parseIocrBlockRes n.payload 1, parseIocrBlockRes n.payload 2,
              parseIocrBlockRes n.payload 1 ≠ 0 || parseIocrBlockRes n.payload 2 ≠ 0⟩ := by
  simp only [parseConnectResponse, h, Except.bind, bind]
  rw [← withheld]
  by_cases hstatus : n.argsStatus ≠ 0
  · rw [if_pos hstatus, if_pos hstatus]
    rfl
  · rw [if_neg hstatus, if_neg hstatus]
    by_cases hnone : withheld n ≠ []
    · rw [if_pos hnone, if_pos hnone]
      rfl
    · rw [if_neg hnone, if_neg hnone]
      rfl

/-- **The connect verdict.**  Of any list of blocks, in either byte order and whatever the counts
    of the NRD header say: every listed submodule is returned with its module's slot, in order; the
    connect succeeds exactly if the status is 0 and every listed submodule is ours, with the frame
    IDs of the first input and the first output IOCRBlockRes; and of the block bytes cut short
    anywhere only a prefix of the submodules is returned. -/
theorem connect_verdict (blocks : List Block) :
    parseModuleDiffBlock (blocks.flatMap Block.bytes) = blocks.flatMap Block.listed
      ∧ (∀ (n : ParsedNrd) (le : Bool),
          (parseConnectResponse (nrdBytes { n with payload := blocks.flatMap Block.bytes } le)
              le).toOption
            = if n.argsStatus = 0 ∧ ∀ d ∈ blocks.flatMap Block.listed, d.isOurs = true then
                some (connectResult blocks)
              else none)
      ∧ ∀ cut : Nat, parseModuleDiffBlock ((blocks.flatMap Block.bytes).take cut)
          <+: blocks.flatMap Block.listed := by
  refine ⟨parseModuleDiffBlock_blocks blocks, ?_, parseModuleDiffBlock_cut blocks⟩
  intro n le
  have hours := withheld_eq_nil (n := { n with payload := blocks.flatMap Block.bytes })
  rw [parseModuleDiffBlock_blocks] at hours
  rw [parseConnectResponse_of_nrd (parseNrd_nrdBytes _ le), parseIocrBlockRes_blocks,
    parseIocrBlockRes_blocks]
  dsimp only
  by_cases hstatus : n.argsStatus = 0
  · rw [if_neg (not_not.mpr hstatus)]
    by_cases hnone : withheld { n with payload := blocks.flatMap Block.bytes } = []
    · rw [if_neg (not_not.mpr hnone), if_pos ⟨hstatus, hours.mp hnone⟩]
      rfl
    · rw [if_pos hnone, if_neg fun h => hnone (hours.mpr h.2)]
      rfl
  · rw [if_pos hstatus, if_neg fun h => hstatus h.1]
    rfl

end Profinet.Transport
