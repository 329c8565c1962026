/-
  DIAGNOSIS BLOCKS: a record of several diagnosis blocks, read as one.

  The reader looks for a block header at the front of the record and nowhere else.  The header of a
  second block is no location, since its type is no small API; so it is read as an entry of the
  group before it (`header_begins`):

      block type      channel number
      block length    channel properties
      block version   identifier: a plain entry, unless it is one of the two that have more
      api, high       error type

  So the entries of the whole are not those of the blocks, if there is more than one.  There are
  coincidences: a second header that is taken for an entry too long to fit is dropped, and the
  entry that a header is read as may be the very one that is due.  From there on the reader is out
  of step, by half a location and what it takes for one, and a further block can make up for it
  again.  There is no end to such lists, so the condition is one on the words of all blocks: the
  words behind the first header spell the entries that are due (`blocks_concatenate`).
-/
import Profinet.DiagnosisWords

namespace Profinet.Diagnosis

open Wire Checked

/-! ## Blocks -/

/-- A block header, a location, and entries, with any values in them. -/
structure DiagnosisBlock where
  header : DiagnosisHeader
  location : Location
  entries : List SentEntry

/-- The block as bytes: its header and its body. -/
def DiagnosisBlock.bytes (b : DiagnosisBlock) : List UInt8 :=
  b.header.bytes ++ (b.location.bytes ++ b.entries.flatMap SentEntry.bytes)

/-- The record in which the blocks are returned. -/
def blocksRecord (blocks : List DiagnosisBlock) : List UInt8 := blocks.flatMap DiagnosisBlock.bytes

/-- The entries of the whole record are those of its blocks, each parsed on its own. -/
def Concatenates (api : UInt32) (slot subslot : UInt16) (blocks : List DiagnosisBlock) : Prop :=
  ∃ whole parts, parseDiagnosisBlock (blocksRecord blocks) api slot subslot = .ok whole
    ∧ blocks.mapM (fun b => parseDiagnosisBlock b.bytes api slot subslot) = .ok parts
    ∧ whole.entries = parts.flatMap DiagnosisData.entries

/-! ## The words of blocks -/

/-- The header as words. -/
def DiagnosisHeader.words (h : DiagnosisHeader) : List UInt16 :=
  [h.blockType, h.blockLength, h.blockVersion]

/-- The words behind the header. -/
def DiagnosisBlock.body (b : DiagnosisBlock) : List UInt16 :=
  b.location.words ++ b.entries.flatMap SentEntry.words

/-- The block as words. -/
def DiagnosisBlock.words (b : DiagnosisBlock) : List UInt16 := b.header.words ++ b.body

/-- The words of all blocks, behind the first header. -/
def wordsBehind : List DiagnosisBlock → List UInt16
  | [] => []
  | b :: blocks => b.body ++ blocks.flatMap DiagnosisBlock.words

/-- The location is read in step: it is taken for one, or for a plain entry. -/
def Location.InStep (loc : Location) : Prop :=
  loc.Small ∨ loc.slot ≠ usiExtChannelDiagnosis ∧ loc.slot ≠ usiQualifiedChannelDiagnosis

/-- The entries due of a block, where the reader was given the location `args`: the entries it has,
    at its location if that is taken for one; else at the given location, and the words of its own
    are one more entry.  Only a location whose slot is an identifier with more behind it is read
    together with the words that follow. -/
def due (args : Location) (b : DiagnosisBlock) : List (Location × SentEntry) :=
  if b.location.Small then b.entries.map fun e => (b.location, e)
  else if b.location.slot ≠ usiExtChannelDiagnosis
      ∧ b.location.slot ≠ usiQualifiedChannelDiagnosis then
    (args, b.location.entry) :: b.entries.map fun e => (args, e)
  else spelled args b.body

/-- The location that stays behind a block. -/
def leaves (args : Location) (b : DiagnosisBlock) : Location :=
  if b.location.Small then b.location else args

/-- The second header is taken for a qualified entry that does not fit: there are two blocks, and
    no entry in the second, nor is one due of it. -/
def HeaderDropped (args : Location) : List DiagnosisBlock → Prop
  | [_, second] => second.header.blockVersion = usiQualifiedChannelDiagnosis
    ∧ second.entries = [] ∧ due args second = []
  | _ => False

/-- The first entry due behind the first block says the same as the second header, at the location
    that is left there. -/
def HeaderRepeated (args : Location) : List DiagnosisBlock → Prop
  | first :: second :: blocks =>
    ∃ e, ((second :: blocks).flatMap (due args)).head? = some (leaves args first, e)
      ∧ e.channelNumber = second.header.blockType
      ∧ e.channelProperties = second.header.blockLength
      ∧ e.errorType = hiWord second.location.api
  | _ => False

theorem entries_bytes (entries : List SentEntry) :
    entries.flatMap SentEntry.bytes = wordBytes (entries.flatMap SentEntry.words) := by
  induction entries with
  | nil => rfl
  | cons e entries ih =>
    rw [List.flatMap_cons, List.flatMap_cons, wordBytes_append, ih, e.bytes_eq]

theorem DiagnosisBlock.bytes_eq (b : DiagnosisBlock) : b.bytes = wordBytes b.words := by
  have hheader : b.header.bytes = wordBytes b.header.words := rfl
  unfold DiagnosisBlock.bytes DiagnosisBlock.words DiagnosisBlock.body
  rw [wordBytes_append, wordBytes_append, hheader, b.location.bytes_eq, entries_bytes]

theorem blocksRecord_eq (blocks : List DiagnosisBlock) :
    blocksRecord blocks = wordBytes (blocks.flatMap DiagnosisBlock.words) := by
  induction blocks with
  | nil => rfl
  | cons b blocks ih =>
    unfold blocksRecord at ih ⊢
    rw [List.flatMap_cons, List.flatMap_cons, wordBytes_append, ih, b.bytes_eq]

theorem blocksRecord_cons (b : DiagnosisBlock) (blocks : List DiagnosisBlock) :
    blocksRecord (b :: blocks) = b.header.bytes ++ wordBytes (wordsBehind (b :: blocks)) := by
  have hheader : b.header.bytes = wordBytes b.header.words := rfl
  rw [blocksRecord_eq, hheader, ← wordBytes_append, List.flatMap_cons]
  unfold DiagnosisBlock.words wordsBehind
  rw [List.append_assoc]
  rfl

theorem DiagnosisBlock.body_length (b : DiagnosisBlock) :
    b.body.length = 4 + (b.entries.flatMap SentEntry.words).length := by
  unfold DiagnosisBlock.body
  rw [List.length_append]
  rfl

/-! ## What is read of them -/

/-- The record is read as its words say. -/
theorem parseDiagnosisBlock_words (b : DiagnosisBlock) (blocks : List DiagnosisBlock)
    (hbound : (blocksRecord (b :: blocks)).length < 2 ^ 63) (api : UInt32) (slot subslot : UInt16) :
    parseDiagnosisBlock (blocksRecord (b :: blocks)) api slot subslot
      = .ok { api, slot, subslot
              entries := (spelled ⟨api, slot, subslot⟩ (wordsBehind (b :: blocks))).map
                fun p => p.2.readAt p.1
              rawData := blocksRecord (b :: blocks) } := by
  have hheader : b.header.bytes.length = 6 := rfl
  have hstands : Stands (blocksRecord (b :: blocks)) 0
      (b.header.bytes ++ wordBytes (wordsBehind (b :: blocks))) := by
    rw [← blocksRecord_cons]
    exact stands_whole _
  obtain ⟨hfirst, hwords⟩ := hstands.split hheader
  refine parseDiagnosisBlock_header hbound b.header hfirst api slot subslot ?_
  refine entriesFrom_words hbound _ _ hwords ?_
  rw [blocksRecord_cons, List.length_append, hheader, wordBytes_length]

/-- What is behind a block that is read in step is read from there. -/
theorem spelled_body (args : Location) {b : DiagnosisBlock} (h : b.location.InStep)
    {ws : List UInt16} (hws : Unplaced ws) :
    spelled args (b.body ++ ws) = due args b ++ spelled (leaves args b) ws := by
  unfold DiagnosisBlock.body due leaves
  rw [List.append_assoc]
  by_cases hsmall : b.location.Small
  · rw [if_pos hsmall, if_pos hsmall, spelled_stated args hsmall (unplaced_entries b.entries hws),
      spelled_entries]
  · have hslot := h.resolve_left hsmall
    rw [if_neg hsmall, if_neg hsmall, if_pos hslot, spelled_large args hsmall hslot,
      spelled_entries, List.cons_append]

/-- Of a block alone, what is due is read. -/
theorem spelled_due (args : Location) (b : DiagnosisBlock) : spelled args b.body = due args b := by
  by_cases h : b.location.InStep
  · have hbody := spelled_body args h unplaced_nil
    rw [List.append_nil, spelled_none (locate_kept _ unplaced_nil) rfl, List.append_nil] at hbody
    exact hbody
  · unfold due
    rw [if_neg fun hsmall => h (.inl hsmall), if_neg fun hslot => h (.inr hslot)]

/-- So the parts are the entries due of the blocks. -/
theorem parts_ok {blocks : List DiagnosisBlock} (hbound : (blocksRecord blocks).length < 2 ^ 63)
    (api : UInt32) (slot subslot : UInt16) :
    ∃ parts, blocks.mapM (fun b => parseDiagnosisBlock b.bytes api slot subslot) = .ok parts
      ∧ parts.flatMap DiagnosisData.entries
        = (blocks.flatMap (due ⟨api, slot, subslot⟩)).map fun p => p.2.readAt p.1 := by
  induction blocks with
  | nil => exact ⟨[], rfl, rfl⟩
  | cons b blocks ih =>
    have hlen : (blocksRecord (b :: blocks)).length
        = b.bytes.length + (blocksRecord blocks).length := List.length_append
    obtain ⟨parts, hparts, hentries⟩ := ih (by omega)
    have hone : blocksRecord [b] = b.bytes := List.append_nil _
    have hbody : wordsBehind [b] = b.body := List.append_nil _
    have hsingle := parseDiagnosisBlock_words b [] (by rw [hone]; omega) api slot subslot
    rw [hone, hbody, spelled_due] at hsingle
    refine ⟨{ api, slot, subslot
              entries := (due ⟨api, slot, subslot⟩ b).map fun p => p.2.readAt p.1
              rawData := b.bytes } :: parts, ?_, ?_⟩
    · rw [List.mapM_cons, hsingle, hparts]
      rfl
    · rw [List.flatMap_cons, hentries, List.flatMap_cons, List.map_append]

/-- The blocks concatenate if the words of all are read as those of each. -/
theorem concatenates_iff {api : UInt32} {slot subslot : UInt16} {blocks : List DiagnosisBlock}
    (hbound : (blocksRecord blocks).length < 2 ^ 63) :
    Concatenates api slot subslot blocks
      ↔ spelled ⟨api, slot, subslot⟩ (wordsBehind blocks)
        = blocks.flatMap (due ⟨api, slot, subslot⟩) := by
  obtain ⟨parts, hparts, hentries⟩ := parts_ok hbound api slot subslot
  rcases blocks with _ | ⟨b, blocks⟩
  · refine iff_of_true ⟨_, parts, if_pos (by decide), hparts, hentries.symm⟩ ?_
    exact spelled_none (locate_kept _ unplaced_nil) rfl
  · have hwhole := parseDiagnosisBlock_words b blocks hbound api slot subslot
    constructor
    · rintro ⟨whole, parts', hparse, hparts', hsame⟩
      cases hwhole.symm.trans hparse
      cases hparts.symm.trans hparts'
      rw [hentries] at hsame
      exact readAt_injective.list_map hsame
    · intro hsame
      exact ⟨_, parts, hwhole, hparts, by rw [hentries, hsame]⟩

/-! ## The header of a further block -/

/-- A header is not taken for a location: its type is too large for an API. -/
theorem unplaced_header (header : DiagnosisHeader) (ws : List UInt16) :
    Unplaced (header.words ++ ws) := by
  intro loc' ws' hsmall heq
  have htype : some header.blockType = some (hiWord loc'.api) := congrArg (fun l => l[0]?) heq
  have hknown := header.known
  rw [Option.some.inj htype, hsmall.hiWord_eq] at hknown
  exact absurd hknown (by decide)

/-- The entry that a header is read as. -/
theorem header_begins {header : DiagnosisHeader} {loc : Location} {ws rest : List UInt16}
    {e : SentEntry} (h : Begins (header.words ++ (loc.words ++ ws)) e rest) :
    e.channelNumber = header.blockType ∧ e.channelProperties = header.blockLength
      ∧ e.errorType = hiWord loc.api := by
  obtain ⟨usi, -, heq⟩ := h
  have htype : some header.blockType = some e.channelNumber := congrArg (fun l => l[0]?) heq
  have hlength : some header.blockLength = some e.channelProperties :=
    congrArg (fun l => l[1]?) heq
  have hapi : some (hiWord loc.api) = some e.errorType := congrArg (fun l => l[3]?) heq
  exact ⟨(Option.some.inj htype).symm, (Option.some.inj hlength).symm, (Option.some.inj hapi).symm⟩

/-- A header that is no entry is taken for a qualified one, with next to nothing behind it. -/
theorem header_none {header : DiagnosisHeader} {loc : Location} {ws : List UInt16}
    (h : entryOf (header.words ++ (loc.words ++ ws)) = none) :
    header.blockVersion = usiQualifiedChannelDiagnosis ∧ ws.length < 2 := by
  have hshort : 2 * (loc.words ++ ws).length < detailSize header.blockVersion := short_of_entryOf h
  have hfour : loc.words.length = 4 := rfl
  rw [List.length_append, hfour] at hshort
  unfold detailSize at hshort
  by_cases hext : header.blockVersion = usiExtChannelDiagnosis
  · rw [if_pos hext] at hshort
    omega
  rw [if_neg hext] at hshort
  by_cases hqualified : header.blockVersion = usiQualifiedChannelDiagnosis
  · rw [if_pos hqualified] at hshort
    exact ⟨hqualified, by omega⟩
  · rw [if_neg hqualified] at hshort
    omega

/-- The words of further blocks begin with a header and a location. -/
theorem words_second (second : DiagnosisBlock) (blocks : List DiagnosisBlock) :
    (second :: blocks).flatMap DiagnosisBlock.words
      = second.header.words ++ (second.location.words
        ++ (second.entries.flatMap SentEntry.words ++ blocks.flatMap DiagnosisBlock.words)) := by
  rw [List.flatMap_cons]
  unfold DiagnosisBlock.words DiagnosisBlock.body
  simp only [List.append_assoc]

theorem unplaced_second (second : DiagnosisBlock) (blocks : List DiagnosisBlock) :
    Unplaced ((second :: blocks).flatMap DiagnosisBlock.words) := by
  rw [words_second]
  exact unplaced_header second.header _

/-- The same for the header of a block: nothing but the location is behind it. -/
theorem block_none {second : DiagnosisBlock} {blocks : List DiagnosisBlock}
    (h : entryOf ((second :: blocks).flatMap DiagnosisBlock.words) = none) :
    second.header.blockVersion = usiQualifiedChannelDiagnosis ∧ second.entries = []
      ∧ blocks = [] := by
  rw [words_second] at h
  obtain ⟨hversion, hlen⟩ := header_none h
  rw [List.length_append] at hlen
  refine ⟨hversion, ?_, ?_⟩
  · rcases hentries : second.entries with _ | ⟨e, entries⟩
    · rfl
    · have he := e.words_length
      rw [hentries, List.flatMap_cons, List.length_append] at hlen
      omega
  · rcases blocks with _ | ⟨b, blocks⟩
    · rfl
    · have hb : b.words.length = 3 + b.body.length := List.length_append
      rw [List.flatMap_cons, List.length_append, hb] at hlen
      omega

/-! ## When the blocks concatenate -/

/-- At most one block: the whole is that block. -/
theorem concatenates_single (api : UInt32) (slot subslot : UInt16) {blocks : List DiagnosisBlock}
    (hbound : (blocksRecord blocks).length < 2 ^ 63) (h : blocks.length ≤ 1) :
    Concatenates api slot subslot blocks := by
  refine (concatenates_iff hbound).mpr ?_
  rcases blocks with _ | ⟨b, _ | ⟨second, blocks⟩⟩
  · exact spelled_none (locate_kept _ unplaced_nil) rfl
  · have hbody : wordsBehind [b] = b.body := List.append_nil _
    rw [hbody, spelled_due, List.flatMap_cons, List.flatMap_nil, List.append_nil]
  · rw [List.length_cons, List.length_cons] at h
    omega

section Second

variable {api : UInt32} {slot subslot : UInt16} {first second : DiagnosisBlock}
  {blocks : List DiagnosisBlock} (hstep : first.location.InStep)
  (hbound : (blocksRecord (first :: second :: blocks)).length < 2 ^ 63)
include hstep hbound

/-- Behind a first block that is read in step the rest has to spell what is due of the rest. -/
theorem concatenates_rest :
    Concatenates api slot subslot (first :: second :: blocks)
      ↔ spelled (leaves ⟨api, slot, subslot⟩ first)
          ((second :: blocks).flatMap DiagnosisBlock.words)
        = (second :: blocks).flatMap (due ⟨api, slot, subslot⟩) := by
  rw [concatenates_iff hbound, wordsBehind, spelled_body _ hstep (unplaced_second second blocks),
    List.flatMap_cons (f := due _), List.append_cancel_left_eq]

/-- A second header that is dropped leaves nothing, and nothing is due. -/
theorem concatenates_dropped (h : HeaderDropped ⟨api, slot, subslot⟩ (first :: second :: blocks)) :
    Concatenates api slot subslot (first :: second :: blocks) := by
  refine (concatenates_rest hstep hbound).mpr ?_
  rcases blocks with _ | ⟨b, blocks⟩
  · obtain ⟨hversion, hempty, hdue⟩ := h
    have hnone : entryOf ([second].flatMap DiagnosisBlock.words) = none := by
      have hext : second.header.blockVersion ≠ usiExtChannelDiagnosis := by
        rw [hversion]
        decide
      rw [words_second, hempty]
      exact (if_neg hext).trans (if_pos hversion)
    rw [spelled_none (locate_kept _ (unplaced_second second [])) hnone, List.flatMap_cons, hdue]
    rfl
  · exact h.elim

/-- Otherwise the header's entry is the first that is due behind the first block. -/
theorem dropped_or_repeated (h : Concatenates api slot subslot (first :: second :: blocks)) :
    HeaderDropped ⟨api, slot, subslot⟩ (first :: second :: blocks)
      ∨ HeaderRepeated ⟨api, slot, subslot⟩ (first :: second :: blocks) := by
  have hsame := (concatenates_rest hstep hbound).mp h
  have hkept := locate_kept (leaves ⟨api, slot, subslot⟩ first) (unplaced_second second blocks)
  rcases hentry : entryOf ((second :: blocks).flatMap DiagnosisBlock.words) with _ | ⟨e, rest⟩
  · obtain ⟨hversion, hempty, rfl⟩ := block_none hentry
    rw [spelled_none hkept hentry, List.flatMap_cons, List.flatMap_nil, List.append_nil] at hsame
    exact .inl ⟨hversion, hempty, hsame.symm⟩
  · rw [spelled_some hkept hentry] at hsame
    have hbegins := begins_of_entryOf hentry
    rw [words_second] at hbegins
    refine .inr ⟨e, ?_, header_begins hbegins⟩
    rw [← hsame]
    rfl

end Second

/-- **Diagnosis blocks concatenate if and only if the words behind the first header spell what is
    due.**  One block or none always does.  Two or more do by coincidence only: where the location
    of the first block is read in step, as every small one is, the second header has to be dropped,
    which is enough, or to repeat the entry that is due, which is not. -/
theorem blocks_concatenate (api : UInt32) (slot subslot : UInt16) (blocks : List DiagnosisBlock)
    (hbound : (blocksRecord blocks).length < 2 ^ 63) :
    (Concatenates api slot subslot blocks
        ↔ Spells ⟨api, slot, subslot⟩ (wordsBehind blocks)
            (blocks.flatMap (due ⟨api, slot, subslot⟩)))
      ∧ (blocks.length ≤ 1 → Concatenates api slot subslot blocks)
      ∧ ((∀ first ∈ blocks.head?, first.location.InStep) →
        (HeaderDropped ⟨api, slot, subslot⟩ blocks → Concatenates api slot subslot blocks)
          ∧ (Concatenates api slot subslot blocks → blocks.length ≤ 1
            ∨ HeaderDropped ⟨api, slot, subslot⟩ blocks
            ∨ HeaderRepeated ⟨api, slot, subslot⟩ blocks)) := by
  refine ⟨?_, concatenates_single api slot subslot hbound, fun hstep => ?_⟩
  · rw [spells_iff]
    exact concatenates_iff hbound
  rcases blocks with _ | ⟨first, _ | ⟨second, blocks⟩⟩
  · exact ⟨False.elim, fun _ => .inl (Nat.zero_le 1)⟩
  · exact ⟨False.elim, fun _ => .inl (Nat.le_refl 1)⟩
  · have hfirst := hstep first rfl
    exact ⟨concatenates_dropped hfirst hbound, fun h => .inr (dropped_or_repeated hfirst hbound h)⟩

/-! ## Coincidences of any length -/

/-- An entry that spells its own USI in every word. -/
def echoEntry : SentEntry := ⟨0x8000, 0x8000, 0x8000, .channel⟩

/-- Two blocks at one location.  The entries of the second say what the words three before them
    say, so that it does no harm to be three words behind. -/
def echoing (n : Nat) : List DiagnosisBlock :=
  [⟨⟨0x0010, 10, 0x0100, benchHeader.known⟩, ⟨0x8000, 0, 0x8000⟩, []⟩,
    ⟨⟨0x0010, 0, 0x0100, benchHeader.known⟩, ⟨0x8000, 0, 0x8000⟩,
      ⟨0x0010, 0, 0, .channel⟩ :: ⟨0x8000, 0, 0x0010, .channel⟩ :: ⟨0, 0x8000, 0, .channel⟩
        :: List.replicate n echoEntry⟩]

/-- Three words behind, each of the entries is read as the next. -/
theorem spelled_echo (loc : Location) (n : Nat) {usi : UInt16}
    (husi : SentDetail.channel.ReadAs usi) :
    spelled loc (0x8000 :: 0x8000 :: usi :: (List.replicate n echoEntry).flatMap SentEntry.words)
      = List.replicate n (loc, echoEntry) := by
  induction n generalizing usi with
  | zero => exact spelled_none rfl rfl
  | succ n ih =>
    have hnext : SentDetail.channel.ReadAs 0x8000 := ⟨by decide, by decide⟩
    rw [List.replicate_succ, List.replicate_succ, List.flatMap_cons, ← ih hnext]
    exact spelled_some rfl (entryOf_begins ⟨usi, husi, rfl⟩)

/-- **So there is no bound on what concatenates by coincidence**, not even for two blocks. -/
theorem echoing_concatenates (n : Nat) (hbound : (blocksRecord (echoing n)).length < 2 ^ 63) :
    Concatenates 0 0 0 (echoing n) := by
  have hsmall : (⟨0x8000, 0, 0x8000⟩ : Location).Small := by decide
  have hplain : SentDetail.channel.ReadAs 0 := ⟨by decide, by decide⟩
  refine (concatenates_rest (.inl hsmall) hbound).mpr ?_
  have hdue (b : DiagnosisBlock) (h : b.location.Small) :
      [b].flatMap (due ⟨0, 0, 0⟩) = b.entries.map fun e => (b.location, e) := by
    rw [List.flatMap_cons, List.flatMap_nil, List.append_nil, due, if_pos h]
  rw [hdue _ hsmall, words_second, List.flatMap_nil, List.append_nil, leaves, if_pos hsmall]
  dsimp only
  -- the header, the location and the entries up to the third, then three words are left of it
  show spelled ⟨0x8000, 0, 0x8000⟩ (16 :: 0 :: 0x0100 :: 0 :: 0x8000 :: 0 :: 0x8000 :: 16 :: 0 ::
    0x8000 :: 0 :: 0x8000 :: 0 :: 0x8000 :: 16 :: 0 :: 0x8000 :: 0x8000 :: 0 ::
      (List.replicate n echoEntry).flatMap SentEntry.words) = _
  rw [spelled_some rfl rfl, spelled_some rfl rfl, spelled_some rfl rfl,
    spelled_echo _ n hplain, List.map_cons, List.map_cons, List.map_cons, List.map_replicate]
  rfl

/-- Two blocks of one entry each. -/
def benchBlocks : List DiagnosisBlock :=
  [⟨⟨0x0010, 18, 0x0100, benchHeader.known⟩, ⟨0, 1, 1⟩, [⟨2, 0x0801, 6, .channel⟩]⟩,
    ⟨⟨0x0010, 18, 0x0100, benchHeader.known⟩, ⟨0, 4, 1⟩, [⟨3, 0x0801, 7, .channel⟩]⟩]

/-- The second location is read as an entry, with the words of the header before it. -/
def benchEcho : List DiagnosisBlock :=
  [⟨⟨0x0010, 18, 0x0100, benchHeader.known⟩, ⟨0, 1, 1⟩, [⟨2, 0x0801, 6, .channel⟩]⟩,
    ⟨⟨0x0010, 10, 0x0100, benchHeader.known⟩, ⟨0x0010000A, 5, 0x0010⟩, []⟩]

/-- By such a coincidence two blocks concatenate. -/
theorem blocks_concatenate_echo : Concatenates 0 1 1 benchEcho := by
  refine (blocks_concatenate 0 1 1 benchEcho (by decide)).1.mpr (spells_iff.mpr ?_)
  have hlocation : locate ⟨0, 1, 1⟩ (wordsBehind benchEcho)
      = (⟨0, 1, 1⟩, [2, 0x0801, 0x8000, 6, 16, 10, 0x0100, 16, 10, 5, 16]) := by decide
  have hheader : locate ⟨0, 1, 1⟩ [16, 10, 0x0100, 16, 10, 5, 16]
      = (⟨0, 1, 1⟩, [16, 10, 0x0100, 16, 10, 5, 16]) := by decide
  rw [spelled_some hlocation rfl, spelled_some hheader rfl, spelled_none rfl rfl]
  decide

/-- But those of one entry each are misread: the second header is read as an entry. -/
theorem blocks_misread : ¬ Concatenates 0 0 0 benchBlocks := by
  intro h
  have hstep : (⟨0, 1, 1⟩ : Location).InStep := .inl (by decide)
  rcases dropped_or_repeated hstep (by decide) h with ⟨hversion, -⟩ | ⟨e, hfirst, -⟩
  · exact absurd hversion (by decide)
  · have hplace : some (⟨0, 4, 1⟩ : Location) = some ⟨0, 1, 1⟩ :=
      congrArg (Option.map Prod.fst) hfirst
    exact absurd hplace (by decide)

end Profinet.Diagnosis
