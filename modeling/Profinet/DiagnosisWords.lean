/-
  DIAGNOSIS WORDS: what the entries of a record are, word by word.

  All fields of a diagnosis record are words or pairs of words, so the bytes behind the header are
  a list of words.  `Spells loc ws due` says in equations between words what such a list is read
  as, whatever wrote it:

      hi lo slot subslot              a location, if hi = 0 and slot < 0x8000
      number properties usi error     an entry, with what its identifier adds behind it
      ...

  A location may stand before each entry; without one the entry is at the location before it, and
  where no entry fits the list ends.  `spelled` computes the entries, `spells_iff` says that they
  are the only ones, and `entriesFrom_words` that the parser finds them.
-/
import Profinet.DiagnosisRecord

namespace Profinet.Diagnosis

open Wire Checked

/-! ## Words of a record

  What the bytes of locations and entries are as words, so that a record can be taken apart
  wherever it was cut. -/

/-- A location as the four words it is written in. -/
def Location.words (loc : Location) : List UInt16 :=
  [hiWord loc.api, loWord loc.api, loc.slot, loc.subslot]

/-- The bytes of a location are those of its words. -/
theorem Location.bytes_eq (loc : Location) : loc.bytes = wordBytes loc.words := by
  unfold Location.bytes
  rw [be32_words]
  rfl

/-- The locations that are taken for one. -/
def Location.Small (loc : Location) : Prop := loc.api < 0x10000 ∧ loc.slot < 0x8000

instance (loc : Location) : Decidable loc.Small :=
  inferInstanceAs (Decidable (loc.api < 0x10000 ∧ loc.slot < 0x8000))

/-- The upper half of a small API is zero. -/
theorem Location.Small.hiWord_eq {loc : Location} (h : loc.Small) : hiWord loc.api = 0 :=
  hiWord_eq_zero h.1

/-- The words behind the error type of an entry. -/
def SentDetail.words : SentDetail → List UInt16
  | .channel => []
  | .ext extErrorType extAddValue => [extErrorType, hiWord extAddValue, loWord extAddValue]
  | .qualified extErrorType extAddValue qualifier =>
    [extErrorType, hiWord extAddValue, loWord extAddValue, hiWord qualifier, loWord qualifier]

/-- The words of an entry, with the identifier `usi`. -/
def SentEntry.wordsAs (e : SentEntry) (usi : UInt16) : List UInt16 :=
  e.channelNumber :: e.channelProperties :: usi :: e.errorType :: e.detail.words

/-- An entry as the words it is written in. -/
def SentEntry.words (e : SentEntry) : List UInt16 := e.wordsAs e.detail.usi

/-- The bytes of the details are those of their words. -/
theorem SentDetail.bytes_eq (d : SentDetail) : d.bytes = wordBytes d.words := by
  cases d with
  | channel => rfl
  | ext extErrorType extAddValue =>
    show be16 extErrorType ++ be32 extAddValue = _
    rw [be32_words]
    rfl
  | qualified extErrorType extAddValue qualifier =>
    show be16 extErrorType ++ (be32 extAddValue ++ be32 qualifier) = _
    rw [be32_words, be32_words]
    rfl

/-- The bytes of an entry are those of its words. -/
theorem SentEntry.bytes_eq (e : SentEntry) : e.bytes = wordBytes e.words := by
  unfold SentEntry.bytes
  rw [e.detail.bytes_eq]
  rfl

/-- An entry takes at least four words. -/
theorem SentEntry.words_length (e : SentEntry) : 4 ≤ e.words.length := by
  unfold SentEntry.words SentEntry.wordsAs
  simp only [List.length_cons]
  omega

/-- The identifiers an entry is read under: its own, and a plain entry under all but the two that
    have more behind them. -/
def SentDetail.ReadAs : SentDetail → UInt16 → Prop
  | .channel, usi => usi ≠ usiExtChannelDiagnosis ∧ usi ≠ usiQualifiedChannelDiagnosis
  | .ext .., usi => usi = usiExtChannelDiagnosis
  | .qualified .., usi => usi = usiQualifiedChannelDiagnosis

/-- Details read as what their own USI announces. -/
theorem SentDetail.readAs_usi (d : SentDetail) : d.ReadAs d.usi := by
  cases d with
  | channel => exact ⟨by decide, by decide⟩
  | ext extErrorType extAddValue => rfl
  | qualified extErrorType extAddValue qualifier => rfl

/-! ## What words spell

  The relation and the function that computes it.  The identifier at the third word says how many
  words an entry takes. -/

/-- The words begin with the entry `e`, and `rest` is behind it. -/
def Begins (ws : List UInt16) (e : SentEntry) (rest : List UInt16) : Prop :=
  ∃ usi, e.detail.ReadAs usi ∧ ws = e.wordsAs usi ++ rest

/-- The words do not begin with a location. -/
def Unplaced (ws : List UInt16) : Prop :=
  ∀ loc' ws', Location.Small loc' → ws ≠ loc'.words ++ ws'

/-- The words begin with a location, or the one before goes on. -/
inductive Placed (loc : Location) : List UInt16 → Location → List UInt16 → Prop
  | stated {loc' : Location} {ws : List UInt16} (h : loc'.Small) :
      Placed loc (loc'.words ++ ws) loc' ws
  | kept {ws : List UInt16} (h : Unplaced ws) : Placed loc ws loc ws

/-- The words spell the entries that are due, each at its location, the first under `loc`. -/
inductive Spells : Location → List UInt16 → List (Location × SentEntry) → Prop
  | done {loc loc' : Location} {ws ws' : List UInt16} (h : Placed loc ws loc' ws')
      (hend : ∀ e rest, ¬ Begins ws' e rest) : Spells loc ws []
  | entry {loc loc' : Location} {ws ws' rest : List UInt16} {e : SentEntry}
      {due : List (Location × SentEntry)} (h : Placed loc ws loc' ws') (he : Begins ws' e rest)
      (hrest : Spells loc' rest due) : Spells loc ws ((loc', e) :: due)

/-- The location that words begin with, or the one before, and the words behind it. -/
def locate (loc : Location) : List UInt16 → Location × List UInt16
  | hi :: lo :: slot :: subslot :: ws =>
    if hi = 0 ∧ slot < 0x8000 then (⟨ofWords hi lo, slot, subslot⟩, ws)
    else (loc, hi :: lo :: slot :: subslot :: ws)
  | ws => (loc, ws)

/-- The entry that words begin with, and the words behind it. -/
def entryOf : List UInt16 → Option (SentEntry × List UInt16)
  | number :: properties :: usi :: error :: ws =>
    if usi = usiExtChannelDiagnosis then
      match ws with
      | ext :: hi :: lo :: rest =>
        some (⟨number, properties, error, .ext ext (ofWords hi lo)⟩, rest)
      | _ => none
    else if usi = usiQualifiedChannelDiagnosis then
      match ws with
      | ext :: hi :: lo :: qhi :: qlo :: rest =>
        some (⟨number, properties, error, .qualified ext (ofWords hi lo) (ofWords qhi qlo)⟩, rest)
      | _ => none
    else some (⟨number, properties, error, .channel⟩, ws)
  | _ => none

/-- A location put together from four words is written back as them. -/
theorem Location.words_ofWords (hi lo slot subslot : UInt16) :
    Location.words ⟨ofWords hi lo, slot, subslot⟩ = [hi, lo, slot, subslot] := by
  unfold Location.words
  rw [hiWord_ofWords, loWord_ofWords]

/-- A location is small where its first word is zero and its slot below 0x8000. -/
theorem Location.small_ofWords {hi lo slot subslot : UInt16} :
    Location.Small ⟨ofWords hi lo, slot, subslot⟩ ↔ hi = 0 ∧ slot < 0x8000 := by
  unfold Location.Small
  rw [ofWords_lt]

/-- A small location is found. -/
theorem locate_small (loc : Location) {loc' : Location} (h : loc'.Small) (ws : List UInt16) :
    locate loc (loc'.words ++ ws) = (loc', ws) := by
  unfold Location.words
  rw [List.cons_append, List.cons_append, List.cons_append, List.cons_append, List.nil_append,
    locate, if_pos ⟨h.hiWord_eq, h.2⟩, ofWords_halves]

/-- What does not begin with one is left alone. -/
theorem locate_kept (loc : Location) {ws : List UInt16} (h : Unplaced ws) :
    locate loc ws = (loc, ws) := by
  unfold locate
  split
  · next hi lo slot subslot ws =>
    have hlarge : ¬ (hi = 0 ∧ slot < 0x8000) := by
      intro hsmall
      refine h ⟨ofWords hi lo, slot, subslot⟩ ws (Location.small_ofWords.mpr hsmall) ?_
      rw [Location.words_ofWords]
      rfl
    rw [if_neg hlarge]
  · rfl

/-- `locate` finds the location that `Placed` speaks of. -/
theorem placed_locate (loc : Location) (ws : List UInt16) :
    Placed loc ws (locate loc ws).1 (locate loc ws).2 := by
  by_cases h : Unplaced ws
  · rw [locate_kept loc h]
    exact .kept h
  · unfold Unplaced at h
    push Not at h
    obtain ⟨loc', ws', hsmall, rfl⟩ := h
    rw [locate_small loc hsmall]
    exact .stated hsmall

/-- And there is only one. -/
theorem Placed.locate_eq {loc loc' : Location} {ws ws' : List UInt16}
    (h : Placed loc ws loc' ws') : locate loc ws = (loc', ws') := by
  cases h with
  | stated h => exact locate_small loc h _
  | kept h => exact locate_kept loc h

/-- The entry that words begin with is the one `entryOf` reads. -/
theorem entryOf_begins {ws rest : List UInt16} {e : SentEntry} (h : Begins ws e rest) :
    entryOf ws = some (e, rest) := by
  obtain ⟨usi, husi, rfl⟩ := h
  obtain ⟨channelNumber, channelProperties, errorType, detail⟩ := e
  cases detail with
  | channel => exact (if_neg husi.1).trans (if_neg husi.2)
  | ext extErrorType extAddValue =>
    have hvalue := ofWords_halves extAddValue
    refine (if_pos husi).trans ?_
    show some (_, _) = _
    rw [hvalue]
    rfl
  | qualified extErrorType extAddValue qualifier =>
    have hvalue := ofWords_halves extAddValue
    have hqualifier := ofWords_halves qualifier
    have hne : usi ≠ usiExtChannelDiagnosis := by
      rw [husi]
      decide
    refine (if_neg hne).trans ((if_pos husi).trans ?_)
    show some (_, _) = _
    rw [hvalue, hqualifier]
    rfl

/-- The entry that `entryOf` reads is one the words begin with. -/
theorem begins_of_entryOf {ws rest : List UInt16} {e : SentEntry}
    (h : entryOf ws = some (e, rest)) : Begins ws e rest := by
  unfold entryOf at h
  split at h
  -- the USI says how many words the details take
  · next number properties usi error ws =>
    by_cases hext : usi = usiExtChannelDiagnosis
    · rw [if_pos hext] at h
      split at h
      · next ext hi lo ws =>
        cases h
        refine ⟨usi, hext, ?_⟩
        show _ = number :: properties :: usi :: error :: ext :: hiWord _ :: loWord _ :: rest
        rw [hiWord_ofWords, loWord_ofWords]
      · cases h
    rw [if_neg hext] at h
    by_cases hqualified : usi = usiQualifiedChannelDiagnosis
    · rw [if_pos hqualified] at h
      split at h
      · next ext hi lo qhi qlo ws =>
        cases h
        refine ⟨usi, hqualified, ?_⟩
        show _ = number :: properties :: usi :: error :: ext :: hiWord _ :: loWord _
          :: hiWord _ :: loWord _ :: rest
        rw [hiWord_ofWords, loWord_ofWords, hiWord_ofWords, loWord_ofWords]
      · cases h
    · rw [if_neg hqualified] at h
      cases h
      exact ⟨usi, ⟨hext, hqualified⟩, rfl⟩
  · cases h

/-- No entry is read exactly where the words begin with none. -/
theorem entryOf_none {ws : List UInt16} : entryOf ws = none ↔ ∀ e rest, ¬ Begins ws e rest := by
  constructor
  · intro h e rest he
    cases h.symm.trans (entryOf_begins he)
  · intro h
    rcases hentry : entryOf ws with _ | ⟨e, rest⟩
    · rfl
    · exact absurd (begins_of_entryOf hentry) (h e rest)

/-- A location takes words off the front, if anything. -/
theorem locate_length (loc : Location) (ws : List UInt16) :
    (locate loc ws).2.length ≤ ws.length := by
  have h := placed_locate loc ws
  generalize locate loc ws = placed at h
  obtain ⟨loc', ws'⟩ := placed
  cases h with
  | stated h =>
    rw [List.length_append]
    exact Nat.le_add_left _ _
  | kept h => exact Nat.le_refl _

/-- An entry leaves fewer words. -/
theorem Begins.length_lt {ws rest : List UInt16} {e : SentEntry} (h : Begins ws e rest) :
    rest.length < ws.length := by
  obtain ⟨usi, -, rfl⟩ := h
  unfold SentEntry.wordsAs
  rw [List.length_append, List.length_cons]
  omega

/-- The entries that words spell. -/
def spelled (loc : Location) (ws : List UInt16) : List (Location × SentEntry) :=
  match _h : entryOf (locate loc ws).2 with
  | none => []
  | some (e, rest) => ((locate loc ws).1, e) :: spelled (locate loc ws).1 rest
  termination_by ws.length
  decreasing_by
    have hlt := (begins_of_entryOf _h).length_lt
    have hle := locate_length loc ws
    omega

/-- Words that begin with no entry spell nothing. -/
theorem spelled_none {loc loc' : Location} {ws ws' : List UInt16}
    (hloc : locate loc ws = (loc', ws')) (h : entryOf ws' = none) : spelled loc ws = [] := by
  unfold spelled
  split
  · rfl
  · next e rest hentry =>
    rw [hloc, h] at hentry
    cases hentry

/-- The first entry spelled, and what the rest spells under its location. -/
theorem spelled_some {loc loc' : Location} {ws ws' rest : List UInt16} {e : SentEntry}
    (hloc : locate loc ws = (loc', ws')) (h : entryOf ws' = some (e, rest)) :
    spelled loc ws = (loc', e) :: spelled loc' rest := by
  rw [spelled]
  split
  · next hentry =>
    rw [hloc, h] at hentry
    cases hentry
  · next e' rest' hentry =>
    rw [hloc, h] at hentry
    cases hentry
    rw [hloc]

/-- **Words spell one list of entries.** -/
theorem spells_iff {loc : Location} {ws : List UInt16} {due : List (Location × SentEntry)} :
    Spells loc ws due ↔ spelled loc ws = due := by
  constructor
  · intro h
    induction h with
    | done h hend => exact spelled_none h.locate_eq (entryOf_none.mpr hend)
    | entry h he hrest ih => rw [spelled_some h.locate_eq (entryOf_begins he), ih]
  · rintro rfl
    induction loc, ws using spelled.induct with
    | case1 loc ws h =>
      rw [spelled_none rfl h]
      exact .done (placed_locate loc ws) (entryOf_none.mp h)
    | case2 loc ws e rest h ih =>
      rw [spelled_some rfl h]
      exact .entry (placed_locate loc ws) (begins_of_entryOf h) ih

/-! ## Entries and locations in words

  Entries written in words are spelled as themselves, up to the first location that is read
  differently. -/

/-- An entry is not taken for a location: its identifier stands where a location has its slot. -/
theorem unplaced_entry (e : SentEntry) (ws : List UInt16) : Unplaced (e.words ++ ws) := by
  intro loc' ws' hsmall heq
  have hslot : some e.detail.usi = some loc'.slot := congrArg (fun l => l[2]?) heq
  have hlt := hsmall.2
  rw [← Option.some.inj hslot] at hlt
  exact e.detail.usi_not_lt hlt

/-- No words, so no location. -/
theorem unplaced_nil : Unplaced [] := by
  intro loc' ws' hsmall heq
  cases heq

/-- Entries in front do not make the words placed. -/
theorem unplaced_entries (entries : List SentEntry) {ws : List UInt16} (h : Unplaced ws) :
    Unplaced (entries.flatMap SentEntry.words ++ ws) := by
  cases entries with
  | nil => exact h
  | cons e entries =>
    rw [List.flatMap_cons, List.append_assoc]
    exact unplaced_entry e _

/-- Entries at the location before them are read one by one. -/
theorem spelled_entries (loc : Location) (entries : List SentEntry) (ws : List UInt16) :
    spelled loc (entries.flatMap SentEntry.words ++ ws)
      = entries.map (fun e => (loc, e)) ++ spelled loc ws := by
  induction entries with
  | nil => rfl
  | cons e entries ih =>
    rw [List.flatMap_cons, List.append_assoc, List.map_cons, List.cons_append, ← ih]
    exact spelled_some (locate_kept loc (unplaced_entry e _))
      (entryOf_begins ⟨_, e.detail.readAs_usi, rfl⟩)

/-- A location in front is taken up, and nothing else of it is left. -/
theorem spelled_stated (loc : Location) {loc' : Location} (h : loc'.Small) {ws : List UInt16}
    (hws : Unplaced ws) : spelled loc (loc'.words ++ ws) = spelled loc' ws := by
  have hloc := locate_small loc h ws
  rcases hentry : entryOf ws with _ | ⟨e, rest⟩
  · rw [spelled_none hloc hentry, spelled_none (locate_kept loc' hws) hentry]
  · rw [spelled_some hloc hentry, spelled_some (locate_kept loc' hws) hentry]

/-- A location that is not taken for one is a plain entry, if its slot is an identifier of one. -/
def Location.entry (loc : Location) : SentEntry :=
  ⟨hiWord loc.api, loWord loc.api, loc.subslot, .channel⟩

/-- A location that is not small is read as an entry of its own, under the location in force. -/
theorem spelled_large (loc : Location) {loc' : Location} (h : ¬ loc'.Small)
    (hslot : loc'.slot ≠ usiExtChannelDiagnosis ∧ loc'.slot ≠ usiQualifiedChannelDiagnosis)
    (ws : List UInt16) : spelled loc (loc'.words ++ ws) = (loc, loc'.entry) :: spelled loc ws := by
  have hkept : Unplaced (loc'.words ++ ws) := by
    intro small ws' hsmall heq
    have hhi : some (hiWord loc'.api) = some (hiWord small.api) :=
      congrArg (fun l => l[0]?) heq
    have hlo : some (loWord loc'.api) = some (loWord small.api) :=
      congrArg (fun l => l[1]?) heq
    have hsame : some loc'.slot = some small.slot := congrArg (fun l => l[2]?) heq
    have hapi : loc'.api = small.api := by
      rw [← ofWords_halves loc'.api, Option.some.inj hhi, Option.some.inj hlo, ofWords_halves]
    refine h ⟨?_, ?_⟩
    · rw [hapi]
      exact hsmall.1
    · rw [Option.some.inj hsame]
      exact hsmall.2
  exact spelled_some (locate_kept loc hkept) (entryOf_begins ⟨loc'.slot, hslot, rfl⟩)

/-- An entry at a location is known by what is reported of it. -/
theorem readAt_injective :
    Function.Injective fun p : Location × SentEntry => p.2.readAt p.1 := by
  rintro ⟨⟨api, slot, subslot⟩, ⟨number, props, error, detail⟩⟩
    ⟨⟨api', slot', subslot'⟩, ⟨number', props', error', detail'⟩⟩ h
  have hapi : api = api' := congrArg ChannelDiagnosis.api h
  have hslot : slot = slot' := congrArg ChannelDiagnosis.slot h
  have hsubslot : subslot = subslot' := congrArg ChannelDiagnosis.subslot h
  have hnumber : number = number' := congrArg ChannelDiagnosis.channelNumber h
  have hprops : props = props' := congrArg (fun e => e.channelProperties.raw) h
  have herror : error = error' := congrArg ChannelDiagnosis.errorType h
  have hkind := congrArg ChannelDiagnosis.kind h
  have hext := congrArg ChannelDiagnosis.extErrorType h
  have hvalue := congrArg ChannelDiagnosis.extAddValue h
  have hqualifier := congrArg ChannelDiagnosis.qualifier h
  subst hapi hslot hsubslot hnumber hprops herror
  -- the kinds tell the details apart, and the extended fields what is in them
  cases detail <;> cases detail' <;> cases hkind
  · rfl
  · cases hext
    cases hvalue
    rfl
  · cases hext
    cases hvalue
    cases hqualifier
    rfl

/-! ## The parser reads what words spell

  At an offset where the words stand, each step of the parser is a step of `Spells`. -/

section Parser

variable {data : List UInt8} (hdata : data.length < 2 ^ 63) (loc : Location) {off start : Nat}

/-- The size of what an identifier has behind it. -/
def detailSize (usi : UInt16) : Nat :=
  if usi = usiExtChannelDiagnosis then 8 else if usi = usiQualifiedChannelDiagnosis then 12 else 2

/-- Details take two bytes at least. -/
theorem two_le_detailSize (usi : UInt16) : 2 ≤ detailSize usi := by
  unfold detailSize
  split
  · decide
  · split <;> decide

/-- Words that are no entry are too few for one. -/
theorem short_of_entryOf {number properties usi : UInt16} {ws : List UInt16}
    (h : entryOf (number :: properties :: usi :: ws) = none) :
    2 * ws.length < detailSize usi := by
  rcases ws with _ | ⟨error, ws⟩
  · exact Nat.lt_of_lt_of_le (by decide) (two_le_detailSize usi)
  unfold detailSize
  by_cases hext : usi = usiExtChannelDiagnosis
  · rw [if_pos hext]
    rcases ws with _ | ⟨ext, _ | ⟨hi, _ | ⟨lo, ws⟩⟩⟩
    · exact (by decide : 2 * 1 < 8)
    · exact (by decide : 2 * 2 < 8)
    · exact (by decide : 2 * 3 < 8)
    · cases (if_pos hext).symm.trans h
  rw [if_neg hext]
  by_cases hqualified : usi = usiQualifiedChannelDiagnosis
  · rw [if_pos hqualified]
    rcases ws with _ | ⟨ext, _ | ⟨hi, _ | ⟨lo, _ | ⟨qhi, _ | ⟨qlo, ws⟩⟩⟩⟩⟩
    · exact (by decide : 2 * 1 < 12)
    · exact (by decide : 2 * 2 < 12)
    · exact (by decide : 2 * 3 < 12)
    · exact (by decide : 2 * 4 < 12)
    · exact (by decide : 2 * 5 < 12)
    · cases ((if_neg hext).trans (if_pos hqualified)).symm.trans h
  · cases ((if_neg hext).trans (if_neg hqualified)).symm.trans h

include hdata

/-- An entry that does not fit is none. -/
theorem detailAt_none (number properties : UInt16) {usi : UInt16} (hoff : off ≤ data.length)
    (hend : data.length < off + detailSize usi) :
    detailAt data loc number properties usi off = .ok none := by
  unfold detailSize at hend
  unfold detailAt
  by_cases hext : usi = usiExtChannelDiagnosis
  · rw [if_pos hext] at hend
    rw [if_pos hext, add_ok (by omega), ok_bind, if_pos (by dsimp only; omega)]
    rfl
  rw [if_neg hext] at hend
  by_cases hqualified : usi = usiQualifiedChannelDiagnosis
  · rw [if_pos hqualified] at hend
    rw [if_neg hext, if_pos hqualified, add_ok (by omega), ok_bind,
      if_pos (by dsimp only; omega)]
    rfl
  · rw [if_neg hqualified] at hend
    rw [if_neg hext, if_neg hqualified, add_ok (by omega), ok_bind,
      if_pos (by dsimp only; omega)]
    rfl

/-- Fewer than eight bytes are no location. -/
theorem located_short (hoff : off ≤ data.length) (hend : data.length < off + 8) :
    Located data loc off loc off := by
  refine ⟨Nat.le_refl off, ?_⟩
  unfold locationAt
  rw [add_ok (by omega), ok_bind, if_neg (by dsimp only; omega)]
  rfl

/-- A location in words is one in bytes. -/
theorem located_words {loc' : Location} {ws ws' : List UInt16} (h : Placed loc ws loc' ws')
    (hwords : Stands data off (wordBytes ws)) (hend : data.length = off + 2 * ws.length) :
    ∃ start, Located data loc off loc' start ∧ Stands data start (wordBytes ws')
      ∧ data.length = start + 2 * ws'.length := by
  -- a location is stated by four words that are small; otherwise the entry begins at once
  cases h with
  | stated hsmall =>
    rw [wordBytes_append] at hwords
    obtain ⟨hlocation, hrest⟩ := hwords.split (n := 8) rfl
    rw [← loc'.bytes_eq] at hlocation
    refine ⟨off + 8, located_group hdata loc ⟨loc', [], hsmall.1, hsmall.2⟩ hlocation, hrest, ?_⟩
    rw [hend, List.length_append]
    show off + 2 * (4 + ws'.length) = off + 8 + 2 * ws'.length
    omega
  | kept hkept =>
    refine ⟨off, ?_, hwords, hend⟩
    -- too few words for a location
    have hshort : ws.length < 4 → Located data loc off loc off := fun hlt =>
      located_short hdata loc (by omega) (by omega)
    rcases ws with _ | ⟨hi, _ | ⟨lo, _ | ⟨slot, _ | ⟨subslot, ws⟩⟩⟩⟩
    · exact hshort (by simp)
    · exact hshort (by simp)
    · exact hshort (by simp)
    · exact hshort (by simp)
    · obtain ⟨hhi, hwords⟩ := hwords.split (be16_length hi)
      obtain ⟨hlo, hwords⟩ := hwords.split (be16_length lo)
      obtain ⟨hslot, -⟩ := hwords.split (be16_length slot)
      have hslot4 : rdU16 data (off + 4) false = slot := hslot.rdU16
      refine located_none hdata loc (by omega) ?_
      rw [rdU32_ofWords, hhi.rdU16, hlo.rdU16, hslot4]
      intro hsmall
      refine hkept ⟨ofWords hi lo, slot, subslot⟩ ws hsmall ?_
      rw [Location.words_ofWords]
      rfl

/-- An entry in words is one in bytes. -/
theorem entryAt_words {e : SentEntry} {ws rest : List UInt16} (h : Begins ws e rest)
    (hwords : Stands data start (wordBytes ws)) (hend : data.length = start + 2 * ws.length) :
    ∃ next, EntryAt data loc start (e.readAt loc) next ∧ Stands data next (wordBytes rest)
      ∧ data.length = next + 2 * rest.length := by
  -- the words of the entry are read in the order in which they are split off
  obtain ⟨usi, husi, rfl⟩ := h
  obtain ⟨channelNumber, properties, errorType, detail⟩ := e
  obtain ⟨hnumber, hwords⟩ := hwords.split (be16_length channelNumber)
  obtain ⟨hprops, hwords⟩ := hwords.split (be16_length properties)
  obtain ⟨hid, hwords⟩ := hwords.split (be16_length usi)
  obtain ⟨herror, hwords⟩ := hwords.split (be16_length errorType)
  have hid : rdU16 data (start + 4) false = usi := hid.rdU16
  have herror6 : rdU16 data (start + 6) false = errorType := herror.rdU16
  cases detail with
  | channel =>
    have hentry := entryAt_plain hdata loc herror.fits (by
      rw [hid]
      exact husi)
    rw [hnumber.rdU16, hprops.rdU16, herror6] at hentry
    refine ⟨start + 8, hentry, hwords, ?_⟩
    rw [hend]
    show start + 2 * (rest.length + 4) = start + 8 + 2 * rest.length
    omega
  | ext extErrorType extAddValue =>
    obtain ⟨hext, hwords⟩ := hwords.split (be16_length extErrorType)
    obtain ⟨hhi, hwords⟩ := hwords.split (be16_length (hiWord extAddValue))
    obtain ⟨hlo, hwords⟩ := hwords.split (be16_length (loWord extAddValue))
    have hext8 : rdU16 data (start + 8) false = extErrorType := hext.rdU16
    have hhi10 : rdU16 data (start + 10) false = hiWord extAddValue := hhi.rdU16
    have hlo12 : rdU16 data (start + 10 + 2) false = loWord extAddValue := hlo.rdU16
    have hentry := entryAt_ext hdata loc hlo.fits (hid.trans husi)
    rw [hnumber.rdU16, hprops.rdU16, herror6, hext8, rdU32_ofWords, hhi10, hlo12,
      ofWords_halves] at hentry
    refine ⟨start + 14, hentry, hwords, ?_⟩
    rw [hend]
    show start + 2 * (rest.length + 7) = start + 14 + 2 * rest.length
    omega
  | qualified extErrorType extAddValue qualifier =>
    obtain ⟨hext, hwords⟩ := hwords.split (be16_length extErrorType)
    obtain ⟨hhi, hwords⟩ := hwords.split (be16_length (hiWord extAddValue))
    obtain ⟨hlo, hwords⟩ := hwords.split (be16_length (loWord extAddValue))
    obtain ⟨hqhi, hwords⟩ := hwords.split (be16_length (hiWord qualifier))
    obtain ⟨hqlo, hwords⟩ := hwords.split (be16_length (loWord qualifier))
    have hext8 : rdU16 data (start + 8) false = extErrorType := hext.rdU16
    have hhi10 : rdU16 data (start + 10) false = hiWord extAddValue := hhi.rdU16
    have hlo12 : rdU16 data (start + 10 + 2) false = loWord extAddValue := hlo.rdU16
    have hqhi14 : rdU16 data (start + 14) false = hiWord qualifier := hqhi.rdU16
    have hqlo16 : rdU16 data (start + 14 + 2) false = loWord qualifier := hqlo.rdU16
    have hentry := entryAt_qualified hdata loc hqlo.fits (hid.trans husi)
    rw [hnumber.rdU16, hprops.rdU16, herror6, hext8, rdU32_ofWords, hhi10, hlo12,
      ofWords_halves, rdU32_ofWords, hqhi14, hqlo16, ofWords_halves] at hentry
    refine ⟨start + 18, hentry, hwords, ?_⟩
    rw [hend]
    show start + 2 * (rest.length + 9) = start + 18 + 2 * rest.length
    omega

/-- Where words are no entry the walk ends. -/
theorem entriesFrom_stop {loc' : Location} {ws : List UInt16}
    (hloc : Located data loc off loc' start) (hwords : Stands data start (wordBytes ws))
    (hend : data.length = start + 2 * ws.length) (hnone : entryOf ws = none) :
    entriesFrom data loc off = .ok [] := by
  have hshort : ws.length < 3 → entriesFrom data loc off = .ok [] := fun hlt =>
    entriesFrom_located_end hdata loc hloc (by omega) (by omega)
  rcases ws with _ | ⟨number, _ | ⟨properties, _ | ⟨usi, ws⟩⟩⟩
  · exact hshort (by simp)
  · exact hshort (by simp)
  · exact hshort (by simp)
  have hroom := short_of_entryOf hnone
  rw [List.length_cons, List.length_cons, List.length_cons] at hend
  obtain ⟨hnumber, hwords⟩ := hwords.split (be16_length number)
  obtain ⟨hprops, hwords⟩ := hwords.split (be16_length properties)
  obtain ⟨hid, -⟩ := hwords.split (be16_length usi)
  obtain ⟨hle, hloc⟩ := hloc
  have hdetail : detailAt data loc' number properties usi (start + 6) = .ok none :=
    detailAt_none hdata loc' number properties (by omega) (by omega)
  rw [entriesFrom, add_ok (by omega), ok_bind, if_pos (by dsimp only; omega), hloc, ok_bind]
  dsimp only
  rw [add_ok (by omega), ok_bind, if_neg (by dsimp only; omega), hnumber.u16At hdata, ok_bind,
    add_ok (by omega), ok_bind, hprops.u16At hdata, ok_bind, add_ok (by omega), ok_bind,
    hid.u16At hdata, ok_bind, hdetail]
  rfl

/-- **The parser finds the entries that the words spell.** -/
theorem entriesFrom_words (ws : List UInt16) (hwords : Stands data off (wordBytes ws))
    (hend : data.length = off + 2 * ws.length) :
    entriesFrom data loc off = .ok ((spelled loc ws).map fun p => p.2.readAt p.1) := by
  induction loc, ws using spelled.induct generalizing off with
  | case1 loc ws h =>
    obtain ⟨start, hloc, hrest, hleft⟩ := located_words hdata loc (placed_locate loc ws) hwords hend
    rw [spelled_none rfl h]
    exact entriesFrom_stop hdata loc hloc hrest hleft h
  | case2 loc ws e rest h ih =>
    obtain ⟨start, hloc, hrest, hleft⟩ := located_words hdata loc (placed_locate loc ws) hwords hend
    obtain ⟨next, hentry, hrest, hleft⟩ := entryAt_words hdata _ (begins_of_entryOf h) hrest hleft
    rw [spelled_some rfl h]
    exact entriesFrom_step hdata loc hloc hentry (ih hrest hleft)

end Parser

end Profinet.Diagnosis
