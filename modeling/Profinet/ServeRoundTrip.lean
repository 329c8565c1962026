/-
  SERVE ROUND TRIP: what a command is written as, it is read back from.

  A command is written as a JSON object of its fields, in any order:

      {"cmd": "read","len":"0x80",  "id":7, "slot":1,"subslot":1,"index":0xAFF0}

  Its reader looks for `"key"` wherever it stands first.  It stands nowhere else: between two quotes
  of the line there is a key, or a verb, or digits, or the comma or the colon between a key and a
  value.  So each field is found by its key (`behind_mem`), its value is read from the beginning of
  what follows, and nothing depends on the order.
-/
import Profinet.HexText

namespace Profinet

open Checked Text Str

/-! ## The written form

  A command as its fields: keys with their values, in any order and with white space where JSON
  allows it. -/

/-- The keys of both vocabularies. -/
inductive Key where
  | id | cmd | index | slot | subslot | len | hex | mask | on
  deriving DecidableEq, Repr

/-- The name of a member, as the parser looks it up. -/
def Key.text : Key → List Char
  | .id => "id".toList
  | .cmd => "cmd".toList
  | .index => "index".toList
  | .slot => "slot".toList
  | .subslot => "subslot".toList
  | .len => "len".toList
  | .hex => "hex".toList
  | .mask => "mask".toList
  | .on => "on".toList

/-- The values of the member `cmd`. -/
inductive Verb where
  | read | write | ping | quit | setLevel | pulse | keepalive
  deriving DecidableEq, Repr

/-- A verb as it is written. -/
def Verb.text : Verb → List Char
  | .read => "read".toList
  | .write => "write".toList
  | .ping => "ping".toList
  | .quit => "quit".toList
  | .setLevel => "set_level".toList
  | .pulse => "pulse".toList
  | .keepalive => "keepalive".toList

/-- What a field says. -/
inductive Datum where
  | number (n : Nat)
  | verb (v : Verb)
  | bytes (data : List UInt8)
  | flag (on : Bool)
  deriving DecidableEq, Repr

/-- The fields of a command. -/
def entries : ServeLine → List (Key × Datum)
  | .rpc (.read id index slot subslot len) =>
    [(.id, .number id.toNat), (.cmd, .verb .read), (.index, .number index.toNat),
     (.slot, .number slot.toNat), (.subslot, .number subslot.toNat), (.len, .number len.toNat)]
  | .rpc (.write id index slot subslot data) =>
    [(.id, .number id.toNat), (.cmd, .verb .write), (.index, .number index.toNat),
     (.slot, .number slot.toNat), (.subslot, .number subslot.toNat), (.hex, .bytes data)]
  | .rpc (.ping id) => [(.id, .number id.toNat), (.cmd, .verb .ping)]
  | .rpc (.quit id) => [(.id, .number id.toNat), (.cmd, .verb .quit)]
  | .control (.setLevel mask on) =>
    [(.cmd, .verb .setLevel), (.mask, .number mask.toNat), (.on, .flag on)]
  | .control (.pulse mask) => [(.cmd, .verb .pulse), (.mask, .number mask.toNat)]
  | .control .keepalive => [(.cmd, .verb .keepalive)]
  | .control .quit => [(.cmd, .verb .quit)]

/-- A number in decimal, or behind `0x` in hexadecimal. -/
inductive Literal (n : Nat) : List Char → Prop where
  | decimal {s : List Char} : Numeral 10 n s → Literal n s
  | hex {s : List Char} {x : Char} : x = 'x' ∨ x = 'X' → Numeral 16 n s → Literal n ('0' :: x :: s)

/-- A value, in quotes or not. -/
inductive Value where
  | bare (s : List Char)
  | quoted (s : List Char)

/-- A value as it stands in the line, a string in its quotes. -/
def Value.text : Value → List Char
  | .bare s => s
  | .quoted s => quote s

/-- How a datum may be written. -/
inductive Spells : Datum → Value → Prop where
  | number {n : Nat} {s : List Char} : Literal n s → Spells (.number n) (.bare s)
  | quoted {n : Nat} {s : List Char} : Literal n s → Spells (.number n) (.quoted s)
  | verb (v : Verb) : Spells (.verb v) (.quoted v.text)
  | bytes {data : List UInt8} {s : List Char} : HexSpelling data (cleaned s) →
      Spells (.bytes data) (.quoted s)
  | yes : Spells (.flag true) (.bare "true".toList)
  | no : Spells (.flag false) (.bare "false".toList)

/-- What may stand between the tokens of a line. -/
abbrev Spaces := { s : List Char // ∀ c ∈ s, isWhitespace c = true }

/-- Nothing between them. -/
def noSpace : Spaces := ⟨[], fun c hc => by cases hc⟩

/-- One blank between them. -/
def oneSpace : Spaces := ⟨[' '], List.forall_mem_singleton.mpr rfl⟩

/-- A field as it is written: its value, and the white space behind its colon and its comma. -/
structure JsonField where
  key : Key
  datum : Datum
  value : Value
  spells : Spells datum value
  behindColon : Spaces
  behindComma : Spaces

namespace JsonField

/-- What a member says, whatever it is written like. -/
def entry (f : JsonField) : Key × Datum := (f.key, f.datum)

/-- A member as text: the quoted name, the colon and the value, with the spaces around it. -/
def text (f : JsonField) : List Char :=
  quote f.key.text ++ ':' :: (f.behindColon.val ++ f.value.text)

end JsonField

/-- The fields, and the brace behind the last of them. -/
def fieldsText : List JsonField → List Char
  | [] => ['}']
  | [f] => f.text ++ ['}']
  | f :: fs => f.text ++ ',' :: (f.behindComma.val ++ fieldsText fs)

/-- The line is the command, written as a one-line JSON object. -/
def Writes (line : List Char) (cmd : ServeLine) : Prop :=
  ∃ fs : List JsonField, (fs.map JsonField.entry).Perm (entries cmd) ∧ line = '{' :: fieldsText fs

/-! ## What stands between quotes

  A quote begins a key or a value.  Between two quotes of the line there are only texts without
  quotes, so a key can be looked for as a whole. -/

/-- No key has a quote in it, nor a character that stands between two of them. -/
theorem key_plain (k : Key) : '"' ∉ k.text ∧ ':' ∉ k.text ∧ ',' ∉ k.text ∧ '}' ∉ k.text := by
  cases k <;> decide

/-- No verb has a quote in it, and none is the name of a member. -/
theorem verb_plain (v : Verb) : '"' ∉ v.text ∧ ∀ k : Key, v.text ≠ k.text := by
  refine ⟨?_, fun k => ?_⟩
  · cases v <;> decide
  · cases v <;> cases k <;> decide

/-- Members have names of their own. -/
theorem key_injective {k k' : Key} (h : k.text = k'.text) : k = k' := by
  revert h
  cases k <;> cases k' <;> decide

/-- What numbers and hex digits are written with. -/
def isNumeric (c : Char) : Bool := isHexDigit c || c = 'x' || c = 'X' || isWhitespace c

/-- Every key has a character that is in no number. -/
theorem key_not_numeric (k : Key) : ∃ c ∈ k.text, isNumeric c = false := by
  have hany : (k.text.any fun c => !isNumeric c) = true := by
    cases k <;> rfl
  obtain ⟨c, hmem, hc⟩ := List.any_eq_true.mp hany
  exact ⟨c, hmem, (Bool.not_eq_true' _).mp hc⟩

/-- Digits have no quote in them, and are no name. -/
theorem numeric_plain {s : List Char} (h : ∀ c ∈ s, isNumeric c = true) :
    '"' ∉ s ∧ ∀ k : Key, s ≠ k.text := by
  refine ⟨fun hmem => ?_, ?_⟩
  · have hquote := h _ hmem
    revert hquote
    decide
  · rintro k rfl
    obtain ⟨c, hmem, hc⟩ := key_not_numeric k
    rw [h c hmem] at hc
    cases hc

/-- A digit of either radix is an ASCII letter or digit. -/
theorem digit_alphanumeric {c : Char} (h : isHexDigit c = true) : isAsciiAlphanumeric c = true := by
  obtain ⟨x, hx⟩ := Option.isSome_iff_exists.mp h
  obtain ⟨-, hchar⟩ := digitValue_eq_some.mp hx
  unfold isAsciiAlphanumeric
  simp only [Bool.or_eq_true, Bool.and_eq_true, decide_eq_true_eq]
  omega

/-- Letters and digits are no spaces. -/
theorem alphanumeric_not_whitespace {c : Char} (h : isAsciiAlphanumeric c = true) :
    isWhitespace c = false := by
  unfold isAsciiAlphanumeric at h
  simp only [Bool.or_eq_true, Bool.and_eq_true, decide_eq_true_eq] at h
  unfold isWhitespace
  simp only [Bool.or_eq_false_iff, Bool.and_eq_false_iff, decide_eq_false_iff_not]
  omega

/-- The digits of a numeral. -/
theorem numeral_digits {radix n : Nat} {s : List Char} (hradix : radix ≤ 16)
    (h : Numeral radix n s) : ∀ c ∈ s, isHexDigit c = true := by
  intro c hc
  obtain ⟨x, hx⟩ := h.digit hc
  exact Option.isSome_iff_exists.mpr ⟨x, digitValue_mono hx hradix⟩

/-- A literal is not empty, and all its characters are numeric. -/
theorem literal_chars {n : Nat} {s : List Char} (h : Literal n s) :
    s ≠ [] ∧ ∀ c ∈ s, isAsciiAlphanumeric c = true ∧ isNumeric c = true := by
  have hdigits : ∀ {radix} {s : List Char}, radix ≤ 16 → Numeral radix n s →
      ∀ c ∈ s, isAsciiAlphanumeric c = true ∧ isNumeric c = true := by
    intro radix s hradix hs c hc
    have hdigit := numeral_digits hradix hs c hc
    exact ⟨digit_alphanumeric hdigit, by rw [isNumeric, hdigit]; rfl⟩
  cases h with
  | decimal hs => exact ⟨hs.nonempty, hdigits (by decide) hs⟩
  | hex hx hs =>
    refine ⟨List.cons_ne_nil _ _, ?_⟩
    rw [List.forall_mem_cons, List.forall_mem_cons]
    refine ⟨by decide, ?_, hdigits (by decide) hs⟩
    rcases hx with rfl | rfl
    · decide
    · decide

/-- The text of hex digits, with white space among them. -/
theorem spelling_chars {data : List UInt8} {s : List Char} (h : HexSpelling data s) :
    s.length % 2 = 0 ∧ ∀ c ∈ s, isHexDigit c = true := by
  induction h with
  | nil => exact ⟨rfl, fun c hc => by cases hc⟩
  | cons b high low hhigh hlow _ ih =>
    refine ⟨by simp only [List.length_cons]; omega, ?_⟩
    rw [List.forall_mem_cons, List.forall_mem_cons]
    exact ⟨by rw [isHexDigit, hhigh]; rfl, by rw [isHexDigit, hlow]; rfl, ih.2⟩

/-- The characters of hexadecimal data are numeric, whatever stands between them. -/
theorem hex_chars {data : List UInt8} {s : List Char} (h : HexSpelling data (cleaned s)) :
    ∀ c ∈ s, isNumeric c = true := by
  intro c hc
  unfold isNumeric
  by_cases hspace : isWhitespace c = true
  · rw [hspace, Bool.or_true]
  · have hmem : c ∈ cleaned s := List.mem_filter.mpr ⟨hc, by simpa using hspace⟩
    rw [(spelling_chars h).2 c hmem]
    rfl

/-- What a value may be, for the keys to be found. -/
def Value.Plain : Value → Prop
  | .bare s => '"' ∉ s
  | .quoted s => '"' ∉ s ∧ ∀ k : Key, s ≠ k.text

/-- A value spelt as it may be does not look like a member. -/
theorem Spells.plain {d : Datum} {v : Value} (h : Spells d v) : v.Plain := by
  cases h with
  | number hs => exact (numeric_plain fun c hc => ((literal_chars hs).2 c hc).2).1
  | quoted hs => exact numeric_plain fun c hc => ((literal_chars hs).2 c hc).2
  | verb v => exact verb_plain v
  | bytes hs => exact numeric_plain (hex_chars hs)
  | yes => exact (by decide : '"' ∉ "true".toList)
  | no => exact (by decide : '"' ∉ "false".toList)

/-- A value does not begin with white space. -/
theorem Spells.trimmed {d : Datum} {v : Value} (h : Spells d v) (rest : List Char) :
    trimStart (v.text ++ rest) = v.text ++ rest := by
  have hhead : ∃ c s, v.text = c :: s ∧ isWhitespace c = false := by
    cases h with
    | number hs =>
      obtain ⟨hne, hchars⟩ := literal_chars hs
      obtain ⟨c, s, rfl⟩ := List.exists_cons_of_ne_nil hne
      exact ⟨c, s, rfl, alphanumeric_not_whitespace (hchars c List.mem_cons_self).1⟩
    | quoted _ => exact ⟨'"', _, rfl, by decide⟩
    | verb _ => exact ⟨'"', _, rfl, by decide⟩
    | bytes _ => exact ⟨'"', _, rfl, by decide⟩
    | yes => exact ⟨'t', _, rfl, by decide⟩
    | no => exact ⟨'f', _, rfl, by decide⟩
  obtain ⟨c, s, hc, hspace⟩ := hhead
  rw [hc]
  exact List.dropWhile_cons_of_neg (by rw [hspace]; exact Bool.false_ne_true)

/-! ## The field behind a key

  The first place a quoted key stands at is the one it was written at, whatever stands before
  it. -/

/-- The comma or the brace behind a value. -/
def IsEnd (c : Char) : Prop := c = ',' ∨ c = '}'

/-- What ends a value is neither a quote nor a letter of a name. -/
theorem key_end (k : Key) {c : Char} (hc : IsEnd c) : c ≠ '"' ∧ c ∉ k.text := by
  obtain ⟨-, -, hcomma, hbrace⟩ := key_plain k
  rcases hc with rfl | rfl
  · exact ⟨by decide, hcomma⟩
  · exact ⟨by decide, hbrace⟩

/-- A quoted name does not begin inside spaces. -/
theorem skips_spaces (k : Key) (sp : Spaces) : Skips (quote k.text) sp.val := by
  apply skips_of_notMem
  intro hmem
  have hquote := sp.2 _ hmem
  revert hquote
  decide

/-- A value that is no key, with what ends it. -/
theorem skips_value (k : Key) {v : Value} (h : v.Plain) {c : Char} (hc : IsEnd c) :
    Skips (quote k.text) (v.text ++ [c]) := by
  obtain ⟨hquote, hkey⟩ := key_end k hc
  cases v with
  | bare s =>
    apply skips_of_notMem
    rw [List.mem_append, List.mem_singleton, not_or]
    exact ⟨h, hquote.symm⟩
  | quoted s =>
    have hmarked := skips_marked (key_plain k).1 h.1 (h.2 k) hquote hkey
    have heq : Value.text (.quoted s) ++ [c] = '"' :: (s ++ ['"', c]) := by
      simp [Value.text, quote]
    rw [heq]
    exact hmarked

/-- A field of another key, with what ends it. -/
theorem skips_field {k : Key} {f : JsonField} (h : f.key ≠ k) {c : Char} (hc : IsEnd c) :
    Skips (quote k.text) (f.text ++ [c]) := by
  have hkey : Skips (quote k.text) ('"' :: (f.key.text ++ ['"', ':'])) :=
    skips_marked (key_plain k).1 (key_plain f.key).1 (fun heq => h (key_injective heq)) (by decide)
      (key_plain k).2.1
  have hsplit : f.text ++ [c] = '"' :: (f.key.text ++ ['"', ':']) ++
      (f.behindColon.val ++ (f.value.text ++ [c])) := by
    simp [JsonField.text, quote]
  rw [hsplit]
  exact hkey.append ((skips_spaces k f.behindColon).append (skips_value k f.spells.plain hc))

/-- The search for a key, by what stands behind it. -/
def behind (k : Key) (s : List Char) : Option (List Char) :=
  (splitOnce (quote k.text) s).map Prod.snd

/-- In an empty line nothing is found. -/
theorem behind_nil (k : Key) : behind k [] = none := by
  cases k <;> rfl

/-- The first field, and the others. -/
theorem fieldsText_cons (f : JsonField) (fs : List JsonField) :
    ∃ c rest, fieldsText (f :: fs) = f.text ++ c :: rest ∧ IsEnd c ∧
      ∀ k, behind k rest = behind k (fieldsText fs) := by
  cases fs with
  | nil =>
    refine ⟨'}', [], rfl, .inr rfl, fun k => ?_⟩
    exact (skips_of_notMem (s := ['}']) (by decide) []).symm
  | cons g fs =>
    exact ⟨',', _, rfl, .inl rfl, fun k => skips_spaces k f.behindComma _⟩

/-- The search goes past a member of another name. -/
theorem behind_cons {k : Key} {f : JsonField} (h : f.key ≠ k) (fs : List JsonField) :
    behind k (fieldsText (f :: fs)) = behind k (fieldsText fs) := by
  obtain ⟨c, rest, heq, hc, hrest⟩ := fieldsText_cons f fs
  rw [heq, List.append_cons, ← hrest k]
  exact skips_field h hc rest

/-- It ends behind the name of a member, where the colon stands. -/
theorem behind_here (f : JsonField) (fs : List JsonField) :
    ∃ c rest, IsEnd c ∧ behind f.key (fieldsText (f :: fs)) =
      some (':' :: (f.behindColon.val ++ (f.value.text ++ c :: rest))) := by
  obtain ⟨c, rest, heq, hc, -⟩ := fieldsText_cons f fs
  refine ⟨c, rest, hc, ?_⟩
  have hsplit : f.text ++ c :: rest =
      quote f.key.text ++ ':' :: (f.behindColon.val ++ (f.value.text ++ c :: rest)) := by
    simp [JsonField.text]
  rw [heq, hsplit, behind, splitOnce_here]
  rfl

/-- A field is found by its key. -/
theorem behind_mem {fs : List JsonField} (hnodup : (fs.map JsonField.key).Nodup) {f : JsonField}
    (hf : f ∈ fs) :
    ∃ c rest, IsEnd c ∧ behind f.key (fieldsText fs) =
      some (':' :: (f.behindColon.val ++ (f.value.text ++ c :: rest))) := by
  induction fs with
  | nil => cases hf
  | cons g fs ih =>
    rw [List.map_cons, List.nodup_cons] at hnodup
    rcases List.mem_cons.mp hf with rfl | hmem
    · exact behind_here f fs
    · have hne : g.key ≠ f.key := by
        intro heq
        exact hnodup.1 (heq ▸ List.mem_map_of_mem hmem)
      rw [behind_cons hne]
      exact ih hnodup.2 hmem

/-- A name that no member has is not found. -/
theorem behind_absent {fs : List JsonField} {k : Key} (h : k ∉ fs.map JsonField.key) :
    behind k (fieldsText fs) = none := by
  induction fs with
  | nil => exact (skips_of_notMem (s := ['}']) (by decide) []).trans (behind_nil k)
  | cons g fs ih =>
    rw [List.map_cons, List.mem_cons, not_or] at h
    rw [behind_cons (Ne.symm h.1)]
    exact ih h.2

/-! ## Reading a value

  Each kind of value, read from behind its colon: texts up to the quote, numbers up to the first
  character that is none of theirs, truth values by their first letters. -/

/-- The field `k` of the line says `d`: its value, up to the character that ends it. -/
def Says (line : List Char) (k : Key) (d : Datum) : Prop :=
  ∃ v c rest, Spells d v ∧ IsEnd c ∧ jsonFieldRaw line k.text = some (v.text ++ c :: rest)

/-- The raw value of a member is what is behind its name, without the colon and the spaces. -/
theorem jsonFieldRaw_behind (line : List Char) (k : Key) :
    jsonFieldRaw line k.text =
      (behind k line).bind fun rest => (stripChar ':' (trimStart rest)).map trimStart := by
  unfold jsonFieldRaw behind
  cases splitOnce (quote k.text) line with
  | none => rfl
  | some found => rfl

/-- The opening brace is in nobody's way. -/
theorem behind_brace (k : Key) (s : List Char) : behind k ('{' :: s) = behind k s :=
  skips_of_notMem (s := ['{']) (by decide) s

/-- The names of the members are those of what they say. -/
theorem entry_keys (fs : List JsonField) :
    (fs.map JsonField.entry).map Prod.fst = fs.map JsonField.key := by
  rw [List.map_map]
  rfl

/-- No command has two members of one name. -/
theorem entries_nodup (cmd : ServeLine) : ((entries cmd).map Prod.fst).Nodup := by
  cases cmd with
  | rpc cmd => cases cmd <;> simp [entries]
  | control cmd => cases cmd <;> simp [entries]

section Written

variable {line : List Char} {cmd : ServeLine}

/-- Every field of the command is found, and says what the command has there. -/
theorem Writes.stated (h : Writes line cmd) {k : Key} {d : Datum} (he : (k, d) ∈ entries cmd) :
    Says line k d := by
  obtain ⟨fs, hperm, rfl⟩ := h
  have hnodup : (fs.map JsonField.key).Nodup := by
    rw [← entry_keys]
    exact (hperm.map Prod.fst).nodup_iff.mpr (entries_nodup cmd)
  obtain ⟨f, hf, hentry⟩ := List.mem_map.mp (hperm.mem_iff.mpr he)
  cases hentry
  obtain ⟨c, rest, hc, hbehind⟩ := behind_mem hnodup hf
  refine ⟨f.value, c, rest, f.spells, hc, ?_⟩
  -- the colon is no white space, and what stands between it and the value is nothing else
  have hcolon : trimStart (':' :: (f.behindColon.val ++ (f.value.text ++ c :: rest))) =
      ':' :: (f.behindColon.val ++ (f.value.text ++ c :: rest)) :=
    List.dropWhile_cons_of_neg (by decide)
  have hspaces : trimStart (f.behindColon.val ++ (f.value.text ++ c :: rest)) =
      f.value.text ++ c :: rest := by
    refine Eq.trans ?_ (f.spells.trimmed (c :: rest))
    exact List.dropWhile_append_of_pos f.behindColon.2
  rw [jsonFieldRaw_behind, behind_brace, hbehind, Option.bind_some, hcolon]
  show some (trimStart _) = _
  rw [hspaces]

/-- A field that the command does not have is not found. -/
theorem Writes.absent (h : Writes line cmd) {k : Key} (hk : k ∉ (entries cmd).map Prod.fst) :
    jsonFieldRaw line k.text = none := by
  obtain ⟨fs, hperm, rfl⟩ := h
  have hkeys : k ∉ fs.map JsonField.key := by
    rw [← entry_keys]
    exact fun hmem => hk ((hperm.map Prod.fst).mem_iff.mp hmem)
  rw [jsonFieldRaw_behind, behind_brace, behind_absent hkeys]
  rfl

end Written

/-- Letters and digits end no value. -/
theorem not_alphanumeric_end {c : Char} (hc : IsEnd c) : isAsciiAlphanumeric c = false := by
  rcases hc with rfl | rfl
  · decide
  · decide

/-- Letters and digits, up to something else. -/
theorem takeWhile_literal {s : List Char} (h : ∀ c ∈ s, isAsciiAlphanumeric c = true) {c : Char}
    (hc : isAsciiAlphanumeric c = false) (rest : List Char) :
    (s ++ c :: rest).takeWhile isAsciiAlphanumeric = s := by
  have hno : ¬ isAsciiAlphanumeric c = true := by rw [hc]; exact Bool.false_ne_true
  rw [List.takeWhile_append_of_pos h, List.takeWhile_cons_of_neg hno, List.append_nil]

/-- A literal below the bound is read as its number. -/
theorem parseMaybeHex_literal {bound n : Nat} {s : List Char} (h : Literal n s) (hn : n < bound) :
    parseMaybeHex bound s = some n := by
  cases h with
  | decimal hs =>
    have hparse := parseUint_numeral (by decide) hs hn
    have hdigits : ∀ c ∈ s, (digitValue 10 c).isSome := by
      intro c hc
      exact Option.isSome_iff_exists.mpr (hs.digit hc)
    -- an `x` is no decimal digit
    unfold parseMaybeHex
    split
    · exact absurd (hdigits 'x' (by simp)) (by decide)
    · exact absurd (hdigits 'X' (by simp)) (by decide)
    · rw [hparse]
      rfl
  | hex hx hs =>
    have hparse := parseUint_numeral (by decide) hs hn
    rcases hx with rfl | rfl
    · show (parseUint bound 16 _).toOption = _
      rw [hparse]
      rfl
    · show (parseUint bound 16 _).toOption = _
      rw [hparse]
      rfl

section Read

variable {line : List Char} {k : Key}

/-- A number that a line says is read, whatever its width. -/
theorem Says.uint {n bound : Nat} (h : Says line k (.number n)) (hn : n < bound) :
    jsonFieldUint bound line k.text = some n := by
  obtain ⟨v, c, rest, hspells, hc, hraw⟩ := h
  have htrim := hspells.trimmed (c :: rest)
  unfold jsonFieldUint
  rw [hraw]
  simp only
  rw [htrim]
  cases hspells with
  | @number _ s hs =>
    obtain ⟨hne, hchars⟩ := literal_chars hs
    obtain ⟨d, s', rfl⟩ := List.exists_cons_of_ne_nil hne
    have hquote : stripChar '"' (Value.text (.bare (d :: s')) ++ c :: rest) = none := by
      refine if_neg ?_
      rintro rfl
      have halpha := (hchars _ List.mem_cons_self).1
      revert halpha
      decide
    rw [hquote]
    show parseMaybeHex bound (List.takeWhile _ (d :: s' ++ c :: rest)) = _
    rw [takeWhile_literal (fun c hc => (hchars c hc).1) (not_alphanumeric_end hc)]
    exact parseMaybeHex_literal hs hn
  | @quoted _ s hs =>
    have hchars := (literal_chars hs).2
    have hquote : stripChar '"' (Value.text (.quoted s) ++ c :: rest) =
        some (s ++ '"' :: c :: rest) := by
      simp [Value.text, quote, stripChar]
    rw [hquote]
    show parseMaybeHex bound (List.takeWhile _ (s ++ '"' :: c :: rest)) = _
    rw [takeWhile_literal (fun c hc => (hchars c hc).1) (by decide)]
    exact parseMaybeHex_literal hs hn

/-- A string value ends at its quote. -/
theorem jsonFieldStr_quoted {s rest : List Char} (hs : '"' ∉ s)
    (hraw : jsonFieldRaw line k.text = some (Value.text (.quoted s) ++ rest)) :
    jsonFieldStr line k.text = some s := by
  have hquote : stripChar '"' (Value.text (.quoted s) ++ rest) = some (s ++ '"' :: rest) := by
    simp [Value.text, quote, stripChar]
  unfold jsonFieldStr
  rw [hraw, Option.bind_some, hquote, Option.bind_some, untilQuote, splitOnce_mark hs]
  rfl

/-- So is a verb. -/
theorem Says.verb {v : Verb} (h : Says line k (.verb v)) : jsonFieldStr line k.text = some v.text := by
  obtain ⟨value, c, rest, hspells, -, hraw⟩ := h
  cases hspells
  exact jsonFieldStr_quoted (verb_plain v).1 hraw

/-- And a truth value. -/
theorem Says.flag {on : Bool} (h : Says line k (.flag on)) :
    jsonFieldBool line k.text = some on := by
  obtain ⟨value, c, rest, hspells, -, hraw⟩ := h
  unfold jsonFieldBool
  rw [hraw]
  cases hspells with
  | yes => rfl
  | no => rfl

/-- A number that fits is read with 64 bits. -/
theorem Says.u64 {n : UInt64} (h : Says line k (.number n.toNat)) :
    jsonFieldU64 line k.text = some n := by
  rw [jsonFieldU64, h.uint n.toNat_lt, Option.map_some, UInt64.ofNat_toNat]

/-- A number that is in the range of a narrower field. -/
theorem Says.narrow {n bound : Nat} (h : Says line k (.number n)) (hn : n < bound)
    (hbound : bound ≤ 2 ^ 64) :
    (jsonFieldU64 line k.text).filter (·.toNat < bound) = some (UInt64.ofNat n) := by
  have hsmall : (UInt64.ofNat n).toNat = n := by
    rw [UInt64.toNat_ofNat']
    exact Nat.mod_eq_of_lt (by omega)
  rw [jsonFieldU64, h.uint (by omega), Option.map_some, Option.filter_some, hsmall,
    if_pos (decide_eq_true hn)]

/-- With 8. -/
theorem Says.u8 {n : UInt8} (h : Says line k (.number n.toNat)) :
    jsonFieldU8 line k.text = some n := by
  rw [jsonFieldU8, h.uint n.toNat_lt, Option.map_some, UInt8.ofNat_toNat]

/-- And with 16, where a missing one would be an error. -/
theorem Says.u16 {cmd : List Char} {n : UInt16} (h : Says line k (.number n.toNat)) :
    fieldU16 line cmd k.text = .ok n := by
  unfold fieldU16
  rw [h.narrow n.toNat_lt (by decide)]
  simp

/-- Bytes are found as a string that spells them. -/
theorem Says.bytes {data : List UInt8} (h : Says line k (.bytes data)) :
    ∃ s, jsonFieldStr line k.text = some s ∧ HexSpelling data (cleaned s) := by
  obtain ⟨value, c, rest, hspells, -, hraw⟩ := h
  cases hspells with
  | bytes hs => exact ⟨_, jsonFieldStr_quoted (numeric_plain (hex_chars hs)).1 hraw, hs⟩

end Read

/-- The length of a read is a number like the others. -/
theorem fieldLen_says {line : List Char} {n : UInt32} (h : Says line .len (.number n.toNat)) :
    fieldLen line = .ok n := by
  have hfield : (jsonFieldU64 line "len".toList).filter (·.toNat < 2 ^ 32) =
      some (UInt64.ofNat n.toNat) := h.narrow n.toNat_lt (by decide)
  unfold fieldLen
  rw [hfield]
  simp

/-- A string spells one list of bytes at most. -/
theorem spelling_unique {a b : List UInt8} {s : List Char} (ha : HexSpelling a s)
    (hb : HexSpelling b s) : a = b := by
  induction ha generalizing b with
  | nil =>
    cases hb
    rfl
  | @cons x high low bs s hhigh hlow _ ih =>
    cases hb with
    | @cons y _ _ bs' _ hhigh' hlow' hrest =>
      have hdiv : x.toNat / 16 = y.toNat / 16 := Option.some.inj (hhigh.symm.trans hhigh')
      have hmod : x.toNat % 16 = y.toNat % 16 := Option.some.inj (hlow.symm.trans hlow')
      have hxy : x = y := UInt8.toNat_inj.mp (by omega)
      rw [hxy, ih hrest]

/-- Spelled bytes are decoded. -/
theorem parseHex_spelled {data : List UInt8} {s : List Char} (h : HexSpelling data (cleaned s)) :
    parseHex s = .ok (.ok data) := by
  obtain ⟨hlen, hdigits⟩ := spelling_chars h
  have hplus : '+' ∉ cleaned s := by
    intro hmem
    have hdigit := hdigits _ hmem
    rw [plus_no_digit] at hdigit
    cases hdigit
  have hexact : HexExact s := (hexExact_iff s).mpr
    ⟨.inr (.inl (hexRest_of_digits hlen hdigits)), fun _ _ => hplus⟩
  obtain ⟨bytes, hbytes⟩ := hexact.accepts.mpr ⟨hlen, hdigits⟩
  rw [hbytes, spelling_unique (hexact.spelled bytes hbytes) h]

/-! ## Reading a command

  The readers of the verbs, one by one, from the fields they need. -/

/-- The fields that say which record is meant. -/
theorem fieldRecord_says {line cmd : List Char} {index slot subslot : UInt16}
    (hindex : Says line .index (.number index.toNat)) (hslot : Says line .slot (.number slot.toNat))
    (hsubslot : Says line .subslot (.number subslot.toNat)) :
    fieldRecord line cmd = .ok (index, slot, subslot) := by
  have hindex : fieldU16 line cmd "index".toList = .ok index := hindex.u16
  have hslot : fieldU16 line cmd "slot".toList = .ok slot := hslot.u16
  have hsubslot : fieldU16 line cmd "subslot".toList = .ok subslot := hsubslot.u16
  unfold fieldRecord
  rw [hindex, hslot, hsubslot]
  rfl

/-- A request is routed by its verb; with an id, `quit` is one. -/
theorem parseServeLine_rpc {line : List Char} {id : UInt64} {v : Verb}
    (hid : Says line .id (.number id.toNat)) (hcmd : Says line .cmd (.verb v))
    (hv : v ≠ .setLevel ∧ v ≠ .pulse ∧ v ≠ .keepalive) {cmd : ServeCmd}
    (h : parseServeCmd line = .ok (.ok cmd)) : parseServeLine line = .ok (.ok (.rpc cmd)) := by
  have hid : jsonFieldU64 line "id".toList = some id := hid.u64
  have hcmd : jsonFieldStr line "cmd".toList = some v.text := hcmd.verb
  unfold parseServeLine
  simp only
  rw [hid, hcmd, if_neg (by simp), if_neg (by revert hv; cases v <;> decide), h]
  rfl

/-- A line with an id and a verb is read by the verb. -/
theorem parseServeCmd_verb {line : List Char} {id : UInt64} {v : Verb}
    (hid : Says line .id (.number id.toNat)) (hcmd : Says line .cmd (.verb v)) :
    parseServeCmd line =
      match v with
      | .read => .ok (parseRead line id)
      | .write => parseWrite line id
      | .ping => .ok (.ok (.ping id))
      | .quit => .ok (.ok (.quit id))
      | v => .ok (.error (.unknownCmd v.text)) := by
  have hid : jsonFieldU64 line "id".toList = some id := hid.u64
  have hcmd : jsonFieldStr line "cmd".toList = some v.text := hcmd.verb
  unfold parseServeCmd
  rw [hid, hcmd]
  cases v with
  | read => rfl
  | write => rfl
  | ping => rfl
  | quit => rfl
  | setLevel => rfl
  | pulse => rfl
  | keepalive => rfl

/-- The commands of the control session are told from the requests by their verb. -/
theorem parseServeLine_control {line : List Char} {v : Verb} (hcmd : Says line .cmd (.verb v))
    (hv : v = .setLevel ∨ v = .pulse ∨ v = .keepalive) :
    parseServeLine line = .ok ((parseControlCmd line).map .control) := by
  have hcmd : jsonFieldStr line "cmd".toList = some v.text := hcmd.verb
  unfold parseServeLine
  simp only
  rw [hcmd]
  rcases hv with rfl | rfl | rfl
  · rfl
  · rfl
  · rfl

/-- A mask is read with 8 bits. -/
theorem fieldMask_says {line cmd : List Char} {mask : UInt8}
    (h : Says line .mask (.number mask.toNat)) : fieldMask line cmd = .ok mask := by
  have hmask : jsonFieldU8 line "mask".toList = some mask := h.u8
  unfold fieldMask
  rw [hmask]

/-- A line that writes a command is read as that command, case by case. -/
theorem parseServeLine_writes {line : List Char} {cmd : ServeLine} (h : Writes line cmd) :
    parseServeLine line = .ok (.ok cmd) := by
  cases cmd with
  | rpc cmd =>
    cases cmd with
    | read id index slot subslot len =>
      have hid : Says line .id (.number id.toNat) := h.stated (by simp [entries])
      have hcmd : Says line .cmd (.verb .read) := h.stated (by simp [entries])
      have hrecord : fieldRecord line "read".toList = .ok (index, slot, subslot) :=
        fieldRecord_says (h.stated (by simp [entries])) (h.stated (by simp [entries]))
          (h.stated (by simp [entries]))
      have hlen : fieldLen line = .ok len := fieldLen_says (h.stated (by simp [entries]))
      apply parseServeLine_rpc hid hcmd (by decide)
      rw [parseServeCmd_verb hid hcmd]
      simp only [parseRead, hrecord, hlen]
      rfl
    | write id index slot subslot data =>
      have hid : Says line .id (.number id.toNat) := h.stated (by simp [entries])
      have hcmd : Says line .cmd (.verb .write) := h.stated (by simp [entries])
      have hrecord : fieldRecord line "write".toList = .ok (index, slot, subslot) :=
        fieldRecord_says (h.stated (by simp [entries])) (h.stated (by simp [entries]))
          (h.stated (by simp [entries]))
      have hbytes : Says line .hex (.bytes data) := h.stated (by simp [entries])
      obtain ⟨s, hs, hspelled⟩ := hbytes.bytes
      have hs : jsonFieldStr line "hex".toList = some s := hs
      apply parseServeLine_rpc hid hcmd (by decide)
      rw [parseServeCmd_verb hid hcmd]
      simp only [parseWrite, hs, hrecord, parseHex_spelled hspelled]
    | ping id =>
      have hid : Says line .id (.number id.toNat) := h.stated (by simp [entries])
      have hcmd : Says line .cmd (.verb .ping) := h.stated (by simp [entries])
      exact parseServeLine_rpc hid hcmd (by decide) (parseServeCmd_verb hid hcmd)
    | quit id =>
      have hid : Says line .id (.number id.toNat) := h.stated (by simp [entries])
      have hcmd : Says line .cmd (.verb .quit) := h.stated (by simp [entries])
      exact parseServeLine_rpc hid hcmd (by decide) (parseServeCmd_verb hid hcmd)
  | control cmd =>
    cases cmd with
    | setLevel mask on =>
      have hcmd : Says line .cmd (.verb .setLevel) := h.stated (by simp [entries])
      have hverb : jsonFieldStr line "cmd".toList = some "set_level".toList := hcmd.verb
      have hmask : fieldMask line "set_level".toList = .ok mask :=
        fieldMask_says (h.stated (by simp [entries]))
      have hflag : Says line .on (.flag on) := h.stated (by simp [entries])
      have hon : jsonFieldBool line "on".toList = some on := hflag.flag
      rw [parseServeLine_control hcmd (.inl rfl), parseControlCmd, hverb]
      simp only [parseSetLevel, hmask, hon]
      rfl
    | pulse mask =>
      have hcmd : Says line .cmd (.verb .pulse) := h.stated (by simp [entries])
      have hverb : jsonFieldStr line "cmd".toList = some "pulse".toList := hcmd.verb
      have hmask : fieldMask line "pulse".toList = .ok mask :=
        fieldMask_says (h.stated (by simp [entries]))
      rw [parseServeLine_control hcmd (.inr (.inl rfl)), parseControlCmd, hverb]
      simp only [hmask]
      rfl
    | keepalive =>
      have hcmd : Says line .cmd (.verb .keepalive) := h.stated (by simp [entries])
      have hverb : jsonFieldStr line "cmd".toList = some "keepalive".toList := hcmd.verb
      rw [parseServeLine_control hcmd (.inr (.inr rfl)), parseControlCmd, hverb]
      rfl
    | quit =>
      have hcmd : Says line .cmd (.verb .quit) := h.stated (by simp [entries])
      have hverb : jsonFieldStr line "cmd".toList = some "quit".toList := hcmd.verb
      have habsent : jsonFieldRaw line "id".toList = none := h.absent (k := .id) (by simp [entries])
      have hid : jsonFieldU64 line "id".toList = none := by
        rw [jsonFieldU64, jsonFieldUint, habsent]
        rfl
      unfold parseServeLine
      simp only
      rw [hverb, hid, if_pos ⟨rfl, rfl⟩]

/-! ## Every command can be written

  Bytes, numbers and fields all have a spelling, so the round trip is about every command. -/

/-- Any bytes can be spelt. -/
theorem exists_spelling (data : List UInt8) : ∃ s, HexSpelling data (cleaned s) := by
  have hdigits : ∃ s, HexSpelling data s := by
    induction data with
    | nil => exact ⟨[], .nil⟩
    | cons b bs ih =>
      obtain ⟨s, hs⟩ := ih
      have hb := b.toNat_lt
      have hhigh := digitValue_digitChar (show b.toNat / 16 < 16 by omega) (Nat.le_refl 16)
      have hlow := digitValue_digitChar (show b.toNat % 16 < 16 by omega) (Nat.le_refl 16)
      exact ⟨_ :: _ :: s, .cons b _ _ hhigh hlow hs⟩
  obtain ⟨s, hs⟩ := hdigits
  refine ⟨s, ?_⟩
  -- digits are no white space
  have hclean : cleaned s = s := by
    refine List.filter_eq_self.mpr ?_
    intro c hc
    rw [alphanumeric_not_whitespace (digit_alphanumeric ((spelling_chars hs).2 c hc))]
    rfl
  rw [hclean]
  exact hs

/-- Any value. -/
theorem exists_value (d : Datum) : ∃ v, Spells d v := by
  cases d with
  | number n =>
    exact ⟨_, .number (.decimal (numeral_toDigits (by decide) (by decide) n))⟩
  | verb v => exact ⟨_, .verb v⟩
  | bytes data =>
    obtain ⟨s, hs⟩ := exists_spelling data
    exact ⟨_, .bytes hs⟩
  | flag on =>
    cases on with
    | true => exact ⟨_, .yes⟩
    | false => exact ⟨_, .no⟩

/-- And any members: so every command has a line. -/
theorem exists_fields (es : List (Key × Datum)) :
    ∃ fs : List JsonField, fs.map JsonField.entry = es := by
  induction es with
  | nil => exact ⟨[], rfl⟩
  | cons e es ih =>
    obtain ⟨fs, hfs⟩ := ih
    obtain ⟨v, hv⟩ := exists_value e.2
    exact ⟨⟨e.1, e.2, v, hv, noSpace, noSpace⟩ :: fs, congrArg (e :: ·) hfs⟩

/-- **The serve vocabulary round trip.**  Every command can be written as a one-line JSON object, and
    every such line is read back as that command, whatever the order of its fields, the white space
    behind its colons and commas, and the spelling of its numbers and bytes. -/
theorem serve_round_trip (cmd : ServeLine) :
    (∃ line, Writes line cmd) ∧ ∀ line, Writes line cmd → parseServeLine line = .ok (.ok cmd) := by
  refine ⟨?_, fun line h => parseServeLine_writes h⟩
  obtain ⟨fs, hfs⟩ := exists_fields (entries cmd)
  exact ⟨_, fs, hfs ▸ .refl _, rfl⟩

/-- A `write` with its verb last, a quoted number, hexadecimal ones, and a blank among its digits. -/
theorem serve_round_trip_write :
    parseServeLine ("\x7b\"id\": 0x1F,\"index\":\"45\", \"slot\":1,\"subslot\":1," ++
      "\"hex\":\"aB 01\",\"cmd\":\"write\"\x7d").toList =
      .ok (.ok (.rpc (.write 31 45 1 1 [0xAB, 0x01]))) := by
  have thirtyOne : Literal 31 "0x1F".toList :=
    .hex (.inl rfl) ⟨by decide, [1, 15], by decide, by decide⟩
  have one : Literal 1 ['1'] := .decimal ⟨by decide, [1], by decide, by decide⟩
  have many : Literal 45 ['4', '5'] := .decimal ⟨by decide, [4, 5], by decide, by decide⟩
  have digits : HexSpelling [0xAB, 0x01] (cleaned "aB 01".toList) :=
    .cons 0xAB 'a' 'B' (by decide) (by decide) (.cons 0x01 '0' '1' (by decide) (by decide) .nil)
  refine (serve_round_trip _).2 _ ⟨[
    ⟨.id, _, _, .number thirtyOne, oneSpace, noSpace⟩,
    ⟨.index, _, _, .quoted many, noSpace, oneSpace⟩,
    ⟨.slot, _, _, .number one, noSpace, noSpace⟩, ⟨.subslot, _, _, .number one, noSpace, noSpace⟩,
    ⟨.hex, _, _, .bytes digits, noSpace, noSpace⟩, ⟨.cmd, _, _, .verb .write, noSpace, noSpace⟩],
    ?_, rfl⟩
  show List.Perm
    [(Key.id, Datum.number 31), (.index, .number 45), (.slot, .number 1), (.subslot, .number 1),
     (.hex, .bytes [0xAB, 0x01]), (.cmd, .verb .write)]
    [(.id, .number 31), (.cmd, .verb .write), (.index, .number 45), (.slot, .number 1),
     (.subslot, .number 1), (.hex, .bytes [0xAB, 0x01])]
  decide

end Profinet
