/-
  HEX TEXT: which texts the hex decoder takes, and which it does not survive.

  The text without its white space is cut every two bytes, whatever characters it is made of, and
  every piece is read as a number in radix 16, which may have a sign:

      de ad        two bytes
      d            refused, the length is odd
      zz           refused
      +f           taken, for 0f
      a€           the first cut falls into the €: the thread is aborted

  The pieces are read from the left, and the first one refused ends the decoding; so a text is
  judged by what is left of it behind the leading pairs that are taken.
-/
import Profinet.ServeVocabulary

namespace Profinet

open Checked Text Str

/-- A hexadecimal digit, of either case. -/
def isHexDigit (c : Char) : Bool := (digitValue 16 c).isSome

/-- A pair that is read as a byte: two digits, or a plus sign and one. -/
def isByte (a b : Char) : Bool := (isHexDigit a || a = '+') && isHexDigit b

/-- What is left behind the leading pairs that are read as bytes. -/
def hexRest : List Char → List Char
  | a :: b :: s => if isByte a b then hexRest s else a :: b :: s
  | s => s

/-- Two digits for each byte, the high one first. -/
inductive HexSpelling : List UInt8 → List Char → Prop where
  | nil : HexSpelling [] []
  | cons (b : UInt8) (high low : Char) {bs : List UInt8} {s : List Char} :
      digitValue 16 high = some (b.toNat / 16) → digitValue 16 low = some (b.toNat % 16) →
      HexSpelling bs s → HexSpelling (b :: bs) (high :: low :: s)

/-! ## One pair -/

theorem digit_ascii {c : Char} (h : isHexDigit c = true) : c.utf8Size = 1 := by
  obtain ⟨x, hx⟩ := Option.isSome_iff_exists.mp h
  exact utf8Size_digit hx

theorem plus_no_digit : isHexDigit '+' = false := by decide

theorem isByte_ascii {a b : Char} (h : isByte a b = true) : a.utf8Size = 1 ∧ b.utf8Size = 1 := by
  unfold isByte at h
  rw [Bool.and_eq_true, Bool.or_eq_true, decide_eq_true_eq] at h
  obtain ⟨ha | rfl, hb⟩ := h
  · exact ⟨digit_ascii ha, digit_ascii hb⟩
  · exact ⟨by decide, digit_ascii hb⟩

/-- One digit. -/
theorem parseDigits_one {b : Char} {y : Nat} (hb : digitValue 16 b = some y) :
    parseDigits 256 16 0 [b] = .ok y := by
  have hy := digitValue_lt hb
  rw [parseDigits, hb]
  simp only
  rw [if_pos (by omega), parseDigits, Nat.zero_mul, Nat.zero_add]

theorem parseDigits_two {a b : Char} {x y : Nat} (ha : digitValue 16 a = some x)
    (hb : digitValue 16 b = some y) : parseDigits 256 16 0 [a, b] = .ok (x * 16 + y) := by
  have hx := digitValue_lt ha
  have hy := digitValue_lt hb
  rw [parseDigits, ha]
  simp only
  rw [if_pos (by omega), parseDigits, hb]
  simp only
  rw [if_pos (by omega), parseDigits, Nat.zero_mul, Nat.zero_add]

/-- Without the sign that a number may have. -/
theorem parseUint_pair {a : Char} (ha : a ≠ '+') (b : Char) :
    parseUint 256 16 [a, b] = parseDigits 256 16 0 [a, b] := by
  unfold parseUint
  split
  · rename_i heq
    cases heq
  · rename_i heq
    cases heq
    exact absurd rfl ha
  · rfl

/-- A pair that is read is a byte, and without a sign its digits are those of the byte. -/
theorem pair_taken {a b : Char} (h : isByte a b = true) :
    ∃ v, parseUint 256 16 [a, b] = .ok v ∧
      (a ≠ '+' → digitValue 16 a = some ((UInt8.ofNat v).toNat / 16) ∧
        digitValue 16 b = some ((UInt8.ofNat v).toNat % 16)) := by
  unfold isByte at h
  rw [Bool.and_eq_true, Bool.or_eq_true, decide_eq_true_eq] at h
  obtain ⟨hab, hb⟩ := h
  obtain ⟨y, hy⟩ := Option.isSome_iff_exists.mp hb
  by_cases hplus : a = '+'
  · subst hplus
    exact ⟨y, parseDigits_one hy, fun h => absurd rfl h⟩
  · rcases hab with ha | ha
    · obtain ⟨x, hx⟩ := Option.isSome_iff_exists.mp ha
      have hxlt := digitValue_lt hx
      have hylt := digitValue_lt hy
      have hval : (UInt8.ofNat (x * 16 + y)).toNat = x * 16 + y := by
        rw [UInt8.toNat_ofNat']
        omega
      refine ⟨x * 16 + y, (parseUint_pair hplus b).trans (parseDigits_two hx hy), fun _ => ?_⟩
      rw [hval]
      exact ⟨by rw [hx]; congr 1; omega, by rw [hy]; congr 1; omega⟩
    · exact absurd ha hplus

theorem pair_refused {a b : Char} (h : isByte a b = false) :
    ∃ e, parseUint 256 16 [a, b] = .error e := by
  unfold isByte at h
  by_cases hplus : a = '+'
  · subst hplus
    have hb : digitValue 16 b = none := by simpa [isHexDigit] using h
    refine ⟨.invalidDigit, ?_⟩
    show parseDigits 256 16 0 [b] = _
    rw [parseDigits, hb]
  · rw [parseUint_pair hplus, parseDigits]
    cases ha : digitValue 16 a with
    | none => exact ⟨_, rfl⟩
    | some x =>
      have hb : digitValue 16 b = none := by simpa [isHexDigit, ha] using h
      have hx := digitValue_lt ha
      simp only
      rw [if_pos (by omega), parseDigits, hb]
      exact ⟨_, rfl⟩

/-- A character of two bytes by itself. -/
theorem single_refused {c : Char} (h : c.utf8Size = 2) : ∃ e, parseUint 256 16 [c] = .error e := by
  have hc : digitValue 16 c = none := by
    cases hd : digitValue 16 c with
    | none => rfl
    | some x =>
      have hone := digit_ascii (show isHexDigit c = true by rw [isHexDigit, hd]; rfl)
      omega
  have hparse : parseUint 256 16 [c] = parseDigits 256 16 0 [c] := by
    unfold parseUint
    split
    · rename_i heq
      cases heq
    · rename_i heq
      cases heq
    · rfl
  rw [hparse, parseDigits, hc]
  exact ⟨_, rfl⟩

/-! ## Two bytes of a text -/

/-- Two bytes are two characters or one. -/
theorem two_bytes {w : List Char} (h : byteLen w = 2) :
    (∃ a b, w = [a, b] ∧ a.utf8Size = 1 ∧ b.utf8Size = 1) ∨ ∃ c, w = [c] ∧ c.utf8Size = 2 := by
  rcases w with _ | ⟨a, _ | ⟨b, _ | ⟨c, w⟩⟩⟩
  · cases h
  · exact .inr ⟨a, rfl, h⟩
  · have ha := a.utf8Size_pos
    have hb := b.utf8Size_pos
    simp only [byteLen_cons, byteLen_nil] at h
    exact .inl ⟨a, b, rfl, by omega, by omega⟩
  · have ha := a.utf8Size_pos
    have hb := b.utf8Size_pos
    have hc := c.utf8Size_pos
    simp only [byteLen_cons] at h
    omega

theorem cut_pair {a b : Char} (h : isByte a b = true) (s : List Char) :
    cut 2 (a :: b :: s) = some ([a, b], s) := by
  obtain ⟨ha, hb⟩ := isByte_ascii h
  have hcut := cut_append [a, b] s
  rw [byteLen_cons, byteLen_cons, ha, hb] at hcut
  exact hcut

/-- Where a text cannot be cut, no pair is read. -/
theorem hexRest_uncut {s : List Char} (h : cut 2 s = none) : hexRest s = s := by
  rcases s with _ | ⟨a, _ | ⟨b, s⟩⟩
  · rfl
  · rfl
  · unfold hexRest
    split
    · rename_i hbyte
      rw [cut_pair hbyte] at h
      cases h
    · rfl

/-- A piece that is refused, or cannot be cut, is where the reading stops. -/
theorem hexRest_refused {w rest : List Char} (hw : byteLen w = 2) {e : ParseIntError}
    (h : parseUint 256 16 w = .error e) : hexRest (w ++ rest) = w ++ rest := by
  rcases two_bytes hw with ⟨a, b, rfl, -, -⟩ | ⟨c, rfl, hc⟩
  · show (if isByte a b then hexRest rest else a :: b :: rest) = _
    split
    · rename_i hbyte
      obtain ⟨v, hv, -⟩ := pair_taken hbyte
      rw [hv] at h
      cases h
    · rfl
  · cases rest with
    | nil => rfl
    | cons d rest =>
      show (if isByte c d then hexRest rest else c :: d :: rest) = _
      split
      · rename_i hbyte
        have hone := (isByte_ascii hbyte).1
        omega
      · rfl

/-! ## The whole text -/

/-- What the decoder makes of a text from a boundary on. -/
inductive HexOutcome (s rest : List Char) : Comp (Except ServeError (List UInt8)) → Prop where
  | taken (bs : List UInt8) : hexRest rest = [] → ('+' ∉ rest → HexSpelling bs rest) →
      HexOutcome s rest (.ok (.ok bs))
  | refused : hexRest rest ≠ [] → (cut 2 (hexRest rest)).isSome →
      HexOutcome s rest (.ok (.error (.invalidHex s)))
  | aborted : hexRest rest ≠ [] → cut 2 (hexRest rest) = none →
      HexOutcome s rest (.error .slice)

theorem hexBytes_outcome (s : List Char) :
    ∀ (n : Nat) (pre rest : List Char), byteLen rest = 2 * n →
      HexOutcome s rest (hexBytes s (pre ++ rest) (List.range' (byteLen pre) n 2)) := by
  intro n
  induction n with
  | zero =>
    intro pre rest hlen
    obtain rfl : rest = [] := by
      by_contra hne
      have hpos := byteLen_pos hne
      omega
    exact .taken [] rfl fun _ => .nil
  | succ n ih =>
    intro pre rest hlen
    have hne : rest ≠ [] := by
      rintro rfl
      simp only [byteLen_nil] at hlen
      omega
    rw [List.range'_succ, hexBytes, slice_append]
    cases hcut : cut 2 rest with
    | none => exact .aborted (by rw [hexRest_uncut hcut]; exact hne) (by rw [hexRest_uncut hcut, hcut])
    | some wr =>
      obtain ⟨w, rest'⟩ := wr
      obtain ⟨rfl, hw⟩ := cut_some hcut
      simp only
      cases hpair : parseUint 256 16 w with
      | error e =>
        have hstop : hexRest (w ++ rest') = w ++ rest' := hexRest_refused hw hpair
        exact .refused (by rw [hstop]; exact hne) (by rw [hstop, hcut]; rfl)
      | ok v =>
        simp only
        -- only a pair of characters is read as a byte
        rcases two_bytes hw with ⟨a, b, rfl, -, -⟩ | ⟨c, rfl, hc⟩
        · have hbyte : isByte a b = true := by
            by_contra hno
            obtain ⟨e, he⟩ := pair_refused (Bool.not_eq_true _ ▸ hno)
            rw [he] at hpair
            cases hpair
          obtain ⟨v', hv', hdigits⟩ := pair_taken hbyte
          obtain rfl : v' = v := Except.ok.inj (hv'.symm.trans hpair)
          have hrest : hexRest ([a, b] ++ rest') = hexRest rest' := if_pos hbyte
          have hnext := ih (pre ++ [a, b]) rest' (by rw [byteLen_append, hw] at hlen; omega)
          rw [byteLen_append, hw, List.append_assoc] at hnext
          generalize hexBytes s (pre ++ ([a, b] ++ rest')) (List.range' (byteLen pre + 2) n 2) = r
            at hnext
          cases hnext with
          | taken bs hdone hspell =>
            refine .taken _ (hrest.trans hdone) ?_
            intro hplus
            have ha : a ≠ '+' := fun h => hplus (h ▸ List.mem_cons_self)
            obtain ⟨hhigh, hlow⟩ := hdigits ha
            exact .cons _ a b hhigh hlow (hspell fun hmem => hplus (by simp [hmem]))
          | refused hmore hsome => exact .refused (hrest ▸ hmore) (hrest ▸ hsome)
          | aborted hmore hnone => exact .aborted (hrest ▸ hmore) (hrest ▸ hnone)
        · obtain ⟨e, he⟩ := single_refused hc
          rw [he] at hpair
          cases hpair

/-- What `parseHex` makes of a text of even length. -/
theorem parseHex_outcome {s : List Char} (h : byteLen (cleaned s) % 2 = 0) :
    HexOutcome s (cleaned s) (parseHex s) := by
  have hloop := hexBytes_outcome s ((byteLen (cleaned s) + 1) / 2) [] (cleaned s) (by omega)
  unfold parseHex
  simp only
  rw [if_neg (by omega)]
  exact hloop

theorem parseHex_odd {s : List Char} (h : byteLen (cleaned s) % 2 ≠ 0) :
    parseHex s = .ok (.error (.oddLengthHex s)) := if_pos h

/-! ## Which texts are decoded as they should be -/

/-- The decoder returns; it returns bytes for an even number of digits, and for nothing else; and
    then the bytes are those that the digits spell. -/
structure HexExact (s : List Char) : Prop where
  returns : Safe (parseHex s)
  accepts : (∃ bytes, parseHex s = .ok (.ok bytes)) ↔
    (cleaned s).length % 2 = 0 ∧ ∀ c ∈ cleaned s, isHexDigit c = true
  spelled : ∀ bytes, parseHex s = .ok (.ok bytes) → HexSpelling bytes (cleaned s)

/-- Nothing is left behind the pairs that are read, or a character ends two bytes on. -/
def HexWhole (s : List Char) : Prop :=
  byteLen (cleaned s) % 2 ≠ 0 ∨ hexRest (cleaned s) = [] ∨ (cut 2 (hexRest (cleaned s))).isSome

/-- And where nothing is left, no pair was read with a sign. -/
def HexPlain (s : List Char) : Prop :=
  HexWhole s ∧
    (byteLen (cleaned s) % 2 = 0 → hexRest (cleaned s) = [] → '+' ∉ cleaned s)

theorem digits_of_hexRest {s : List Char} (h : hexRest s = []) (hplus : '+' ∉ s) :
    s.length % 2 = 0 ∧ ∀ c ∈ s, isHexDigit c = true := by
  fun_induction hexRest s with
  | case1 a b s hbyte ih =>
    have ha : a ≠ '+' := fun heq => hplus (heq ▸ List.mem_cons_self)
    obtain ⟨hlen, hdigits⟩ := ih h fun hmem => hplus (by simp [hmem])
    have hab : isHexDigit a = true ∧ isHexDigit b = true := by
      simpa [isByte, ha] using hbyte
    refine ⟨by simp only [List.length_cons]; omega, ?_⟩
    rw [List.forall_mem_cons, List.forall_mem_cons]
    exact ⟨hab.1, hab.2, hdigits⟩
  | case2 a b s hbyte => cases h
  | case3 s hshort =>
    subst h
    exact ⟨rfl, fun c hc => by cases hc⟩

theorem hexRest_of_digits {s : List Char} (h : s.length % 2 = 0)
    (hdigits : ∀ c ∈ s, isHexDigit c = true) : hexRest s = [] := by
  fun_induction hexRest s with
  | case1 a b s hbyte ih =>
    rw [List.forall_mem_cons, List.forall_mem_cons] at hdigits
    simp only [List.length_cons] at h
    exact ih (by omega) hdigits.2.2
  | case2 a b s hbyte =>
    rw [List.forall_mem_cons, List.forall_mem_cons] at hdigits
    exact absurd (by rw [isByte, hdigits.1, hdigits.2.1]; rfl) hbyte
  | case3 s hshort =>
    rcases s with _ | ⟨a, _ | ⟨b, s⟩⟩
    · rfl
    · cases h
    · exact absurd rfl (hshort a b s)

/-- Digits are bytes. -/
theorem even_of_digits {s : List Char} (h : s.length % 2 = 0)
    (hdigits : ∀ c ∈ s, isHexDigit c = true) : byteLen s % 2 = 0 := by
  rw [byteLen_eq_length fun c hc => digit_ascii (hdigits c hc)]
  exact h

theorem parseHex_returns (s : List Char) : Safe (parseHex s) ↔ HexWhole s := by
  unfold HexWhole
  by_cases heven : byteLen (cleaned s) % 2 = 0
  · have hout := parseHex_outcome heven
    generalize parseHex s = r at hout
    cases hout with
    | taken bs hdone => exact iff_of_true (safe_ok _) (.inr (.inl hdone))
    | refused hmore hsome => exact iff_of_true (safe_ok _) (.inr (.inr hsome))
    | aborted hmore hnone =>
      refine iff_of_false (not_safe_error _) ?_
      rw [hnone]
      simp [heven, hmore]
  · rw [parseHex_odd heven]
    exact iff_of_true (safe_ok _) (.inl heven)

/-- A text that is refused was no even number of digits. -/
theorem exact_of_refused {s : List Char} {e : ServeError} (hr : parseHex s = .ok (.error e))
    (hno : ¬ ((cleaned s).length % 2 = 0 ∧ ∀ c ∈ cleaned s, isHexDigit c = true)) : HexExact s where
  returns := by
    rw [hr]
    exact safe_ok _
  accepts := by
    refine iff_of_false ?_ hno
    rintro ⟨bytes, hbytes⟩
    rw [hr] at hbytes
    cases hbytes
  spelled := by
    intro bytes hbytes
    rw [hr] at hbytes
    cases hbytes

theorem hexExact_iff (s : List Char) : HexExact s ↔ HexPlain s := by
  constructor
  · intro h
    refine ⟨(parseHex_returns s).mp h.returns, fun heven hdone hplus => ?_⟩
    -- a text that is read to its end is accepted, and a sign is no digit
    have hout := parseHex_outcome heven
    cases hr : parseHex s with
    | error p => exact absurd (hr ▸ h.returns) (not_safe_error p)
    | ok r =>
      rw [hr] at hout
      cases hout with
      | taken bs _ _ =>
        have hdigit := (h.accepts.mp ⟨bs, hr⟩).2 '+' hplus
        rw [plus_no_digit] at hdigit
        cases hdigit
      | refused hmore _ => exact hmore hdone
  · rintro ⟨hwhole, hplain⟩
    by_cases heven : byteLen (cleaned s) % 2 = 0
    · have hout := parseHex_outcome heven
      cases hr : parseHex s with
      | error p => exact absurd (hr ▸ (parseHex_returns s).mpr hwhole) (not_safe_error p)
      | ok r =>
        rw [hr] at hout
        cases hout with
        | taken bs hdone hspell =>
          have hplus := hplain heven hdone
          refine ⟨by rw [hr]; exact safe_ok _, ?_, ?_⟩
          · exact iff_of_true ⟨bs, hr⟩ (digits_of_hexRest hdone hplus)
          · intro bytes hbytes
            rw [hr] at hbytes
            cases hbytes
            exact hspell hplus
        | refused hmore _ =>
          exact exact_of_refused hr fun h => hmore (hexRest_of_digits h.1 h.2)
    · exact exact_of_refused (parseHex_odd heven) fun h => heven (even_of_digits h.1 h.2)

/-! ## Which lines reach the decoder -/

/-- The line is a `write` that is read as far as its hex digits. -/
structure ReachesHex (line hex : List Char) : Prop where
  id : (jsonFieldU64 line "id".toList).isSome
  cmd : jsonFieldStr line "cmd".toList = some "write".toList
  hex : jsonFieldStr line "hex".toList = some hex
  record : (fieldRecord line "write".toList).isOk

theorem parseWrite_returns (line : List Char) (id : UInt64) :
    Safe (parseWrite line id) ↔ ∀ hex, jsonFieldStr line "hex".toList = some hex →
      (fieldRecord line "write".toList).isOk → Safe (parseHex hex) := by
  unfold parseWrite
  cases hhex : jsonFieldStr line "hex".toList with
  | none => exact iff_of_true (safe_ok _) fun hex h => by cases h
  | some hex =>
    simp only
    cases hrecord : fieldRecord line "write".toList with
    | error e => exact iff_of_true (safe_ok _) fun hex _ h => by cases h
    | ok record =>
      obtain ⟨index, slot, subslot⟩ := record
      simp only [Option.some.injEq]
      constructor
      · rintro hsafe hex rfl -
        cases hparse : parseHex hex with
        | error p =>
          rw [hparse] at hsafe
          exact absurd hsafe (not_safe_error p)
        | ok r => exact safe_ok r
      · intro h
        obtain ⟨r, hr, -⟩ := h hex rfl rfl
        rw [hr]
        cases r with
        | error e => exact safe_ok _
        | ok data => exact safe_ok _

theorem parseServeLine_returns (line : List Char) :
    Safe (parseServeLine line) ↔ ∀ hex, ReachesHex line hex → HexWhole hex := by
  simp only [← parseHex_returns]
  have hcmd : Safe (parseServeCmd line) ↔ ∀ hex, ReachesHex line hex → Safe (parseHex hex) := by
    unfold parseServeCmd
    split
    · rename_i hid
      exact iff_of_true (safe_ok _) fun hex h => by have := h.id; rw [hid] at this; cases this
    · rename_i hnone
      exact iff_of_true (safe_ok _) fun hex h => by have := h.cmd; rw [hnone] at this; cases this
    · rename_i id cmd hid hcmd
      by_cases hwrite : cmd = "write".toList
      · subst hwrite
        rw [if_neg (by decide), if_pos rfl, parseWrite_returns]
        constructor
        · intro h hex hreach
          exact h hex hreach.hex hreach.record
        · intro h hex hhex hrecord
          exact h hex ⟨by rw [hid]; rfl, hcmd, hhex, hrecord⟩
      · have hnever : ∀ hex, ReachesHex line hex → Safe (parseHex hex) := by
          intro hex h
          exact absurd (Option.some.inj (hcmd.symm.trans h.cmd)) hwrite
        rw [if_neg hwrite]
        refine iff_of_true ?_ hnever
        split
        · exact safe_ok _
        · split
          · exact safe_ok _
          · split
            · exact safe_ok _
            · exact safe_ok _
  unfold parseServeLine
  simp only
  -- a line of the control vocabulary is no `write`
  have hother : ∀ {word : List Char}, jsonFieldStr line "cmd".toList = some word →
      word ≠ "write".toList → ∀ hex, ReachesHex line hex → Safe (parseHex hex) := by
    intro word hword hne hex h
    exact absurd (Option.some.inj (hword.symm.trans h.cmd)) hne
  split
  · rename_i hquit
    exact iff_of_true (safe_ok _) (hother hquit.1 (by decide))
  · split
    · rename_i hcontrol
      refine iff_of_true (safe_ok _) ?_
      rcases hcontrol with hword | hword | hword
      · exact hother hword (by decide)
      · exact hother hword (by decide)
      · exact hother hword (by decide)
    · rw [← hcmd]
      cases parseServeCmd line with
      | error p => exact iff_of_false (not_safe_error p) (not_safe_error p)
      | ok r => exact iff_of_true (safe_ok _) (safe_ok _)

/-- **What the hex decoder does not decode as it should.**  It is total and exact on a text exactly
    if no cut falls into a character before a piece is refused, and none of its pairs is read with
    a sign; and a line of the serve loop aborts it exactly if it is a `write`, well formed as far as
    its hex digits, whose digits run into such a cut. -/
theorem hex_decoding (s line : List Char) :
    (HexExact s ↔ HexPlain s) ∧
      (Safe (parseServeLine line) ↔ ∀ hex, ReachesHex line hex → HexWhole hex) :=
  ⟨hexExact_iff s, parseServeLine_returns line⟩

/-- The first cut of `aéa` falls into the `é`, and the line that carries it aborts the loop; `+f` is
    taken for a byte. -/
theorem hex_broken :
    ¬ ((∀ s, HexExact s) ∧ ∀ line, Safe (parseServeLine line)) ∧
      parseServeLine ("\x7b\"id\":1,\"cmd\":\"write\",\"index\":1,\"slot\":1,\"subslot\":1," ++
        "\"hex\":\"aéa\"\x7d").toList = .error .slice ∧
      parseHex "+f".toList = .ok (.ok [0x0F]) := by
  refine ⟨fun h => ?_, by decide +kernel, by decide +kernel⟩
  have hdigits := ((h.1 "+f".toList).accepts.mp ⟨[0x0F], by decide +kernel⟩).2 '+' (by decide)
  revert hdigits
  decide

end Profinet
