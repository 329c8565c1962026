/-
  STATUS TEXT: what the text of a failed request says.

  An operation fails with a text.  The caller of `serve` is told a status if the text has one, the
  request is tried again if the text says BUSY, and the session ends if it is a transport failure;
  all three are read off the text.

      pnioStatus_text     a negative answer gives back exactly its status, is no transport failure,
                          and is BUSY for one status only
      badPacket_text      what the device sends that is no answer is a transport failure, never BUSY
-/
import Mathlib.Data.Nat.Digits.Lemmas
import Mathlib.Tactic.IntervalCases
import Profinet.EpmUuid
import Profinet.HexText
import Profinet.Lib.Runs
import Profinet.Transport

namespace Profinet

open Text Errors Transport Wire

/-! ## What an error says -/

/-- "The AR is gone" rather than "the device answered no". -/
def isTransportFailure (msg : String) : Bool := !contains "PNIO error status".toList msg.toList

/-- The PNIO status hex out of a transport error, if it carries one. -/
def pnioStatusOf (msg : String) : Option (List Char) :=
  match splitOnce "PNIO error status 0x".toList msg.toList with
  | none => none
  | some (_, rest) =>
    let hex := rest.takeWhile isHexDigit
    if hex.length = 8 then some hex else none

/-- The spec's "resource busy" PNIO status. -/
def pnioBusyStatus : String := "DE80C200"

/-- The message names the status a busy device answers with. -/
def isBusy (msg : String) : Bool := contains pnioBusyStatus.toList msg.toList

/-! ## Upper-case hexadecimal -/

/-- A digit, or a letter from A to F. -/
def isUpperHex (c : Char) : Bool := ('0' ≤ c && c ≤ '9') || ('A' ≤ c && c ≤ 'F')

theorem hexDigit_spec {n : Nat} (h : n < 16) :
    isUpperHex (Errors.hexDigit n) = true ∧ digitValue 16 (Errors.hexDigit n) = some n := by
  interval_cases n <;> decide

/-- The digits of a number, in reading order. -/
theorem digits_spec (n : Nat) :
    (∀ c ∈ (Nat.digits 16 n).reverse.map Errors.hexDigit, isUpperHex c = true) ∧
      ((Nat.digits 16 n).reverse.map Errors.hexDigit).map (digitValue 16)
        = (Nat.digits 16 n).reverse.map some := by
  have hlt : ∀ d ∈ (Nat.digits 16 n).reverse, d < 16 := by
    intro d hd
    exact Nat.digits_lt_base (by decide) (List.mem_reverse.mp hd)
  refine ⟨?_, ?_⟩
  · intro c hc
    obtain ⟨d, hd, rfl⟩ := List.mem_map.mp hc
    exact (hexDigit_spec (hlt d hd)).1
  · rw [List.map_map]
    refine List.map_congr_left ?_
    intro d hd
    exact (hexDigit_spec (hlt d hd)).2

theorem ofDigits_digits (n : Nat) : Text.ofDigits 16 0 (Nat.digits 16 n).reverse = n := by
  unfold Text.ofDigits
  rw [List.foldl_reverse]
  conv_rhs => rw [← Nat.ofDigits_digits 16 n]
  induction Nat.digits 16 n with
  | nil => rfl
  | cons d ds ih =>
    rw [List.foldr_cons, ih, Nat.ofDigits_cons, Nat.mul_comm]
    exact Nat.add_comm _ _

/-- `0WX` writes the number, in upper-case digits, as many as asked for if it has no more. -/
theorem hex_spec (width n : Nat) :
    Numeral 16 n (hex width n).toList ∧ (∀ c ∈ (hex width n).toList, isUpperHex c = true) ∧
      (0 < width → n < 16 ^ width → (hex width n).toList.length = width) := by
  obtain ⟨hupper, hvalues⟩ := digits_spec n
  have hvalue := ofDigits_digits n
  unfold hex
  rw [String.toList_ofList]
  -- zero has one digit; any other number has its digits in base 16
  by_cases hzero : n = 0
  · subst hzero
    have hone : Numeral 16 0 ['0'] := ⟨by decide, [0], by decide, rfl⟩
    refine ⟨numeral_leftpad hone (by decide) width, ?_, ?_⟩
    · intro c hc
      rcases List.mem_append.mp hc with hc | hc
      · rw [List.eq_of_mem_replicate hc]
        decide
      · rw [List.mem_singleton.mp hc]
        decide
    · intro hwidth _
      simp
      omega
  · have hne : (Nat.digits 16 n).reverse.map Errors.hexDigit ≠ [] := by
      intro hnil
      rw [List.map_eq_nil_iff, List.reverse_eq_nil_iff, Nat.digits_eq_nil_iff_eq_zero] at hnil
      exact hzero hnil
    have hfalse : ((Nat.digits 16 n).reverse.map Errors.hexDigit).isEmpty = false := by
      rw [List.isEmpty_eq_false_iff]
      exact hne
    rw [hfalse, if_neg (by decide)]
    refine ⟨?_, ?_, ?_⟩
    · exact numeral_leftpad ⟨hne, _, hvalues, hvalue⟩ (by decide) width
    · intro c hc
      rcases List.mem_append.mp hc with hc | hc
      · rw [List.eq_of_mem_replicate hc]
        decide
      · exact hupper c hc
    · intro hwidth hbound
      have hlen := (Nat.digits_length_le_iff (by decide : 1 < 16) n).mpr hbound
      rw [List.length_append, List.length_replicate, List.length_map, List.length_reverse]
      omega

/-! ## Only one status is busy

  The busy status is a run of eight upper-case hexadecimal digits.  No other part of a message has
  one: the words have too few in a row (`ShortRuns`, checked table by table), and codes are
  written with two digits between texts that fence them in. -/

/-- The text has no run of eight upper-case hexadecimal digits. -/
def ShortRuns (s : List Char) : Prop := (runs isUpperHex 8 0 s).isSome

instance (s : List Char) : Decidable (ShortRuns s) := inferInstanceAs (Decidable (_ = true))

/-- A piece between two others, whose first and last characters are no such digits. -/
theorem ShortRuns.fence {a b : List Char} (fence : List Char)
    (hfence : ∀ k, runs isUpperHex 8 k fence = some 0) (ha : ShortRuns a) (hb : ShortRuns b) :
    ShortRuns (a ++ (fence ++ b)) := by
  obtain ⟨k, hk⟩ := Option.isSome_iff_exists.mp ha
  unfold ShortRuns
  rw [runs_append, hk, Option.bind_some, runs_append, hfence, Option.bind_some]
  exact hb

theorem shortRuns_code (n : UInt8) : ShortRuns (hex 2 n.toNat).toList := by
  obtain ⟨-, hupper, hlen⟩ := hex_spec 2 n.toNat
  have hlen := hlen (by decide) n.toNat_lt
  unfold ShortRuns
  rw [runs_all hupper (by rw [hlen]; decide)]
  rfl

theorem lookup_mem {κ : Type} [DecidableEq κ] {table : List (κ × String)} {key : κ} {m : String}
    (h : lookup table key = some m) : ∃ e ∈ table, e.2 = m := by
  obtain ⟨e, he, hm⟩ := Option.map_eq_some_iff.mp h
  exact ⟨e, List.mem_of_find?_eq_some he, hm⟩

/-- What the tables say. -/
theorem shortRuns_tables :
    (∀ e ∈ pniorwErrorMessages, ShortRuns e.2.toList) ∧
      (∀ e ∈ pnioErrorMessages, ShortRuns e.2.toList) ∧
      (∀ e ∈ pniocmErrorMessages, ShortRuns e.2.toList) ∧
      ∀ e ∈ cmBlockNames, ShortRuns e.2.toList := by
  unfold ShortRuns
  decide +kernel

theorem shortRuns_lookup {κ : Type} [DecidableEq κ] {table : List (κ × String)}
    (htable : ∀ e ∈ table, ShortRuns e.2.toList) (default : String)
    (hdefault : ShortRuns default.toList) (key : κ) :
    ShortRuns ((lookup table key).getD default).toList := by
  cases h : lookup table key with
  | none => exact hdefault
  | some m =>
    obtain ⟨e, he, rfl⟩ := lookup_mem h
    exact htable e he

theorem shortRuns_nil : ShortRuns [] := rfl

/-- A code behind a text. -/
theorem shortRuns_before_code (before : List Char)
    (hbefore : ∀ k, runs isUpperHex 8 k before = some 0) (code : UInt8) :
    ShortRuns (before ++ (hex 2 code.toNat).toList) := by
  have h := shortRuns_nil.fence before hbefore (shortRuns_code code)
  rw [List.nil_append] at h
  exact h

/-- A code between two texts. -/
theorem shortRuns_around_code (before after : List Char)
    (hbefore : ∀ k, runs isUpperHex 8 k before = some 0)
    (hafter : ∀ k, runs isUpperHex 8 k after = some 0) (code : UInt8) :
    ShortRuns (before ++ ((hex 2 code.toNat).toList ++ after)) := by
  have hcode := (shortRuns_code code).fence after hafter shortRuns_nil
  rw [List.append_nil] at hcode
  have h := shortRuns_nil.fence before hbefore hcode
  rw [List.nil_append] at h
  exact h

theorem shortRuns_message (code decode code1 code2 : UInt8) :
    ShortRuns (fromCodes code decode code1 code2).message.toList := by
  obtain ⟨hrw, hpnio, hcm, hblocks⟩ := shortRuns_tables
  unfold fromCodes
  simp only
  -- a table's text, or one of the fallbacks around a code
  by_cases hdcm : decode = decodePnioCm
  · rw [if_pos hdcm]
    cases h : lookup pniocmErrorMessages (code1, code2) with
    | some m =>
      obtain ⟨e, he, rfl⟩ := lookup_mem h
      exact hcm e he
    | none =>
      simp only [String.toList_append]
      refine shortRuns_nil.fence "Unknown CM error in ".toList (fun _ => rfl) ?_
      refine shortRuns_lookup hblocks _ ?_ code1
      rw [String.toList_append]
      exact shortRuns_before_code _ (fun _ => rfl) code1
  · rw [if_neg hdcm]
    by_cases hdpnio : decode = decodePnio
    · rw [if_pos hdpnio]
      cases h : lookup pnioErrorMessages (code1, code2) with
      | some m =>
        obtain ⟨e, he, rfl⟩ := lookup_mem h
        exact hpnio e he
      | none => exact shortRuns_lookup hrw _ (by decide) _
    · rw [if_neg hdpnio]
      by_cases hdrw : decode = decodePniorw
      · rw [if_pos hdrw]
        exact shortRuns_lookup hrw _ (by decide) _
      · rw [if_neg hdrw]
        simp only [String.toList_append, List.append_assoc]
        exact shortRuns_around_code _ _ (fun _ => rfl) (fun _ => rfl) decode

theorem shortRuns_display (code decode code1 code2 : UInt8) :
    ShortRuns (fromCodes code decode code1 code2).display.toList := by
  have hmessage := shortRuns_message code decode code1 code2
  have hcodes := shortRuns_around_code ", ErrorCode2=0x".toList "]".toList (fun _ => rfl)
    (fun _ => rfl) code2
  unfold PnioError.display
  by_cases hcm : (fromCodes code decode code1 code2).isCmError = true
  · rw [if_pos hcm]
    simp only [String.toList_append, List.append_assoc]
    refine hmessage.fence " [CM:".toList (fun _ => rfl) ?_
    rw [PnioError.blockName, if_pos hcm]
    refine ShortRuns.fence (a := _) ", EC2=0x".toList (fun _ => rfl) ?_ ?_
    · refine shortRuns_lookup shortRuns_tables.2.2.2 _ ?_ _
      simp only [String.toList_append, List.append_assoc]
      exact shortRuns_around_code _ _ (fun _ => rfl) (fun _ => rfl) code1
    · have hend := (shortRuns_code code2).fence "]".toList (fun _ => rfl) shortRuns_nil
      rw [List.append_nil] at hend
      exact hend
  · rw [if_neg hcm]
    simp only [String.toList_append, List.append_assoc]
    refine hmessage.fence " [ErrorCode1=0x".toList (fun _ => rfl) ?_
    have hend := (shortRuns_code code2).fence "]".toList (fun _ => rfl) shortRuns_nil
    rw [List.append_nil] at hend
    exact (shortRuns_code code1).fence ", ErrorCode2=0x".toList (fun _ => rfl) hend

theorem busy_short : ¬ pnioBusyStatus.toList <:+: "PNIO error status 0".toList := by
  rw [← contains_iff]
  decide +kernel

/-- The busy status does not stand in a text with short runs. -/
theorem ShortRuns.not_busy {s : List Char} (h : ShortRuns s) : ¬ pnioBusyStatus.toList <:+: s :=
  not_infix h (List.all_eq_true.mp (by decide)) rfl (by decide)

/-- In a negative answer it stands in the place of the status, or nowhere. -/
theorem busy_infix_iff {digits rest : List Char} (hlen : digits.length = 8) (hrest : ShortRuns rest) :
    pnioBusyStatus.toList <:+: "PNIO error status 0".toList ++ ('x' :: (digits ++ (' ' :: rest))) ↔
      pnioBusyStatus.toList = digits := by
  constructor
  · intro hin
    rcases infix_mark (by decide) hin with hin | hin
    · exact absurd hin busy_short
    · rcases infix_mark (by decide) hin with hin | hin
      · exact hin.eq_of_length (by rw [hlen]; rfl)
      · exact absurd hin hrest.not_busy
  · rintro rfl
    have hin : pnioBusyStatus.toList <:+: 'x' :: (pnioBusyStatus.toList ++ (' ' :: rest)) :=
      List.infix_append' ['x'] _ _
    exact hin.trans (List.suffix_append _ _).isInfix

/-- Only one number is written so. -/
theorem numeral_busy {n : Nat} (h : Numeral 16 n pnioBusyStatus.toList) : n = 0xDE80C200 := by
  obtain ⟨-, ds, hds, hvalue⟩ := h
  have hmap : ds.map some = [13, 14, 8, 0, 12, 2, 0, 0].map some := hds.symm.trans (by decide)
  rw [List.map_injective_iff.mpr (Option.some_injective _) hmap] at hvalue
  rw [← hvalue]
  rfl

theorem hex_busy : (hex 8 (0xDE80C200 : UInt32).toNat).toList = pnioBusyStatus.toList := by
  norm_num [hex, Errors.hexDigit]
  rfl

/-- What a refusal says, as it is looked for and as it is taken off. -/
theorem statusWords_inside : "PNIO error status".toList <:+: "PNIO error status 0x".toList :=
  contains_iff.mp (by decide +kernel)

/-- The text of a negative answer. -/
theorem pnioStatus_toList (status : UInt32) :
    ("PNIO error status " ++ pnioStatusStr status).toList =
      "PNIO error status 0x".toList ++ ((hex 8 status.toNat).toList ++
        (' ' :: (['('] ++ ((fromBytes (be32 status)).display.toList ++ [')'])))) := by
  unfold pnioStatusStr
  simp only [String.toList_append, List.append_assoc]
  rfl

/-- **The error of a negative answer.**  Its text gives back the status, is no transport failure,
    and is busy for the busy status only. -/
theorem pnioStatus_text (status : UInt32) :
    isTransportFailure ("PNIO error status " ++ pnioStatusStr status) = false ∧
      pnioStatusOf ("PNIO error status " ++ pnioStatusStr status) =
        some (hex 8 status.toNat).toList ∧
      (isBusy ("PNIO error status " ++ pnioStatusStr status) = true ↔ status = 0xDE80C200) := by
  obtain ⟨hnumeral, -, hlen⟩ := hex_spec 8 status.toNat
  have hlen := hlen (by decide) status.toNat_lt
  -- in order: the words, the digits behind `0x`, and the busy status among them
  refine ⟨?_, ?_, ?_⟩
  · have hhead := statusWords_inside
    have hin : contains "PNIO error status".toList
        ("PNIO error status " ++ pnioStatusStr status).toList = true := by
      rw [contains_iff, pnioStatus_toList]
      exact hhead.trans (List.prefix_append _ _).isInfix
    unfold isTransportFailure
    rw [hin]
    rfl
  · have hdigits : ∀ c ∈ (hex 8 status.toNat).toList, isHexDigit c = true := by
      intro c hc
      obtain ⟨x, hx⟩ := hnumeral.digit hc
      unfold isHexDigit
      rw [hx]
      rfl
    unfold pnioStatusOf
    rw [pnioStatus_toList, splitOnce_here]
    simp only
    rw [List.takeWhile_append_of_pos hdigits, List.takeWhile_cons_of_neg (by decide),
      List.append_nil, if_pos hlen]
  -- behind the digits every run of digits is too short to be the busy status
  · have hrest : ShortRuns (['('] ++ ((fromBytes (be32 status)).display.toList ++ [')'])) := by
      have hclose := (shortRuns_display _ _ _ _ : ShortRuns
        (fromBytes (be32 status)).display.toList).fence [')'] (fun _ => rfl) shortRuns_nil
      rw [List.append_nil] at hclose
      have hopen := shortRuns_nil.fence ['('] (fun _ => rfl) hclose
      rw [List.nil_append] at hopen
      exact hopen
    have hhead : "PNIO error status 0x".toList = "PNIO error status 0".toList ++ ['x'] := by decide
    unfold isBusy
    rw [contains_iff, pnioStatus_toList, hhead, List.append_assoc, List.singleton_append]
    refine (busy_infix_iff hlen hrest).trans ⟨?_, ?_⟩
    · intro heq
      rw [← heq] at hnumeral
      exact UInt32.toNat_inj.mp (numeral_busy hnumeral)
    · intro hbusy
      rw [hbusy]
      exact hex_busy.symm

/-! ## What is no answer

  A transport failure is told by the absence of the words before a status.  Most messages are
  fixed texts around numbers, and of both parts the runs of letters of those words are too
  short. -/

/-- A character of the words before a status. -/
def inStatusWords (c : Char) : Bool := "PNIO error status".toList.contains c

/-- A text is a transport failure, and not BUSY, if its runs are short: of upper-case digits, and of
    the characters of the words before a status. -/
theorem failure_of_runs {msg : String} (hwords : (runs inStatusWords 17 0 msg.toList).isSome)
    (hdigits : ShortRuns msg.toList) : isTransportFailure msg = true ∧ isBusy msg = false := by
  refine ⟨?_, ?_⟩
  · have hnot : ¬ "PNIO error status".toList <:+: msg.toList :=
      not_infix hwords (List.all_eq_true.mp (by decide)) rfl (by decide)
    rw [← contains_iff, Bool.not_eq_true] at hnot
    unfold isTransportFailure
    rw [hnot]
    rfl
  · have hnot := hdigits.not_busy
    rw [← contains_iff, Bool.not_eq_true] at hnot
    exact hnot

/-- An upper-case digit is no character of the words. -/
theorem not_inStatusWords {c : Char} (h : isUpperHex c = true) : inStatusWords c = false := by
  unfold inStatusWords
  rw [List.contains_eq_mem, decide_eq_false_iff_not]
  intro hmem
  have hnone : "PNIO error status".toList.all (fun c => !isUpperHex c) = true := by decide
  have hnot := List.all_eq_true.mp hnone c hmem
  rw [h] at hnot
  cases hnot

/-- Digits end a run of words. -/
theorem runs_digits {num : List Char} (hne : num ≠ []) (h : ∀ c ∈ num, isUpperHex c = true)
    (k : Nat) : runs inStatusWords 17 k num = some 0 := by
  induction num generalizing k with
  | nil => exact absurd rfl hne
  | cons c num ih =>
    rw [List.forall_mem_cons] at h
    rw [runs, if_neg (by rw [not_inStatusWords h.1]; decide)]
    cases num with
    | nil => rfl
    | cons d num => exact ih (List.cons_ne_nil _ _) h.2 0

/-- A short number between two texts that are transport failures. -/
theorem failure_around (before num after : String) (hne : num.toList ≠ [])
    (hnum : ∀ c ∈ num.toList, isUpperHex c = true) (hshort : num.toList.length < 8)
    (hbw : (runs inStatusWords 17 0 before.toList).isSome)
    (hbd : runs isUpperHex 8 0 before.toList = some 0)
    (haw : (runs inStatusWords 17 0 after.toList).isSome)
    (had : ∀ k, (runs isUpperHex 8 k after.toList).isSome) :
    isTransportFailure (before ++ num ++ after) = true ∧
      isBusy (before ++ num ++ after) = false := by
  obtain ⟨k, hk⟩ := Option.isSome_iff_exists.mp hbw
  have htext : (before ++ num ++ after).toList
      = before.toList ++ (num.toList ++ after.toList) := by
    rw [String.toList_append, String.toList_append, List.append_assoc]
  refine failure_of_runs ?_ ?_
  · rw [htext, runs_append, hk, Option.bind_some, runs_append, runs_digits hne hnum,
      Option.bind_some]
    exact haw
  · unfold ShortRuns
    rw [htext, runs_append, hbd, Option.bind_some, runs_append, runs_all hnum (by omega),
      Option.bind_some]
    exact had _

/-- A decimal number is written in digits, a short one in a few of them. -/
theorem decimal_spec {n : Nat} (h : n < 10 ^ 7) :
    (toString n).toList ≠ [] ∧ (∀ c ∈ (toString n).toList, isUpperHex c = true) ∧
      (toString n).toList.length < 8 := by
  rw [Nat.toString_eq_repr, Nat.toList_repr]
  refine ⟨Nat.toDigits_ne_nil, ?_, ?_⟩
  · intro c hc
    have hdigit := Nat.isDigit_of_mem_toDigits (by decide) (Nat.le_refl 10) hc
    unfold isUpperHex
    rw [Bool.or_eq_true]
    exact .inl hdigit
  · have hlen := (Nat.length_toDigits_le_iff (n := n) (k := 7) (by decide) (by decide)).mpr h
    omega

/-- What is too short. -/
theorem tooShort_text (before : String) {n : Nat} (h : n < 10 ^ 7)
    (hw : (runs inStatusWords 17 0 before.toList).isSome)
    (hd : runs isUpperHex 8 0 before.toList = some 0) :
    isTransportFailure (before ++ toString n ++ " bytes)") = true ∧
      isBusy (before ++ toString n ++ " bytes)") = false := by
  obtain ⟨hne, hdigits, hlen⟩ := decimal_spec h
  exact failure_around before _ " bytes)" hne hdigits hlen hw hd rfl fun _ => rfl

/-- What bears a code. -/
theorem coded_text (before after : String) {width n : Nat} (hwidth : 0 < width ∧ width < 8)
    (h : n < 16 ^ width) (hw : (runs inStatusWords 17 0 before.toList).isSome)
    (hd : runs isUpperHex 8 0 before.toList = some 0)
    (haw : (runs inStatusWords 17 0 after.toList).isSome)
    (had : ∀ k, (runs isUpperHex 8 k after.toList).isSome) :
    isTransportFailure (before ++ hex width n ++ after) = true ∧
      isBusy (before ++ hex width n ++ after) = false := by
  obtain ⟨⟨hne, -⟩, hdigits, hlen⟩ := hex_spec width n
  have hlen := hlen hwidth.1 h
  exact failure_around before _ after hne hdigits (by omega) hw hd haw had

/-- A packet that is no response. -/
theorem badPacket_text {data : List UInt8} {e : String} (h : parseRpcResponse data = .error e) :
    isTransportFailure e = true ∧ isBusy e = false := by
  -- every way a packet is turned away has its own text
  unfold parseRpcResponse at h
  split at h
  · rename_i hparse
    cases h
    refine tooShort_text _ ?_ rfl rfl
    unfold parseRpcHeader at hparse
    split at hparse
    · omega
    · cases hparse
  · rename_i hdr _
    split at h
    · cases h
    · split at h
      · cases h
      · split at h
        · cases h
          exact coded_text _ ")" (by decide) hdr.operationNumber.toNat_lt rfl rfl rfl
            fun _ => rfl
        · split at h
          · cases h
            exact failure_of_runs rfl rfl
          · cases h
            have hcode := @coded_text "Unexpected RPC packet type: 0x" "" 2 hdr.packetType.toNat
              (by decide) hdr.packetType.toNat_lt rfl rfl rfl fun _ => rfl
            rw [String.append_empty] at hcode
            exact hcode

/-- A response too short for its NRD header. -/
theorem shortNrd_text {data : List UInt8} {le : Bool} {e : String} (h : parseNrd data le = .error e) :
    isTransportFailure e = true ∧ isBusy e = false := by
  unfold parseNrd at h
  split at h
  · cases h
    exact tooShort_text _ (by omega) rfl rfl
  · cases h

/-- A response too short for its IOD header. -/
theorem shortIod_text {data : List UInt8} {e : String} (h : parseIodHeader data = .error e) :
    isTransportFailure e = true ∧ isBusy e = false := by
  unfold parseIodHeader at h
  split at h
  · cases h
    exact tooShort_text _ (by omega) rfl rfl
  · cases h

end Profinet
