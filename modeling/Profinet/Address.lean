/-
  ADDRESSES as text: `aa:bb:cc:dd:ee:ff` and `192.168.0.2`.

  Both are rows of bytes, each byte a field of its own between separators:

      s2mac    six fields of two hexadecimal digits, in either case
      ip2s     four fields of one to three decimal digits, without a leading zero
      mac2s, s2ip   the texts of an address

  A field is read exactly if it is the text of a byte (`macPart_eq_ok`, `ipPart_eq_ok`), so an
  address is read exactly from its text; a MAC address from any case of it, and by
  `parse_mac_flexible` with other separators too.
-/
import Profinet.EpmUuid
import Profinet.Lib.Fields
import Profinet.Lib.Spelling
import Profinet.Util

namespace Profinet.Util

open Wire Text Epm

/-- Why a text is no address; the source prints the text. -/
inductive AddressError where
  | emptyMac
  /-- not six fields, or a field that is not two hexadecimal digits -/
  | macFormat (s : String)
  | mac (s : String)
  | emptyIp
  | ip (s : String)
  /-- fewer bytes than an address has -/
  | shortIp (len : Nat)
  deriving DecidableEq, Repr

/-! ## Reading -/

/-- `is_ascii_hexdigit`. -/
def isHexDigit (c : Char) : Bool := (digitValue 16 c).isSome

/-- `is_ascii_digit`. -/
def isDecimalDigit (c : Char) : Bool := (digitValue 10 c).isSome

/-- One field as a byte, from the text `s`. -/
def byteField (radix : Nat) (e : AddressError) (part : List Char) : Except AddressError UInt8 :=
  match parseUint 256 radix part with
  | .ok n => .ok (UInt8.ofNat n)
  | .error _ => .error e

/-- The fields of an address of `n` bytes, one byte each. -/
def addressOf (n : Nat) (e : AddressError) (field : List Char → Except AddressError UInt8)
    (parts : List (List Char)) : Except AddressError (Bytes n) :=
  if parts.length ≠ n then .error e
  else do
    let bytes ← parts.mapM field
    return bytesAt n bytes 0

/-- One part of a MAC address: exactly two hexadecimal digits. -/
def macPart (s : String) (part : List Char) : Except AddressError UInt8 :=
  if Str.byteLen part ≠ 2 ∨ ¬ part.all isHexDigit then .error (.macFormat s)
  else byteField 16 (.mac s) part

/-- A colon-separated MAC address as six bytes. -/
def s2mac (s : String) : Except AddressError Mac :=
  if s = "" then .error .emptyMac
  else addressOf 6 (.macFormat s) (macPart s) (s.toList.splitOn ':')

/-- One part of an IPv4 address: one to three decimal digits, no leading zero. -/
def ipPart (s : String) (part : List Char) : Except AddressError UInt8 :=
  if part = [] ∨ 3 < Str.byteLen part ∨ ¬ part.all isDecimalDigit then .error (.ip s)
  else if 1 < Str.byteLen part ∧ part.head? = some '0' then .error (.ip s)
  else byteField 10 (.ip s) part

/-- A dotted-decimal IPv4 address as four bytes. -/
def ip2s (s : String) : Except AddressError (Bytes 4) :=
  if s = "" then .error .emptyIp
  else addressOf 4 (.ip s) (ipPart s) (s.toList.splitOn '.')

/-- The character in lower case, and `-` and `.` as the separator. -/
def flexible (c : Char) : Char :=
  if c.toLower = '-' ∨ c.toLower = '.' then ':' else c.toLower

/-- A MAC address with `-` and `.` as separators too, in either case. -/
def parseMacFlexible (s : String) : Option Mac :=
  (s2mac (String.ofList ((trim s.toList).map flexible))).toOption

/-! ## Writing -/

/-- A MAC address in lower case, with colons. -/
def mac2s (mac : Mac) : String := ":".intercalate (mac.val.map fun b => lowerHex 2 b.toNat)

/-- The first four bytes in dotted decimal. -/
def s2ip (ip : List UInt8) : Except AddressError String :=
  if ip.length < 4 then .error (.shortIp ip.length)
  else .ok (".".intercalate ((ip.take 4).map fun o => toString o.toNat))

/-! ## Fields -/

theorem byteField_eq_ok {radix : Nat} (hradix : 1 ≤ radix) {e : AddressError} {part : List Char}
    {b : UInt8} : byteField radix e part = .ok b ↔ SignedNumeral radix b.toNat part := by
  have hread (n : Nat) : parseUint 256 radix part = .ok n ↔ SignedNumeral radix n part ∧ n < 256 :=
    parseUint_eq_ok hradix
  unfold byteField
  constructor
  · intro h
    cases hparse : parseUint 256 radix part with
    | error e =>
      rw [hparse] at h
      cases h
    | ok n =>
      rw [hparse] at h
      cases h
      obtain ⟨hnum, hlt⟩ := (hread n).mp hparse
      rwa [UInt8.toNat_ofNat', Nat.mod_eq_of_lt hlt]
  · intro h
    rw [(hread b.toNat).mpr ⟨h, b.toNat_lt⟩]
    simp only [UInt8.ofNat_toNat]

theorem isDigit_iff {radix : Nat} {s : List Char} :
    (s.all fun c => (digitValue radix c).isSome) = true
      ↔ ∀ c ∈ s, ∃ x, digitValue radix c = some x := by
  simp only [List.all_eq_true, Option.isSome_iff_exists]

/-- A text of digits only has no sign. -/
theorem unsigned {radix n : Nat} {s : List Char}
    (hdigits : ∀ c ∈ s, ∃ x, digitValue radix c = some x) (h : SignedNumeral radix n s) :
    Numeral radix n s := by
  rcases h with hnum | ⟨t, rfl, -⟩
  · exact hnum
  · obtain ⟨x, hx⟩ := hdigits '+' List.mem_cons_self
    rw [digitValue_plus] at hx
    cases hx

theorem byteLen_digits {radix : Nat} {s : List Char}
    (hdigits : ∀ c ∈ s, ∃ x, digitValue radix c = some x) : Str.byteLen s = s.length := by
  refine Str.byteLen_eq_length ?_
  intro c hc
  obtain ⟨x, hx⟩ := hdigits c hc
  exact utf8Size_digit hx

theorem lowerHex_two {n : Nat} (hn : n < 256) :
    (lowerHex 2 n).toList = [Nat.digitChar (n / 16), Nat.digitChar (n % 16)] := by
  unfold lowerHex
  rw [String.toList_ofList]
  by_cases hsmall : n < 16
  · rw [Nat.toDigits_of_lt_base hsmall, Nat.div_eq_of_lt hsmall, Nat.mod_eq_of_lt hsmall]
    rfl
  · rw [Nat.toDigits_of_base_le (by decide) (by omega), Nat.toDigits_of_lt_base (by omega)]
    rfl

/-- A field of a MAC address is two digits that spell the byte. -/
theorem macPart_eq_ok (s : String) (part : List Char) (b : UInt8) :
    macPart s part = .ok b ↔ part.map Char.toLower = (lowerHex 2 b.toNat).toList := by
  rw [lowerHex_two b.toNat_lt, toLower_pair b.toNat_lt]
  unfold macPart
  constructor
  · intro h
    split at h
    · cases h
    · rename_i hpart
      rw [not_or, not_not, not_not] at hpart
      have hdigits := isDigit_iff.mp hpart.2
      rw [byteLen_digits hdigits] at hpart
      exact ⟨hpart.1, unsigned hdigits ((byteField_eq_ok (by decide)).mp h)⟩
  · rintro ⟨hlen, hnum⟩
    have hdigits : ∀ c ∈ part, ∃ x, digitValue 16 c = some x := fun c hc => hnum.digit hc
    have hall : part.all isHexDigit = true := isDigit_iff.mpr hdigits
    rw [byteLen_digits hdigits, if_neg (by simp [hlen, hall])]
    exact (byteField_eq_ok (by decide)).mpr (.inl hnum)

theorem decimal_toList (n : Nat) : (toString n).toList = Nat.toDigits 10 n := by
  rw [Nat.toString_eq_repr, Nat.toList_repr]

/-- A field of an IPv4 address is the decimal text of the byte. -/
theorem ipPart_eq_ok (s : String) (part : List Char) (b : UInt8) :
    ipPart s part = .ok b ↔ part.map id = (toString b.toNat).toList := by
  have hlt := b.toNat_lt
  have hwidth : (Nat.toDigits 10 b.toNat).length ≤ 3 :=
    (Nat.length_toDigits_le_iff (by decide) (by decide)).mpr (by omega)
  rw [List.map_id, decimal_toList]
  unfold ipPart
  constructor
  · intro h
    split at h
    · cases h
    · rename_i hpart
      rw [not_or, not_or, not_not] at hpart
      have hdigits := isDigit_iff.mp hpart.2.2
      rw [byteLen_digits hdigits] at h
      split at h
      · cases h
      · rename_i hzero
        rw [not_and_or, Nat.not_lt] at hzero
        exact eq_toDigits (unsigned hdigits ((byteField_eq_ok (by decide)).mp h)) hzero
  · intro h
    have hnum : Numeral 10 b.toNat part := h ▸ numeral_toDigits (by decide) (by decide) b.toNat
    have hdigits : ∀ c ∈ part, ∃ x, digitValue 10 c = some x := fun c hc => hnum.digit hc
    have hall : part.all isDecimalDigit = true := isDigit_iff.mpr hdigits
    have hshort : part.length ≤ 3 := h ▸ hwidth
    have hzero : ¬ (1 < part.length ∧ part.head? = some '0') := by
      rintro ⟨hlong, hhead⟩
      rcases Nat.eq_zero_or_pos b.toNat with hz | hpos
      · rw [h, hz] at hlong
        exact absurd hlong (by decide)
      · exact head_toDigits hpos (h ▸ hhead)
    rw [byteLen_digits hdigits, if_neg (by simp [hnum.nonempty, hall, hshort]), if_neg hzero]
    exact (byteField_eq_ok (by decide)).mpr (.inl hnum)

/-! ## Addresses -/

/-- A row of fields is an address exactly if they are its bytes. -/
theorem addressOf_eq_ok {n : Nat} {e : AddressError} {field : List Char → Except AddressError UInt8}
    {parts : List (List Char)} {b : Bytes n} :
    addressOf n e field parts = .ok b ↔ parts.mapM field = .ok b.val := by
  have hwhole (w : Bytes n) : bytesAt n w.val 0 = w :=
    bytesAt_of_drop (List.append_nil w.val).symm
  unfold addressOf
  constructor
  · intro h
    split at h
    · cases h
    · rename_i hlen
      cases hbytes : parts.mapM field with
      | error e' =>
        rw [hbytes] at h
        cases h
      | ok bytes =>
        rw [hbytes] at h
        have hn : bytes.length = n :=
          (Fields.mapM_eq_ok.mp hbytes).length_eq.symm.trans (not_not.mp hlen)
        cases h
        rw [hwhole ⟨bytes, hn⟩]
  · intro h
    have hlen : parts.length = n := (Fields.mapM_eq_ok.mp h).length_eq.trans b.2
    rw [if_neg (not_not.mpr hlen), h]
    show Except.ok (bytesAt n b.val 0) = .ok b
    rw [hwhole]

theorem mac2s_toList (mac : Mac) :
    (mac2s mac).toList = [':'].intercalate (mac.val.map fun b => (lowerHex 2 b.toNat).toList) := by
  unfold mac2s
  rw [String.toList_intercalate, List.map_map]
  rfl

theorem s2ip_toList (ip : Bytes 4) :
    ∃ s, s2ip ip.val = .ok s
      ∧ s.toList = ['.'].intercalate (ip.val.map fun o => (toString o.toNat).toList) := by
  unfold s2ip
  refine ⟨_, if_neg (by rw [ip.2]; decide), ?_⟩
  rw [String.toList_intercalate, List.map_map, List.take_of_length_le (by rw [ip.2])]
  rfl

/-- **A MAC address is read exactly from its text**, in either case. -/
theorem s2mac_eq_ok {s : String} {mac : Mac} :
    s2mac s = .ok mac ↔ s.toList.map Char.toLower = (mac2s mac).toList := by
  have hcolon (c : Char) : c.toLower = ':' ↔ c = ':' := by
    have h := toNat_toLower c
    rw [← Char.toNat_inj, ← Char.toNat_inj, h]
    show _ = 58 ↔ c.toNat = 58
    split_ifs <;> omega
  have hne : mac.val ≠ [] := by
    intro hnil
    have hlen := mac.2
    rw [hnil] at hlen
    cases hlen
  have hplain (b : UInt8) : ':' ∉ (lowerHex 2 b.toNat).toList := by
    intro hmem
    obtain ⟨x, hx⟩ := (byte_hexField b).numeral.digit hmem
    exact absurd hx (by simp [digitValue])
  have hfields := Fields.mapM_fields_eq_ok (s := s.toList) hcolon (macPart_eq_ok s) hplain hne
  rw [mac2s_toList, ← hfields, ← addressOf_eq_ok (e := .macFormat s)]
  unfold s2mac
  by_cases hs : s = ""
  · obtain rfl := hs
    exact iff_of_false (fun h => by cases h) (fun h => by cases h)
  · rw [if_neg hs]

/-- **An IPv4 address is read exactly from its text.** -/
theorem ip2s_eq_ok {s : String} {ip : Bytes 4} : ip2s s = .ok ip ↔ s2ip ip.val = .ok s := by
  have hne : ip.val ≠ [] := by
    intro hnil
    have hlen := ip.2
    rw [hnil] at hlen
    cases hlen
  have hplain (b : UInt8) : '.' ∉ (toString b.toNat).toList := by
    intro hmem
    rw [decimal_toList] at hmem
    obtain ⟨x, hx⟩ := (numeral_toDigits (by decide) (by decide) b.toNat).digit hmem
    exact absurd hx (by simp [digitValue])
  have hdot (c : Char) : id c = '.' ↔ c = '.' := Iff.rfl
  have hfields := Fields.mapM_fields_eq_ok (s := s.toList) hdot (ipPart_eq_ok s) hplain hne
  obtain ⟨t, ht, htext⟩ := s2ip_toList ip
  rw [List.map_id, ← htext] at hfields
  have hsame : s2ip ip.val = .ok s ↔ s.toList = t.toList := by
    rw [ht, Except.ok.injEq, String.toList_inj]
    exact eq_comm
  rw [hsame, ← hfields, ← addressOf_eq_ok (e := .ip s)]
  unfold ip2s
  by_cases hs : s = ""
  · obtain rfl := hs
    exact iff_of_false (fun h => by cases h) (fun h => by cases h)
  · rw [if_neg hs]

theorem toLower_flexible (c : Char) : (flexible c).toLower = flexible c := by
  unfold flexible
  split
  · rfl
  · exact toLower_toLower c

theorem parseMacFlexible_eq_some {s : String} {mac : Mac} :
    parseMacFlexible s = some mac ↔ (trim s.toList).map flexible = (mac2s mac).toList := by
  have hlower : ((trim s.toList).map flexible).map Char.toLower = (trim s.toList).map flexible := by
    rw [List.map_map]
    exact List.map_congr_left fun c _ => toLower_flexible c
  have hread (r : Except AddressError Mac) : r.toOption = some mac ↔ r = .ok mac := by
    cases r <;> simp [Except.toOption]
  unfold parseMacFlexible
  rw [hread, s2mac_eq_ok, String.toList_ofList, hlower]

/-- **Addresses and their texts.**  A MAC address is read exactly from its text in either case, with
    `-` or `.` for a colon by the flexible reader; an IPv4 address exactly from its one text. -/
theorem addresses_read_back :
    (∀ s mac, s2mac s = .ok mac ↔ s.toList.map Char.toLower = (mac2s mac).toList)
    ∧ (∀ s mac, parseMacFlexible s = some mac
      ↔ (trim s.toList).map flexible = (mac2s mac).toList)
    ∧ ∀ s ip, ip2s s = .ok ip ↔ s2ip ip.val = .ok s :=
  ⟨fun _ _ => s2mac_eq_ok, fun _ _ => parseMacFlexible_eq_some, fun _ _ => ip2s_eq_ok⟩

end Profinet.Util
