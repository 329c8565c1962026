/-
  TEXT AS NUMBERS AND WORDS, over lists of characters.

      parseUint     an unsigned number in a radix, below a bound, with an optional plus sign
      trim, words   what white space encloses and separates
      splitOnce     the text before and behind the first place a separator stands at

  A number fails at the first character that is no digit or takes it out of range, whichever comes
  first; a `Numeral` of a number below the bound is read as that number.  A text that no separator
  begins in is skipped (`Skips`), whatever stands behind it.
-/
import Mathlib.Data.List.DropRight

namespace Text

/-- The characters of the Unicode property White_Space. -/
def isWhitespace (c : Char) : Bool :=
  let n := c.toNat
  (0x9 ≤ n && n ≤ 0xD) || n = 0x20 || n = 0x85 || n = 0xA0 || n = 0x1680
    || (0x2000 ≤ n && n ≤ 0x200A) || n = 0x2028 || n = 0x2029 || n = 0x202F || n = 0x205F
    || n = 0x3000

/-- `trim`. -/
def trim (s : List Char) : List Char := (s.dropWhile isWhitespace).rdropWhile isWhitespace

/-- The parts between white space, without the empty ones. -/
def words (s : List Char) : List (List Char) := (s.splitOnP isWhitespace).filter (· ≠ [])

/-- `split_once`: what is before the first separator, and what is behind it. -/
def splitOnce (sep : List Char) (s : List Char) : Option (List Char × List Char) :=
  if sep.isPrefixOf s then some ([], s.drop sep.length)
  else
    match s with
    | [] => none
    | c :: s => (splitOnce sep s).map fun (a, b) => (c :: a, b)

/-! ## Numbers

  Digits in a radix, with the two errors of a parse; a number and its digits determine each
  other. -/

/-- Why a number is not read. -/
inductive ParseIntError where
  | empty
  | invalidDigit
  | posOverflow
  deriving DecidableEq, Repr

/-- The value of a digit in a radix up to 36, letters of either case. -/
def digitValue (radix : Nat) (c : Char) : Option Nat :=
  let n := c.toNat
  let value :=
    if 48 ≤ n ∧ n ≤ 57 then n - 48
    else if 97 ≤ n ∧ n ≤ 122 then n - 87
    else if 65 ≤ n ∧ n ≤ 90 then n - 55
    else radix
  if value < radix then some value else none

/-- A digit is below the radix, and it is a decimal one or a letter of either case. -/
theorem digitValue_eq_some {radix x : Nat} {c : Char} :
    digitValue radix c = some x ↔ x < radix ∧
      (48 ≤ c.toNat ∧ c.toNat ≤ 57 ∧ x = c.toNat - 48
        ∨ 97 ≤ c.toNat ∧ c.toNat ≤ 122 ∧ x = c.toNat - 87
        ∨ 65 ≤ c.toNat ∧ c.toNat ≤ 90 ∧ x = c.toNat - 55) := by
  unfold digitValue
  simp only
  by_cases hdec : 48 ≤ c.toNat ∧ c.toNat ≤ 57
  · rw [if_pos hdec, Option.ite_none_right_eq_some, Option.some.injEq]
    omega
  · by_cases hlow : 97 ≤ c.toNat ∧ c.toNat ≤ 122
    · rw [if_neg hdec, if_pos hlow, Option.ite_none_right_eq_some, Option.some.injEq]
      omega
    · by_cases hup : 65 ≤ c.toNat ∧ c.toNat ≤ 90
      · rw [if_neg hdec, if_neg hlow, if_pos hup, Option.ite_none_right_eq_some,
          Option.some.injEq]
        omega
      · rw [if_neg hdec, if_neg hlow, if_neg hup, if_neg (Nat.lt_irrefl radix)]
        constructor
        · intro h
          cases h
        · omega

theorem digitValue_lt {radix x : Nat} {c : Char} (h : digitValue radix c = some x) : x < radix :=
  (digitValue_eq_some.mp h).1

/-- A digit is one in every larger radix. -/
theorem digitValue_mono {radix radix' x : Nat} {c : Char} (h : digitValue radix c = some x)
    (hle : radix ≤ radix') : digitValue radix' c = some x := by
  obtain ⟨hlt, hchar⟩ := digitValue_eq_some.mp h
  exact digitValue_eq_some.mpr ⟨Nat.lt_of_lt_of_le hlt hle, hchar⟩

/-- The digits behind those that make `acc`. -/
def parseDigits (bound radix : Nat) : Nat → List Char → Except ParseIntError Nat
  | acc, [] => .ok acc
  | acc, c :: s =>
    match digitValue radix c with
    | none => .error .invalidDigit
    | some x =>
      if acc * radix + x < bound then parseDigits bound radix (acc * radix + x) s
      else .error .posOverflow

/-- An unsigned number below a bound: a `+` may stand in front. -/
def parseUint (bound radix : Nat) (s : List Char) : Except ParseIntError Nat :=
  match s with
  | [] => .error .empty
  | '+' :: c :: s => parseDigits bound radix 0 (c :: s)
  | s => parseDigits bound radix 0 s

/-- The number that digits stand for, behind those that make `acc`. -/
def ofDigits (radix acc : Nat) (ds : List Nat) : Nat := ds.foldl (fun v x => v * radix + x) acc

/-- The text writes the number in the radix, with any number of leading zeros. -/
structure Numeral (radix n : Nat) (s : List Char) : Prop where
  nonempty : s ≠ []
  digits : ∃ ds, s.map (digitValue radix) = ds.map some ∧ ofDigits radix 0 ds = n

theorem Numeral.digit {radix n : Nat} {s : List Char} (h : Numeral radix n s) {c : Char}
    (hc : c ∈ s) : ∃ x, digitValue radix c = some x := by
  obtain ⟨-, ds, hds, -⟩ := h
  have hmem : digitValue radix c ∈ ds.map some := hds ▸ List.mem_map_of_mem hc
  obtain ⟨x, -, hx⟩ := List.mem_map.mp hmem
  exact ⟨x, hx.symm⟩

theorem le_ofDigits {radix : Nat} (h : 1 ≤ radix) (acc : Nat) (ds : List Nat) :
    acc ≤ ofDigits radix acc ds := by
  induction ds generalizing acc with
  | nil => exact Nat.le_refl acc
  | cons x ds ih =>
    have hscale : acc * 1 ≤ acc * radix := Nat.mul_le_mul_left acc h
    have hrest : acc * radix + x ≤ ofDigits radix acc (x :: ds) := ih (acc * radix + x)
    omega

/-- Digits whose number is in range are read as that number. -/
theorem parseDigits_ok {bound radix : Nat} (h : 1 ≤ radix) {s : List Char} {ds : List Nat}
    {acc : Nat} (hs : s.map (digitValue radix) = ds.map some)
    (hbound : ofDigits radix acc ds < bound) :
    parseDigits bound radix acc s = .ok (ofDigits radix acc ds) := by
  induction ds generalizing s acc with
  | nil =>
    obtain rfl : s = [] := List.map_eq_nil_iff.mp hs
    rfl
  | cons x ds ih =>
    obtain ⟨c, s, rfl, hc, hrest⟩ := List.map_eq_cons_iff.mp hs
    have hbound' : ofDigits radix (acc * radix + x) ds < bound := hbound
    have hle := le_ofDigits h (acc * radix + x) ds
    rw [parseDigits, hc]
    simp only
    rw [if_pos (by omega), ih hrest hbound']
    rfl

theorem digitValue_plus (radix : Nat) : digitValue radix '+' = none := by
  unfold digitValue
  simp

theorem parseUint_numeral {bound radix n : Nat} (h : 1 ≤ radix) {s : List Char}
    (hs : Numeral radix n s) (hbound : n < bound) : parseUint bound radix s = .ok n := by
  obtain ⟨hne, ds, hdigits, rfl⟩ := hs
  unfold parseUint
  split
  · exact absurd rfl hne
  · -- a sign is no digit
    cases ds with
    | nil => cases hdigits
    | cons x ds =>
      injection hdigits with hsign
      rw [digitValue_plus] at hsign
      cases hsign
  · exact parseDigits_ok h hdigits hbound

/-- What is read is in range, and the digits make it. -/
theorem digits_of_parseDigits {bound radix n : Nat} {s : List Char} {acc : Nat}
    (h : parseDigits bound radix acc s = .ok n) :
    (∃ ds, s.map (digitValue radix) = ds.map some ∧ ofDigits radix acc ds = n) ∧
      (s ≠ [] → n < bound) := by
  induction s generalizing acc with
  | nil =>
    cases h
    exact ⟨⟨[], rfl, rfl⟩, fun hne => absurd rfl hne⟩
  | cons c s ih =>
    rw [parseDigits] at h
    cases hc : digitValue radix c with
    | none =>
      rw [hc] at h
      cases h
    | some x =>
      rw [hc] at h
      simp only at h
      split at h
      · rename_i hrange
        obtain ⟨⟨ds, hds, hvalue⟩, hbound⟩ := ih h
        refine ⟨⟨x :: ds, ?_, hvalue⟩, fun _ => ?_⟩
        · rw [List.map_cons, hc, hds]
          rfl
        · cases s with
          | nil =>
            cases h
            exact hrange
          | cons d s => exact hbound (List.cons_ne_nil d s)
      · cases h

/-- How a number may be written: a numeral, which may have a plus sign. -/
def SignedNumeral (radix n : Nat) (s : List Char) : Prop :=
  Numeral radix n s ∨ ∃ t, s = '+' :: t ∧ Numeral radix n t

/-- A text is read as a number exactly if it writes one that is in range. -/
theorem parseUint_eq_ok {bound radix n : Nat} (h : 1 ≤ radix) {s : List Char} :
    parseUint bound radix s = .ok n ↔ SignedNumeral radix n s ∧ n < bound := by
  constructor
  · intro hparse
    have hread {t : List Char} (hne : t ≠ []) (ht : parseDigits bound radix 0 t = .ok n) :
        Numeral radix n t ∧ n < bound := by
      obtain ⟨hdigits, hbound⟩ := digits_of_parseDigits ht
      exact ⟨⟨hne, hdigits⟩, hbound hne⟩
    unfold parseUint at hparse
    split at hparse
    · cases hparse
    · obtain ⟨hnum, hbound⟩ := hread (List.cons_ne_nil _ _) hparse
      exact ⟨.inr ⟨_, rfl, hnum⟩, hbound⟩
    · rename_i hne _
      obtain ⟨hnum, hbound⟩ := hread hne hparse
      exact ⟨.inl hnum, hbound⟩
  · rintro ⟨hnum | ⟨t, rfl, hnum⟩, hbound⟩
    · exact parseUint_numeral h hnum hbound
    · obtain ⟨hne, ds, hds, rfl⟩ := hnum
      cases t with
      | nil => exact absurd rfl hne
      | cons c t => exact parseDigits_ok h hds hbound

/-- A character that is neither a digit nor a sign stands in no number. -/
theorem SignedNumeral.notMem {radix n : Nat} {s : List Char} (h : SignedNumeral radix n s)
    {c : Char} (hdigit : digitValue radix c = none) (hsign : c ≠ '+') : c ∉ s := by
  have hnone {t : List Char} (ht : Numeral radix n t) : c ∉ t := by
    intro hc
    obtain ⟨x, hx⟩ := ht.digit hc
    rw [hdigit] at hx
    cases hx
  rcases h with hnum | ⟨t, rfl, hnum⟩
  · exact hnone hnum
  · rw [List.mem_cons, not_or]
    exact ⟨hsign, hnone hnum⟩

/-- The digits, as characters. -/
theorem digitValue_digitChar {radix x : Nat} (h : x < radix) (hradix : radix ≤ 16) :
    digitValue radix (Nat.digitChar x) = some x := by
  have hall : ∀ x : Fin 16, digitValue 16 (Nat.digitChar x.val) = some x.val := by decide
  obtain ⟨-, hchar⟩ := digitValue_eq_some.mp (hall ⟨x, by omega⟩)
  exact digitValue_eq_some.mpr ⟨h, hchar⟩

/-- One more digit, the lowest. -/
theorem Numeral.concat {radix n x : Nat} {s : List Char} {c : Char} (h : Numeral radix n s)
    (hc : digitValue radix c = some x) : Numeral radix (n * radix + x) (s ++ [c]) := by
  obtain ⟨-, ds, hds, hvalue⟩ := h
  refine ⟨by simp, ds ++ [x], ?_, ?_⟩
  · rw [List.map_append, hds, List.map_cons, hc, List.map_append]
    rfl
  · unfold ofDigits at hvalue ⊢
    rw [List.foldl_append, hvalue]
    rfl

/-- One more zero in front. -/
theorem Numeral.zero_cons {radix n : Nat} {s : List Char} (h : Numeral radix n s)
    (hradix : 1 ≤ radix) : Numeral radix n ('0' :: s) := by
  obtain ⟨-, ds, hds, hvalue⟩ := h
  have hzero : digitValue radix '0' = some 0 := digitValue_eq_some.mpr ⟨hradix, by decide⟩
  refine ⟨List.cons_ne_nil _ _, 0 :: ds, ?_, ?_⟩
  · rw [List.map_cons, hzero, hds]
    rfl
  · show ofDigits radix (0 * radix + 0) ds = n
    rw [Nat.zero_mul]
    exact hvalue

/-- Every number is written by its digits. -/
theorem numeral_toDigits {radix : Nat} (h : 1 < radix) (hradix : radix ≤ 16) (n : Nat) :
    Numeral radix n (Nat.toDigits radix n) := by
  by_cases hsmall : n < radix
  · rw [Nat.toDigits_of_lt_base hsmall]
    refine ⟨List.cons_ne_nil _ _, [n], ?_, ?_⟩
    · rw [List.map_cons, digitValue_digitChar hsmall hradix]
      rfl
    · show 0 * radix + n = n
      omega
  · have hless : n / radix < n := Nat.div_lt_self (by omega) h
    have hlast := digitValue_digitChar (Nat.mod_lt n (Nat.zero_lt_of_lt h)) hradix
    have hmore := (numeral_toDigits h hradix (n / radix)).concat hlast
    rw [Nat.div_add_mod'] at hmore
    rw [Nat.toDigits_of_base_le h (Nat.not_lt.mp hsmall)]
    exact hmore

/-- The same with zeros in front, up to a width. -/
theorem numeral_leftpad {radix n : Nat} {s : List Char} (h : Numeral radix n s)
    (hradix : 1 ≤ radix) (width : Nat) : Numeral radix n (s.leftpad width '0') := by
  unfold List.leftpad
  induction width - s.length with
  | zero => exact h
  | succ k ih =>
    rw [List.replicate_succ, List.cons_append]
    exact ih.zero_cons hradix

/-- A digit is a character of one byte. -/
theorem utf8Size_digit {radix x : Nat} {c : Char} (h : digitValue radix c = some x) :
    c.utf8Size = 1 := by
  obtain ⟨-, hchar⟩ := digitValue_eq_some.mp h
  have hval : c.val ≤ 127 := by
    rw [UInt32.le_iff_toNat_le]
    show c.toNat ≤ 127
    omega
  exact if_pos hval

/-! ## Words

  Words are the parts that are not empty. -/

/-- A character put in the place of another that separates words. -/
theorem splitOnP_replace {p : Char → Bool} {mark blank : Char} (h : p blank = true)
    (s : List Char) :
    (s.map fun c => if c = mark then blank else c).splitOnP p =
      s.splitOnP fun c => c = mark || p c := by
  induction s with
  | nil => rfl
  | cons c s ih =>
    rw [List.map_cons, List.splitOnP_cons_eq_if_modifyHead, List.splitOnP_cons_eq_if_modifyHead, ih]
    by_cases hc : c = mark
    · rw [if_pos hc, if_pos h, if_pos (by simp [hc])]
    · rw [if_neg hc]
      simp [hc]

/-! ## Searching a text

  Where a separator stands first; what stands before it does not hold it. -/

/-- Searching behind the text and searching from its beginning find the same. -/
def Skips (sep s : List Char) : Prop :=
  ∀ rest, (splitOnce sep (s ++ rest)).map Prod.snd = (splitOnce sep rest).map Prod.snd

theorem splitOnce_here (sep rest : List Char) : splitOnce sep (sep ++ rest) = some ([], rest) := by
  unfold splitOnce
  rw [if_pos (List.isPrefixOf_iff_prefix.mpr (List.prefix_append sep rest)), List.drop_left]

theorem skips_nil (sep : List Char) : Skips sep [] := fun _ => rfl

theorem Skips.append {sep s t : List Char} (hs : Skips sep s) (ht : Skips sep t) :
    Skips sep (s ++ t) := by
  intro rest
  rw [List.append_assoc, hs, ht]

/-- A character where the separator does not begin. -/
theorem splitOnce_cons {sep rest : List Char} {c : Char} (h : ¬ sep <+: c :: rest) :
    (splitOnce sep (c :: rest)).map Prod.snd = (splitOnce sep rest).map Prod.snd := by
  conv_lhs => unfold splitOnce
  rw [if_neg fun hpre => h (List.isPrefixOf_iff_prefix.mp hpre)]
  simp only
  rw [Option.map_map]
  rfl

/-- A text without the first character of the separator. -/
theorem skips_of_notMem {q : Char} {sep s : List Char} (h : q ∉ s) : Skips (q :: sep) s := by
  induction s with
  | nil => exact skips_nil _
  | cons c s ih =>
    intro rest
    rw [List.mem_cons, not_or] at h
    have hc : ¬ q :: sep <+: c :: (s ++ rest) := by
      rintro ⟨t, ht⟩
      injection ht with hq
      exact h.1 hq
    rw [List.cons_append, splitOnce_cons hc]
    exact ih h.2 rest

/-- The text before the first separator, if nothing in it begins one. -/
theorem splitOnce_sep {q : Char} {sep s : List Char} (h : q ∉ s) (rest : List Char) :
    splitOnce (q :: sep) (s ++ (q :: sep ++ rest)) = some (s, rest) := by
  induction s with
  | nil => exact splitOnce_here (q :: sep) rest
  | cons c s ih =>
    rw [List.mem_cons, not_or] at h
    have hc : ¬ List.isPrefixOf (q :: sep) (c :: (s ++ (q :: sep ++ rest))) = true := by
      rw [List.isPrefixOf_iff_prefix]
      rintro ⟨t, ht⟩
      injection ht with hq
      exact h.1 hq
    rw [List.cons_append, splitOnce, if_neg hc, ih h.2]
    rfl

/-- The text before the first mark. -/
theorem splitOnce_mark {q : Char} {s : List Char} (h : q ∉ s) (rest : List Char) :
    splitOnce [q] (s ++ q :: rest) = some (s, rest) :=
  @splitOnce_sep q [] s h rest

/-- Without the first character of the separator there is none. -/
theorem splitOnce_none {q : Char} {sep s : List Char} (h : q ∉ s) :
    splitOnce (q :: sep) s = none := by
  induction s with
  | nil => rfl
  | cons c s ih =>
    rw [List.mem_cons, not_or] at h
    have hc : ¬ List.isPrefixOf (q :: sep) (c :: s) = true := by
      rw [List.isPrefixOf_iff_prefix]
      rintro ⟨t, ht⟩
      injection ht with hq
      exact h.1 hq
    rw [splitOnce, if_neg hc, ih h.2]
    rfl

/-- Both parts, and the separator between them. -/
theorem splitOnce_some {sep s a b : List Char} (h : splitOnce sep s = some (a, b)) :
    s = a ++ (sep ++ b) := by
  induction s generalizing a with
  | nil =>
    unfold splitOnce at h
    split at h
    · rename_i hpre
      cases h
      have hsep := List.prefix_nil.mp (List.isPrefixOf_iff_prefix.mp hpre)
      rw [hsep]
      rfl
    · cases h
  | cons c s ih =>
    unfold splitOnce at h
    split at h
    · rename_i hpre
      cases h
      obtain ⟨t, ht⟩ := List.isPrefixOf_iff_prefix.mp hpre
      rw [← ht, List.drop_left]
      rfl
    · obtain ⟨⟨a', b'⟩, hsplit, heq⟩ := Option.map_eq_some_iff.mp h
      cases heq
      rw [ih hsplit]
      rfl

/-- What a mark ends is what it ends. -/
theorem eq_of_prefix_mark {q : Char} {a b rest : List Char} (ha : q ∉ a) (hb : q ∉ b)
    (h : a ++ [q] <+: b ++ q :: rest) : a = b := by
  induction a generalizing b with
  | nil =>
    cases b with
    | nil => rfl
    | cons c b =>
      obtain ⟨t, ht⟩ := h
      injection ht with hq
      exact absurd (hq ▸ List.mem_cons_self) hb
  | cons c a ih =>
    rw [List.mem_cons, not_or] at ha
    obtain ⟨t, ht⟩ := h
    cases b with
    | nil =>
      injection ht with hq
      exact absurd hq.symm ha.1
    | cons d b =>
      injection ht with hcd htail
      rw [List.mem_cons, not_or] at hb
      rw [hcd, ih ha.2 hb.2 ⟨t, htail⟩]

/-- A text between two marks, and a character that is no part of the one searched for. -/
theorem skips_marked {q c : Char} {key s : List Char} (hkey : q ∉ key) (hs : q ∉ s) (hne : s ≠ key)
    (hc : c ≠ q) (hckey : c ∉ key) : Skips (q :: (key ++ [q])) (q :: (s ++ [q, c])) := by
  intro rest
  have hfirst : ¬ q :: (key ++ [q]) <+: q :: (s ++ q :: c :: rest) := by
    rintro ⟨t, ht⟩
    injection ht with _ htail
    exact hne (eq_of_prefix_mark hkey hs ⟨t, htail⟩).symm
  have hlast : ¬ q :: (key ++ [q]) <+: q :: c :: rest := by
    rintro ⟨t, ht⟩
    injection ht with _ htail
    cases key with
    | nil =>
      injection htail with hq
      exact hc hq.symm
    | cons d key =>
      injection htail with hd
      exact hckey (hd ▸ List.mem_cons_self)
  have happ : q :: (s ++ [q, c]) ++ rest = q :: (s ++ q :: c :: rest) := by simp
  rw [happ, splitOnce_cons hfirst, skips_of_notMem hs, splitOnce_cons hlast]
  exact skips_of_notMem (s := [c]) (by simpa using hc.symm) rest

end Text
