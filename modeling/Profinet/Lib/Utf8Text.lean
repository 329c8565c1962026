/-
  TEXT AS BYTES, AND BACK.

  The lossy decoder gives the text back that was coded.  A character is coded by a lead byte that
  tells its length and by bytes of six bits each; `shape_two`, `shape_three` and `shape_four` say
  what the decoder takes the lead byte for, and the range it has for the byte behind it is the one
  that the scalar values of this length leave.  No byte of a text is zero but the code of NUL, so
  that zeros cut off its end are characters cut off its end (`trimZeros_utf8`).
-/
import Mathlib.Data.List.DropRight
import Profinet.Lib.Utf8

namespace Utf8

/-- The bytes a text is coded in. -/
def utf8 (s : List Char) : List UInt8 := s.flatMap String.utf8EncodeChar

@[simp] theorem utf8_nil : utf8 [] = [] := rfl

@[simp] theorem utf8_cons (c : Char) (s : List Char) :
    utf8 (c :: s) = String.utf8EncodeChar c ++ utf8 s := rfl

theorem utf8_append (s t : List Char) : utf8 (s ++ t) = utf8 s ++ utf8 t := List.flatMap_append

/-! ## One character -/

/-- A byte that continues a character with six bits. -/
def cont (x : Nat) : UInt8 := UInt8.ofNat (x % 64 + 128)

theorem cont_toNat (x : Nat) : (cont x).toNat = x % 64 + 128 := by
  rw [cont, UInt8.toNat_ofNat']
  omega

theorem shape_two : ∀ k < 32, 2 ≤ k → shape (UInt8.ofNat (k + 192)) = some ⟨1, 0x80, 0xBF⟩ := by
  decide

theorem shape_three : ∀ k < 16, shape (UInt8.ofNat (k + 224)) =
    some ⟨2, if k = 0 then 0xA0 else 0x80, if k = 13 then 0x9F else 0xBF⟩ := by
  decide

theorem shape_four : ∀ k < 5, shape (UInt8.ofNat (k + 240)) =
    some ⟨3, if k = 0 then 0x90 else 0x80, if k = 4 then 0x8F else 0xBF⟩ := by
  decide

theorem continues_cons {count : Nat} {low high b : UInt8} {rest : List UInt8} (hlow : low ≤ b)
    (hhigh : b ≤ high) : continues (count + 1) low high (b :: rest) =
      continues count 0x80 0xBF rest + 1 := by
  rw [continues, if_pos ⟨hlow, hhigh⟩]

theorem continues_cont (count x : Nat) (rest : List UInt8) :
    continues (count + 1) 0x80 0xBF (cont x :: rest) = continues count 0x80 0xBF rest + 1 := by
  have hx := cont_toNat x
  apply continues_cons
  · rw [UInt8.le_iff_toNat_le, hx]
    show 128 ≤ _
    omega
  · rw [UInt8.le_iff_toNat_le, hx]
    show _ ≤ 191
    omega

/-- A lead byte with all of its continuation. -/
theorem lossyChars_lead {lead : UInt8} {s : Shape} {tail rest : List UInt8}
    (hlead : ¬ lead < 0x80) (hshape : shape lead = some s) (hcount : tail.length = s.count)
    (hcont : continues s.count s.low s.high (tail ++ rest) = s.count) :
    lossyChars (lead :: (tail ++ rest)) = Char.ofNat (scalar lead tail) :: lossyChars rest := by
  rw [lossyChars, if_neg hlead, hshape]
  simp only
  rw [hcont, if_pos rfl, ← hcount, List.take_left, List.drop_left]

/-- A scalar value of two bytes. -/
theorem lossyChars_two {v : Nat} (hlow : 0x80 ≤ v) (hhigh : v ≤ 0x7FF) (rest : List UInt8) :
    lossyChars (UInt8.ofNat (v / 64 % 32 + 192) :: ([cont v] ++ rest)) =
      Char.ofNat v :: lossyChars rest := by
  have hlead : (UInt8.ofNat (v / 64 % 32 + 192)).toNat = v / 64 + 192 := by
    rw [UInt8.toNat_ofNat']
    omega
  have hv : scalar (UInt8.ofNat (v / 64 % 32 + 192)) [cont v] = v := by
    show (UInt8.ofNat _).toNat % 32 * 64 + (cont v).toNat % 64 = v
    rw [hlead, cont_toNat]
    omega
  rw [lossyChars_lead ?_ (shape_two (v / 64 % 32) (by omega) (by omega)) rfl
    (continues_cont 0 v rest), hv]
  rw [UInt8.lt_iff_toNat_lt, hlead]
  show ¬ _ < 128
  omega

/-- A first continuation byte in a range of its own. -/
theorem continues_first {count x : Nat} {low high : UInt8} (hlow : low.toNat ≤ x % 64 + 128)
    (hhigh : x % 64 + 128 ≤ high.toNat) (rest : List UInt8) :
    continues (count + 1) low high (cont x :: rest) = continues count 0x80 0xBF rest + 1 := by
  apply continues_cons
  · rw [UInt8.le_iff_toNat_le, cont_toNat]
    exact hlow
  · rw [UInt8.le_iff_toNat_le, cont_toNat]
    exact hhigh

/-- A scalar value of three bytes: the surrogates are the gap that the lead 0xED leaves. -/
theorem lossyChars_three {v : Nat} (hlow : 0x800 ≤ v) (hhigh : v ≤ 0xFFFF)
    (hvalid : v < 0xD800 ∨ 0xDFFF < v) (rest : List UInt8) :
    lossyChars (UInt8.ofNat (v / 4096 % 16 + 224) :: ([cont (v / 64), cont v] ++ rest)) =
      Char.ofNat v :: lossyChars rest := by
  have hlead : (UInt8.ofNat (v / 4096 % 16 + 224)).toNat = v / 4096 + 224 := by
    rw [UInt8.toNat_ofNat']
    omega
  have hv : scalar (UInt8.ofNat (v / 4096 % 16 + 224)) [cont (v / 64), cont v] = v := by
    show ((UInt8.ofNat _).toNat % 16 * 64 + (cont (v / 64)).toNat % 64) * 64 +
      (cont v).toNat % 64 = v
    rw [hlead, cont_toNat, cont_toNat]
    omega
  have hcont : continues 2 (if v / 4096 % 16 = 0 then 0xA0 else 0x80)
      (if v / 4096 % 16 = 13 then 0x9F else 0xBF) (cont (v / 64) :: cont v :: rest) = 2 := by
    rw [continues_first ?_ ?_, continues_cont]
    · rfl
    · split
      · show 160 ≤ _
        omega
      · show 128 ≤ _
        omega
    · split
      · show _ ≤ 159
        omega
      · show _ ≤ 191
        omega
  rw [lossyChars_lead ?_ (shape_three (v / 4096 % 16) (by omega)) rfl hcont, hv]
  rw [UInt8.lt_iff_toNat_lt, hlead]
  show ¬ _ < 128
  omega

theorem lossyChars_four {v : Nat} (hlow : 0x10000 ≤ v) (hhigh : v < 0x110000)
    (rest : List UInt8) :
    lossyChars (UInt8.ofNat (v / 262144 % 8 + 240) ::
      ([cont (v / 4096), cont (v / 64), cont v] ++ rest)) = Char.ofNat v :: lossyChars rest := by
  have hsmall : v / 262144 % 8 = v / 262144 := by omega
  have hlead : (UInt8.ofNat (v / 262144 % 8 + 240)).toNat = v / 262144 + 240 := by
    rw [UInt8.toNat_ofNat']
    omega
  have hv : scalar (UInt8.ofNat (v / 262144 % 8 + 240)) [cont (v / 4096), cont (v / 64), cont v] =
      v := by
    show (((UInt8.ofNat _).toNat % 8 * 64 + (cont (v / 4096)).toNat % 64) * 64 +
      (cont (v / 64)).toNat % 64) * 64 + (cont v).toNat % 64 = v
    rw [hlead, cont_toNat, cont_toNat, cont_toNat]
    omega
  have hcont : continues 3 (if v / 262144 % 8 = 0 then 0x90 else 0x80)
      (if v / 262144 % 8 = 4 then 0x8F else 0xBF)
      (cont (v / 4096) :: cont (v / 64) :: cont v :: rest) = 3 := by
    rw [continues_first ?_ ?_, continues_cont, continues_cont]
    · rfl
    · split
      · show 144 ≤ _
        omega
      · show 128 ≤ _
        omega
    · split
      · show _ ≤ 143
        omega
      · show _ ≤ 191
        omega
  rw [lossyChars_lead ?_ (shape_four (v / 262144 % 8) (by omega)) rfl hcont, hv]
  rw [UInt8.lt_iff_toNat_lt, hlead]
  show ¬ _ < 128
  omega

theorem lossyChars_one {v : Nat} (h : v ≤ 0x7F) (rest : List UInt8) :
    lossyChars (UInt8.ofNat v :: rest) = Char.ofNat v :: lossyChars rest := by
  have hlead : (UInt8.ofNat v).toNat = v := by
    rw [UInt8.toNat_ofNat']
    omega
  rw [lossyChars, if_pos, hlead]
  rw [UInt8.lt_iff_toNat_lt, hlead]
  show v < 128
  omega

/-- The bytes of a scalar value, by how many there are. -/
inductive Coded (v : Nat) : List UInt8 → Prop where
  | one : v ≤ 0x7F → Coded v [UInt8.ofNat v]
  | two : 0x80 ≤ v → v ≤ 0x7FF → Coded v [UInt8.ofNat (v / 64 % 32 + 192), cont v]
  | three : 0x800 ≤ v → v ≤ 0xFFFF → v < 0xD800 ∨ 0xDFFF < v →
      Coded v [UInt8.ofNat (v / 4096 % 16 + 224), cont (v / 64), cont v]
  | four : 0x10000 ≤ v → v < 0x110000 →
      Coded v [UInt8.ofNat (v / 262144 % 8 + 240), cont (v / 4096), cont (v / 64), cont v]

theorem coded_char (c : Char) : Coded c.val.toNat (String.utf8EncodeChar c) := by
  have hvalid : c.val.toNat < 0xD800 ∨ 0xDFFF < c.val.toNat ∧ c.val.toNat < 0x110000 := c.valid
  unfold String.utf8EncodeChar
  simp only
  by_cases hone : c.val.toNat ≤ 0x7F
  · rw [if_pos hone]
    exact .one hone
  · rw [if_neg hone]
    by_cases htwo : c.val.toNat ≤ 0x7FF
    · rw [if_pos htwo]
      exact .two (by omega) htwo
    · rw [if_neg htwo]
      by_cases hthree : c.val.toNat ≤ 0xFFFF
      · rw [if_pos hthree]
        exact .three (by omega) hthree (by omega)
      · rw [if_neg hthree]
        exact .four (by omega) (by omega)

theorem lossyChars_char (c : Char) (rest : List UInt8) :
    lossyChars (String.utf8EncodeChar c ++ rest) = c :: lossyChars rest := by
  have hc : Char.ofNat c.val.toNat = c := Char.ofNat_toNat c
  have hcoded := coded_char c
  generalize String.utf8EncodeChar c = bytes at hcoded
  cases hcoded with
  | one h => exact (lossyChars_one h rest).trans (by rw [hc])
  | two hlow hhigh => exact (lossyChars_two hlow hhigh rest).trans (by rw [hc])
  | three hlow hhigh hgap => exact (lossyChars_three hlow hhigh hgap rest).trans (by rw [hc])
  | four hlow hhigh => exact (lossyChars_four hlow hhigh rest).trans (by rw [hc])

/-! ## A text -/

/-- What was coded is decoded. -/
theorem lossyChars_utf8 (s : List Char) : lossyChars (utf8 s) = s := by
  induction s with
  | nil => rw [utf8_nil, lossyChars]
  | cons c s ih => rw [utf8_cons, lossyChars_char, ih]

theorem cont_ne_zero (x : Nat) : cont x ≠ 0 := by
  intro hzero
  have hnat : 0 = x % 64 + 128 := by
    rw [← cont_toNat, hzero]
    rfl
  omega

/-- The last byte of a character is zero for NUL only. -/
theorem utf8EncodeChar_last {c : Char} (h : c ≠ Char.ofNat 0) :
    ∃ front b, String.utf8EncodeChar c = front ++ [b] ∧ b ≠ 0 := by
  have hcoded := coded_char c
  generalize String.utf8EncodeChar c = bytes at hcoded
  cases hcoded with
  | one hsmall =>
    refine ⟨[], UInt8.ofNat c.val.toNat, rfl, ?_⟩
    intro hzero
    have hnat : c.val.toNat % 2 ^ 8 = 0 := by
      rw [← UInt8.toNat_ofNat', hzero]
      rfl
    have hc : c.val.toNat = 0 := by omega
    apply h
    rw [← Char.ofNat_toNat c]
    exact congrArg Char.ofNat hc
  | two _ _ => exact ⟨[_], _, rfl, cont_ne_zero _⟩
  | three _ _ _ => exact ⟨[_, _], _, rfl, cont_ne_zero _⟩
  | four _ _ => exact ⟨[_, _, _], _, rfl, cont_ne_zero _⟩

/-- Zeros at the end are the NULs at the end. -/
theorem trimZeros_utf8 (s : List Char) :
    (utf8 s).rdropWhile (· = 0) = utf8 (s.rdropWhile (· = Char.ofNat 0)) := by
  induction s using List.reverseRecOn with
  | nil => rfl
  | append_singleton s c ih =>
    by_cases hc : c = Char.ofNat 0
    · subst hc
      rw [utf8_append, List.rdropWhile_concat_pos _ _ _ (by simp), ← ih]
      exact List.rdropWhile_concat_pos _ _ _ (by decide)
    · obtain ⟨front, b, hcode, hb⟩ := utf8EncodeChar_last hc
      rw [List.rdropWhile_concat_neg _ _ _ (by simpa using hc), utf8_append, utf8_cons, utf8_nil,
        List.append_nil, hcode, ← List.append_assoc,
        List.rdropWhile_concat_neg _ _ _ (by simpa using hb)]

end Utf8
