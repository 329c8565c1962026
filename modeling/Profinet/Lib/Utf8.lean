/-
  BYTES AS TEXT.

  UTF-8 codes a character as a lead byte and up to three continuation bytes; which range the first
  of these has to be in depends on the lead byte (no overlong forms, no surrogates, nothing above
  U+10FFFF).  A decoder that comes upon anything else fails; or it puts U+FFFD in the place of the
  longest run of bytes that could have begun a character, and goes on behind it.
-/
import Mathlib.Algebra.GroupWithZero.Nat
import Mathlib.Data.List.Basic

namespace Utf8

/-- What follows a lead byte: how many bytes, and the range of the first of them. -/
structure Shape where
  count : Nat
  low : UInt8
  high : UInt8
  deriving DecidableEq

/-- The length of a sequence and the range of its second byte, by its first. -/
def shape (lead : UInt8) : Option Shape :=
  if lead < 0xC2 then none
  else if lead ≤ 0xDF then some ⟨1, 0x80, 0xBF⟩
  else if lead = 0xE0 then some ⟨2, 0xA0, 0xBF⟩
  else if lead = 0xED then some ⟨2, 0x80, 0x9F⟩
  else if lead ≤ 0xEF then some ⟨2, 0x80, 0xBF⟩
  else if lead = 0xF0 then some ⟨3, 0x90, 0xBF⟩
  else if lead ≤ 0xF3 then some ⟨3, 0x80, 0xBF⟩
  else if lead = 0xF4 then some ⟨3, 0x80, 0x8F⟩
  else none

/-- How many of the bytes continue a character: at most `count`, the first in its own range. -/
def continues : Nat → UInt8 → UInt8 → List UInt8 → Nat
  | count + 1, low, high, b :: rest =>
    if low ≤ b ∧ b ≤ high then continues count 0x80 0xBF rest + 1 else 0
  | _, _, _, _ => 0

/-- The scalar value of a lead byte and its continuation bytes: six bits of each of these. -/
def scalar (lead : UInt8) (tail : List UInt8) : Nat :=
  tail.foldl (fun v b => v * 64 + b.toNat % 64) (lead.toNat % 2 ^ (6 - tail.length))

/-- `char::REPLACEMENT_CHARACTER`. -/
def replacement : Char := Char.ofNat 0xFFFD

/-- `from_utf8_lossy`: the characters, with U+FFFD for every sequence that is none. -/
def lossyChars : List UInt8 → List Char
  | [] => []
  | lead :: rest =>
    if lead < 0x80 then Char.ofNat lead.toNat :: lossyChars rest
    else
      match shape lead with
      | none => replacement :: lossyChars rest
      | some s =>
        let n := continues s.count s.low s.high rest
        let c := if n = s.count then Char.ofNat (scalar lead (rest.take n)) else replacement
        c :: lossyChars (rest.drop n)
  termination_by bytes => bytes.length
  decreasing_by
    all_goals
      simp only [List.length_cons, List.length_drop]
      omega

/-- `String::from_utf8_lossy`. -/
def fromUtf8Lossy (bytes : List UInt8) : String := String.ofList (lossyChars bytes)

@[simp] theorem fromUtf8Lossy_nil : fromUtf8Lossy [] = "" := by
  rw [fromUtf8Lossy, lossyChars, String.ofList_nil]

/-- `String::from_utf8`: the characters, if all of the bytes code some. -/
def fromUtf8 : List UInt8 → Option (List Char)
  | [] => some []
  | lead :: rest =>
    if lead < 0x80 then (fromUtf8 rest).map (Char.ofNat lead.toNat :: ·)
    else
      match shape lead with
      | none => none
      | some s =>
        let n := continues s.count s.low s.high rest
        if n = s.count then
          (fromUtf8 (rest.drop n)).map (Char.ofNat (scalar lead (rest.take n)) :: ·)
        else none
  termination_by bytes => bytes.length
  decreasing_by
    all_goals
      simp only [List.length_cons, List.length_drop]
      omega

end Utf8
