/-
  FIELDS: a text of fields between separators, read and written.

  A reader splits the text at the separator and reads each field on its own; a writer joins what it
  writes for the values.  Where reading a field is the inverse of writing a value up to the spelling
  of the characters, reading the text is the inverse of writing the row (`mapM_fields_eq_ok`): what
  is read is what was written, and a text is read only if it spells what would be written.

  The separator, the spelling and the values are parameters.
-/
import Mathlib.Data.List.Forall2
import Profinet.Lib.Text
import Profinet.Lib.Walk

namespace Fields

variable {α β ε : Type}

theorem mapM_eq_ok {f : α → Except ε β} {l : List α} {bs : List β} :
    l.mapM f = .ok bs ↔ List.Forall₂ (fun a b => f a = .ok b) l bs := by
  induction l generalizing bs with
  | nil =>
    constructor
    · intro h
      cases h
      exact .nil
    · intro h
      cases h
      rfl
  | cons a l ih =>
    rw [List.mapM_cons]
    constructor
    · intro h
      obtain ⟨b, hb, h⟩ := Walk.ok_of_bind h
      obtain ⟨rest, hrest, h⟩ := Walk.ok_of_bind h
      cases h
      exact .cons hb (ih.mp hrest)
    · rintro (_ | ⟨ha, hl⟩)
      rw [ha, ih.mpr hl]
      rfl

section

variable {sep : Char} {spell : Char → Char}

/-- Spelling the characters otherwise splits the text at the same places, if it leaves the separator
    and makes no other character one. -/
theorem splitOn_map (hsep : ∀ c, spell c = sep ↔ c = sep) (s : List Char) :
    (s.map spell).splitOn sep = (s.splitOn sep).map (List.map spell) := by
  induction s with
  | nil => rfl
  | cons c s ih =>
    rw [List.map_cons, List.splitOn_cons_eq_if_modifyHead, List.splitOn_cons_eq_if_modifyHead]
    by_cases hc : c = sep
    · rw [if_pos (beq_iff_eq.mpr ((hsep c).mpr hc)), if_pos (beq_iff_eq.mpr hc), ih]
      rfl
    · have hspell : ¬ spell c = sep := fun h => hc ((hsep c).mp h)
      rw [if_neg (by simpa using hspell), if_neg (by simpa using hc), ih]
      cases s.splitOn sep with
      | nil => rfl
      | cons p ps => rfl

variable {read : List Char → Except ε β} {write : β → List Char}

/-- **Reading a row of fields is the inverse of writing it**, up to the spelling. -/
theorem mapM_fields_eq_ok (hsep : ∀ c, spell c = sep ↔ c = sep)
    (hread : ∀ field b, read field = .ok b ↔ field.map spell = write b)
    (hwrite : ∀ b, sep ∉ write b) {s : List Char} {bs : List β} (hbs : bs ≠ []) :
    (s.splitOn sep).mapM read = .ok bs ↔ s.map spell = [sep].intercalate (bs.map write) := by
  have hrow : (s.splitOn sep).mapM read = .ok bs
      ↔ (s.splitOn sep).map (List.map spell) = bs.map write := by
    rw [mapM_eq_ok, ← List.forall₂_eq_eq_eq, List.forall₂_map_left_iff, List.forall₂_map_right_iff]
    simp only [hread]
  rw [hrow, ← splitOn_map hsep]
  constructor
  · intro h
    rw [← h, List.intercalate_splitOn]
  · intro h
    rw [h, List.splitOn_intercalate]
    · intro field hfield
      obtain ⟨b, -, rfl⟩ := List.mem_map.mp hfield
      exact hwrite b
    · exact fun hnil => hbs (List.map_eq_nil_iff.mp hnil)

end

end Fields
