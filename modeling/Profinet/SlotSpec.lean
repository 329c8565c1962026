/-
  SLOT SPECS: which slots a spec of a GSDML document stands for.

      1..3        1 2 3              5..4        none
      1, 2 +5     1 2 5              0..65535    refused: more than 4096

  A spec is a list of parts between commas and white space, each a number of two bytes or a range of
  them, and it stands for the slots of its parts, one part behind the other.  The cap is checked
  before a part is added, in one way for a range and in another for a number; both let exactly those
  lists through that are no longer than it (`addSlotSpecPart_ok`).  The sums are made in `usize`,
  which neither a full list nor the whole range takes to its end (`parseSlotSpecChecked_ok`).
-/
import Profinet.GsdmlParser

namespace Profinet.Gsdml

open Checked Text Walk

/-! ## What a spec stands for -/

/-- One part of a slot spec. -/
inductive SlotPart where
  | slot (n : UInt16)
  | slots (first last : UInt16)
  deriving DecidableEq, Repr

/-- The slots of a part, ascending. -/
def SlotPart.values : SlotPart → List UInt16
  | slot n => [n]
  | slots first last =>
    ((List.range 65536).map UInt16.ofNat).filter fun n => first ≤ n && n ≤ last

/-- How a part may be written. -/
inductive SlotPart.Text : SlotPart → List Char → Prop where
  | slot {n : UInt16} {s : List Char} : SignedNumeral 10 n.toNat s → Text (slot n) s
  | slots {first last : UInt16} {a b : List Char} :
      SignedNumeral 10 first.toNat a → SignedNumeral 10 last.toNat b →
      Text (slots first last) (a ++ ("..".toList ++ b))

/-- What stands between commas and white space. -/
def slotParts (spec : String) : List (List Char) :=
  (spec.toList.splitOnP fun c => c = ',' || isWhitespace c).filter (· ≠ [])

/-- The numbers from `first` to `last` among the first `n`. -/
theorem filter_range (first last n : Nat) :
    (List.range n).filter (fun i => first ≤ i && i ≤ last) =
      List.range' first (min n (last + 1) - first) := by
  induction n with
  | zero =>
    rw [Nat.zero_min, Nat.zero_sub]
    rfl
  | succ n ih =>
    rw [List.range_succ, List.filter_append, ih]
    by_cases hin : first ≤ n ∧ n ≤ last
    · have hnext : min (n + 1) (last + 1) - first = min n (last + 1) - first + 1 := by omega
      have hend : first + (min n (last + 1) - first) = n := by omega
      rw [hnext, List.range'_1_concat, hend]
      simp [hin]
    · have hsame : min (n + 1) (last + 1) - first = min n (last + 1) - first := by omega
      rw [hsame]
      simp [hin]

/-- The range of the language is the part it stands for. -/
theorem slotRange_eq (first last : UInt16) :
    slotRange first last = (SlotPart.slots first last).values := by
  have hlast := last.toNat_lt
  have hsame (n : Nat) (hn : n ∈ List.range 65536) :
      ((fun v : UInt16 => decide (first ≤ v) && decide (v ≤ last)) ∘ UInt16.ofNat) n =
        (decide (first.toNat ≤ n) && decide (n ≤ last.toNat)) := by
    have hval : (UInt16.ofNat n).toNat = n := by
      rw [UInt16.toNat_ofNat']
      exact Nat.mod_eq_of_lt (List.mem_range.mp hn)
    simp only [Function.comp_apply, UInt16.le_iff_toNat_le, hval]
  show (List.range' first.toNat (last.toNat + 1 - first.toNat)).map UInt16.ofNat =
    ((List.range 65536).map UInt16.ofNat).filter fun v => first ≤ v && v ≤ last
  rw [List.filter_map, List.filter_congr hsame, filter_range, Nat.min_eq_right (by omega)]

theorem slotRange_length (first last : UInt16) :
    (slotRange first last).length = last.toNat + 1 - first.toNat := by
  unfold slotRange
  rw [List.length_map, List.length_range']

/-- A range that descends has no slots. -/
theorem values_descending {first last : UInt16} (h : last < first) :
    (SlotPart.slots first last).values = [] := by
  have hlt := UInt16.lt_iff_toNat_lt.mp h
  rw [← slotRange_eq]
  apply List.eq_nil_of_length_eq_zero
  rw [slotRange_length]
  omega

/-! ## One part -/

theorem parseSlotNumber_eq_ok {part s : List Char} {n : UInt16} :
    parseSlotNumber part s = .ok n ↔ SignedNumeral 10 n.toNat s := by
  have hread (m : Nat) : parseUint (2 ^ 16) 10 s = .ok m ↔ SignedNumeral 10 m s ∧ m < 2 ^ 16 :=
    parseUint_eq_ok (by decide)
  unfold parseSlotNumber
  constructor
  · intro h
    cases hparse : parseUint (2 ^ 16) 10 s with
    | error e =>
      rw [hparse] at h
      cases h
    | ok m =>
      rw [hparse] at h
      cases h
      obtain ⟨hnum, hlt⟩ := (hread m).mp hparse
      rwa [UInt16.toNat_ofNat', Nat.mod_eq_of_lt hlt]
  · intro h
    rw [(hread n.toNat).mpr ⟨h, n.toNat_lt⟩]
    simp only [UInt16.ofNat_toNat]

/-- No number has a dot in it. -/
theorem dot_notMem {n : Nat} {s : List Char} (h : SignedNumeral 10 n s) : '.' ∉ s :=
  h.notMem (by decide) (by decide)

/-- A number is added if there is room for it. -/
theorem addSlotSpecPart_slot {result slots : List UInt16} {part : List Char}
    (hpart : splitOnce "..".toList part = none) :
    addSlotSpecPart result part = .ok slots ↔ ∃ n : UInt16,
      SignedNumeral 10 n.toNat part ∧ slots = result ++ [n] ∧ slots.length ≤ maxSlots := by
  have hstep : addSlotSpecPart result part =
      if maxSlots ≤ result.length then .error .slotSpecTooLong
      else parseSlotNumber part part >>= fun n => .ok (result ++ [n]) := by
    unfold addSlotSpecPart
    rw [show splitOnce ['.', '.'] part = none from hpart]
    rfl
  rw [hstep]
  -- a full list takes no part, and a number is one slot
  by_cases hfull : maxSlots ≤ result.length
  · rw [if_pos hfull]
    constructor
    · intro h
      cases h
    · rintro ⟨n, -, rfl, hlen⟩
      rw [List.length_append, List.length_singleton] at hlen
      omega
  · rw [if_neg hfull]
    simp only [bind_eq_ok, parseSlotNumber_eq_ok, Except.ok.injEq]
    constructor
    · rintro ⟨n, hn, rfl⟩
      refine ⟨n, hn, rfl, ?_⟩
      rw [List.length_append, List.length_singleton]
      omega
    · rintro ⟨n, hn, rfl, -⟩
      exact ⟨n, hn, rfl⟩

/-- A range is added if there is room for all of it. -/
theorem addSlotSpecPart_slots {result slots : List UInt16} {part a b : List Char}
    (hresult : result.length ≤ maxSlots) (hpart : splitOnce "..".toList part = some (a, b)) :
    addSlotSpecPart result part = .ok slots ↔ ∃ first last : UInt16,
      SignedNumeral 10 first.toNat a ∧ SignedNumeral 10 last.toNat b ∧
        slots = result ++ slotRange first last ∧ slots.length ≤ maxSlots := by
  have hstep : addSlotSpecPart result part =
      parseSlotNumber part a >>= fun first => parseSlotNumber part b >>= fun last =>
        if first ≤ last ∧ maxSlots < result.length + (last.toNat - first.toNat + 1) then
          .error (.slotSpecPartTooLong (String.ofList part))
        else .ok (result ++ slotRange first last) := by
    unfold addSlotSpecPart
    rw [show splitOnce ['.', '.'] part = some (a, b) from hpart]
  rw [hstep]
  simp only [bind_eq_ok, parseSlotNumber_eq_ok]
  -- a range that does not descend has as many slots as the span says, any other has none
  have hroom (first last : UInt16) :
      ¬(first ≤ last ∧ maxSlots < result.length + (last.toNat - first.toNat + 1)) ↔
        (result ++ slotRange first last).length ≤ maxSlots := by
    rw [List.length_append, slotRange_length, UInt16.le_iff_toNat_le]
    omega
  constructor
  · rintro ⟨first, hfirst, last, hlast, h⟩
    split at h
    · cases h
    · rename_i hfits
      cases h
      exact ⟨first, last, hfirst, hlast, rfl, (hroom first last).mp hfits⟩
  · rintro ⟨first, last, hfirst, hlast, rfl, hlen⟩
    exact ⟨first, hfirst, last, hlast, if_neg ((hroom first last).mpr hlen)⟩

/-- A part is added if it can be read and the list stays within the cap. -/
theorem addSlotSpecPart_ok {result slots : List UInt16} {part : List Char}
    (hresult : result.length ≤ maxSlots) :
    addSlotSpecPart result part = .ok slots ↔
      ∃ p : SlotPart, p.Text part ∧ slots = result ++ p.values ∧ slots.length ≤ maxSlots := by
  constructor
  · intro h
    cases hpart : splitOnce "..".toList part with
    | none =>
      obtain ⟨n, hn, hslots⟩ := (addSlotSpecPart_slot hpart).mp h
      exact ⟨.slot n, .slot hn, hslots⟩
    | some ab =>
      obtain ⟨first, last, hfirst, hlast, hslots⟩ := (addSlotSpecPart_slots hresult hpart).mp h
      rw [slotRange_eq] at hslots
      rw [splitOnce_some hpart]
      exact ⟨.slots first last, .slots hfirst hlast, hslots⟩
  · rintro ⟨p, htext, hslots⟩
    cases htext with
    | @slot n s hn =>
      have hpart : splitOnce "..".toList part = none := splitOnce_none (dot_notMem hn)
      exact (addSlotSpecPart_slot hpart).mpr ⟨n, hn, hslots⟩
    | @slots first last a b hfirst hlast =>
      have hpart : splitOnce "..".toList (a ++ ("..".toList ++ b)) = some (a, b) :=
        splitOnce_sep (dot_notMem hfirst) b
      rw [← slotRange_eq] at hslots
      exact (addSlotSpecPart_slots hresult hpart).mpr ⟨first, last, hfirst, hlast, hslots⟩

/-! ## The whole spec -/

theorem addSlotSpecParts_ok {parts : List (List Char)} {result slots : List UInt16}
    (hresult : result.length ≤ maxSlots) :
    parts.foldlM addSlotSpecPart result = .ok slots ↔
      ∃ ps : List SlotPart, List.Forall₂ SlotPart.Text ps parts ∧
        slots = result ++ ps.flatMap SlotPart.values ∧ slots.length ≤ maxSlots := by
  induction parts generalizing result with
  | nil =>
    constructor
    · intro h
      cases h
      exact ⟨[], .nil, (List.append_nil _).symm, hresult⟩
    · rintro ⟨ps, htexts, rfl, -⟩
      cases htexts
      exact congrArg Except.ok (List.append_nil result).symm
  | cons part parts ih =>
    rw [List.foldlM_cons, bind_eq_ok]
    constructor
    · rintro ⟨more, hstep, hrest⟩
      obtain ⟨p, htext, rfl, hmore⟩ := (addSlotSpecPart_ok hresult).mp hstep
      obtain ⟨ps, htexts, hslots, hlen⟩ := (ih hmore).mp hrest
      refine ⟨p :: ps, .cons htext htexts, ?_, hlen⟩
      rw [hslots, List.flatMap_cons, List.append_assoc]
    · rintro ⟨ps, htexts, hslots, hlen⟩
      cases htexts with
      | @cons p _ ps _ htext htexts =>
        rw [List.flatMap_cons, ← List.append_assoc] at hslots
        have hmore : (result ++ p.values).length ≤ maxSlots := by
          have hwhole := congrArg List.length hslots
          rw [List.length_append] at hwhole
          omega
        refine ⟨result ++ p.values, ?_, ?_⟩
        · exact (addSlotSpecPart_ok hresult).mpr ⟨p, htext, rfl, hmore⟩
        · exact (ih hmore).mpr ⟨ps, htexts, hslots, hlen⟩

/-- Commas count as spaces. -/
theorem slotParts_eq (spec : String) :
    words (spec.toList.map fun c => if c = ',' then ' ' else c) = slotParts spec := by
  unfold words slotParts
  rw [splitOnP_replace (by decide)]

/-! ## Its sums -/

/-- `addSlotSpecPart` with its sums in `usize`; the second one is made for a range that does not
    descend. -/
def addSlotSpecPartChecked (result : List UInt16) (part : List Char) :
    Comp (Except GsdmlError (List UInt16)) :=
  match splitOnce ['.', '.'] part with
  | some (start, stop) =>
    match parseSlotNumber part start, parseSlotNumber part stop with
    | .error e, _ => return .error e
    | .ok _, .error e => return .error e
    | .ok start, .ok stop => do
      let span ← add (stop.toNat - start.toNat) 1
      if start ≤ stop then
        let len ← add result.length span
        if maxSlots < len then
          return .error (.slotSpecPartTooLong (String.ofList part))
      return .ok (result ++ slotRange start stop)
  | none =>
    if maxSlots ≤ result.length then return .error .slotSpecTooLong
    else
      match parseSlotNumber part part with
      | .error e => return .error e
      | .ok n => return .ok (result ++ [n])

/-- All parts, added to what is already there. -/
def addSlotSpecPartsChecked (result : List UInt16) :
    List (List Char) → Comp (Except GsdmlError (List UInt16))
  | [] => return .ok result
  | part :: parts => do
    match ← addSlotSpecPartChecked result part with
    | .error e => return .error e
    | .ok result => addSlotSpecPartsChecked result parts

/-- `parse_slot_spec` with its checks. -/
def parseSlotSpecChecked (spec : Option String) : Comp (Except GsdmlError (List UInt16)) :=
  match spec with
  | none => return .ok []
  | some spec =>
    addSlotSpecPartsChecked [] (words (spec.toList.map fun c => if c = ',' then ' ' else c))

theorem addSlotSpecPartChecked_ok {result : List UInt16} (hresult : result.length ≤ maxSlots)
    (part : List Char) :
    addSlotSpecPartChecked result part = .ok (addSlotSpecPart result part) := by
  have hcap : maxSlots = 4096 := rfl
  unfold addSlotSpecPartChecked addSlotSpecPart
  cases splitOnce ['.', '.'] part with
  | some ab =>
    obtain ⟨a, b⟩ := ab
    simp only
    cases parseSlotNumber part a with
    | error e => rfl
    | ok start =>
      cases parseSlotNumber part b with
      | error e => rfl
      | ok stop =>
        have hstop := stop.toNat_lt
        simp only
        rw [add_ok (by omega)]
        simp only [ok_bind]
        by_cases hle : start ≤ stop
        · rw [if_pos hle, add_ok (by omega)]
          simp only [ok_bind]
          by_cases hlong : maxSlots < result.length + (stop.toNat - start.toNat + 1)
          · rw [if_pos hlong, if_pos ⟨hle, hlong⟩]
            rfl
          · rw [if_neg hlong, if_neg fun h => hlong h.2]
            rfl
        · rw [if_neg hle, if_neg fun h => hle h.1]
          rfl
  | none =>
    simp only
    by_cases hfull : maxSlots ≤ result.length
    · rw [if_pos hfull, if_pos hfull]
      rfl
    · rw [if_neg hfull, if_neg hfull]
      cases parseSlotNumber part part with
      | error e => rfl
      | ok n => rfl

/-- The list never grows beyond the cap, so that no part makes a sum overflow. -/
theorem addSlotSpecPartsChecked_ok {result : List UInt16} (hresult : result.length ≤ maxSlots)
    (parts : List (List Char)) :
    addSlotSpecPartsChecked result parts = .ok (parts.foldlM addSlotSpecPart result) := by
  induction parts generalizing result with
  | nil => rfl
  | cons part parts ih =>
    rw [addSlotSpecPartsChecked, addSlotSpecPartChecked_ok hresult, ok_bind, List.foldlM_cons]
    cases hstep : addSlotSpecPart result part with
    | error e => rfl
    | ok more =>
      obtain ⟨-, -, -, hmore⟩ := (addSlotSpecPart_ok hresult).mp hstep
      exact ih hmore

theorem parseSlotSpecChecked_ok (spec : Option String) :
    parseSlotSpecChecked spec = .ok (parseSlotSpec spec) := by
  cases spec with
  | none => rfl
  | some spec => exact addSlotSpecPartsChecked_ok (Nat.zero_le _) _

/-- **What a slot spec expands to.**  No sum overflows; a spec is accepted exactly if each of its
    parts is a number or a range of numbers of two bytes and their slots are no more than 4096, and
    then it expands to these, one part behind the other; a range that descends adds none. -/
theorem slot_spec_expansion (spec : String) :
    parseSlotSpecChecked (some spec) = .ok (parseSlotSpec (some spec)) ∧
      (∀ slots, parseSlotSpec (some spec) = .ok slots ↔
        ∃ ps : List SlotPart, List.Forall₂ SlotPart.Text ps (slotParts spec) ∧
          slots = ps.flatMap SlotPart.values ∧ slots.length ≤ 4096) ∧
      ∀ first last, last < first → (SlotPart.slots first last).values = [] := by
  refine ⟨parseSlotSpecChecked_ok (some spec), fun slots => ?_, ?_⟩
  · rw [← slotParts_eq]
    exact addSlotSpecParts_ok (Nat.zero_le _)
  · intro first last
    exact values_descending

/-- A range, a number with a sign, and a range that descends. -/
theorem slot_spec_bench :
    parseSlotSpec (some "1..3,+5 5..4") = .ok [1, 2, 3, 5] ∧ (SlotPart.slots 5 4).values = [] := by
  have hdigit {n : Nat} {c : Char} (h : digitValue 10 c = some n) : Numeral 10 n [c] :=
    ⟨List.cons_ne_nil _ _, [n], congrArg (fun d => [d]) h, Nat.zero_add n⟩
  have hdescends := (slot_spec_expansion "5..4").2.2 5 4 (by decide)
  refine ⟨((slot_spec_expansion _).2.1 _).mpr ⟨[.slots 1 3, .slot 5, .slots 5 4], ?_, ?_, by decide⟩,
    hdescends⟩
  · have hparts : slotParts "1..3,+5 5..4" =
        [['1'] ++ ("..".toList ++ ['3']), ['+', '5'], ['5'] ++ ("..".toList ++ ['4'])] := by
      decide +kernel
    rw [hparts]
    refine .cons (.slots ?_ ?_) (.cons (.slot ?_) (.cons (.slots ?_ ?_) .nil))
    · exact .inl (hdigit (by decide))
    · exact .inl (hdigit (by decide))
    · exact .inr ⟨['5'], rfl, hdigit (by decide)⟩
    · exact .inl (hdigit (by decide))
    · exact .inl (hdigit (by decide))
  · rw [List.flatMap_cons, List.flatMap_cons, List.flatMap_cons, hdescends, ← slotRange_eq]
    rfl

end Profinet.Gsdml
