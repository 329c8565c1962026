/-
  STDIN LINES: what the serve loop is told, line by line.

  `read_bounded_line` takes at most `max` bytes at a time.  If they end in a newline they are a line;
  if they are fewer, the stream is over; and else the line is too long, and its rest is skipped, in
  chunks of at most `max` bytes, up to its newline:

      |---- max ----|                          |---- max ----|
      set_level ... \n                         garbage ......|.............|....\n
      a line                                   too long       skipped       skipped

  The reference cuts the stream at its newlines and looks at each piece by itself.
-/
import Profinet.Lib.Utf8

namespace Profinet.Stdin

open Utf8

/-- `b'\n'`. -/
def newline : UInt8 := 10

/-- `b'\r'`. -/
def carriageReturn : UInt8 := 13

/-- The bytes still to come, and whether a read behind the last of them fails, in the place of
    finding the end. -/
structure Reader where
  bytes : List UInt8
  broken : Bool
  deriving DecidableEq, Repr

/-- A line, or why it was dropped. -/
abbrev Line := Except String (List Char)

/-- The text of the refusal. -/
def tooLong : String := "stdin line too long"

/-! ## The reader -/

/-- The bytes up to the first newline and with it, or all of them. -/
def untilNewline : List UInt8 → List UInt8
  | [] => []
  | b :: bytes => if b = newline then [b] else b :: untilNewline bytes

/-- `reader.take(max).read_until(b'\n', ..)`: the bytes read, or none if a read failed. -/
def readUntil (max : Nat) (r : Reader) : Option (List UInt8) × Reader :=
  let chunk := untilNewline (r.bytes.take max)
  let r' := { r with bytes := r.bytes.drop chunk.length }
  if r.broken ∧ chunk.length < max ∧ chunk.getLast? ≠ some newline then (none, r')
  else (some chunk, r')

theorem readUntil_bytes {max : Nat} {r r' : Reader} {chunk : List UInt8}
    (h : readUntil max r = (some chunk, r')) : r'.bytes = r.bytes.drop chunk.length := by
  unfold readUntil at h
  simp only at h
  split at h
  · cases h
  · cases h
    rfl

theorem untilNewline_length (bytes : List UInt8) :
    (untilNewline bytes).length ≤ bytes.length := by
  induction bytes with
  | nil => exact Nat.le_refl _
  | cons b bytes ih =>
    unfold untilNewline
    split
    · simp
    · simpa using ih

/-- A read of something leaves fewer bytes. -/
theorem readUntil_lt {max : Nat} {r r' : Reader} {chunk : List UInt8}
    (h : readUntil max r = (some chunk, r')) (hne : chunk ≠ []) :
    r'.bytes.length < r.bytes.length := by
  have hchunk : chunk.length ≤ r.bytes.length := by
    unfold readUntil at h
    simp only at h
    split at h
    · cases h
    · cases h
      refine Nat.le_trans (untilNewline_length _) ?_
      rw [List.length_take]
      exact Nat.min_le_right _ _
  have hpos : 0 < chunk.length := List.length_pos_iff.mpr hne
  rw [readUntil_bytes h, List.length_drop]
  omega

/-- Discard, in bounded chunks, until the next newline or the end. -/
def resync (max : Nat) (r : Reader) : Reader :=
  match _h : readUntil max r with
  | (none, r') => r'
  | (some skip, r') =>
    if _hne : skip = [] then r'
    else if skip.getLast? = some newline then r'
    else resync max r'
  termination_by r.bytes.length
  decreasing_by exact readUntil_lt _h _hne

/-- One trailing carriage return off. -/
def stripCr (buf : List UInt8) : List UInt8 :=
  if buf.getLast? = some carriageReturn then buf.dropLast else buf

/-- A line, if it is UTF-8. -/
def decoded (buf : List UInt8) : Option Line := (fromUtf8 buf).map .ok

/-- Read the next newline-terminated line with a hard memory bound: nothing at the end, after a
    failed read, and for a line that is no text. -/
def readBoundedLine (max : Nat) (r : Reader) : Option Line × Reader :=
  match readUntil max r with
  | (none, r') => (none, r')
  | (some buf, r') =>
    if buf = [] then (none, r')
    else if buf.getLast? = some newline then (decoded (stripCr buf.dropLast), r')
    else if buf.length = max then
      -- the cap, in the middle of a line
      (some (.error tooLong), resync max r')
    else
      -- the final unterminated line
      (decoded buf, r')

theorem resync_le (max : Nat) (r : Reader) : (resync max r).bytes.length ≤ r.bytes.length := by
  have hdrop : ∀ (r r' : Reader) chunk, readUntil max r = (chunk, r') →
      r'.bytes.length ≤ r.bytes.length := by
    intro r r' chunk h
    have hr' : r' = (readUntil max r).2 := by rw [h]
    rw [hr']
    unfold readUntil
    simp only
    split
    · simp
    · simp
  fun_induction resync max r with
  | case1 r r' h => exact hdrop _ _ _ h
  | case2 r r' h => exact hdrop _ _ _ h
  | case3 r skip r' h hne hlast => exact hdrop _ _ _ h
  | case4 r skip r' h hne hlast ih => exact Nat.le_trans ih (hdrop _ _ _ h)

/-- A call that returns something leaves fewer bytes. -/
theorem readBoundedLine_lt {max : Nat} {r r' : Reader} {l : Line}
    (h : readBoundedLine max r = (some l, r')) : r'.bytes.length < r.bytes.length := by
  unfold readBoundedLine at h
  split at h
  · cases h
  · rename_i buf r₁ hread
    split at h
    · cases h
    · rename_i hne
      have hlt := readUntil_lt hread hne
      split at h
      · injection h with _ hr
        exact hr ▸ hlt
      · split at h
        · injection h with _ hr
          exact hr ▸ Nat.lt_of_le_of_lt (resync_le max r₁) hlt
        · injection h with _ hr
          exact hr ▸ hlt

/-- What the reader thread hands on: the results of call after call. -/
def readAll (max : Nat) (r : Reader) : List Line :=
  match _h : readBoundedLine max r with
  | (none, _) => []
  | (some l, r') => l :: readAll max r'
  termination_by r.bytes.length
  decreasing_by exact readBoundedLine_lt _h

/-! ## The pieces between the newlines -/

/-- What a terminated line is delivered as: nothing, if it is no text. -/
def lineResult (max : Nat) (line : List UInt8) : Option Line :=
  if line.length + 1 ≤ max then decoded (stripCr line) else some (.error tooLong)

/-- What the unterminated tail is delivered as: nothing, if there is none, or if it could not be
    read to its end, or if it is no text. -/
def tailResult (max : Nat) (broken : Bool) (tail : List UInt8) : Option Line :=
  if max ≤ tail.length then some (.error tooLong)
  else if tail = [] ∨ broken then none
  else decoded tail

/-- Every piece but the last was terminated by a newline. -/
def results (max : Nat) (broken : Bool) : List (List UInt8) → List (Option Line)
  | [] => []
  | [tail] => [tailResult max broken tail]
  | line :: rest => lineResult max line :: results max broken rest

/-- The entries before the first that is nothing. -/
def untilNone {α : Type} : List (Option α) → List α
  | some a :: rest => a :: untilNone rest
  | _ => []

/-- The reference splitting. -/
def reference (max : Nat) (r : Reader) : List Line :=
  untilNone (results max r.broken (r.bytes.splitOn newline))

/-! ## One read -/

section Read

variable {max : Nat} {broken : Bool}

theorem untilNewline_line {line : List UInt8} (h : newline ∉ line) (rest : List UInt8) :
    untilNewline (line ++ newline :: rest) = line ++ [newline] := by
  induction line with
  | nil => exact if_pos rfl
  | cons b line ih =>
    rw [List.mem_cons, not_or] at h
    obtain ⟨hb, hline⟩ := h
    show (if b = newline then [b] else b :: untilNewline (line ++ newline :: rest)) = _
    rw [if_neg (Ne.symm hb), ih hline]
    rfl

theorem untilNewline_none {bytes : List UInt8} (h : newline ∉ bytes) :
    untilNewline bytes = bytes := by
  induction bytes with
  | nil => rfl
  | cons b bytes ih =>
    rw [List.mem_cons, not_or] at h
    obtain ⟨hb, hbytes⟩ := h
    show (if b = newline then [b] else b :: untilNewline bytes) = _
    rw [if_neg (Ne.symm hb), ih hbytes]

theorem getLast?_ne_newline {bytes : List UInt8} (h : newline ∉ bytes) :
    bytes.getLast? ≠ some newline :=
  fun hlast => h (List.mem_of_getLast? hlast)

/-- A line that fits, with its newline. -/
theorem readUntil_line {line : List UInt8} (h : newline ∉ line) (hfits : line.length + 1 ≤ max)
    (rest : List UInt8) :
    readUntil max ⟨line ++ newline :: rest, broken⟩ =
      (some (line ++ [newline]), ⟨rest, broken⟩) := by
  have hchunk : untilNewline ((line ++ newline :: rest).take max) = line ++ [newline] := by
    obtain ⟨k, rfl⟩ : ∃ k, max = line.length + (k + 1) := ⟨max - line.length - 1, by omega⟩
    rw [List.take_length_add_append, List.take_succ_cons]
    exact untilNewline_line h _
  have hrest : (line ++ newline :: rest).drop (line ++ [newline]).length = rest := by
    rw [List.append_cons line newline rest]
    exact List.drop_left
  unfold readUntil
  simp only [hchunk, hrest]
  rw [if_neg (by simp)]

/-- The cap is reached before a newline. -/
theorem readUntil_cap {chunk : List UInt8} (h : newline ∉ chunk) (hcap : chunk.length = max)
    (rest : List UInt8) :
    readUntil max ⟨chunk ++ rest, broken⟩ = (some chunk, ⟨rest, broken⟩) := by
  have htake : (chunk ++ rest).take max = chunk := by
    rw [← hcap]
    exact List.take_left
  unfold readUntil
  simp only [htake, untilNewline_none h, List.drop_left]
  rw [if_neg (by omega)]

/-- The end of the stream is reached before a newline, and before the cap. -/
theorem readUntil_tail {tail : List UInt8} (h : newline ∉ tail) (hshort : tail.length < max) :
    readUntil max ⟨tail, broken⟩ = (if broken then none else some tail, ⟨[], broken⟩) := by
  have htake : tail.take max = tail := List.take_of_length_le (Nat.le_of_lt hshort)
  unfold readUntil
  simp only [htake, untilNewline_none h, List.drop_length]
  cases broken with
  | true => rw [if_pos ⟨rfl, hshort, getLast?_ne_newline h⟩, if_pos rfl]
  | false => rw [if_neg (by simp), if_neg (by simp)]

/-! ## Skipping a long line -/

/-- A long piece begins with a chunk. -/
theorem chunk_of_long {piece : List UInt8} (h : newline ∉ piece) (hlong : max ≤ piece.length) :
    ∃ chunk rest, piece = chunk ++ rest ∧ chunk.length = max ∧ newline ∉ chunk ∧
      newline ∉ rest := by
  refine ⟨piece.take max, piece.drop max, (List.take_append_drop max piece).symm, ?_, ?_, ?_⟩
  · exact List.length_take_of_le hlong
  · exact fun hmem => h (List.mem_of_mem_take hmem)
  · exact fun hmem => h (List.mem_of_mem_drop hmem)

/-- One chunk of the skipping loop. -/
theorem resync_eq (r : Reader) :
    resync max r = match readUntil max r with
      | (none, r') => r'
      | (some skip, r') =>
        if skip = [] ∨ skip.getLast? = some newline then r' else resync max r' := by
  rw [resync]
  split
  · rename_i r' hread
    rw [hread]
  · rename_i skip r' hread
    rw [hread]
    simp only
    by_cases hne : skip = []
    · rw [dif_pos hne, if_pos (.inl hne)]
    · rw [dif_neg hne]
      simp only [hne, false_or]

theorem resync_cap (hmax : 1 ≤ max) {chunk : List UInt8} (h : newline ∉ chunk)
    (hcap : chunk.length = max) (rest : List UInt8) :
    resync max ⟨chunk ++ rest, broken⟩ = resync max ⟨rest, broken⟩ := by
  have hne : chunk ≠ [] := List.length_pos_iff.mp (by omega)
  rw [resync_eq, readUntil_cap h hcap]
  simp only
  rw [if_neg (not_or.mpr ⟨hne, getLast?_ne_newline h⟩)]

/-- Skipping ends behind the newline of the line. -/
theorem resync_line (hmax : 1 ≤ max) {line : List UInt8} (h : newline ∉ line)
    (rest : List UInt8) :
    resync max ⟨line ++ newline :: rest, broken⟩ = ⟨rest, broken⟩ := by
  by_cases hfits : line.length < max
  · rw [resync_eq, readUntil_line h hfits]
    simp only
    rw [if_pos (.inr (by simp))]
  · obtain ⟨chunk, line', hsplit, hcap, hchunk, hline'⟩ :=
      chunk_of_long h (Nat.le_of_not_lt hfits)
    -- what the chunk leaves is a shorter line
    have hshorter : line'.length < line.length := by
      rw [hsplit, List.length_append]
      omega
    rw [hsplit, List.append_assoc, resync_cap hmax hchunk hcap]
    exact resync_line hmax hline' rest
  termination_by line.length

theorem resync_nil (hmax : 1 ≤ max) : resync max ⟨[], broken⟩ = ⟨[], broken⟩ := by
  rw [resync_eq, readUntil_tail List.not_mem_nil hmax]
  cases broken with
  | true => rfl
  | false => rfl

/-- Skipping an unterminated line uses the stream up. -/
theorem resync_tail (hmax : 1 ≤ max) {tail : List UInt8} (h : newline ∉ tail) :
    resync max ⟨tail, broken⟩ = ⟨[], broken⟩ := by
  by_cases hshort : tail.length < max
  · rw [resync_eq, readUntil_tail h hshort]
    cases broken with
    | true => rfl
    | false =>
      -- a last chunk is not the end yet: only the empty read behind it is
      by_cases hne : tail = []
      · subst hne
        rfl
      · simp only [Bool.false_eq_true, if_false, hne, getLast?_ne_newline h, or_self]
        exact resync_nil hmax
  · obtain ⟨chunk, tail', hsplit, hcap, hchunk, htail'⟩ :=
      chunk_of_long h (Nat.le_of_not_lt hshort)
    have hshorter : tail'.length < tail.length := by
      rw [hsplit, List.length_append]
      omega
    rw [hsplit, resync_cap hmax hchunk hcap]
    exact resync_tail hmax htail'
  termination_by tail.length

/-! ## One call -/

/-- A line that is terminated, long or not. -/
theorem readBoundedLine_line (hmax : 1 ≤ max) {line : List UInt8} (h : newline ∉ line)
    (rest : List UInt8) :
    readBoundedLine max ⟨line ++ newline :: rest, broken⟩ =
      (lineResult max line, ⟨rest, broken⟩) := by
  unfold readBoundedLine lineResult
  by_cases hfits : line.length < max
  · rw [readUntil_line h hfits, if_pos (Nat.succ_le_of_lt hfits)]
    simp only
    rw [if_neg (by simp), if_pos (by simp), List.dropLast_concat]
  · obtain ⟨chunk, line', hsplit, hcap, hchunk, hline'⟩ :=
      chunk_of_long h (Nat.le_of_not_lt hfits)
    have hne : chunk ≠ [] := List.length_pos_iff.mp (by omega)
    have hlong : ¬ line.length + 1 ≤ max := fun h => hfits (Nat.lt_of_succ_le h)
    rw [if_neg hlong, hsplit, List.append_assoc, readUntil_cap hchunk hcap]
    simp only
    rw [if_neg hne, if_neg (getLast?_ne_newline hchunk), if_pos hcap,
      resync_line hmax hline']

/-- What is left when no newline is. -/
theorem readBoundedLine_tail (hmax : 1 ≤ max) {tail : List UInt8} (h : newline ∉ tail) :
    readBoundedLine max ⟨tail, broken⟩ = (tailResult max broken tail, ⟨[], broken⟩) := by
  unfold readBoundedLine tailResult
  by_cases hshort : tail.length < max
  · rw [readUntil_tail h hshort, if_neg (Nat.not_le_of_lt hshort)]
    cases broken with
    | true => simp
    | false =>
      by_cases hne : tail = []
      · simp [hne]
      · simp only [Bool.false_eq_true, if_false, hne, getLast?_ne_newline h,
          Nat.ne_of_lt hshort, or_self]
  · obtain ⟨chunk, tail', hsplit, hcap, hchunk, htail'⟩ :=
      chunk_of_long h (Nat.le_of_not_lt hshort)
    have hne : chunk ≠ [] := List.length_pos_iff.mp (by omega)
    rw [if_pos (Nat.le_of_not_lt hshort), hsplit, readUntil_cap hchunk hcap]
    simp only
    rw [if_neg hne, if_neg (getLast?_ne_newline hchunk), if_pos hcap,
      resync_tail hmax htail']

/-! ## Call after call -/

theorem readAll_eq (r : Reader) :
    readAll max r = match readBoundedLine max r with
      | (none, _) => []
      | (some l, r') => l :: readAll max r' := by
  rw [readAll]
  split
  · rename_i hread
    rw [hread]
  · rename_i hread
    rw [hread]

theorem readAll_nil : readAll max ⟨[], broken⟩ = [] := by
  have hread : readUntil max ⟨[], broken⟩ = _ := rfl
  rw [readAll_eq]
  cases hcall : readBoundedLine max ⟨[], broken⟩ with
  | mk l r' =>
    cases l with
    | none => rfl
    | some l => exact absurd (readBoundedLine_lt hcall) (Nat.not_lt_zero _)

theorem results_cons {line : List UInt8} {rest : List (List UInt8)} (h : rest ≠ []) :
    results max broken (line :: rest) = lineResult max line :: results max broken rest := by
  cases rest with
  | nil => exact absurd rfl h
  | cons _ _ => rfl

end Read

theorem readAll_reference {max : Nat} (hmax : 1 ≤ max) (bytes : List UInt8) (broken : Bool) :
    readAll max ⟨bytes, broken⟩ = untilNone (results max broken (bytes.splitOn newline)) := by
  by_cases hmem : newline ∈ bytes
  · obtain ⟨line, rest, hsplit, hline⟩ := List.eq_append_cons_of_mem hmem
    have hshorter : rest.length < bytes.length := by
      rw [hsplit, List.length_append, List.length_cons]
      omega
    rw [hsplit, readAll_eq, readBoundedLine_line hmax hline,
      List.splitOn_append_cons_self_of_not_mem hline, results_cons (List.splitOn_ne_nil _ _)]
    cases lineResult max line with
    | none => rfl
    | some l => exact congrArg (l :: ·) (readAll_reference hmax rest broken)
  · rw [readAll_eq, readBoundedLine_tail hmax hmem, List.splitOn_eq_singleton hmem]
    show _ = untilNone [tailResult max broken bytes]
    cases tailResult max broken bytes with
    | none => rfl
    | some l => exact congrArg (l :: ·) readAll_nil
  termination_by bytes.length

/-- **The bounded reader splits at the newlines.**  Call after call, whatever the stream: a line
    that fits the bound with its newline is delivered without it and without one carriage return
    before it; a longer one, or a tail that reaches the bound, is one error and nothing else; a
    shorter tail is delivered; and the calls end with the stream, or at the first line that is no
    text. -/
theorem bounded_lines {max : Nat} (hmax : 1 ≤ max) (r : Reader) : readAll max r = reference max r :=
  readAll_reference hmax r.bytes r.broken

/-- A bound of four bytes: a line of four with its newline, one of five, one that ends in a carriage
    return, and a tail. -/
theorem bounded_lines_resync :
    readAll 4 ⟨[97, 98, 99, 10, 120, 120, 120, 120, 10, 97, 13, 10, 98], false⟩ =
      [.ok ['a', 'b', 'c'], .error tooLong, .ok ['a'], .ok ['b']] := by
  refine (bounded_lines (by decide) _).trans ?_
  have hsplit : [97, 98, 99, 10, 120, 120, 120, 120, 10, 97, 13, 10, 98].splitOn newline =
      [[97, 98, 99], [120, 120, 120, 120], [97, 13], [98]] := by decide
  unfold reference
  rw [hsplit]
  simp [results, lineResult, tailResult, decoded, stripCr, fromUtf8, untilNone, carriageReturn]

end Profinet.Stdin
