/-
  SHADOWS: bytes that are zero, or stand in other data some places on.

  A reader that is off by a few places and still gives back what was written says that each byte it
  read is the byte that was written there.  Where the reader has a default of zero, or the writer
  put zeros between the fields, the byte is zero or the same: `Shadow data p bs`.  A list that is
  its own shadow some places off is zero altogether, by induction from the side the shadow comes
  from (`zeros_of_before`, `zeros_of_behind`).
-/
import Profinet.Lib.Stands

namespace Wire

/-! ## Zeros -/

/-- Nothing but zero bytes. -/
def Zeros (bs : List UInt8) : Prop := ∀ b ∈ bs, b = 0

variable {data a b bs : List UInt8} {p : Nat}

theorem Zeros.getD (h : Zeros bs) (i : Nat) : bs.getD i 0 = 0 := by
  rw [List.getD_eq_getElem?_getD]
  cases hi : bs[i]? with
  | none => rfl
  | some v => exact h v (List.mem_of_getElem? hi)

theorem zeros_of_getD (h : ∀ i, bs.getD i 0 = 0) : Zeros bs := by
  intro v hv
  obtain ⟨i, hi⟩ := List.mem_iff_getElem?.mp hv
  have hzero := h i
  rw [List.getD_eq_getElem?_getD, hi] at hzero
  exact hzero

theorem zeros_append : Zeros (a ++ b) ↔ Zeros a ∧ Zeros b := List.forall_mem_append

theorem zeros_replicate (n : Nat) : Zeros (List.replicate n 0) := fun _ h =>
  List.eq_of_mem_replicate h

/-- A byte that is zero or the one `k` places before it. -/
theorem zeros_of_before {k : Nat} (hk : 0 < k)
    (h : ∀ i, bs.getD i 0 = 0 ∨ k ≤ i ∧ bs.getD i 0 = bs.getD (i - k) 0) : Zeros bs := by
  refine zeros_of_getD ?_
  intro i
  induction i using Nat.strongRecOn with
  | ind i ih =>
    rcases h i with hzero | ⟨hle, hsame⟩
    · exact hzero
    · rw [hsame]
      exact ih (i - k) (by omega)

/-- A byte that is zero or the one `k` places behind it: behind the last byte there are none. -/
theorem zeros_of_behind {k : Nat} (hk : 0 < k)
    (h : ∀ i, bs.getD i 0 = 0 ∨ bs.getD i 0 = bs.getD (i + k) 0) : Zeros bs := by
  have hlast : ∀ j i, bs.length ≤ i + j → bs.getD i 0 = 0 := by
    intro j
    induction j using Nat.strongRecOn with
    | ind j ih =>
      intro i hi
      by_cases hout : bs.length ≤ i
      · rw [List.getD_eq_getElem?_getD, List.getElem?_eq_none hout]
        rfl
      · rcases h i with hzero | hsame
        · exact hzero
        · rw [hsame]
          exact ih (j - 1) (by omega) (i + k) (by omega)
  exact zeros_of_getD fun i => hlast bs.length i (Nat.le_add_left _ _)

/-! ## Shadows -/

/-- Each of the bytes is zero, or stands in the data `p` places on. -/
def Shadow (data : List UInt8) (p : Nat) (bs : List UInt8) : Prop :=
  ∀ i, bs.getD i 0 = 0 ∨ bs.getD i 0 = data.getD (p + i) 0

theorem Zeros.shadow (h : Zeros bs) (data : List UInt8) (p : Nat) : Shadow data p bs :=
  fun i => .inl (h.getD i)

theorem Shadow.append (ha : Shadow data p a) {n : Nat} (hn : a.length = n)
    (hb : Shadow data (p + n) b) : Shadow data p (a ++ b) := by
  intro i
  by_cases hi : i < a.length
  · rw [getD_append_lt hi]
    exact ha i
  · have hright : (a ++ b).getD i 0 = b.getD (i - n) 0 := by
      rw [List.getD_eq_getElem?_getD, List.getD_eq_getElem?_getD,
        List.getElem?_append_right (by omega), hn]
    have hsplit : p + i = p + n + (i - n) := by omega
    rw [hright, hsplit]
    exact hb (i - n)

/-- Bytes that are read one by one as they are. -/
theorem shadow_of_bytesAt (h : (bytesAt bs.length data p).val = bs) : Shadow data p bs := by
  intro i
  by_cases hi : i < bs.length
  · refine .inr ?_
    have hbyte := congrArg (fun l => l.getD i 0) h
    rw [← hbyte]
    unfold bytesAt
    rw [List.getD_eq_getElem?_getD, List.getElem?_map, List.getElem?_range hi]
    rfl
  · rw [List.getD_eq_getElem?_getD, List.getElem?_eq_none (by omega)]
    exact .inl rfl

/-- The bytes of a word that is read are those that stand there. -/
theorem be16_rdU16 (data : List UInt8) (p : Nat) :
    be16 (rdU16 data p false) = [data.getD p 0, data.getD (p + 1) 0] := be16_ofBe16 _ _

theorem be32_rdU32 (data : List UInt8) (p : Nat) :
    be32 (rdU32 data p false)
      = [data.getD p 0, data.getD (p + 1) 0, data.getD (p + 2) 0, data.getD (p + 3) 0] :=
  be32_ofBe32 _ _ _ _

theorem rdU16_be16 (v : UInt16) : rdU16 (be16 v) 0 false = v := rdU16_wrU16 v false

theorem rdU32_be32 (v : UInt32) : rdU32 (be32 v) 0 false = v := rdU32_wrU32 v false

/-- A word that is read is known by its bytes. -/
theorem rdU32_eq_iff {v : UInt32} :
    rdU32 data p false = v
      ↔ be32 v = [data.getD p 0, data.getD (p + 1) 0, data.getD (p + 2) 0, data.getD (p + 3) 0] := by
  rw [← be32_rdU32]
  constructor
  · rintro rfl
    rfl
  · intro h
    rw [← rdU32_be32 v, h, rdU32_be32]

theorem zeros_be16 {v : UInt16} : Zeros (be16 v) ↔ v = 0 := by
  constructor
  · intro h
    have hread := rdU16_be16 v
    unfold rdU16 at hread
    rw [h.getD, h.getD] at hread
    exact hread.symm
  · rintro rfl
    exact zeros_replicate 2

theorem zeros_be32 {v : UInt32} : Zeros (be32 v) ↔ v = 0 := by
  constructor
  · intro h
    have hread := rdU32_be32 v
    unfold rdU32 at hread
    rw [h.getD, h.getD, h.getD, h.getD] at hread
    exact hread.symm
  · rintro rfl
    exact zeros_replicate 4

theorem Shadow.word {v : UInt16} (h : rdU16 data p false = v) : Shadow data p (be16 v) := by
  refine shadow_of_bytesAt ?_
  rw [← h, be16_rdU16]
  rfl

theorem Shadow.dword {v : UInt32} (h : rdU32 data p false = v) : Shadow data p (be32 v) := by
  refine shadow_of_bytesAt ?_
  rw [← h, be32_rdU32]
  rfl

end Wire
