/-
  BIG-ENDIAN WORDS ON THE WIRE, and the decoders that read them back.

  A record on the wire is a list of bytes.  An encoder appends fields, a `Decoder` takes them
  off the front again; `Decodes d bs a` says that `d` reads exactly the bytes `bs` as `a`,
  whatever follows them.  The rules below (`Decodes.pure`, `Decodes.bind`, `Decodes.times`)
  follow the shape of the decoder, so a round trip of a whole record is one rule per field.

  Nothing here knows a protocol: the words are `u8`, `u16`, `u32`, most significant byte first.
-/
import Mathlib.Data.List.Basic
import Mathlib.Control.Monad.Basic

namespace Wire

/-! ## Encoding -/

/-- `u16::to_be_bytes`. -/
def be16 (v : UInt16) : List UInt8 := [UInt8.ofNat (v.toNat / 256), UInt8.ofNat v.toNat]

/-- `u32::to_be_bytes`. -/
def be32 (v : UInt32) : List UInt8 :=
  [UInt8.ofNat (v.toNat / 16777216), UInt8.ofNat (v.toNat / 65536), UInt8.ofNat (v.toNat / 256),
    UInt8.ofNat v.toNat]

/-- `u16::from_be_bytes`. -/
def ofBe16 (a b : UInt8) : UInt16 := UInt16.ofNat (a.toNat * 256 + b.toNat)

/-- `u32::from_be_bytes`. -/
def ofBe32 (a b c d : UInt8) : UInt32 :=
  UInt32.ofNat (a.toNat * 16777216 + b.toNat * 65536 + c.toNat * 256 + d.toNat)

/-- Two bytes. -/
@[simp] theorem be16_length (v : UInt16) : (be16 v).length = 2 := rfl
/-- Four bytes. -/
@[simp] theorem be32_length (v : UInt32) : (be32 v).length = 4 := rfl

/-- Reading back the bytes of a 16-bit value. -/
theorem ofBe16_be16 (v : UInt16) :
    ofBe16 (UInt8.ofNat (v.toNat / 256)) (UInt8.ofNat v.toNat) = v := by
  have hv := v.toNat_lt
  apply UInt16.toNat_inj.mp
  simp only [ofBe16, UInt16.toNat_ofNat', UInt8.toNat_ofNat']
  omega

/-- Writing back the value of two bytes. -/
theorem be16_ofBe16 (a b : UInt8) : be16 (ofBe16 a b) = [a, b] := by
  have ha := a.toNat_lt
  have hb := b.toNat_lt
  have hword : (ofBe16 a b).toNat = a.toNat * 256 + b.toNat := by
    rw [ofBe16, UInt16.toNat_ofNat']
    omega
  have hbyte {m : Nat} {v : UInt8} (h : m % 256 = v.toNat) : UInt8.ofNat m = v := by
    apply UInt8.toNat_inj.mp
    rw [UInt8.toNat_ofNat']
    exact h
  unfold be16
  rw [hword, hbyte (v := a) (by omega), hbyte (v := b) (by omega)]

/-- Reading back the bytes of a 32-bit value. -/
theorem ofBe32_be32 (v : UInt32) :
    ofBe32 (UInt8.ofNat (v.toNat / 16777216)) (UInt8.ofNat (v.toNat / 65536))
      (UInt8.ofNat (v.toNat / 256)) (UInt8.ofNat v.toNat) = v := by
  have hv := v.toNat_lt
  apply UInt32.toNat_inj.mp
  simp only [ofBe32, UInt32.toNat_ofNat', UInt8.toNat_ofNat']
  omega

/-- Writing back the value of four bytes. -/
theorem be32_ofBe32 (a b c d : UInt8) : be32 (ofBe32 a b c d) = [a, b, c, d] := by
  have ha := a.toNat_lt
  have hb := b.toNat_lt
  have hc := c.toNat_lt
  have hd := d.toNat_lt
  have hword : (ofBe32 a b c d).toNat =
      a.toNat * 16777216 + b.toNat * 65536 + c.toNat * 256 + d.toNat := by
    rw [ofBe32, UInt32.toNat_ofNat']
    omega
  have hbyte {m : Nat} {v : UInt8} (h : m % 256 = v.toNat) : UInt8.ofNat m = v := by
    apply UInt8.toNat_inj.mp
    rw [UInt8.toNat_ofNat']
    exact h
  unfold be32
  rw [hword, hbyte (v := a) (by omega), hbyte (v := b) (by omega), hbyte (v := c) (by omega),
    hbyte (v := d) (by omega)]

/-- The two halves of a word. -/
def hiWord (v : UInt32) : UInt16 := UInt16.ofNat (v.toNat / 65536)

/-- The low word of a 32-bit value. -/
def loWord (v : UInt32) : UInt16 := UInt16.ofNat v.toNat

/-- A word is its two halves, one behind the other. -/
theorem be32_words (v : UInt32) : be32 v = be16 (hiWord v) ++ be16 (loWord v) := by
  have hv := v.toNat_lt
  have hhi : (hiWord v).toNat = v.toNat / 65536 := by
    rw [hiWord, UInt16.toNat_ofNat']
    omega
  have hlo : (loWord v).toNat = v.toNat % 65536 := UInt16.toNat_ofNat'
  have hbyte {m n : Nat} (h : m % 256 = n % 256) : UInt8.ofNat m = UInt8.ofNat n := by
    apply UInt8.toNat_inj.mp
    rw [UInt8.toNat_ofNat', UInt8.toNat_ofNat']
    exact h
  unfold be32 be16
  rw [hhi, hlo, List.cons_append, List.cons_append, List.nil_append,
    hbyte (m := v.toNat / 65536 / 256) (n := v.toNat / 16777216) (by omega),
    hbyte (m := v.toNat % 65536 / 256) (n := v.toNat / 256) (by omega),
    hbyte (m := v.toNat % 65536) (n := v.toNat) (by omega)]

/-- A value below 2^16 has no high word. -/
theorem hiWord_eq_zero {v : UInt32} (h : v < 0x10000) : hiWord v = 0 := by
  have hlt : v.toNat < 65536 := UInt32.lt_iff_toNat_lt.mp h
  apply UInt16.toNat_inj.mp
  rw [hiWord, UInt16.toNat_ofNat', Nat.div_eq_of_lt hlt]
  rfl

/-- And a word from its halves. -/
def ofWords (hi lo : UInt16) : UInt32 := UInt32.ofNat (hi.toNat * 65536 + lo.toNat)

/-- The value of two words. -/
theorem ofWords_toNat (hi lo : UInt16) : (ofWords hi lo).toNat = hi.toNat * 65536 + lo.toNat := by
  have hhi := hi.toNat_lt
  have hlo := lo.toNat_lt
  rw [ofWords, UInt32.toNat_ofNat']
  omega

/-- A value is put together from its halves. -/
theorem ofWords_halves (v : UInt32) : ofWords (hiWord v) (loWord v) = v := by
  have hv := v.toNat_lt
  apply UInt32.toNat_inj.mp
  rw [ofWords_toNat, hiWord, loWord, UInt16.toNat_ofNat', UInt16.toNat_ofNat']
  omega

/-- The high word of two words put together. -/
theorem hiWord_ofWords (hi lo : UInt16) : hiWord (ofWords hi lo) = hi := by
  have hhi := hi.toNat_lt
  have hlo := lo.toNat_lt
  apply UInt16.toNat_inj.mp
  rw [hiWord, ofWords_toNat, UInt16.toNat_ofNat']
  omega

/-- The low word of two words put together. -/
theorem loWord_ofWords (hi lo : UInt16) : loWord (ofWords hi lo) = lo := by
  have hhi := hi.toNat_lt
  have hlo := lo.toNat_lt
  apply UInt16.toNat_inj.mp
  rw [loWord, ofWords_toNat, UInt16.toNat_ofNat']
  omega

/-- A word is small if its upper half is zero. -/
theorem ofWords_lt {hi lo : UInt16} : ofWords hi lo < 0x10000 ↔ hi = 0 := by
  have hlo := lo.toNat_lt
  rw [UInt32.lt_iff_toNat_lt, ofWords_toNat, ← UInt16.toNat_inj]
  show hi.toNat * 65536 + lo.toNat < 65536 ↔ hi.toNat = 0
  omega

/-- Words one behind the other, the high byte of each first. -/
def wordBytes (ws : List UInt16) : List UInt8 := ws.flatMap be16

/-- The bytes of a word and of the words behind it. -/
theorem wordBytes_cons (w : UInt16) (ws : List UInt16) :
    wordBytes (w :: ws) = be16 w ++ wordBytes ws := List.flatMap_cons

/-- The bytes of two runs of words. -/
theorem wordBytes_append (ws ws' : List UInt16) :
    wordBytes (ws ++ ws') = wordBytes ws ++ wordBytes ws' := List.flatMap_append

/-- Two bytes a word. -/
theorem wordBytes_length (ws : List UInt16) : (wordBytes ws).length = 2 * ws.length := by
  induction ws with
  | nil => rfl
  | cons w ws ih =>
    rw [wordBytes_cons, List.length_append, be16_length, ih, List.length_cons]
    omega

/-! ## Decoding -/

/-- A decoder takes a value off the front of the bytes, or fails. -/
abbrev Decoder := StateT (List UInt8) Option

/-- One byte. -/
def u8 : Decoder UInt8
  | a :: r => some (a, r)
  | _ => none

/-- A big-endian 16-bit field. -/
def u16 : Decoder UInt16
  | a :: b :: r => some (ofBe16 a b, r)
  | _ => none

/-- A big-endian 32-bit field. -/
def u32 : Decoder UInt32
  | a :: b :: c :: d :: r => some (ofBe32 a b c d, r)
  | _ => none

/-- `n` bytes as they stand. -/
def raw : Nat → Decoder (List UInt8)
  | 0, r => some ([], r)
  | n + 1, a :: r => (raw n r).map fun p => (a :: p.1, p.2)
  | _ + 1, [] => none

/-- The same decoder `n` times, as counted lists on the wire are read. -/
def times {α : Type} (d : Decoder α) : Nat → Decoder (List α)
  | 0 => pure []
  | n + 1 => do
    let a ← d
    let l ← times d n
    pure (a :: l)

/-- `d` reads exactly `bs` as `a`, and leaves whatever follows alone. -/
def Decodes {α : Type} (d : Decoder α) (bs : List UInt8) (a : α) : Prop :=
  ∀ rest, d (bs ++ rest) = some (a, rest)

variable {α β : Type}

/-- Nothing read. -/
theorem Decodes.pure (a : α) : Decodes (pure a) [] a := fun _ => rfl

/-- One decoder after another reads one encoding after another. -/
theorem Decodes.bind {d : Decoder α} {f : α → Decoder β} {bs cs : List UInt8} {a : α} {b : β}
    (hd : Decodes d bs a) (hf : Decodes (f a) cs b) : Decodes (d >>= f) (bs ++ cs) b := by
  intro rest
  show (d (bs ++ cs ++ rest)).bind (fun p => f p.1 p.2) = some (b, rest)
  rw [List.append_assoc, hd (cs ++ rest)]
  exact hf rest

/-- The last step of a record: what was read is put together. -/
theorem Decodes.map {d : Decoder α} {bs : List UInt8} {a : α} (hd : Decodes d bs a) (f : α → β) :
    Decodes (do let x ← d; Pure.pure (f x)) bs (f a) := by
  rw [← List.append_nil bs]
  exact hd.bind (Decodes.pure (f a))

/-- A decoder that reads exactly these bytes reads them when nothing follows. -/
theorem Decodes.whole {d : Decoder α} {bs : List UInt8} {a : α} (hd : Decodes d bs a) :
    d bs = some (a, []) := by
  have h := hd []
  rwa [List.append_nil] at h

/-- A byte reads itself. -/
theorem decodes_u8 (a : UInt8) : Decodes u8 [a] a := fun _ => rfl

/-- A 16-bit field reads its own bytes. -/
theorem decodes_u16 (v : UInt16) : Decodes u16 (be16 v) v := by
  intro rest
  show some (ofBe16 _ _, rest) = some (v, rest)
  rw [ofBe16_be16]

/-- A 32-bit field reads its own bytes. -/
theorem decodes_u32 (v : UInt32) : Decodes u32 (be32 v) v := by
  intro rest
  show some (ofBe32 _ _ _ _, rest) = some (v, rest)
  rw [ofBe32_be32]

/-- A run of raw bytes reads itself. -/
theorem decodes_raw (bs : List UInt8) : Decodes (raw bs.length) bs bs := by
  intro rest
  induction bs with
  | nil => rfl
  | cons a l ih =>
    show (raw l.length (l ++ rest)).map (fun p => (a :: p.1, p.2)) = some (a :: l, rest)
    rw [ih]
    rfl

/-- A counted list reads back when each element does. -/
theorem Decodes.times {d : Decoder α} {enc : β → List UInt8} (val : β → α) {l : List β}
    (h : ∀ b ∈ l, Decodes d (enc b) (val b)) :
    Decodes (Wire.times d l.length) (l.flatMap enc) (l.map val) := by
  induction l with
  | nil => exact Decodes.pure []
  | cons b l ih =>
    have hb := h b List.mem_cons_self
    have hl := ih fun c hc => h c (List.mem_cons_of_mem b hc)
    rw [List.flatMap_cons, List.map_cons]
    exact hb.bind (hl.map _)

end Wire
