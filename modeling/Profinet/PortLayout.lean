/-
  PORT BLOCKS: how a device writes a port, and when the parser reads it back.

  A device pads the variable parts of a block to four bytes from the first byte of the block:

      header(6)  0(2)  slot(2)  subslot(2)  length, port id  count, padding
      for each peer: length, port id  length, chassis id, padding  MAC(6)  0(2)
      MAU(2)  0(2)  domain(4)  multicast(4)  link states(2)  0(2)  media type(4)

  The parser counts all but the first padding from the body, six bytes on.  Fields that come back as
  they were written, though not from where they were written, are a shadow of what stands where they
  are read (`readString_shadow`, `readPeers_shadow`); and fields of which nothing is known are zeros.
-/
import Mathlib.Data.List.Basic
import Profinet.Lib.Shadow
import Profinet.PdRecord

namespace Profinet.Im

open Wire Checked

/-! ## What is written -/

/-- A length byte and the bytes of a string. -/
def text (s : List UInt8) : List UInt8 := UInt8.ofNat s.length :: s

/-- Zeros up to the next multiple of four, behind `n` bytes. -/
def padding (n : Nat) : List UInt8 := List.replicate (toAligned n) 0

/-- A peer as a port block lists it: two identifiers and a MAC address. -/
structure PeerEntry where
  portId : List UInt8
  chassisId : List UInt8
  macAddress : Bytes 6
  portLen : portId.length < 256
  chassisLen : chassisId.length < 256

namespace PeerEntry

/-- Both identifiers, each behind its length. -/
def ids (e : PeerEntry) : List UInt8 := text e.portId ++ text e.chassisId

/-- The peer's bytes: the identifiers, padding and the MAC address. -/
def bytes (e : PeerEntry) : List UInt8 :=
  e.ids ++ (padding e.ids.length ++ (e.macAddress.val ++ [0, 0]))

/-- What the parser reports of the peer. -/
def info (e : PeerEntry) : PeerInfo where
  portId := decodeLatin1 e.portId
  chassisId := decodeLatin1 e.chassisId
  macAddress := e.macAddress

/-- A peer of which nothing is known. -/
structure Blank (e : PeerEntry) : Prop where
  portId : e.portId = []
  chassisId : e.chassisId = []
  macAddress : e.macAddress = noMac

end PeerEntry

/-- The fields of a `PDPortDataReal` block. -/
structure PortFields where
  slot : UInt16
  subslot : UInt16
  portId : List UInt8
  peers : List PeerEntry
  mauType : UInt16
  domainBoundary : UInt32
  multicastBoundary : UInt32
  linkStatePort : UInt8
  linkStateLink : UInt8
  mediaType : UInt32
  idLen : portId.length < 256
  peerCount : peers.length < 256

namespace PortFields

/-- Up to the peers; the id ends at byte `13 + portId.length` of the block. -/
def lead (f : PortFields) : List UInt8 :=
  [0, 0] ++ (be16 f.slot ++ (be16 f.subslot ++ (text f.portId
    ++ ([UInt8.ofNat f.peers.length] ++ padding (14 + f.portId.length)))))

/-- The numbers before the media type. -/
def numbers (f : PortFields) : List UInt8 :=
  be16 f.mauType ++ ([0, 0] ++ (be32 f.domainBoundary ++ (be32 f.multicastBoundary
    ++ ([f.linkStatePort] ++ ([f.linkStateLink] ++ [0, 0])))))

/-- What is written between the lead and the media type. -/
def region (f : PortFields) : List UInt8 := f.peers.flatMap PeerEntry.bytes ++ f.numbers

/-- The block's body. -/
def body (f : PortFields) : List UInt8 := f.lead ++ (f.region ++ be32 f.mediaType)

/-- What the parser reports of the port. -/
def info (f : PortFields) : PortInfo where
  slot := f.slot
  subslot := f.subslot
  portId := decodeLatin1 f.portId
  mauType := f.mauType
  linkStatePort := f.linkStatePort
  linkStateLink := f.linkStateLink
  mediaType := f.mediaType
  peers := f.peers.map PeerEntry.info
  domainBoundary := f.domainBoundary
  multicastBoundary := f.multicastBoundary

/-! ## When it is read back -/

/-- Nothing is known of the peers, and every number before the media type is 0. -/
structure Blank (f : PortFields) : Prop where
  peers : ∀ e ∈ f.peers, e.Blank
  mauType : f.mauType = 0
  domainBoundary : f.domainBoundary = 0
  multicastBoundary : f.multicastBoundary = 0
  linkStatePort : f.linkStatePort = 0
  linkStateLink : f.linkStateLink = 0

/-- The parser goes on behind the peers it should go on at. -/
def Late (f : PortFields) : Prop := f.portId.length % 4 = 1 ∨ f.portId.length % 4 = 2

instance (f : PortFields) : Decidable f.Late := inferInstanceAs (Decidable (_ ∨ _))

/-- The media type is 0; where the parser is late and not at the end of the record, it is the first
    two bytes behind the block, twice. -/
def MediaMet (f : PortFields) (after : List UInt8) : Prop :=
  if f.Late ∧ 2 ≤ after.length then be32 f.mediaType = after.take 2 ++ after.take 2
  else f.mediaType = 0

/-- What the parser reads back, with `after` behind the block. -/
structure Met (f : PortFields) (after : List UInt8) : Prop where
  blank : f.Blank
  media : f.MediaMet after

end PortFields

/-! ## Lengths -/

/-- A string and its length byte. -/
theorem text_length (s : List UInt8) : (text s).length = 1 + s.length := by
  rw [text, List.length_cons, Nat.add_comm]

/-- Padding is as long as the alignment asks. -/
theorem padding_length (n : Nat) : (padding n).length = toAligned n := List.length_replicate

/-- Alignment passes through an aligned offset. -/
theorem up4_add {m : Nat} (hm : m % 4 = 0) (n : Nat) : up4 (m + n) = m + up4 n := by
  have hmod := up4_mod n
  have hle := le_up4 n
  have hlt := up4_lt n
  exact up4_eq (by omega) (by omega) (by omega)

/-- The lengths of both identifiers. -/
theorem PeerEntry.ids_length (e : PeerEntry) :
    e.ids.length = 2 + e.portId.length + e.chassisId.length := by
  rw [ids, List.length_append, text_length, text_length]
  omega

/-- A peer is its identifiers, aligned, and eight bytes. -/
theorem PeerEntry.bytes_length (e : PeerEntry) : e.bytes.length = up4 e.ids.length + 8 := by
  have hup := add_toAligned e.ids.length
  rw [bytes, List.length_append, List.length_append, List.length_append, padding_length,
    e.macAddress.property]
  show e.ids.length + (toAligned e.ids.length + (6 + 2)) = up4 e.ids.length + 8
  omega

namespace PortFields

variable (f : PortFields)

/-- What stands before the peers is aligned with the block's header counted. -/
theorem lead_length : f.lead.length + 6 = up4 (14 + f.portId.length) := by
  have hup := add_toAligned (14 + f.portId.length)
  rw [lead]
  simp only [List.length_append, be16_length, text_length, padding_length, List.length_cons,
    List.length_nil]
  omega

/-- Sixteen bytes of numbers. -/
theorem numbers_length : f.numbers.length = 16 := rfl

/-- The peers and the numbers. -/
theorem region_length : f.region.length = (f.peers.flatMap PeerEntry.bytes).length + 16 := by
  rw [region, List.length_append, numbers_length]

end PortFields

/-! ## Strings -/

/-- A Latin-1 character is its byte. -/
theorem toNat_latin1 (b : UInt8) : (Char.ofNat b.toNat).toNat = b.toNat := by
  have hb := b.toNat_lt
  unfold Char.ofNat
  rw [dif_pos (.inl (by omega))]
  rfl

/-- Different bytes decode to different strings. -/
theorem decodeLatin1_inj {a b : List UInt8} (h : decodeLatin1 a = decodeLatin1 b) : a = b := by
  have hchars := congrArg String.toList h
  unfold decodeLatin1 at hchars
  rw [String.toList_ofList, String.toList_ofList] at hchars
  refine List.map_injective_iff.mpr (fun x y hxy => ?_) hchars
  have hnat := congrArg Char.toNat hxy
  rw [toNat_latin1, toNat_latin1] at hnat
  exact UInt8.toNat_inj.mp hnat

section Reading

variable {rest : List UInt8} {p : Nat}

/-- A string that stands there is read. -/
theorem readString_stands {s : List UInt8} (hs : s.length < 256) (h : Stands rest p (text s)) :
    readString rest p = (decodeLatin1 s, p + (text s).length) := by
  have hfits := h.fits
  have hlen : rest.getD p 0 = UInt8.ofNat s.length := h.getD (Nat.zero_lt_succ _)
  have hcount : (rest.getD p 0).toNat = s.length := by
    rw [hlen, UInt8.toNat_ofNat']
    exact Nat.mod_eq_of_lt hs
  have hsplit : text s = [UInt8.ofNat s.length] ++ s := rfl
  rw [text_length] at hfits ⊢
  rw [hsplit] at h
  obtain ⟨-, hchars⟩ := h.split List.length_singleton
  obtain ⟨_, after, hhere⟩ := hchars
  unfold readString
  dsimp only
  rw [hcount, if_pos (by omega), Nat.add_sub_cancel_left, hhere, take_append_exact rfl,
    ← Nat.add_assoc]

/-- A string that is read as it was written: its length byte says so, or it is empty. -/
theorem readString_shadow {s : List UInt8} (hs : s.length < 256)
    (h : (readString rest p).1 = decodeLatin1 s) :
    (readString rest p).2 = p + (text s).length ∧ Shadow rest p (text s) := by
  unfold readString at h ⊢
  dsimp only at h ⊢
  rw [text_length]
  by_cases hfits : p + 1 + (rest.getD p 0).toNat ≤ rest.length
  · rw [if_pos hfits] at h ⊢
    have hchars := decodeLatin1_inj h
    rw [Nat.add_sub_cancel_left] at hchars
    have hlen := congrArg List.length hchars
    rw [List.length_take, List.length_drop] at hlen
    have hcount : (rest.getD p 0).toNat = s.length := by omega
    refine ⟨by dsimp only; omega, ?_⟩
    have hbyte : UInt8.ofNat s.length = rest.getD p 0 := by
      rw [← hcount, UInt8.ofNat_toNat]
    intro i
    cases i with
    | zero => exact .inr hbyte
    | succ i =>
      by_cases hi : i < s.length
      · refine .inr ?_
        show s.getD i 0 = rest.getD (p + (i + 1)) 0
        rw [← hchars, hcount, List.getD_eq_getElem?_getD, List.getElem?_take_of_lt hi,
          List.getElem?_drop, List.getD_eq_getElem?_getD, Nat.add_assoc p 1 i, Nat.add_comm 1 i]
      · refine .inl ?_
        show s.getD i 0 = 0
        rw [List.getD_eq_getElem?_getD, List.getElem?_eq_none (by omega)]
        rfl
  · -- a string that does not fit is read as the empty one
    rw [if_neg hfits] at h ⊢
    have hempty : [] = s := decodeLatin1_inj h
    subst hempty
    exact ⟨rfl, Zeros.shadow (List.forall_mem_singleton.mpr rfl) rest p⟩

/-! ## Peers -/

/-- A MAC address within the block is read whole. -/
theorem readMac_fits (h : p + 6 ≤ rest.length) : readMac rest p = (bytesAt 6 rest p, p + 6) :=
  if_pos h

/-- **Peers that are read as they were written are a shadow of what stands there.** -/
theorem readPeers_shadow (l : List PeerEntry) (hp : p % 4 = 0)
    (hfits : p + (l.flatMap PeerEntry.bytes).length ≤ rest.length)
    (h : (readPeers rest l.length p).1 = l.map PeerEntry.info) :
    (readPeers rest l.length p).2 = p + (l.flatMap PeerEntry.bytes).length
      ∧ Shadow rest p (l.flatMap PeerEntry.bytes) := by
  induction l generalizing p with
  | nil => exact ⟨rfl, Zeros.shadow (List.forall_mem_nil _) rest p⟩
  | cons e l ih =>
    have hup := add_toAligned e.ids.length
    have hids := e.ids_length
    rw [List.flatMap_cons, List.length_append, e.bytes_length] at hfits ⊢
    rw [List.length_cons, readPeers] at h ⊢
    rw [if_neg (by omega)] at h ⊢
    dsimp only at h ⊢
    by_cases hport : rest.length < (readString rest p).2 + 1
    · rw [if_pos hport] at h
      cases h
    rw [if_neg hport] at h ⊢
    dsimp only at h ⊢
    rw [List.map_cons, List.cons.injEq, PeerEntry.info, PeerInfo.mk.injEq] at h
    obtain ⟨⟨hportId, hchassisId, hmac⟩, hmore⟩ := h
    obtain ⟨hsecond, hportShadow⟩ := readString_shadow e.portLen hportId
    rw [hsecond] at hchassisId hmac hmore ⊢
    obtain ⟨hthird, hchassisShadow⟩ := readString_shadow e.chassisLen hchassisId
    -- the ids end where they were written to end, and so the MAC stands there
    have hend : p + (text e.portId).length + (text e.chassisId).length = p + e.ids.length := by
      rw [PeerEntry.ids, List.length_append, Nat.add_assoc]
    have hmacAt : up4 (p + e.ids.length) = p + up4 e.ids.length := up4_add hp _
    rw [hthird, hend, hmacAt, readMac_fits (by omega)] at hmac hmore ⊢
    dsimp only at hmac hmore ⊢
    have hmod := up4_mod e.ids.length
    have hnext : up4 (p + up4 e.ids.length + 6) = p + (up4 e.ids.length + 8) :=
      up4_eq (by omega) (by omega) (by omega)
    rw [hnext] at hmore ⊢
    obtain ⟨hlast, hrest⟩ := ih (by omega) (by omega) hmore
    refine ⟨by rw [hlast, Nat.add_assoc], ?_⟩
    refine Shadow.append ?_ e.bytes_length hrest
    refine Shadow.append (hportShadow.append rfl hchassisShadow) rfl ?_
    refine Shadow.append ((zeros_replicate _).shadow _ _) (padding_length _) ?_
    refine Shadow.append ?_ e.macAddress.property (Zeros.shadow (zeros_replicate 2) _ _)
    rw [Nat.add_assoc, hup]
    refine shadow_of_bytesAt ?_
    rw [e.macAddress.property]
    exact congrArg Subtype.val hmac

/-- Of zeros the peers are read of which nothing is known. -/
theorem readPeers_zeros (count : Nat) (hp : p % 4 = 0) (hfits : p + 12 * count ≤ rest.length)
    (h : ∀ i < 12 * count, rest.getD (p + i) 0 = 0) :
    readPeers rest count p = (List.replicate count ⟨"", "", noMac⟩, p + 12 * count) := by
  induction count generalizing p with
  | zero => rfl
  | succ count ih =>
    have hempty (i : Nat) (hi : i < 2) : readString rest (p + i) = ("", p + i + 1) := by
      unfold readString
      rw [h i (by omega), UInt8.toNat_zero]
      dsimp only
      rw [if_pos (by omega), Nat.add_zero, Nat.sub_self, List.take_zero]
      rfl
    have hfirst := hempty 0 (by omega)
    have hsecond := hempty 1 (by omega)
    rw [Nat.add_zero] at hfirst
    have hmac : bytesAt 6 rest (p + 4) = noMac := by
      apply Subtype.ext
      refine List.eq_replicate_iff.mpr ⟨(bytesAt 6 rest (p + 4)).property, fun b hb => ?_⟩
      obtain ⟨i, hi, rfl⟩ := List.mem_map.mp hb
      have hlt := List.mem_range.mp hi
      rw [Nat.add_assoc]
      exact h (4 + i) (by omega)
    have hup : up4 (p + 1 + 1) = p + 4 := up4_eq (by omega) (by omega) (by omega)
    have hup' : up4 (p + 4 + 6) = p + 12 := up4_eq (by omega) (by omega) (by omega)
    have hmore := ih (p := p + 12) (by omega) (by omega) fun i hi => by
      rw [Nat.add_assoc]
      exact h (12 + i) (by omega)
    rw [readPeers, if_neg (by omega), hfirst]
    dsimp only
    rw [if_neg (by omega), hsecond]
    dsimp only
    rw [hup, readMac_fits (by omega), hmac]
    dsimp only
    rw [hup', hmore, Nat.mul_succ, Nat.add_comm (12 * count), Nat.add_assoc]
    rfl

/-! ## The numbers -/

/-- The numbers behind the peers, where all but the media type are there. -/
theorem readNumbers_fits (hp : p % 4 = 0) (h : p + 14 ≤ rest.length) (port : PortInfo) :
    readNumbers rest p port = { port with
      mauType := rdU16 rest p false
      domainBoundary := rdU32 rest (p + 4) false
      multicastBoundary := rdU32 rest (p + 8) false
      linkStatePort := rest.getD (p + 12) 0
      linkStateLink := rest.getD (p + 13) 0
      mediaType := (readMedia rest (p + 16)).1 } := by
  have hmau : readMau rest p = (rdU16 rest p false, p + 2) := if_pos (by omega)
  have hup : up4 (p + 2) = p + 4 := up4_eq (by omega) (by omega) (by omega)
  have hbound : readBoundaries rest (p + 4)
      = ((rdU32 rest (p + 4) false, rdU32 rest (p + 8) false), p + 12) := if_pos (by omega)
  have hlink : readLinkState rest (p + 12)
      = ((rest.getD (p + 12) 0, rest.getD (p + 13) 0), p + 14) := if_pos (by omega)
  have hup' : up4 (p + 14) = p + 16 := up4_eq (by omega) (by omega) (by omega)
  unfold readNumbers
  rw [hmau]
  dsimp only
  rw [hup, hbound]
  dsimp only
  rw [hlink]
  dsimp only
  rw [hup']

end Reading

/-! ## What is written is zero where nothing is known -/

/-- A string is all zero bytes exactly when it is empty. -/
theorem zeros_text {s : List UInt8} (hs : s.length < 256) : Zeros (text s) ↔ s = [] := by
  constructor
  · intro h
    have hlen : UInt8.ofNat s.length = 0 := h _ List.mem_cons_self
    have hnat := congrArg UInt8.toNat hlen
    rw [UInt8.toNat_ofNat', UInt8.toNat_zero] at hnat
    exact List.eq_nil_of_length_eq_zero (by omega)
  · rintro rfl
    exact List.forall_mem_singleton.mpr rfl

/-- A MAC address is all zero bytes exactly when it is the zero address. -/
theorem zeros_mac {mac : Bytes 6} : Zeros mac.val ↔ mac = noMac := by
  constructor
  · intro h
    exact Subtype.ext (List.eq_replicate_iff.mpr ⟨mac.property, h⟩)
  · rintro rfl
    exact zeros_replicate 6

/-- A peer is all zero bytes exactly when every field of it is blank. -/
theorem PeerEntry.zeros_iff (e : PeerEntry) : Zeros e.bytes ↔ e.Blank := by
  unfold bytes ids padding
  simp only [zeros_append, zeros_text e.portLen, zeros_text e.chassisLen, zeros_mac]
  constructor
  · rintro ⟨⟨hport, hchassis⟩, -, hmac, -⟩
    exact ⟨hport, hchassis, hmac⟩
  · rintro ⟨hport, hchassis, hmac⟩
    exact ⟨⟨hport, hchassis⟩, zeros_replicate _, hmac, zeros_replicate 2⟩

/-- A region is all zero bytes exactly when every peer and every number is blank. -/
theorem PortFields.zeros_iff (f : PortFields) : Zeros f.region ↔ f.Blank := by
  have hpeers : Zeros (f.peers.flatMap PeerEntry.bytes) ↔ ∀ e ∈ f.peers, e.Blank := by
    unfold Zeros
    rw [List.forall_mem_flatMap]
    exact forall₂_congr fun e _ => e.zeros_iff
  have hbyte (b : UInt8) : Zeros [b] ↔ b = 0 := List.forall_mem_singleton
  unfold region numbers
  simp only [zeros_append, hpeers, zeros_be16, zeros_be32, hbyte]
  constructor
  · rintro ⟨hpeers, hmau, -, hdomain, hmulticast, hport, hlink, -⟩
    exact ⟨hpeers, hmau, hdomain, hmulticast, hport, hlink⟩
  · rintro ⟨hpeers, hmau, hdomain, hmulticast, hport, hlink⟩
    exact ⟨hpeers, hmau, zeros_replicate 2, hdomain, hmulticast, hport, hlink, zeros_replicate 2⟩

/-- What is reported of a blank peer. -/
theorem PeerEntry.Blank.info_eq {e : PeerEntry} (h : e.Blank) : e.info = ⟨"", "", noMac⟩ := by
  obtain ⟨hport, hchassis, hmac⟩ := h
  unfold info
  rw [hport, hchassis, hmac]
  rfl

/-- A blank peer takes twelve bytes. -/
theorem blank_length {l : List PeerEntry} (h : ∀ e ∈ l, e.Blank) :
    (l.flatMap PeerEntry.bytes).length = 12 * l.length := by
  induction l with
  | nil => rfl
  | cons e l ih =>
    obtain ⟨hport, hchassis, -⟩ := h e List.mem_cons_self
    have hlen := e.ids_length
    rw [hport, hchassis] at hlen
    have hids : e.ids.length = 2 := hlen
    rw [List.flatMap_cons, List.length_append, e.bytes_length, hids,
      ih fun d hd => h d (List.mem_cons_of_mem e hd), List.length_cons, Nat.mul_succ, Nat.add_comm]
    rfl

end Profinet.Im
