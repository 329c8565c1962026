/-
  PORT SHIFT: where the parser goes on behind the own port id, and what it reads from there.

  It goes on two places before the peers or two behind them, by the length of the port id
  (`peersAt`).  From there each byte it reads back must be zero, or the same as the one two places
  off: what is written up to the media type is its own shadow, and so it is zero (`Zeros`).  So a
  port is read back exactly where it has nothing to say (`Met`).
-/
import Mathlib.Data.List.Basic
import Profinet.PortLayout

namespace Profinet.Im

open Wire Checked

/-! ## Where the parser goes on

  The own port id is behind a length byte, and what follows is aligned.  The parser counts from
  the beginning of the body, the writer from the block header six bytes before it. -/

namespace PortFields

variable (f : PortFields) (after : List UInt8)

/-- Where the parser takes the peers to begin, counted from the body. -/
def peersAt : Nat := up4 (8 + f.portId.length)

theorem peersAt_mod : f.peersAt % 4 = 0 := up4_mod (8 + f.portId.length)

/-- Two bytes behind the peers, or two before them. -/
theorem peersAt_late (h : f.Late) : f.peersAt = f.lead.length + 2 := by
  have hlen := f.lead_length
  have hmod := up4_mod (14 + f.portId.length)
  have hle := le_up4 (14 + f.portId.length)
  have hlt := up4_lt (14 + f.portId.length)
  show up4 (8 + f.portId.length) = f.lead.length + 2
  rcases h with h | h
  · exact up4_eq (by omega) (by omega) (by omega)
  · exact up4_eq (by omega) (by omega) (by omega)

theorem peersAt_early (h : ¬ f.Late) : f.peersAt + 2 = f.lead.length := by
  have hlen := f.lead_length
  have hmod := up4_mod (14 + f.portId.length)
  have hle := le_up4 (14 + f.portId.length)
  have hlt := up4_lt (14 + f.portId.length)
  have hnot : ¬ (f.portId.length % 4 = 1 ∨ f.portId.length % 4 = 2) := h
  have hat : up4 (8 + f.portId.length) = f.lead.length - 2 :=
    up4_eq (by omega) (by omega) (by omega)
  show up4 (8 + f.portId.length) + 2 = f.lead.length
  omega

/-- The bytes from the body on. -/
abbrev rest : List UInt8 := f.body ++ after

theorem rest_length :
    (f.rest after).length = f.lead.length + f.region.length + 4 + after.length := by
  rw [rest, List.length_append, body, List.length_append, List.length_append, be32_length,
    ← Nat.add_assoc]

theorem lead_stands : Stands (f.rest after) 0 f.lead := (stands_front f.body after).left

theorem region_stands : Stands (f.rest after) f.lead.length f.region := by
  have h := ((stands_front f.body after).split (a := f.lead) rfl).2.left
  rwa [Nat.zero_add] at h

theorem media_stands :
    Stands (f.rest after) (f.lead.length + f.region.length) (be32 f.mediaType) := by
  have h := (((stands_front f.body after).split (a := f.lead) rfl).2.split (a := f.region) rfl).2
  rwa [Nat.zero_add] at h

theorem after_stands :
    Stands (f.rest after) (f.lead.length + f.region.length + 4) after := by
  have h : (f.rest after).drop f.body.length = after := List.drop_left
  have hlen : f.body.length = f.lead.length + f.region.length + 4 := by
    rw [body, List.length_append, List.length_append, be32_length, ← Nat.add_assoc]
  rw [hlen] at h
  exact ⟨Nat.le_of_eq (f.rest_length after).symm, [], by rw [h, List.append_nil]⟩

/-- What is read of the peers. -/
def peersRead : List PeerInfo × Nat := readPeers (f.rest after) f.peers.length f.peersAt

/-- The fields of the lead. -/
theorem lead_fields :
    Stands (f.rest after) 2 (be16 f.slot) ∧ Stands (f.rest after) 4 (be16 f.subslot)
      ∧ Stands (f.rest after) 6 (text f.portId)
      ∧ Stands (f.rest after) (7 + f.portId.length) [UInt8.ofNat f.peers.length]
      ∧ Stands (f.rest after) (8 + f.portId.length) (padding (14 + f.portId.length)) := by
  obtain ⟨-, h⟩ := (f.lead_stands after).split (a := [0, 0]) (n := 2) rfl
  obtain ⟨hslot, h⟩ := h.split (be16_length f.slot)
  obtain ⟨hsubslot, h⟩ := h.split (be16_length f.subslot)
  obtain ⟨hid, h⟩ := h.split (text_length f.portId)
  obtain ⟨hcount, hpadding⟩ := h.split List.length_singleton
  have hat : 0 + 2 + 2 + 2 + (1 + f.portId.length) = 7 + f.portId.length := by omega
  have hat' : 7 + f.portId.length + 1 = 8 + f.portId.length := by omega
  rw [hat] at hcount hpadding
  rw [hat'] at hpadding
  exact ⟨hslot, hsubslot, hid, hcount, hpadding⟩

/-- Slot, subslot and own port id are read as they were written. -/
theorem readPort_lead (slot subslot : UInt16) :
    readPort (f.rest after) 2 slot subslot
      = readNumbers (f.rest after) (f.peersRead after).2
          ⟨f.slot, f.subslot, decodeLatin1 f.portId, 0, 0, 0, 0, (f.peersRead after).1, 0, 0⟩ := by
  obtain ⟨hslot, hsubslot, hid, hcount, -⟩ := f.lead_fields after
  have hfits := hcount.fits
  rw [List.length_singleton] at hfits
  -- the fixed fields fit, so each is read from its own place
  have hplace : readPlace (f.rest after) slot subslot 2 = ((f.slot, f.subslot), 6) := by
    unfold readPlace readField
    rw [if_pos (by omega)]
    show ((rdU16 (f.rest after) 2 false, rdU16 (f.rest after) 4 false), 6) = _
    rw [hslot.rdU16, hsubslot.rdU16]
  have hstring : readString (f.rest after) 6 = (decodeLatin1 f.portId, 7 + f.portId.length) := by
    rw [readString_stands f.idLen hid, text_length, ← Nat.add_assoc]
  have hpeers : readCount (f.rest after) (7 + f.portId.length)
      = (f.peers.length, 8 + f.portId.length) := by
    have hbyte : (f.rest after).getD (7 + f.portId.length) 0 = UInt8.ofNat f.peers.length :=
      hcount.getD (i := 0) Nat.one_pos
    unfold readCount
    rw [if_pos (by omega), hbyte, UInt8.toNat_ofNat', Nat.mod_eq_of_lt f.peerCount,
      Nat.add_right_comm]
  unfold readPort
  dsimp only
  rw [hplace]
  dsimp only
  rw [if_neg (by omega), hstring]
  dsimp only
  rw [hpeers]
  rfl

/-! ## What is read is what was written

  Two places off, a field is read as what it is only if its bytes are their own shadow, that is
  zero; conversely a region of zeros is read as zeros from anywhere. -/

/-- How long the peers are. -/
abbrev peersLength : Nat := (f.peers.flatMap PeerEntry.bytes).length

theorem peersLength_mod : f.peersLength % 4 = 0 := by
  have hpeers : ∀ l : List PeerEntry, (l.flatMap PeerEntry.bytes).length % 4 = 0 := by
    intro l
    induction l with
    | nil => rfl
    | cons e l ih =>
      have hmod := up4_mod e.ids.length
      rw [List.flatMap_cons, List.length_append, e.bytes_length]
      omega
  exact hpeers f.peers

/-- The parser has all the bytes it needs up to the media type. -/
theorem peersAt_fits :
    f.peersAt + f.peersLength + 14 ≤ (f.rest after).length := by
  have hlen := f.rest_length after
  have hregion : f.region.length = f.peersLength + 16 := f.region_length
  by_cases hlate : f.Late
  · have hat := f.peersAt_late hlate
    omega
  · have hat := f.peersAt_early hlate
    omega

/-- The last two bytes of the region are padding. -/
theorem region_tail {i : Nat} (hi : f.region.length ≤ i + 2) : f.region.getD i 0 = 0 := by
  have hregion : f.region.length = f.peersLength + 16 := f.region_length
  by_cases hout : f.region.length ≤ i
  · rw [List.getD_eq_getElem?_getD, List.getElem?_eq_none hout]
    rfl
  · have hnumber : f.region.getD i 0 = f.numbers.getD (i - f.peersLength) 0 := by
      unfold region
      rw [List.getD_eq_getElem?_getD, List.getD_eq_getElem?_getD,
        List.getElem?_append_right (by show f.peersLength ≤ i; omega)]
    have hlast : i - f.peersLength = 14 ∨ i - f.peersLength = 15 := by omega
    rw [hnumber]
    rcases hlast with h | h
    · rw [h]
      rfl
    · rw [h]
      rfl

/-- Where the parser is late, it sees each byte of the region two places on. -/
theorem shifted_late (h : f.Late) {i : Nat} (hi : i + 2 < f.region.length) :
    (f.rest after).getD (f.peersAt + i) 0 = f.region.getD (i + 2) 0 := by
  have hat := f.peersAt_late h
  have hsplit : f.peersAt + i = f.lead.length + (i + 2) := by omega
  rw [hsplit]
  exact (f.region_stands after).getD hi

/-- Where it is early, two places back, behind two bytes of padding. -/
theorem shifted_early (h : ¬ f.Late) {i : Nat} (hi : i < f.region.length + 2) :
    (f.rest after).getD (f.peersAt + i) 0 = if i < 2 then 0 else f.region.getD (i - 2) 0 := by
  have hat := f.peersAt_early h
  by_cases hpad : i < 2
  · obtain ⟨-, -, -, -, hpadding⟩ := f.lead_fields after
    have hlen := f.lead_length
    have hup := add_toAligned (14 + f.portId.length)
    have hle : 8 + f.portId.length ≤ f.peersAt := le_up4 _
    obtain ⟨j, hj⟩ : ∃ j, f.peersAt + i = 8 + f.portId.length + j :=
      ⟨f.peersAt + i - (8 + f.portId.length), by omega⟩
    rw [if_pos hpad, hj, hpadding.getD (by rw [padding_length]; omega)]
    exact (zeros_replicate _).getD j
  · have hsplit : f.peersAt + i = f.lead.length + (i - 2) := by omega
    rw [if_neg hpad, hsplit]
    exact (f.region_stands after).getD (by omega)

/-- **A region that is read as it was written is zero.** -/
theorem zeros_of_shadow (h : Shadow (f.rest after) f.peersAt f.region) : Zeros f.region := by
  by_cases hlate : f.Late
  · refine zeros_of_behind (k := 2) (by omega) ?_
    intro i
    rcases h i with hzero | hsame
    · exact .inl hzero
    · by_cases hi : i + 2 < f.region.length
      · exact .inr (hsame.trans (f.shifted_late after hlate hi))
      · exact .inl (f.region_tail (by omega))
  · refine zeros_of_before (k := 2) (by omega) ?_
    intro i
    rcases h i with hzero | hsame
    · exact .inl hzero
    · by_cases hi : i < f.region.length + 2
      · rw [f.shifted_early after hlate hi] at hsame
        by_cases hpad : i < 2
        · exact .inl (hsame.trans (if_pos hpad))
        · exact .inr ⟨by omega, hsame.trans (if_neg hpad)⟩
      · exact .inl (f.region_tail (by omega))

/-- Where the region is zero, so is what the parser takes for it. -/
theorem zeros_seen (h : Zeros f.region) {i : Nat} (hi : i < f.peersLength + 14) :
    (f.rest after).getD (f.peersAt + i) 0 = 0 := by
  have hregion : f.region.length = f.peersLength + 16 := f.region_length
  by_cases hlate : f.Late
  · rw [f.shifted_late after hlate (by omega)]
    exact h.getD _
  · rw [f.shifted_early after hlate (by omega)]
    by_cases hpad : i < 2
    · exact if_pos hpad
    · rw [if_neg hpad]
      exact h.getD _

section Media

variable (h : Zeros f.region)
include h

/-- The parser is early: it reads the two bytes of padding before the media type, and its first
    two. -/
theorem media_early (hlate : ¬ f.Late) :
    (readMedia (f.rest after) (f.peersAt + f.peersLength + 16)).1 = f.mediaType
      ↔ f.mediaType = 0 := by
  have hlen := f.rest_length after
  have hregion : f.region.length = f.peersLength + 16 := f.region_length
  have hat := f.peersAt_early hlate
  obtain ⟨a, b, c, d, hmedia⟩ : ∃ a b c d, be32 f.mediaType = [a, b, c, d] := ⟨_, _, _, _, rfl⟩
  have hstands := f.media_stands after
  obtain ⟨p, hp⟩ : ∃ p, p = f.peersAt + f.peersLength + 16 := ⟨_, rfl⟩
  have hat' : f.lead.length + f.region.length = p + 2 := by omega
  rw [hmedia, hat'] at hstands
  -- the two bytes in front of the media type are the end of the region, which is zero
  have hpad (i : Nat) (hi : i < 2) : (f.rest after).getD (p + i) 0 = 0 := by
    have hsplit : p + i = f.lead.length + (f.peersLength + 14 + i) := by omega
    rw [hsplit, (f.region_stands after).getD (by omega)]
    exact h.getD _
  have hread : readMedia (f.rest after) p = (rdU32 (f.rest after) p false, p + 4) :=
    if_pos (by omega)
  have ha : (f.rest after).getD (p + 2) 0 = a := hstands.getD (i := 0) (Nat.zero_lt_succ 3)
  have hb : (f.rest after).getD (p + 3) 0 = b := hstands.getD (i := 1) (show 1 < 4 by decide)
  have h0 : (f.rest after).getD p 0 = 0 := hpad 0 (by omega)
  have h1 : (f.rest after).getD (p + 1) 0 = 0 := hpad 1 (by omega)
  rw [← hp, hread]
  show rdU32 (f.rest after) p false = f.mediaType ↔ f.mediaType = 0
  -- read from two bytes early, the two zeros and half of the media type are the media type
  rw [rdU32_eq_iff, ha, hb, h0, h1, ← zeros_be32, hmedia]
  simp only [List.cons.injEq, Zeros, List.mem_cons, List.not_mem_nil, or_false, forall_eq_or_imp,
    forall_eq]
  constructor
  · rintro ⟨rfl, rfl, rfl, rfl, -⟩
    exact ⟨rfl, rfl, rfl, rfl⟩
  · rintro ⟨rfl, rfl, rfl, rfl⟩
    exact ⟨rfl, rfl, rfl, rfl, trivial⟩

omit h in
/-- The parser is late: it reads the last two bytes of the media type, and the two behind the block,
    if they are there. -/
theorem media_late (hlate : f.Late) :
    (readMedia (f.rest after) (f.peersAt + f.peersLength + 16)).1 = f.mediaType
      ↔ if 2 ≤ after.length then be32 f.mediaType = after.take 2 ++ after.take 2
        else f.mediaType = 0 := by
  have hlen := f.rest_length after
  have hregion : f.region.length = f.peersLength + 16 := f.region_length
  have hat := f.peersAt_late hlate
  have hstands := f.media_stands after
  have hafter := f.after_stands after
  obtain ⟨p, hp⟩ : ∃ p, p = f.lead.length + f.region.length := ⟨_, rfl⟩
  have hat' : f.peersAt + f.peersLength + 16 = p + 2 := by omega
  rw [hat']
  rw [← hp] at hstands hafter
  by_cases hmore : 2 ≤ after.length
  · obtain ⟨a, b, c, d, hmedia⟩ : ∃ a b c d, be32 f.mediaType = [a, b, c, d] := ⟨_, _, _, _, rfl⟩
    rw [hmedia] at hstands
    -- two more bytes follow, so the field is read from two bytes late
    obtain ⟨x, y, more, htake⟩ : ∃ x y more, after = x :: y :: more := by
      match after, hmore with
      | x :: y :: more, _ => exact ⟨x, y, more, rfl⟩
    have hread : readMedia (f.rest after) (p + 2)
        = (rdU32 (f.rest after) (p + 2) false, p + 2 + 4) := if_pos (by omega)
    have hc : (f.rest after).getD (p + 2) 0 = c := hstands.getD (i := 2) (show 2 < 4 by decide)
    have hd : (f.rest after).getD (p + 3) 0 = d := hstands.getD (i := 3) (show 3 < 4 by decide)
    have hx : (f.rest after).getD (p + 4) 0 = x := by
      rw [hafter.getD (i := 0) (by omega), htake]
      rfl
    have hy : (f.rest after).getD (p + 5) 0 = y := by
      rw [hafter.getD (i := 1) (by omega), htake]
      rfl
    rw [if_pos hmore, hread]
    show rdU32 (f.rest after) (p + 2) false = f.mediaType ↔ _
    rw [rdU32_eq_iff, hc, hd, hx, hy, hmedia, htake]
    -- the low half and the two bytes behind it are the media type
    show [a, b, c, d] = [c, d, x, y] ↔ [a, b, c, d] = [x, y, x, y]
    simp only [List.cons.injEq]
    constructor
    · rintro ⟨rfl, rfl, rfl, rfl, -⟩
      exact ⟨rfl, rfl, rfl, rfl, trivial⟩
    · rintro ⟨rfl, rfl, rfl, rfl, -⟩
      exact ⟨rfl, rfl, rfl, rfl, trivial⟩
  -- too little follows, so the field keeps its default
  · have hread : readMedia (f.rest after) (p + 2) = (0, p + 2) := if_neg (by omega)
    rw [if_neg hmore, hread]
    exact eq_comm

theorem media_read :
    (readMedia (f.rest after) (f.peersAt + f.peersLength + 16)).1 = f.mediaType
      ↔ f.MediaMet after := by
  unfold MediaMet
  by_cases hlate : f.Late
  · rw [f.media_late after hlate]
    by_cases hmore : 2 ≤ after.length
    · rw [if_pos hmore, if_pos ⟨hlate, hmore⟩]
    · rw [if_neg hmore, if_neg fun hboth => hmore hboth.2]
  · rw [f.media_early after h hlate, if_neg fun hboth => hlate hboth.1]

end Media

/-- Peers and numbers that are read as they were written are a shadow of the region. -/
theorem shadow_of_read {slot subslot : UInt16}
    (h : readPort (f.rest after) 2 slot subslot = f.info) :
    Shadow (f.rest after) f.peersAt f.region
      ∧ (readMedia (f.rest after) (f.peersAt + f.peersLength + 16)).1 = f.mediaType := by
  have hfits := f.peersAt_fits after
  have hmod := f.peersAt_mod
  have hmod' := f.peersLength_mod
  rw [f.readPort_lead] at h
  have hpeers : (f.peersRead after).1 = f.peers.map PeerEntry.info := congrArg PortInfo.peers h
  obtain ⟨hend, hshadow⟩ := readPeers_shadow f.peers hmod
    (show f.peersAt + f.peersLength ≤ _ by omega) hpeers
  have hend : (f.peersRead after).2 = f.peersAt + f.peersLength := hend
  rw [hend, readNumbers_fits (by omega) (by omega), info, PortInfo.mk.injEq] at h
  -- equal ports have equal fields, and each field says what bytes it was read from
  obtain ⟨-, -, -, hmau, hport, hlink, hmedia, -, hdomain, hmulticast⟩ := h
  have hbyte {p : Nat} {b : UInt8} (hb : (f.rest after).getD p 0 = b) :
      Shadow (f.rest after) p [b] := by
    refine shadow_of_bytesAt ?_
    rw [← hb]
    rfl
  have hzero (p : Nat) : Shadow (f.rest after) p [0, 0] := (zeros_replicate 2).shadow _ _
  refine ⟨hshadow.append rfl ?_, hmedia⟩
  refine (Shadow.word hmau).append (n := 2) rfl ((hzero _).append (n := 2) rfl ?_)
  refine (Shadow.dword hdomain).append (n := 4) rfl ?_
  refine (Shadow.dword hmulticast).append (n := 4) rfl ?_
  exact (hbyte hport).append (n := 1) rfl ((hbyte hlink).append (n := 1) rfl (hzero _))

/-- Where nothing is known, nothing is read. -/
theorem read_of_zeros (h : Zeros f.region) (slot subslot : UInt16)
    (hmedia : (readMedia (f.rest after) (f.peersAt + f.peersLength + 16)).1 = f.mediaType) :
    readPort (f.rest after) 2 slot subslot = f.info := by
  have hfits := f.peersAt_fits after
  have hmod := f.peersAt_mod
  have hmod' := f.peersLength_mod
  obtain ⟨hpeers, hmau, hdomain, hmulticast, hport, hlink⟩ := f.zeros_iff.mp h
  have hcount : f.peersLength = 12 * f.peers.length := blank_length hpeers
  -- a zero region reads as blank peers and zero numbers, wherever reading begins
  have hread : f.peersRead after
      = (List.replicate f.peers.length ⟨"", "", noMac⟩, f.peersAt + f.peersLength) := by
    rw [hcount]
    exact readPeers_zeros f.peers.length hmod (by omega) fun i hi =>
      f.zeros_seen after h (by omega)
  have hinfo : f.peers.map PeerEntry.info = List.replicate f.peers.length ⟨"", "", noMac⟩ := by
    refine List.eq_replicate_iff.mpr ⟨List.length_map _, fun p hp => ?_⟩
    obtain ⟨e, he, rfl⟩ := List.mem_map.mp hp
    exact (hpeers e he).info_eq
  have hseen (i : Nat) (hi : i < 14) :
      (f.rest after).getD (f.peersAt + f.peersLength + i) 0 = 0 := by
    rw [Nat.add_assoc]
    exact f.zeros_seen after h (by omega)
  have hword : rdU16 (f.rest after) (f.peersAt + f.peersLength) false = 0 := by
    unfold rdU16
    have hfirst := hseen 0 (by omega)
    rw [Nat.add_zero] at hfirst
    rw [hfirst, hseen 1 (by omega)]
    rfl
  have hdword (i : Nat) (hi : i < 11) :
      rdU32 (f.rest after) (f.peersAt + f.peersLength + i) false = 0 := by
    unfold rdU32
    rw [hseen i (by omega), Nat.add_assoc, hseen (i + 1) (by omega), Nat.add_assoc,
      hseen (i + 2) (by omega), Nat.add_assoc, hseen (i + 3) (by omega)]
    rfl
  rw [f.readPort_lead, hread]
  dsimp only
  rw [readNumbers_fits (by omega) (by omega), hword, hdword 4 (by omega), hdword 8 (by omega),
    hseen 12 (by omega), hseen 13 (by omega), hmedia, ← hinfo]
  unfold info
  rw [hmau, hdomain, hmulticast, hport, hlink]

/-- **A port is read back exactly where it has nothing to say.** -/
theorem readPort_iff (slot subslot : UInt16) :
    readPort (f.rest after) 2 slot subslot = f.info ↔ f.Met after := by
  constructor
  · intro h
    obtain ⟨hshadow, hmedia⟩ := f.shadow_of_read after h
    have hzeros := f.zeros_of_shadow after hshadow
    exact ⟨f.zeros_iff.mp hzeros, (f.media_read after hzeros).mp hmedia⟩
  · rintro ⟨hblank, hmedia⟩
    have hzeros := f.zeros_iff.mpr hblank
    exact f.read_of_zeros after hzeros slot subslot ((f.media_read after hzeros).mpr hmedia)

end PortFields

end Profinet.Im
