/-
  THE BYTES OF A PORT: which bytes of its body a port is read from.

  `portBytes body first` are the fields that the lengths and counts of a body mark out, from the
  first multiple of four on.  A whole port is what these fields say (`readPort_bytes`), and they are
  what it says (`PortBytes.info_inj`): two whole ports are read alike exactly where they have the
  same fields.  The fields also say where they end (`numbersAt_eq`), so a body that is not whole is
  read differently with different bytes behind it (`portEnd_le_of_eq`).
-/
import Mathlib.Data.List.GetD
import Profinet.PdEnds

namespace Profinet.Im

open Wire Checked

/-! ## The fields -/

/-- The bytes of one peer entry: both names with their lengths, and the address. -/
@[ext]
structure PeerBytes where
  portId : List UInt8
  chassisId : List UInt8
  mac : Bytes 6
  deriving DecidableEq, Repr

/-- The bytes of all fields of a port block, each where its own lengths put it. -/
@[ext]
structure PortBytes where
  slot : Bytes 2
  subslot : Bytes 2
  portId : List UInt8
  peers : List PeerBytes
  mau : Bytes 2
  domain : Bytes 4
  multicast : Bytes 4
  linkPort : UInt8
  linkLink : UInt8
  media : Bytes 4
  deriving DecidableEq, Repr

/-- A string with its length byte. -/
def stringBytes (rest : List UInt8) (p : Nat) : List UInt8 :=
  (rest.drop (p + 1)).take (rest.getD p 0).toNat

/-- The peer entry at `p`. -/
def peerBytes (rest : List UInt8) (p : Nat) : PeerBytes where
  portId := stringBytes rest p
  chassisId := stringBytes rest (stringEnd rest p)
  mac := bytesAt 6 rest (up4 (stringEnd rest (stringEnd rest p)))

/-- The peer entries from `p` on, each where the one before it ends. -/
def peersBytes (rest : List UInt8) : Nat → Nat → List PeerBytes
  | 0, _ => []
  | count + 1, p => peerBytes rest p :: peersBytes rest count (nextPeer rest p)

/-- The fields of a port whose first one is `first` bytes behind the start of the body. -/
def portBytes (rest : List UInt8) (first : Nat) : PortBytes where
  slot := bytesAt 2 rest first
  subslot := bytesAt 2 rest (first + 2)
  portId := stringBytes rest (first + 4)
  peers := peersBytes rest (rest.getD (countAt rest first) 0).toNat (up4 (countAt rest first + 1))
  mau := bytesAt 2 rest (numbersAt rest first)
  domain := bytesAt 4 rest (numbersAt rest first + 4)
  multicast := bytesAt 4 rest (numbersAt rest first + 8)
  linkPort := rest.getD (numbersAt rest first + 12) 0
  linkLink := rest.getD (numbersAt rest first + 13) 0
  media := bytesAt 4 rest (numbersAt rest first + 16)

/-! What they say. -/

/-- What is reported of a peer. -/
def PeerBytes.info (b : PeerBytes) : PeerInfo where
  portId := decodeLatin1 b.portId
  chassisId := decodeLatin1 b.chassisId
  macAddress := b.mac

/-- What is reported of a port. -/
def PortBytes.info (b : PortBytes) : PortInfo where
  slot := rdU16 b.slot.val 0 false
  subslot := rdU16 b.subslot.val 0 false
  portId := decodeLatin1 b.portId
  mauType := rdU16 b.mau.val 0 false
  linkStatePort := b.linkPort
  linkStateLink := b.linkLink
  mediaType := rdU32 b.media.val 0 false
  peers := b.peers.map PeerBytes.info
  domainBoundary := rdU32 b.domain.val 0 false
  multicastBoundary := rdU32 b.multicast.val 0 false

/-! ## A whole port is what its fields say -/

section Whole

variable {body : List UInt8} {p : Nat}

/-- A peer that ends in the block is read from its own bytes. -/
theorem peerOf_bytes (h : nextPeer body p ≤ body.length) : peerOf body p = (peerBytes body p).info := by
  obtain ⟨hport, hchassis, hup, hmac⟩ := nextPeer_ends body p
  have hfits : stringEnd body p ≤ body.length := by omega
  have hfits' : stringEnd body (stringEnd body p) ≤ body.length := by omega
  unfold peerOf
  rw [readString_whole hfits, readString_whole hfits']
  rfl

/-- So are all peers that do. -/
theorem readPeers_bytes (count : Nat) (h : peersEnd body count p ≤ body.length) :
    (readPeers body count p).1 = (peersBytes body count p).map PeerBytes.info := by
  induction count generalizing p with
  | zero => rfl
  | succ count ih =>
    have h : peersEnd body count (nextPeer body p) ≤ body.length := h
    have hle := le_peersEnd body count (nextPeer body p)
    have hpeer : nextPeer body p ≤ body.length := by omega
    rw [readPeers_whole count hpeer, peersBytes, List.map_cons, ← ih h, peerOf_bytes hpeer]

/-- **A whole port is what its fields say.** -/
theorem readPort_bytes {first : Nat} (h : portEnd body first ≤ body.length) (slot subslot : UInt16) :
    readPort body first slot subslot = (portBytes body first).info := by
  obtain ⟨hid, hup, hpeers, hlast⟩ := portEnd_ends body first
  have hmedia : readMedia body (numbersAt body first + 16)
      = (rdU32 body (numbersAt body first + 16) false, numbersAt body first + 16 + 4) :=
    if_pos (by omega)
  have hinside : numbersAt body first ≤ body.length := by omega
  have hfits : countAt body first ≤ body.length := by omega
  rw [readPort_whole h, readNumbers_fits (numbersAt_mod body first) (by omega), hmedia,
    readPeers_bytes _ hinside, readString_whole hfits]
  rfl

end Whole

/-! ## And the fields are what it says -/

/-- Two bytes are known by the word they are. -/
theorem word_inj {v w : Bytes 2} (h : rdU16 v.val 0 false = rdU16 w.val 0 false) : v = w := by
  have hv : bytesAt 2 v.val 0 = v := bytesAt_of_drop (List.append_nil v.val).symm
  have hw : bytesAt 2 w.val 0 = w := bytesAt_of_drop (List.append_nil w.val).symm
  have hbytes := congrArg be16 h
  rw [be16_rdU16, be16_rdU16] at hbytes
  rw [← hv, ← hw]
  exact Subtype.ext hbytes

/-- And four by the double word. -/
theorem dword_inj {v w : Bytes 4} (h : rdU32 v.val 0 false = rdU32 w.val 0 false) : v = w := by
  have hv : bytesAt 4 v.val 0 = v := bytesAt_of_drop (List.append_nil v.val).symm
  have hw : bytesAt 4 w.val 0 = w := bytesAt_of_drop (List.append_nil w.val).symm
  have hbytes := congrArg be32 h
  rw [be32_rdU32, be32_rdU32] at hbytes
  rw [← hv, ← hw]
  exact Subtype.ext hbytes

/-- A peer is known by what is reported of it. -/
theorem PeerBytes.info_inj {b c : PeerBytes} (h : b.info = c.info) : b = c := by
  obtain ⟨hport, hchassis, hmac⟩ := PeerInfo.mk.inj h
  exact PeerBytes.ext (decodeLatin1_inj hport) (decodeLatin1_inj hchassis) hmac

/-- So is a port. -/
theorem PortBytes.info_inj {b c : PortBytes} (h : b.info = c.info) : b = c := by
  obtain ⟨hslot, hsubslot, hport, hmau, hlink, hlink', hmedia, hpeers, hdomain, hmulticast⟩ :=
    PortInfo.mk.inj h
  have hpeers : b.peers = c.peers :=
    List.map_injective_iff.mpr (fun _ _ => PeerBytes.info_inj) hpeers
  exact PortBytes.ext (word_inj hslot) (word_inj hsubslot) (decodeLatin1_inj hport) hpeers
    (word_inj hmau) (dword_inj hdomain) (dword_inj hmulticast) hlink hlink' (dword_inj hmedia)

/-- **Two whole ports are read alike exactly where they have the same fields.** -/
theorem readPort_eq_iff {a b : List UInt8} {r s : Nat} (ha : portEnd a r ≤ a.length)
    (hb : portEnd b s ≤ b.length) (slot subslot : UInt16) :
    readPort a r slot subslot = readPort b s slot subslot ↔ portBytes a r = portBytes b s := by
  rw [readPort_bytes ha, readPort_bytes hb]
  exact ⟨PortBytes.info_inj, congrArg PortBytes.info⟩

/-! ## The fields say where they end -/

/-- A string ends where its own bytes say. -/
theorem stringEnd_eq {a b : List UInt8} {p : Nat} (ha : stringEnd a p ≤ a.length)
    (hb : stringEnd b p ≤ b.length) (h : stringBytes a p = stringBytes b p) :
    stringEnd b p = stringEnd a p := by
  have hlen := congrArg List.length h
  unfold stringBytes at hlen
  rw [List.length_take, List.length_take, List.length_drop, List.length_drop] at hlen
  unfold stringEnd at ha hb ⊢
  omega

/-- So does a peer entry. -/
theorem nextPeer_eq {a b : List UInt8} {p : Nat} (ha : nextPeer a p ≤ a.length)
    (hb : nextPeer b p ≤ b.length) (h : peerBytes a p = peerBytes b p) :
    nextPeer b p = nextPeer a p := by
  obtain ⟨hport, hchassis, hup, hmac⟩ := nextPeer_ends a p
  obtain ⟨hport', hchassis', hup', hmac'⟩ := nextPeer_ends b p
  have hfirst : stringEnd b p = stringEnd a p :=
    stringEnd_eq (by omega) (by omega) (congrArg PeerBytes.portId h)
  have hid : stringBytes a (stringEnd a p) = stringBytes b (stringEnd a p) :=
    (congrArg PeerBytes.chassisId h).trans (congrArg (stringBytes b) hfirst)
  unfold nextPeer
  rw [hfirst] at hchassis' hup' hmac' ⊢
  rw [stringEnd_eq (a := a) (b := b) (by omega) (by omega) hid]

/-- So does a list of them: what is behind does not move its end. -/
theorem peersEnd_eq {a b : List UInt8} (count count' : Nat) {p : Nat}
    (ha : peersEnd a count p ≤ a.length) (hb : peersEnd b count' p ≤ b.length)
    (h : peersBytes a count p = peersBytes b count' p) :
    peersEnd b count' p = peersEnd a count p := by
  induction count generalizing p count' with
  | zero =>
    cases count' with
    | zero => rfl
    | succ count' => cases h
  | succ count ih =>
    cases count' with
    | zero => cases h
    | succ count' =>
      have ha : peersEnd a count (nextPeer a p) ≤ a.length := ha
      have hb : peersEnd b count' (nextPeer b p) ≤ b.length := hb
      have hle := le_peersEnd a count (nextPeer a p)
      have hle' := le_peersEnd b count' (nextPeer b p)
      obtain ⟨hpeer, hmore⟩ := List.cons.inj h
      have hnext := nextPeer_eq (by omega) (by omega) hpeer
      show peersEnd b count' (nextPeer b p) = peersEnd a count (nextPeer a p)
      rw [hnext] at hb hmore ⊢
      exact ih count' ha hb hmore

/-- The ids and the peers reach as far in both. -/
theorem numbersAt_eq {a b : List UInt8} {first : Nat} (ha : numbersAt a first ≤ a.length)
    (hb : numbersAt b first ≤ b.length) (h : portBytes a first = portBytes b first) :
    numbersAt b first = numbersAt a first := by
  obtain ⟨-, hup, hle, -⟩ := portEnd_ends a first
  obtain ⟨-, hup', hle', -⟩ := portEnd_ends b first
  have hfits : countAt a first ≤ a.length := by omega
  have hfits' : countAt b first ≤ b.length := by omega
  have hid : countAt b first = countAt a first :=
    stringEnd_eq hfits hfits' (congrArg PortBytes.portId h)
  have hpeers : peersBytes a _ _ = peersBytes b _ _ := congrArg PortBytes.peers h
  unfold numbersAt at ha hb ⊢
  rw [hid] at hb hpeers ⊢
  exact peersEnd_eq _ _ ha hb hpeers

/-- **A port that is read alike with different bytes behind its body is whole.** -/
theorem portEnd_le_of_eq {body x y : List UInt8} {first : Nat} {slot subslot : UInt16}
    (hx : first + 140000 ≤ x.length) (hy : first + 140000 ≤ y.length)
    (hne : ∀ i < first + 140000, x.getD i 0 ≠ y.getD i 0)
    (h : readPort (body ++ x) first slot subslot = readPort (body ++ y) first slot subslot) :
    portEnd body first ≤ body.length := by
  have hlen : (body ++ x).length = body.length + x.length := List.length_append
  have hlen' : (body ++ y).length = body.length + y.length := List.length_append
  have hend := portEnd_le (body ++ x) first
  have hend' := portEnd_le (body ++ y) first
  have hbytes := (readPort_eq_iff (by omega) (by omega) slot subslot).mp h
  have hnumbers : numbersAt (body ++ y) first = numbersAt (body ++ x) first := by
    unfold portEnd at hend hend'
    exact numbersAt_eq (by omega) (by omega) hbytes
  -- the last byte that is read
  have hlast : (body ++ x).getD (numbersAt (body ++ x) first + 19) 0
      = (body ++ y).getD (numbersAt (body ++ y) first + 19) 0 :=
    congrArg (fun b => b.media.val.getD 3 0) hbytes
  rw [hnumbers] at hlast
  have hinside : portEnd (body ++ x) first ≤ body.length := by
    by_contra hout
    unfold portEnd at hend hout
    refine hne (numbersAt (body ++ x) first + 19 - body.length) (by omega) ?_
    rw [List.getD_append_right _ _ _ _ (by omega), List.getD_append_right _ _ _ _ (by omega)] at hlast
    exact hlast
  have hsame : ∀ i < body.length, (body ++ x).getD i 0 = body.getD i 0 := by
    intro i hi
    exact getD_append_lt hi x
  rw [portEnd_same hsame hinside]
  exact hinside

end Profinet.Im
