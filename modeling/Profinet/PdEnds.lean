/-
  WHERE A BODY ENDS, by its own lengths and counts.

  A port or an interface says with its length and count bytes how many bytes it takes.  `portEnd` and
  `interfaceEnd` follow them; a body that is at least that long is whole.

      whole       what is read of it is the same with anything behind it (`readPort_append`,
                  `readInterface_append`)
      not whole   an interface is none where the record ends there (`readInterface_short`); a port
                  takes what is behind it for its own fields
-/
import Mathlib.Data.List.Basic
import Profinet.PortLayout

namespace Profinet.Im

open Wire Checked

/-! ## The ends -/

/-- The offset behind a length byte and its string. -/
def stringEnd (rest : List UInt8) (p : Nat) : Nat := p + 1 + (rest.getD p 0).toNat

/-- Where the peer behind the one at `p` begins. -/
def nextPeer (rest : List UInt8) (p : Nat) : Nat :=
  up4 (up4 (stringEnd rest (stringEnd rest p)) + 6)

/-- The offset behind so many peers. -/
def peersEnd (rest : List UInt8) : Nat → Nat → Nat
  | 0, p => p
  | count + 1, p => peersEnd rest count (nextPeer rest p)

/-- Where the own port id ends, and the count of peers stands. -/
def countAt (rest : List UInt8) (first : Nat) : Nat := stringEnd rest (first + 4)

/-- Where the numbers begin. -/
def numbersAt (rest : List UInt8) (first : Nat) : Nat :=
  peersEnd rest (rest.getD (countAt rest first) 0).toNat (up4 (countAt rest first + 1))

/-- Where the media type ends. -/
def portEnd (rest : List UInt8) (first : Nat) : Nat := numbersAt rest first + 20

/-- The offset of the interface's MAC address: the station name, then padding. -/
def macAt (rest : List UInt8) : Nat := upBlock (stringEnd rest 0)

/-- Where the IP configuration ends. -/
def interfaceEnd (rest : List UInt8) : Nat := upBlock (macAt rest + 6) + 12

/-! ### In which order -/

section Order

variable (rest : List UInt8)

/-- A string takes at least its length byte. -/
theorem lt_stringEnd (p : Nat) : p < stringEnd rest p := by
  show p < p + 1 + (rest.getD p 0).toNat
  omega

/-- A string takes at most 256 bytes. -/
theorem stringEnd_le (p : Nat) : stringEnd rest p ≤ p + 256 := by
  have hbyte := (rest.getD p 0).toNat_lt
  show p + 1 + (rest.getD p 0).toNat ≤ p + 256
  omega

/-- The fields of a peer. -/
theorem nextPeer_ends (p : Nat) :
    p < stringEnd rest p ∧ stringEnd rest p < stringEnd rest (stringEnd rest p)
      ∧ stringEnd rest (stringEnd rest p) ≤ up4 (stringEnd rest (stringEnd rest p))
      ∧ up4 (stringEnd rest (stringEnd rest p)) + 6 ≤ nextPeer rest p :=
  ⟨lt_stringEnd rest p, lt_stringEnd rest _, le_up4 _, le_up4 _⟩

/-- A peer takes two strings, padding and a MAC address: at most 524 bytes. -/
theorem nextPeer_le (p : Nat) : nextPeer rest p ≤ p + 524 := by
  have hport := stringEnd_le rest p
  have hchassis := stringEnd_le rest (stringEnd rest p)
  have hup := up4_lt (stringEnd rest (stringEnd rest p))
  have hup' := up4_lt (up4 (stringEnd rest (stringEnd rest p)) + 6)
  show up4 (up4 (stringEnd rest (stringEnd rest p)) + 6) ≤ p + 524
  omega

/-- Peers only move the offset forward. -/
theorem le_peersEnd (count p : Nat) : p ≤ peersEnd rest count p := by
  induction count generalizing p with
  | zero => exact Nat.le_refl p
  | succ count ih =>
    obtain ⟨hport, hchassis, hup, hmac⟩ := nextPeer_ends rest p
    have hmore := ih (nextPeer rest p)
    show p ≤ peersEnd rest count (nextPeer rest p)
    omega

/-- So many peers take at most 524 bytes each. -/
theorem peersEnd_le (count p : Nat) : peersEnd rest count p ≤ p + count * 524 := by
  induction count generalizing p with
  | zero => exact Nat.le_add_right p _
  | succ count ih =>
    have hpeer := nextPeer_le rest p
    have hmore := ih (nextPeer rest p)
    show peersEnd rest count (nextPeer rest p) ≤ p + (count + 1) * 524
    omega

/-- Peers keep an aligned offset aligned. -/
theorem peersEnd_mod (count : Nat) {p : Nat} (hp : p % 4 = 0) : peersEnd rest count p % 4 = 0 := by
  induction count generalizing p with
  | zero => exact hp
  | succ count ih => exact ih (up4_mod _)

/-- The numbers of a port stand on an aligned offset. -/
theorem numbersAt_mod (first : Nat) : numbersAt rest first % 4 = 0 :=
  peersEnd_mod rest _ (up4_mod _)

/-- The fields of a port. -/
theorem portEnd_ends (first : Nat) :
    first + 4 < countAt rest first ∧ countAt rest first + 1 ≤ up4 (countAt rest first + 1)
      ∧ up4 (countAt rest first + 1) ≤ numbersAt rest first
      ∧ numbersAt rest first + 20 = portEnd rest first :=
  ⟨lt_stringEnd rest (first + 4), le_up4 _, le_peersEnd rest _ _, rfl⟩

/-- Counts and lengths are bytes, so every body is whole with enough bytes behind it. -/
theorem portEnd_le (first : Nat) : portEnd rest first ≤ first + 140000 := by
  have hcount := (rest.getD (countAt rest first) 0).toNat_lt
  have hid : countAt rest first ≤ first + 4 + 256 := stringEnd_le rest (first + 4)
  have hup := up4_lt (countAt rest first + 1)
  have hpeers : numbersAt rest first ≤ up4 (countAt rest first + 1)
      + (rest.getD (countAt rest first) 0).toNat * 524 := peersEnd_le rest _ _
  show numbersAt rest first + 20 ≤ first + 140000
  omega

/-- The fields of an interface. -/
theorem interfaceEnd_ends :
    0 + 1 + (rest.getD 0 0).toNat ≤ macAt rest ∧ macAt rest + 6 ≤ upBlock (macAt rest + 6)
      ∧ upBlock (macAt rest + 6) + 12 = interfaceEnd rest :=
  ⟨(upBlock_lt _).1, (upBlock_lt _).1, rfl⟩

/-- An interface block ends within 300 bytes. -/
theorem interfaceEnd_le : interfaceEnd rest ≤ 300 := by
  have hchassis := stringEnd_le rest 0
  have hmac : macAt rest < stringEnd rest 0 + 4 := (upBlock_lt (stringEnd rest 0)).2
  have hip := upBlock_lt (macAt rest + 6)
  show upBlock (macAt rest + 6) + 12 ≤ 300
  omega

end Order

/-! ## The ends depend on the bytes before them -/

section Same

variable {a b : List UInt8} {n : Nat} (h : ∀ i < n, a.getD i 0 = b.getD i 0)
include h

/-- A string whose length byte both contents share ends at the same offset in both. -/
theorem stringEnd_same {p : Nat} (hp : p < n) : stringEnd b p = stringEnd a p := by
  show p + 1 + (b.getD p 0).toNat = p + 1 + (a.getD p 0).toNat
  rw [h p hp]

/-- A peer that ends within what both contents share ends at the same offset in both. -/
theorem nextPeer_same {p : Nat} (hend : nextPeer a p ≤ n) : nextPeer b p = nextPeer a p := by
  obtain ⟨hport, hchassis, hup, hmac⟩ := nextPeer_ends a p
  have hfirst : stringEnd b p = stringEnd a p := stringEnd_same h (by omega)
  have hsecond : stringEnd b (stringEnd a p) = stringEnd a (stringEnd a p) :=
    stringEnd_same h (by omega)
  show up4 (up4 (stringEnd b (stringEnd b p)) + 6) = up4 (up4 (stringEnd a (stringEnd a p)) + 6)
  rw [hfirst, hsecond]

/-- The same for all peers. -/
theorem peersEnd_same (count : Nat) {p : Nat} (hend : peersEnd a count p ≤ n) :
    peersEnd b count p = peersEnd a count p := by
  induction count generalizing p with
  | zero => rfl
  | succ count ih =>
    have hend : peersEnd a count (nextPeer a p) ≤ n := hend
    have hmore := le_peersEnd a count (nextPeer a p)
    show peersEnd b count (nextPeer b p) = peersEnd a count (nextPeer a p)
    rw [nextPeer_same h (by omega)]
    exact ih hend

/-- The same for the peer count and the numbers behind the peers. -/
theorem numbersAt_same {first : Nat} (hend : numbersAt a first ≤ n) :
    countAt b first = countAt a first ∧ numbersAt b first = numbersAt a first := by
  obtain ⟨hid, hup, hpeers, -⟩ := portEnd_ends a first
  have hcount : countAt b first = countAt a first := stringEnd_same h (by omega)
  refine ⟨hcount, ?_⟩
  show peersEnd b (b.getD (countAt b first) 0).toNat (up4 (countAt b first + 1)) = numbersAt a first
  rw [hcount, ← h (countAt a first) (by omega)]
  exact peersEnd_same h _ hend

/-- The same for the end of the port block. -/
theorem portEnd_same {first : Nat} (hend : portEnd a first ≤ n) :
    portEnd b first = portEnd a first := by
  obtain ⟨-, -, -, hlast⟩ := portEnd_ends a first
  exact congrArg (· + 20) (numbersAt_same h (by omega)).2

/-- The same for the MAC address of the interface. -/
theorem macAt_same (hn : 0 < n) : macAt b = macAt a := congrArg upBlock (stringEnd_same h hn)

end Same

/-! ## What is read of a whole body -/

section Whole

variable {body : List UInt8} (behind : List UInt8) {p : Nat}

/-- A body and the body with more behind it have the bytes of the body in common. -/
theorem same_append : ∀ i < body.length, body.getD i 0 = (body ++ behind).getD i 0 := by
  intro i hi
  exact (getD_append_lt hi behind).symm

/-- More behind a body does not make it shorter. -/
theorem le_append {n : Nat} (h : n ≤ body.length) : n ≤ (body ++ behind).length := by
  rw [List.length_append]
  exact Nat.le_add_right_of_le h

/-- A field within the body is read the same with more behind it. -/
theorem readField_append {α : Type} {n : Nat} {read read' : Nat → α} {default : α}
    (hp : p + n ≤ body.length) (hread : read p = read' p) :
    readField (body ++ behind) n read default p = readField body n read' default p := by
  have hthere : readField (body ++ behind) n read default p = (read p, p + n) :=
    if_pos (le_append behind hp)
  have hhere : readField body n read' default p = (read' p, p + n) := if_pos hp
  rw [hthere, hhere, hread]

/-- A window within the body is the same with more behind it. -/
theorem window_append {i j : Nat} (h : i + j ≤ body.length) :
    ((body ++ behind).drop i).take j = (body.drop i).take j := by
  have hlen : (body.drop i).length = body.length - i := List.length_drop
  rw [List.drop_append_of_le_length (by omega), List.take_append_of_le_length (by omega)]

/-- The bytes of a field within the body are the same with more behind it. -/
theorem bytesAt_append (n : Nat) (h : p + n ≤ body.length) :
    bytesAt n (body ++ behind) p = bytesAt n body p := by
  apply Subtype.ext
  refine List.map_congr_left ?_
  intro i hi
  have hlt := List.mem_range.mp hi
  exact getD_append_lt (by omega) behind

/-- A string that fits is read to its end. -/
theorem readString_whole (hp : stringEnd body p ≤ body.length) :
    readString body p
      = (decodeLatin1 ((body.drop (p + 1)).take (body.getD p 0).toNat), stringEnd body p) := by
  have hfits : p + 1 + (body.getD p 0).toNat ≤ body.length := hp
  unfold readString
  dsimp only
  rw [if_pos hfits, Nat.add_sub_cancel_left]
  rfl

/-- A string within the body is read the same with more behind it. -/
theorem readString_append (hp : stringEnd body p ≤ body.length) :
    readString (body ++ behind) p = readString body p := by
  have hlt := lt_stringEnd body p
  have hfits : p + 1 + (body.getD p 0).toNat ≤ body.length := hp
  have hend : stringEnd (body ++ behind) p = stringEnd body p :=
    stringEnd_same (same_append behind) (by omega)
  have hp' : stringEnd (body ++ behind) p ≤ (body ++ behind).length := by
    rw [hend]
    exact le_append behind hp
  rw [readString_whole hp', readString_whole hp, hend, getD_append_lt (by omega),
    window_append behind hfits]

/-- A peer that fits is read whole. -/
def peerOf (rest : List UInt8) (p : Nat) : PeerInfo where
  portId := (readString rest p).1
  chassisId := (readString rest (stringEnd rest p)).1
  macAddress := bytesAt 6 rest (up4 (stringEnd rest (stringEnd rest p)))

/-- A peer within the body is read and the rest follows it. -/
theorem readPeers_whole (count : Nat) (hp : nextPeer body p ≤ body.length) :
    readPeers body (count + 1) p
      = (peerOf body p :: (readPeers body count (nextPeer body p)).1,
          (readPeers body count (nextPeer body p)).2) := by
  obtain ⟨hport, hchassis, hup, hmac⟩ := nextPeer_ends body p
  have hfits : stringEnd body p ≤ body.length := by omega
  have hfits' : stringEnd body (stringEnd body p) ≤ body.length := by omega
  have hend : (readString body p).2 = stringEnd body p := by
    rw [readString_whole hfits]
  have hend' : (readString body (stringEnd body p)).2 = stringEnd body (stringEnd body p) := by
    rw [readString_whole hfits']
  rw [readPeers, if_neg (by omega)]
  dsimp only
  rw [hend, if_neg (by omega), hend', readMac_fits (by omega)]
  rfl

/-- With more bytes behind it a peer is the same. -/
theorem peerOf_append (hp : nextPeer body p ≤ body.length) :
    peerOf (body ++ behind) p = peerOf body p := by
  obtain ⟨hport, hchassis, hup, hmac⟩ := nextPeer_ends body p
  have hfits : stringEnd body p ≤ body.length := by omega
  have hfits' : stringEnd body (stringEnd body p) ≤ body.length := by omega
  have hfirst : stringEnd (body ++ behind) p = stringEnd body p :=
    stringEnd_same (same_append behind) (by omega)
  have hsecond : stringEnd (body ++ behind) (stringEnd body p) = stringEnd body (stringEnd body p) :=
    stringEnd_same (same_append behind) (by omega)
  unfold peerOf
  rw [hfirst, hsecond, readString_append behind hfits, readString_append behind hfits',
    bytesAt_append behind 6 (by omega)]

/-- **Peers that end in the body** are read to their end, whatever is behind it. -/
theorem readPeers_append (count : Nat) (hp : peersEnd body count p ≤ body.length) :
    readPeers (body ++ behind) count p = readPeers body count p
      ∧ (readPeers body count p).2 = peersEnd body count p := by
  induction count generalizing p with
  | zero => exact ⟨rfl, rfl⟩
  | succ count ih =>
    have hp : peersEnd body count (nextPeer body p) ≤ body.length := hp
    have hpeer : nextPeer body p ≤ body.length := (le_peersEnd body count (nextPeer body p)).trans hp
    have hnext : nextPeer (body ++ behind) p = nextPeer body p :=
      nextPeer_same (same_append behind) hpeer
    have hfits : nextPeer (body ++ behind) p ≤ (body ++ behind).length := by
      rw [hnext]
      exact le_append behind hpeer
    obtain ⟨hsame, hend⟩ := ih hp
    rw [readPeers_whole count hfits, readPeers_whole count hpeer, hnext, peerOf_append behind hpeer,
      hsame]
    exact ⟨rfl, hend⟩

/-- The numbers of a port within the body are read the same with more behind it. -/
theorem readNumbers_append (hp : p % 4 = 0) (hend : p + 20 ≤ body.length) (port : PortInfo) :
    readNumbers (body ++ behind) p port = readNumbers body p port := by
  have hlen : (body ++ behind).length = body.length + behind.length := List.length_append
  have hmedia : readMedia (body ++ behind) (p + 16) = readMedia body (p + 16) :=
    readField_append behind (by omega) (rdU32_append (by omega) behind false)
  rw [readNumbers_fits hp (by omega), readNumbers_fits hp (by omega), hmedia,
    rdU16_append (by omega), rdU32_append (by omega), rdU32_append (by omega),
    getD_append_lt (by omega), getD_append_lt (by omega)]

/-- The first field of a whole port, its id and its peers are there. -/
theorem readPort_whole {first : Nat} (h : portEnd body first ≤ body.length)
    (slot subslot : UInt16) :
    readPort body first slot subslot
      = readNumbers body (numbersAt body first)
          ⟨rdU16 body first false, rdU16 body (first + 2) false, (readString body (first + 4)).1,
            0, 0, 0, 0, (readPeers body (body.getD (countAt body first) 0).toNat
              (up4 (countAt body first + 1))).1, 0, 0⟩ := by
  obtain ⟨hid, hup, hpeers, hlast⟩ := portEnd_ends body first
  have hplace : readPlace body slot subslot first
      = ((rdU16 body first false, rdU16 body (first + 2) false), first + 4) := if_pos (by omega)
  have hstring : (readString body (first + 4)).2 = countAt body first := by
    have hfits : countAt body first ≤ body.length := by omega
    rw [readString_whole hfits]
    rfl
  have hcount : readCount body (countAt body first)
      = ((body.getD (countAt body first) 0).toNat, countAt body first + 1) := if_pos (by omega)
  have hinside : numbersAt body first ≤ body.length := by omega
  have hend : (readPeers body (body.getD (countAt body first) 0).toNat
      (up4 (countAt body first + 1))).2 = numbersAt body first := (readPeers_append [] _ hinside).2
  -- every field is there, so each one begins where the one before ends
  unfold readPort
  dsimp only
  rw [hplace]
  dsimp only
  rw [if_neg (by omega), hstring, hcount]
  dsimp only
  rw [hend]

/-- **A whole port is read the same with anything behind it.** -/
theorem readPort_append {first : Nat} (h : portEnd body first ≤ body.length)
    (slot subslot : UInt16) :
    readPort (body ++ behind) first slot subslot = readPort body first slot subslot := by
  obtain ⟨hid, hup, hpeers, hlast⟩ := portEnd_ends body first
  have hinside : numbersAt body first ≤ body.length := by omega
  have hfits : countAt body first ≤ body.length := by omega
  obtain ⟨hcount, hnumbers⟩ := numbersAt_same (same_append behind) hinside
  have hwhole : portEnd (body ++ behind) first ≤ (body ++ behind).length := by
    rw [portEnd_same (same_append behind) h]
    exact le_append behind h
  rw [readPort_whole hwhole, readPort_whole h, hnumbers, hcount, rdU16_append (by omega),
    rdU16_append (by omega), readString_append behind hfits, getD_append_lt (by omega),
    (readPeers_append behind _ hinside).1,
    readNumbers_append behind (numbersAt_mod body first) (by omega)]

/-- An interface that ends in the body. -/
theorem readInterface_whole (h : interfaceEnd body ≤ body.length) :
    readInterface body = .ok
      { chassisId := decodeLatin1 ((body.drop 1).take (body.getD 0 0).toNat)
        macAddress := bytesAt 6 body (macAt body)
        ipAddress := bytesAt 4 body (upBlock (macAt body + 6))
        subnetMask := bytesAt 4 body (upBlock (macAt body + 6) + 4)
        gateway := bytesAt 4 body (upBlock (macAt body + 6) + 8) } := by
  obtain ⟨hmac, hip, hend⟩ := interfaceEnd_ends body
  have hat : macAt body = upBlock (1 + (body.getD 0 0).toNat) := rfl
  unfold readInterface
  dsimp only
  rw [if_neg (by omega), if_neg (by omega), ← hat, if_neg (by omega), if_neg (by omega),
    Nat.add_sub_cancel_left]

/-- **A whole interface is read the same with anything behind it.** -/
theorem readInterface_append (h : interfaceEnd body ≤ body.length) :
    readInterface (body ++ behind) = readInterface body := by
  obtain ⟨hmac, hip, hend⟩ := interfaceEnd_ends body
  have hmacAt : macAt (body ++ behind) = macAt body := macAt_same (same_append behind) (by omega)
  have hwhole : interfaceEnd (body ++ behind) ≤ (body ++ behind).length := by
    show upBlock (macAt (body ++ behind) + 6) + 12 ≤ _
    rw [hmacAt]
    exact le_append behind h
  rw [readInterface_whole hwhole, readInterface_whole h, hmacAt, getD_append_lt (by omega),
    window_append behind (by omega), bytesAt_append behind 6 (by omega),
    bytesAt_append behind 4 (by omega), bytesAt_append behind 4 (by omega),
    bytesAt_append behind 4 (by omega)]

/-- An interface that does not end in the record is no interface. -/
theorem readInterface_short (h : body.length < interfaceEnd body) :
    ∃ error, readInterface body = .error error := by
  have hat : macAt body = upBlock (1 + (body.getD 0 0).toNat) := rfl
  have hend : interfaceEnd body = upBlock (macAt body + 6) + 12 := rfl
  unfold readInterface
  dsimp only
  rw [← hat]
  by_cases hnone : body.length ≤ 0
  · rw [if_pos hnone]
    exact ⟨_, rfl⟩
  rw [if_neg hnone]
  by_cases hchassis : body.length < 1 + (body.getD 0 0).toNat
  · rw [if_pos hchassis]
    exact ⟨_, rfl⟩
  rw [if_neg hchassis]
  by_cases hmac : body.length < macAt body + 6
  · rw [if_pos hmac]
    exact ⟨_, rfl⟩
  rw [if_neg hmac, if_pos (by omega)]
  exact ⟨_, rfl⟩

end Whole

end Profinet.Im
