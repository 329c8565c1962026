/-
  PD BODIES: what the two body parsers read, as functions of the bytes from the body on.

  The parsers are given the whole record and an offset.  Of the record they look at nothing before
  the body, and of the offset only the first padding of a port depends on, modulo 4.  So they are
  the functions below of `rest`, the bytes from the body to the end of the record, and of the number
  of bytes before the next multiple of 4 (`toAligned`); an offset in these is counted from the body.

      readInterface   chassis, MAC and IP configuration
      readPort        a port and its peers

  Nothing says where the body ends: `rest` is all there is up to the end of the record.
-/
import Profinet.PdReal

namespace Profinet.Im

open Wire Checked

/-! ## The readers

  Each reader takes the bytes behind the header and a place in them, and gives a value and the
  place behind it.  Nothing else of the record is looked at; where a port is aligned depends on
  how far its first field is from the start, which `first` says. -/

/-- The next multiple of four. -/
def up4 (n : Nat) : Nat := (n + 3) / 4 * 4

/-- How far an offset is from the next multiple of four. -/
def toAligned (offset : Nat) : Nat := up4 offset - offset

/-- Rounding up does not go back. -/
theorem le_up4 (n : Nat) : n ≤ up4 n := by
  show n ≤ (n + 3) / 4 * 4
  omega

/-- It goes on by three bytes at most. -/
theorem up4_lt (n : Nat) : up4 n < n + 4 := by
  show (n + 3) / 4 * 4 < n + 4
  omega

/-- And ends on a multiple of four. -/
theorem up4_mod (n : Nat) : up4 n % 4 = 0 := Nat.mul_mod_left _ 4

/-- It is the only one among the four from `n` on. -/
theorem up4_eq {m n : Nat} (hm : m % 4 = 0) (hle : n ≤ m) (hlt : m < n + 4) : up4 n = m := by
  show (n + 3) / 4 * 4 = m
  omega

/-- The padding is shorter than a word of four bytes. -/
theorem toAligned_lt (n : Nat) : toAligned n < 4 := by
  have hup := up4_lt n
  show up4 n - n < 4
  omega

/-- The padding is what is missing up to the next multiple of four. -/
theorem add_toAligned (n : Nat) : n + toAligned n = up4 n := by
  have hle := le_up4 n
  show n + (up4 n - n) = up4 n
  omega

/-- The next place in a body that is aligned in its block, whose header is six bytes long. -/
def upBlock (p : Nat) : Nat := up4 (blockHeaderSize + p) - blockHeaderSize

/-- Rounding up from the start of a block goes on by three bytes at most. -/
theorem upBlock_lt (p : Nat) : p ≤ upBlock p ∧ upBlock p < p + 4 := by
  have hle := le_up4 (6 + p)
  have hlt := up4_lt (6 + p)
  show p ≤ up4 (6 + p) - 6 ∧ up4 (6 + p) - 6 < p + 4
  omega

/-- An interface block, read from the bytes behind its header alone. -/
def readInterface (rest : List UInt8) : Except String InterfaceInfo :=
  if rest.length ≤ 0 then .error "Truncated chassis ID"
  else
    let chassisEnd := 1 + (rest.getD 0 0).toNat
    let mac := upBlock chassisEnd
    let ip := upBlock (mac + 6)
    if rest.length < chassisEnd then .error "Truncated chassis ID"
    else if rest.length < mac + 6 then .error "Truncated MAC address"
    else if rest.length < ip + 12 then .error "Truncated IP configuration"
    else .ok
      { chassisId := decodeLatin1 ((rest.drop 1).take (chassisEnd - 1))
        macAddress := bytesAt 6 rest mac
        ipAddress := bytesAt 4 rest ip
        subnetMask := bytesAt 4 rest (ip + 4)
        gateway := bytesAt 4 rest (ip + 8) }

/-- A field of `n` bytes if they are there, and its default with nothing taken if not. -/
def readField {α : Type} (rest : List UInt8) (n : Nat) (read : Nat → α) (default : α) (p : Nat) :
    α × Nat :=
  if p + n ≤ rest.length then (read p, p + n) else (default, p)

/-- A string behind its length byte; empty, and only the length taken, where it does not fit. -/
def readString (rest : List UInt8) (p : Nat) : String × Nat :=
  let stop := p + 1 + (rest.getD p 0).toNat
  if stop ≤ rest.length then (decodeLatin1 ((rest.drop (p + 1)).take (stop - (p + 1))), stop)
  else ("", p + 1)

/-- A MAC address, or the zero address. -/
def readMac (rest : List UInt8) (p : Nat) : Bytes 6 × Nat :=
  readField rest 6 (bytesAt 6 rest) noMac p

/-- The peers of a port, one behind the other, as many as are there. -/
def readPeers (rest : List UInt8) : Nat → Nat → List PeerInfo × Nat
  | 0, p => ([], p)
  | count + 1, p =>
    if rest.length < p + 1 then ([], p)
    else
      let port := readString rest p
      if rest.length < port.2 + 1 then ([], port.2)
      else
        let chassis := readString rest port.2
        let mac := readMac rest (up4 chassis.2)
        let more := readPeers rest count (up4 mac.2)
        ({ portId := port.1, chassisId := chassis.1, macAddress := mac.1 } :: more.1, more.2)

/-- The count of peers: one byte, or zero where there is none. -/
def readCount (rest : List UInt8) (p : Nat) : Nat × Nat :=
  if p < rest.length then ((rest.getD p 0).toNat, p + 1) else (0, p)

/-! The numbers behind the peers. -/

/-- The MAU type. -/
def readMau (rest : List UInt8) (p : Nat) : UInt16 × Nat :=
  readField rest 2 (fun p => rdU16 rest p false) 0 p

/-- The domain boundary and the multicast boundary. -/
def readBoundaries (rest : List UInt8) (p : Nat) : (UInt32 × UInt32) × Nat :=
  readField rest 8 (fun p => (rdU32 rest p false, rdU32 rest (p + 4) false)) (0, 0) p

/-- The link state of the port and of its link. -/
def readLinkState (rest : List UInt8) (p : Nat) : (UInt8 × UInt8) × Nat :=
  readField rest 2 (fun p => (rest.getD p 0, rest.getD (p + 1) 0)) (0, 0) p

/-- The media type. -/
def readMedia (rest : List UInt8) (p : Nat) : UInt32 × Nat :=
  readField rest 4 (fun p => rdU32 rest p false) 0 p

/-- Everything behind the peers, field by field. -/
def readNumbers (rest : List UInt8) (p : Nat) (port : PortInfo) : PortInfo :=
  let mau := readMau rest p
  let boundaries := readBoundaries rest (up4 mau.2)
  let linkState := readLinkState rest boundaries.2
  let media := readMedia rest (up4 linkState.2)
  { port with
    mauType := mau.1
    mediaType := media.1
    domainBoundary := boundaries.1.1
    multicastBoundary := boundaries.1.2
    linkStatePort := linkState.1.1
    linkStateLink := linkState.1.2 }

/-- The slot and subslot that the block names, or those of the enclosing block. -/
def readPlace (rest : List UInt8) (slot subslot : UInt16) (p : Nat) : (UInt16 × UInt16) × Nat :=
  readField rest 4 (fun p => (rdU16 rest p false, rdU16 rest (p + 2) false)) (slot, subslot) p

/-- A port whose first field is `first` bytes behind the start of the body. -/
def readPort (rest : List UInt8) (first : Nat) (slot subslot : UInt16) : PortInfo :=
  let place := readPlace rest slot subslot first
  let port : PortInfo := ⟨place.1.1, place.1.2, "", 0, 0, 0, 0, [], 0, 0⟩
  if rest.length < place.2 + 1 then port
  else
    let portId := readString rest place.2
    let count := readCount rest portId.2
    let peers := readPeers rest count.1 (up4 count.2)
    readNumbers rest peers.2 { port with portId := portId.1, peers := peers.1 }

/-- What a nested block adds, by its type. -/
def readNested (rest : List UInt8) (first : Nat) (slotNr subslotNr blockType : UInt16) :
    PdRealData :=
  if blockType = blockPdInterfaceDataReal then
    match readInterface rest with
    | .ok interface => { PdRealData.empty with interface := some interface }
    | .error _ => .empty
  else if blockType = blockPdPortDataReal then
    { PdRealData.empty with ports := [readPort rest first slotNr subslotNr] }
  else .empty

/-! ## The parsers are the readers

  Field by field: the checked parser at an offset does what the reader does on the bytes from
  there.  The sums of the offsets do not overflow, as an offset is never far behind the end of the
  record; the loop over the peers needs a bound for that (`readPeers_le`). -/

/-- What is read behind `n` bytes is read at an offset shifted by `n`. -/
theorem getD_drop (data : List UInt8) (n i : Nat) : (data.drop n).getD i 0 = data.getD (n + i) 0 := by
  rw [List.getD_eq_getElem?_getD, List.getD_eq_getElem?_getD, List.getElem?_drop]

/-- The same for a window. -/
theorem bytesAt_drop (n : Nat) (data : List UInt8) (m off : Nat) :
    bytesAt n (data.drop m) off = bytesAt n data (m + off) := by
  apply Subtype.ext
  unfold bytesAt
  simp only [getD_drop, Nat.add_assoc]

section Equations

variable {data : List UInt8} (hdata : data.length < 2 ^ 63) {start : Nat}

/-- The source's rounding is rounding up, where nothing overflows. -/
theorem align4_ok {n : Nat} (h : n + 3 < 2 ^ 64) : align4 n = .ok ⟨up4 n, rfl⟩ := by
  unfold align4
  rw [add_ok h]
  rfl

/-- Aligning from `start` rounds up what is behind `start`. -/
theorem alignFrom_ok {p : Nat} (h : start + p < 2 ^ 63 + 65536) :
    alignFrom start (start + p) = .ok (start + up4 p) := by
  have hup := up4_lt p
  have hrel : start + p - start = p := by omega
  unfold alignFrom
  rw [sub_ok (by omega), ok_bind]
  dsimp only
  rw [hrel, align4_ok (by omega), ok_bind]
  dsimp only
  rw [add_ok (by omega)]
  rfl

/-- Aligning from the block rounds up from where the block begins. -/
theorem alignFromBlock_ok {p : Nat} (h : start + p < 2 ^ 63 + 65536) :
    alignFromBlock start (start + p) = .ok (start + upBlock p) := by
  have hup := up4_lt (blockHeaderSize + p)
  have hle := le_up4 (blockHeaderSize + p)
  have hsize : blockHeaderSize = 6 := rfl
  have hrel : start + p - start = p := by omega
  unfold alignFromBlock
  rw [sub_ok (by omega), ok_bind]
  dsimp only
  rw [hrel, add_ok (by omega), ok_bind, align4_ok (by dsimp only; omega), ok_bind,
    sub_ok (by dsimp only; omega), ok_bind]
  dsimp only
  rw [add_ok (by omega)]
  rfl

include hdata

/-- A field is read as it is from the bytes behind `start`. -/
theorem fieldAt_eq {α : Type} {n : Nat} {readAt : Nat → Comp α} {read : Nat → α} {default : α}
    {p : Nat} (hstart : start ≤ data.length) (hp : start + p ≤ data.length + 65536) (hn : n ≤ 8)
    (hread : start + p + n ≤ data.length → readAt (start + p) = .ok (read p)) :
    fieldAt data n readAt default (start + p)
      = .ok ((readField (data.drop start) n read default p).1,
          start + (readField (data.drop start) n read default p).2) := by
  have hlen : (data.drop start).length = data.length - start := List.length_drop
  unfold fieldAt readField
  rw [add_ok (by omega), ok_bind]
  by_cases hfits : start + p + n ≤ data.length
  · rw [if_pos hfits, if_pos (by omega), hread hfits]
    exact congrArg Except.ok (Prod.ext rfl (Nat.add_assoc start p n))
  · rw [if_neg hfits, if_neg (by omega)]
    rfl

/-- A string at an offset is the string of the bytes from there. -/
theorem stringAt_eq {p : Nat} (hp : start + p < data.length) :
    stringAt data (start + p) = .ok ((readString (data.drop start) p).1,
      start + (readString (data.drop start) p).2) := by
  have hlen : (data.drop start).length = data.length - start := List.length_drop
  have hbyte := (data.getD (start + p) 0).toNat_lt
  have hcount : (data.getD (start + p) 0).toNat = ((data.drop start).getD p 0).toNat := by
    rw [getD_drop]
  unfold stringAt readString
  rw [index_ok hp, ok_bind, add_ok (by omega), ok_bind, add_ok (by dsimp only; omega), ok_bind]
  dsimp only
  rw [hcount]
  generalize ((data.drop start).getD p 0).toNat = len at hcount
  by_cases hfits : start + p + 1 + len ≤ data.length
  · rw [if_pos hfits, if_pos (by omega), slice_ok (by omega) hfits, ok_bind]
    dsimp only
    rw [List.drop_drop, Nat.add_sub_cancel_left, Nat.add_sub_cancel_left, Nat.add_assoc start p 1,
      Nat.add_assoc start (p + 1) len]
    rfl
  · rw [if_neg hfits, if_neg (by omega)]
    rfl

/-! Each field of a port. -/

/-- So is an address. -/
theorem macAt_eq {p : Nat} (hstart : start ≤ data.length)
    (hp : start + p ≤ data.length + 65536) :
    fieldAt data 6 (arrayAt 6 data) noMac (start + p)
      = .ok ((readMac (data.drop start) p).1, start + (readMac (data.drop start) p).2) :=
  fieldAt_eq hdata hstart hp (by omega) fun hfits => by rw [arrayAt_ok hdata hfits, bytesAt_drop]

/-- So is the place of a port. -/
theorem placeAt_eq {p : Nat} (hstart : start ≤ data.length) (hp : start + p ≤ data.length + 65536)
    (slot subslot : UInt16) :
    fieldAt data 4 (wordsAt data) (slot, subslot) (start + p)
      = .ok ((readPlace (data.drop start) slot subslot p).1,
          start + (readPlace (data.drop start) slot subslot p).2) := by
  refine fieldAt_eq hdata hstart hp (by omega) ?_
  intro hfits
  unfold wordsAt
  rw [u16At_ok hdata (by omega), ok_bind, add_ok (by omega), ok_bind,
    u16At_ok hdata (by dsimp only; omega), rdU16_drop, rdU16_drop]
  rfl

/-- So is its MAU type. -/
theorem mauAt_eq {p : Nat} (hstart : start ≤ data.length) (hp : start + p ≤ data.length + 65536) :
    fieldAt data 2 (fun p => u16At data p false) 0 (start + p)
      = .ok ((readMau (data.drop start) p).1, start + (readMau (data.drop start) p).2) :=
  fieldAt_eq hdata hstart hp (by omega) fun hfits => by rw [u16At_ok hdata hfits, rdU16_drop]

/-- So are its boundaries. -/
theorem boundsAt_eq {p : Nat} (hstart : start ≤ data.length)
    (hp : start + p ≤ data.length + 65536) :
    fieldAt data 8 (boundariesAt data) (0, 0) (start + p)
      = .ok ((readBoundaries (data.drop start) p).1,
          start + (readBoundaries (data.drop start) p).2) := by
  refine fieldAt_eq hdata hstart hp (by omega) ?_
  intro hfits
  unfold boundariesAt
  rw [u32At_ok hdata (by omega), ok_bind, add_ok (by omega), ok_bind,
    u32At_ok hdata (by dsimp only; omega), rdU32_drop, rdU32_drop]
  rfl

/-- So is its link state. -/
theorem linkAt_eq {p : Nat} (hstart : start ≤ data.length) (hp : start + p ≤ data.length + 65536) :
    fieldAt data 2 (linkStateAt data) (0, 0) (start + p)
      = .ok ((readLinkState (data.drop start) p).1,
          start + (readLinkState (data.drop start) p).2) := by
  refine fieldAt_eq hdata hstart hp (by omega) ?_
  intro hfits
  unfold linkStateAt
  rw [index_ok (by omega), ok_bind, add_ok (by omega), ok_bind, index_ok (by dsimp only; omega),
    getD_drop, getD_drop]
  rfl

/-- So is its media type. -/
theorem mediaAt_eq {p : Nat} (hstart : start ≤ data.length)
    (hp : start + p ≤ data.length + 65536) :
    fieldAt data 4 (fun p => u32At data p false) 0 (start + p)
      = .ok ((readMedia (data.drop start) p).1, start + (readMedia (data.drop start) p).2) :=
  fieldAt_eq hdata hstart hp (by omega) fun hfits => by rw [u32At_ok hdata hfits, rdU32_drop]

/-- So is the count of its peers. -/
theorem peerCountAt_eq {p : Nat} (hstart : start ≤ data.length) (hp : start + p ≤ data.length) :
    peerCountAt data (start + p) = .ok ((readCount (data.drop start) p).1,
      start + (readCount (data.drop start) p).2) := by
  have hlen : (data.drop start).length = data.length - start := List.length_drop
  unfold peerCountAt readCount
  by_cases hmore : start + p < data.length
  · rw [if_pos hmore, if_pos (by omega), index_ok hmore, ok_bind, add_ok (by omega), ok_bind,
      getD_drop]
    rfl
  · rw [if_neg hmore, if_neg (by omega)]
    rfl

end Equations

/-! Where the readers stop. -/

/-- A field that is read ends in the record, and one that is not, where it began. -/
structure Ends (rest : List UInt8) (p q : Nat) : Prop where
  le : p ≤ q
  inside : q = p ∨ q ≤ rest.length

/-- A field ends behind where it begins, and in the record if it begins there. -/
theorem readField_ends {α : Type} (rest : List UInt8) (n : Nat) (read : Nat → α) (default : α)
    (p : Nat) : Ends rest p (readField rest n read default p).2 := by
  unfold readField
  by_cases hfits : p + n ≤ rest.length
  · rw [if_pos hfits]
    exact ⟨Nat.le_add_right p n, .inr hfits⟩
  · rw [if_neg hfits]
    exact ⟨Nat.le_refl p, .inl rfl⟩

/-- So does an address. -/
theorem readMac_ends (rest : List UInt8) (p : Nat) : Ends rest p (readMac rest p).2 :=
  readField_ends rest 6 _ _ p

/-- So does the place of a port. -/
theorem readPlace_ends (rest : List UInt8) (slot subslot : UInt16) (p : Nat) :
    Ends rest p (readPlace rest slot subslot p).2 :=
  readField_ends rest 4 _ _ p

/-- So does its MAU type. -/
theorem readMau_ends (rest : List UInt8) (p : Nat) : Ends rest p (readMau rest p).2 :=
  readField_ends rest 2 _ _ p

/-- So do its boundaries. -/
theorem readBoundaries_ends (rest : List UInt8) (p : Nat) :
    Ends rest p (readBoundaries rest p).2 :=
  readField_ends rest 8 _ _ p

/-- So does its link state. -/
theorem readLinkState_ends (rest : List UInt8) (p : Nat) : Ends rest p (readLinkState rest p).2 :=
  readField_ends rest 2 _ _ p

/-- A string takes at least its length byte, and nothing behind the end. -/
theorem readString_le (rest : List UInt8) {p : Nat} (hp : p < rest.length) :
    p < (readString rest p).2 ∧ (readString rest p).2 ≤ rest.length := by
  unfold readString
  dsimp only
  by_cases hfits : p + 1 + (rest.getD p 0).toNat ≤ rest.length
  · rw [if_pos hfits]
    exact ⟨Nat.lt_of_lt_of_le (Nat.lt_succ_self p) (Nat.le_add_right _ _), hfits⟩
  · rw [if_neg hfits]
    exact ⟨Nat.lt_succ_self p, hp⟩

/-- The count of peers ends in the record. -/
theorem readCount_le {rest : List UInt8} {p : Nat} (hp : p ≤ rest.length) :
    (readCount rest p).2 ≤ rest.length := by
  unfold readCount
  by_cases hmore : p < rest.length
  · rw [if_pos hmore]
    exact hmore
  · rw [if_neg hmore]
    exact hp

/-- The loop over the peers ends near the record. -/
theorem readPeers_le (rest : List UInt8) (count : Nat) {p : Nat} (hp : p ≤ rest.length + 65000) :
    (readPeers rest count p).2 ≤ rest.length + 65000 := by
  induction count generalizing p with
  | zero => exact hp
  | succ count ih =>
    unfold readPeers
    by_cases hport : rest.length < p + 1
    · rw [if_pos hport]
      exact hp
    · rw [if_neg hport]
      dsimp only
      have hp' := readString_le rest (p := p) (by omega)
      by_cases hchassis : rest.length < (readString rest p).2 + 1
      · rw [if_pos hchassis]
        show (readString rest p).2 ≤ rest.length + 65000
        omega
      · rw [if_neg hchassis]
        have hp'' := readString_le rest (p := (readString rest p).2) (by omega)
        obtain ⟨hmac, hmac'⟩ := readMac_ends rest (up4 (readString rest (readString rest p).2).2)
        have hup := up4_lt (readString rest (readString rest p).2).2
        have hup' := up4_lt (readMac rest (up4 (readString rest (readString rest p).2).2)).2
        exact ih (by omega)

section Parsers

variable {data : List UInt8} (hdata : data.length < 2 ^ 63) {start : Nat}
  (hstart : start ≤ data.length)
include hdata hstart

/-- The loop over the peers reads what `readPeers` reads, however many of them fit. -/
theorem peersFrom_eq (count : Nat) {p : Nat} (hp : start + p ≤ data.length + 65000) :
    peersFrom data start count (start + p) = .ok ((readPeers (data.drop start) count p).1,
      start + (readPeers (data.drop start) count p).2) := by
  have hlen : (data.drop start).length = data.length - start := List.length_drop
  -- on the count: a peer that does not fit ends the list for both
  induction count generalizing p with
  | zero => rfl
  | succ count ih =>
    unfold peersFrom readPeers
    rw [add_ok (by omega), ok_bind]
    by_cases hport : data.length < start + p + 1
    · rw [if_pos hport, if_pos (by omega)]
      rfl
    rw [if_neg hport, if_neg (by omega), stringAt_eq hdata (by omega), ok_bind]
    have hp' := readString_le (data.drop start) (p := p) (by omega)
    dsimp only
    generalize readString (data.drop start) p = port at hp'
    rw [add_ok (by omega), ok_bind]
    by_cases hchassis : data.length < start + port.2 + 1
    · rw [if_pos hchassis, if_pos (by omega)]
      rfl
    rw [if_neg hchassis, if_neg (by omega), stringAt_eq hdata (by omega), ok_bind]
    have hp'' := readString_le (data.drop start) (p := port.2) (by omega)
    dsimp only
    generalize readString (data.drop start) port.2 = chassis at hp''
    have hup := up4_lt chassis.2
    rw [alignFrom_ok (by omega), ok_bind, macAt_eq hdata hstart (by omega), ok_bind]
    have hends := readMac_ends (data.drop start) (up4 chassis.2)
    dsimp only
    generalize readMac (data.drop start) (up4 chassis.2) = mac at hends
    obtain ⟨hmac, hmac'⟩ := hends
    have hup' := up4_lt mac.2
    rw [alignFrom_ok (by omega), ok_bind, ih (by omega), ok_bind]
    rfl

/-- The fields behind the peers are read as `readNumbers` says. -/
theorem parsePortNumbers_eq {p : Nat} (hp : start + p ≤ data.length + 65000) (port : PortInfo) :
    parsePortNumbers data start (start + p) port = .ok (readNumbers (data.drop start) p port) := by
  have hlen : (data.drop start).length = data.length - start := List.length_drop
  unfold parsePortNumbers readNumbers
  rw [mauAt_eq hdata hstart (by omega), ok_bind]
  have hends := readMau_ends (data.drop start) p
  dsimp only
  generalize readMau (data.drop start) p = mau at hends
  obtain ⟨hmau, hmau'⟩ := hends
  have hup := up4_lt mau.2
  rw [alignFrom_ok (by omega), ok_bind, boundsAt_eq hdata hstart (by omega), ok_bind]
  have hends := readBoundaries_ends (data.drop start) (up4 mau.2)
  dsimp only
  generalize readBoundaries (data.drop start) (up4 mau.2) = boundaries at hends
  obtain ⟨hbound, hbound'⟩ := hends
  rw [linkAt_eq hdata hstart (by omega), ok_bind]
  have hends := readLinkState_ends (data.drop start) boundaries.2
  dsimp only
  generalize readLinkState (data.drop start) boundaries.2 = linkState at hends
  obtain ⟨hlink, hlink'⟩ := hends
  have hup' := up4_lt linkState.2
  rw [alignFrom_ok (by omega), ok_bind, mediaAt_eq hdata hstart (by omega), ok_bind]
  rfl

/-- **A port is read from the bytes behind its header, and from how they are aligned.** -/
theorem parsePdPortDataReal_eq (slot subslot : UInt16) :
    parsePdPortDataReal data start slot subslot
      = .ok (readPort (data.drop start) (toAligned start) slot subslot) := by
  have hlen : (data.drop start).length = data.length - start := List.length_drop
  have hlt := up4_lt start
  have hfirst := (add_toAligned start).symm
  -- place, port id, peer count, peers, numbers, in the order of the block
  unfold parsePdPortDataReal readPort
  rw [align4_ok (by omega), ok_bind]
  dsimp only
  rw [hfirst, placeAt_eq hdata hstart (by omega), ok_bind]
  have hends := readPlace_ends (data.drop start) slot subslot (toAligned start)
  dsimp only
  generalize readPlace (data.drop start) slot subslot (toAligned start) = place at hends
  obtain ⟨hplace, hplace'⟩ := hends
  rw [add_ok (by omega), ok_bind]
  by_cases hport : data.length < start + place.2 + 1
  · rw [if_pos hport, if_pos (by omega)]
    rfl
  rw [if_neg hport, if_neg (by omega), stringAt_eq hdata (by omega), ok_bind]
  obtain ⟨-, hid⟩ := readString_le (data.drop start) (p := place.2) (by omega)
  dsimp only
  generalize readString (data.drop start) place.2 = portId at hid
  rw [peerCountAt_eq hdata hstart (by omega), ok_bind]
  have hcount := readCount_le hid
  dsimp only
  generalize readCount (data.drop start) portId.2 = count at hcount
  have hup := up4_lt count.2
  rw [alignFrom_ok (by omega), ok_bind, peersFrom_eq hdata hstart count.1 (by omega), ok_bind]
  have hpeers := readPeers_le (data.drop start) count.1 (p := up4 count.2) (by omega)
  dsimp only
  exact parsePortNumbers_eq hdata hstart (by omega) _

/-- **An interface is read from the bytes behind its header.** -/
theorem parsePdInterfaceDataReal_eq :
    parsePdInterfaceDataReal data start = .ok (readInterface (data.drop start)) := by
  have hlen : (data.drop start).length = data.length - start := List.length_drop
  have hbyte := (data.getD start 0).toNat_lt
  have hcount : (data.getD start 0).toNat = ((data.drop start).getD 0 0).toNat := by
    rw [getD_drop, Nat.add_zero]
  unfold parsePdInterfaceDataReal readInterface
  dsimp only
  -- three fields may be missing: the name, the MAC address, the addresses; each ends both
  -- readers
  by_cases hnone : data.length ≤ start
  · rw [if_pos hnone, if_pos (by omega)]
    rfl
  rw [if_neg hnone, if_neg (by omega), index_ok (by omega), ok_bind, add_ok (by omega), ok_bind,
    add_ok (by dsimp only; omega), ok_bind]
  dsimp only
  rw [hcount]
  generalize ((data.drop start).getD 0 0).toNat = len at hcount
  by_cases hchassis : data.length < start + 1 + len
  · rw [if_pos hchassis, if_pos (by omega)]
    rfl
  rw [if_neg hchassis, if_neg (by omega), slice_ok (by omega) (by omega), ok_bind,
    Nat.add_assoc start 1 len, alignFromBlock_ok (by omega), ok_bind]
  have hup := upBlock_lt (1 + len)
  dsimp only
  generalize upBlock (1 + len) = mac at hup
  rw [add_ok (by omega), ok_bind]
  by_cases hmac : data.length < start + mac + 6
  · rw [if_pos hmac, if_pos (by omega)]
    rfl
  rw [if_neg hmac, if_neg (by omega), arrayAt_ok hdata (by omega), ok_bind]
  dsimp only
  rw [Nat.add_assoc start mac 6, alignFromBlock_ok (by omega), ok_bind]
  have hup' := upBlock_lt (mac + 6)
  generalize upBlock (mac + 6) = ip at hup'
  unfold parseIpConfiguration
  rw [add_ok (by omega), ok_bind]
  by_cases hip : data.length < start + ip + 12
  · rw [if_pos hip, if_pos (by omega)]
    rfl
  rw [if_neg hip, if_neg (by omega), arrayAt_ok hdata (by omega), ok_bind, add_ok (by omega),
    ok_bind, arrayAt_ok hdata (by dsimp only; omega), ok_bind, add_ok (by omega), ok_bind,
    arrayAt_ok hdata (by dsimp only; omega), ok_bind, List.drop_drop, bytesAt_drop, bytesAt_drop,
    bytesAt_drop, bytesAt_drop, Nat.add_sub_cancel_left, Nat.add_sub_add_left, Nat.add_sub_cancel_left]
  rfl

/-- A nested block is read from its own offset on, but for the padding of a port. -/
theorem nestedBlock_eq (slotNr subslotNr blockType : UInt16) :
    nestedBlock data slotNr subslotNr blockType start
      = .ok (readNested (data.drop start) (toAligned start) slotNr subslotNr blockType) := by
  unfold nestedBlock readNested
  by_cases hinterface : blockType = blockPdInterfaceDataReal
  · rw [if_pos hinterface, if_pos hinterface, parsePdInterfaceDataReal_eq hdata hstart, ok_bind]
    cases readInterface (data.drop start) with
    | error e => rfl
    | ok interface => rfl
  rw [if_neg hinterface, if_neg hinterface]
  by_cases hport : blockType = blockPdPortDataReal
  · rw [if_pos hport, if_pos hport, parsePdPortDataReal_eq hdata hstart, ok_bind]
    rfl
  · rw [if_neg hport, if_neg hport]
    rfl

end Parsers

end Profinet.Im
