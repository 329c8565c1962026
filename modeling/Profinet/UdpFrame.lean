/-
  UDP FRAME: the frames the raw endpoint builds, and their checksums.

  Without a socket the endpoint writes the Ethernet, IPv4 and UDP headers of a datagram itself.  Both
  checksums are computed over bytes in which their own field is zero, and put in place afterwards.
  All sums are `u32`; a build may check them for overflow or not (`Build`), which makes no difference
  as long as the packet fits the 16-bit lengths (`buildUdpFrame_ok`).

      Ethernet   14 bytes
      IPv4       20 bytes, `ipHeader`
      UDP        8 bytes and the payload, `udpDatagram`
-/
import Profinet.Lib.OnesComplement
import Profinet.UdpDatagram
import Profinet.VlanTags

namespace Profinet.RawUdp

open Wire Checked Util OnesComplement

/-! ## Checksums -/

/-- The loop over `chunks_exact(2)`, and what it leaves over. -/
def sumBeWordsFrom (build : Build) (sum : UInt32) : List UInt8 → Comp UInt32
  | [] => return sum
  | [last] => return (← addU32 build sum (last.toUInt32 <<< 8)).val
  | a :: b :: rest => do
    let sum ← addU32 build sum (ofBe16 a b).toUInt32
    sumBeWordsFrom build sum rest

/-- One's-complement sum of big-endian words; a trailing odd byte is padded with a zero low byte. -/
def sumBeWords (build : Build) (data : List UInt8) : Comp UInt32 := sumBeWordsFrom build 0 data

/-- One folding step on the sum. -/
theorem folded_toNat (sum : UInt32) :
    ((sum &&& (0xFFFF : UInt32)) + (sum >>> 16)).toNat
      = sum.toNat % 65536 + sum.toNat / 65536 := by
  have hsum := sum.toNat_lt
  have hlow : sum.toNat &&& UInt32.toNat 0xFFFF = sum.toNat % 65536 :=
    Nat.and_two_pow_sub_one_eq_mod sum.toNat 16
  have hhigh : sum.toNat >>> (UInt32.toNat 16 % 32) = sum.toNat / 65536 :=
    Nat.shiftRight_eq_div_pow sum.toNat 16
  rw [UInt32.toNat_add, UInt32.toNat_and, UInt32.toNat_shiftRight, hlow, hhigh]
  omega

/-- Fold the carries back into 16 bits and complement. -/
def foldChecksum (build : Build) (sum : UInt32) : Comp UInt16 :=
  if _hcarry : 0xFFFF < sum then do
    let ⟨folded, _hfolded⟩ ← addU32 build (sum &&& 0xFFFF) (sum >>> 16)
    foldChecksum build folded
  else return ~~~ sum.toUInt16
  termination_by sum.toNat
  decreasing_by
    have hcarry := UInt32.lt_iff_toNat_lt.mp _hcarry
    have hones : UInt32.toNat 0xFFFF = 0xFFFF := rfl
    rw [_hfolded, folded_toNat]
    omega

/-- Checksum of an IPv4 header with its checksum field zeroed. -/
def ipv4Checksum (build : Build) (header : List UInt8) : Comp UInt16 := do
  foldChecksum build (← sumBeWords build header)

/-- Checksum over the pseudo-header and a UDP datagram with its checksum field zeroed; 0 would mean
    that there is none. -/
def udpChecksum (build : Build) (srcIp dstIp : Bytes 4) (udp : List UInt8) : Comp UInt16 := do
  let sum ← addU32 build (← sumBeWords build srcIp.val) (← sumBeWords build dstIp.val)
  let sum ← addU32 build sum ipProtoUdp.toUInt32
  let sum ← addU32 build sum (UInt32.ofNat udp.length)
  let sum ← addU32 build sum (← sumBeWords build udp)
  let cksum ← foldChecksum build sum
  return if cksum = 0 then 0xFFFF else cksum

/-! ## What the checksums are

  The sums are in 32 bits, and a release build would wrap where a debug build aborts.  A datagram
  is too short for either, so both builds give the complement of the folded sum. -/

/-- A sum of two numbers that does not overflow, and what follows. -/
theorem addU32_ofNat_bind {α : Type} (build : Build) {m n : Nat} (h : m + n < 2 ^ 32)
    (f : { s : UInt32 // s = UInt32.ofNat m + UInt32.ofNat n } → Comp α) :
    (addU32 build (UInt32.ofNat m) (UInt32.ofNat n) >>= f)
      = f ⟨UInt32.ofNat (m + n), UInt32.ofNat_add m n⟩ := by
  have hm : (UInt32.ofNat m).toNat = m :=
    UInt32.toNat_ofNat_of_lt' (by unfold UInt32.size; omega)
  have hn : (UInt32.ofNat n).toNat = n :=
    UInt32.toNat_ofNat_of_lt' (by unfold UInt32.size; omega)
  rw [addU32_ok build (by omega), ok_bind]
  congr 2
  exact (UInt32.ofNat_add m n).symm

/-- Adding up words does not overflow while the sum fits 32 bits. -/
theorem sumBeWordsFrom_ok (build : Build) {sum : UInt32} {data : List UInt8}
    (h : sum.toNat + wordSum data < 2 ^ 32) :
    sumBeWordsFrom build sum data = .ok (UInt32.ofNat (sum.toNat + wordSum data)) := by
  induction data using wordSum.induct generalizing sum with
  | case1 => exact congrArg Except.ok UInt32.ofNat_toNat.symm
  -- an odd last byte is the high byte of a word
  | case2 last =>
    have hlast := last.toNat_lt
    have hword : (last.toUInt32 <<< 8).toNat = last.toNat * 256 := by
      have hshift : last.toNat <<< (UInt32.toNat 8 % 32) = last.toNat * 256 :=
        Nat.shiftLeft_eq last.toNat 8
      rw [UInt32.toNat_shiftLeft, UInt8.toNat_toUInt32, hshift]
      omega
    rw [wordSum, ← hword] at h ⊢
    rw [sumBeWordsFrom, addU32_ok build h, ok_bind, UInt32.ofNat_add, UInt32.ofNat_toNat,
      UInt32.ofNat_toNat]
    rfl
  -- the sum does not wrap, so one more word is one more addend
  | case3 a b rest ih =>
    have hword : (ofBe16 a b).toUInt32.toNat = a.toNat * 256 + b.toNat := by
      rw [UInt16.toNat_toUInt32, ofBe16_toNat]
    rw [wordSum, ← hword] at h ⊢
    have hsum : (sum + (ofBe16 a b).toUInt32).toNat = sum.toNat + (ofBe16 a b).toUInt32.toNat := by
      rw [UInt32.toNat_add]
      omega
    rw [sumBeWordsFrom, addU32_ok build (by omega), ok_bind]
    dsimp only
    rw [ih (by omega), hsum, Nat.add_assoc]

/-- The same from zero. -/
theorem sumBeWords_ok (build : Build) {data : List UInt8} (h : wordSum data < 2 ^ 32) :
    sumBeWords build data = .ok (UInt32.ofNat (wordSum data)) := by
  have hbound : (0 : UInt32).toNat + wordSum data < 2 ^ 32 := by
    rw [UInt32.toNat_zero]
    omega
  have hsum := sumBeWordsFrom_ok build hbound
  rw [UInt32.toNat_zero, Nat.zero_add] at hsum
  exact hsum

/-- The sums of the fold never overflow. -/
theorem foldChecksum_ok (build : Build) (sum : UInt32) :
    foldChecksum build sum = .ok (UInt16.ofNat (0xFFFF - fold sum.toNat)) := by
  have hones : UInt32.toNat 0xFFFF = 0xFFFF := rfl
  -- as long as the sum has a carry it is folded in
  induction hn : sum.toNat using fold.induct generalizing sum with
  | case1 n hcarry ih =>
    have hsum := sum.toNat_lt
    have hcarry' : 0xFFFF < sum := UInt32.lt_iff_toNat_lt.mpr (by omega)
    have hlow : (sum &&& (0xFFFF : UInt32)).toNat = n % 65536 := by
      rw [UInt32.toNat_and, hn]
      exact Nat.and_two_pow_sub_one_eq_mod n 16
    have hhigh : (sum >>> 16).toNat = n / 65536 := by
      rw [UInt32.toNat_shiftRight, hn]
      exact Nat.shiftRight_eq_div_pow n 16
    have hfold : fold n = fold (n % 65536 + n / 65536) := by rw [fold, if_pos hcarry]
    rw [foldChecksum, dif_pos hcarry', addU32_ok build (by omega), ok_bind]
    dsimp only
    rw [ih _ (by rw [folded_toNat, hn]), hfold]
  | case2 n hfits =>
    have hfits' : ¬ 0xFFFF < sum := fun h => hfits (by
      have hcarry := UInt32.lt_iff_toNat_lt.mp h
      omega)
    have hsize : UInt16.size = 65536 := rfl
    rw [foldChecksum, dif_neg hfits', fold, if_neg hfits]
    apply congrArg Except.ok
    apply UInt16.toNat_inj.mp
    rw [UInt16.toNat_not, UInt32.toNat_toUInt16, UInt16.toNat_ofNat', hn]
    omega

/-- What completes a sum to 0xFFFF. -/
def complement (n : Nat) : UInt16 := UInt16.ofNat (0xFFFF - fold n)

/-- The same in a UDP header, where 0 says something else. -/
def udpComplement (n : Nat) : UInt16 := if complement n = 0 then 0xFFFF else complement n

/-- The complement of a folded sum. -/
theorem complement_toNat (n : Nat) : (complement n).toNat = 0xFFFF - fold n :=
  UInt16.toNat_ofNat_of_lt' (by unfold UInt16.size; omega)

/-- A sum and its complement fold to all ones. -/
theorem fold_add_complement (n : Nat) : fold (n + (complement n).toNat) = 0xFFFF := by
  rw [complement_toNat, fold_complement]

/-- The UDP checksum is never zero: zero stands for none. -/
theorem udpComplement_ne_zero (n : Nat) : udpComplement n ≠ 0 := by
  unfold udpComplement
  by_cases h : complement n = 0
  · rw [if_pos h]
    decide
  · rw [if_neg h]
    exact h

/-- A sum and its UDP checksum fold to all ones too. -/
theorem fold_add_udpComplement (n : Nat) : fold (n + (udpComplement n).toNat) = 0xFFFF := by
  unfold udpComplement
  by_cases h : complement n = 0
  · -- a complement of 0 is that of a sum of all ones
    have hones : fold n = 0xFFFF := by
      have hzero := complement_toNat n
      have hle := fold_le n
      rw [h, UInt16.toNat_zero] at hzero
      omega
    rw [if_pos h]
    exact fold_ones hones
  · rw [if_neg h, fold_add_complement]

/-- `ipv4_checksum` is the complement of the sum. -/
theorem ipv4Checksum_ok (build : Build) {header : List UInt8} (h : wordSum header < 2 ^ 32) :
    ipv4Checksum build header = .ok (complement (wordSum header)) := by
  unfold ipv4Checksum
  rw [sumBeWords_ok build h, ok_bind, foldChecksum_ok, UInt32.toNat_ofNat_of_lt' h]
  rfl

/-- The words of the pseudo-header: the addresses, the protocol and the length. -/
def pseudoHeader (srcIp dstIp : Bytes 4) (udpLen : UInt16) : List UInt8 :=
  srcIp.val ++ (dstIp.val ++ (0x00 :: ipProtoUdp :: be16 udpLen))

/-- The sum over the pseudo header. -/
theorem wordSum_pseudoHeader (srcIp dstIp : Bytes 4) (udpLen : UInt16) :
    wordSum (pseudoHeader srcIp dstIp udpLen)
      = wordSum srcIp.val + wordSum dstIp.val + 17 + udpLen.toNat := by
  unfold pseudoHeader
  rw [wordSum_append _ _ (by rw [srcIp.property]), wordSum_append _ _ (by rw [dstIp.property]),
    wordSum, wordSum_be16]
  show wordSum srcIp.val + (wordSum dstIp.val + (0 * 256 + 17 + udpLen.toNat)) = _
  omega

/-- `udp_checksum` is the complement of the sum over the pseudo header and the datagram. -/
theorem udpChecksum_ok (build : Build) (srcIp dstIp : Bytes 4) {udp : List UInt8}
    (h : udp.length ≤ 0xFFFF) :
    udpChecksum build srcIp dstIp udp
      = .ok (udpComplement
          (wordSum (pseudoHeader srcIp dstIp (UInt16.ofNat udp.length)) + wordSum udp)) := by
  -- four words and a length at most, so no addition wraps
  have hsrc := wordSum_le srcIp.val
  have hdst := wordSum_le dstIp.val
  have hudp := wordSum_le udp
  rw [srcIp.property] at hsrc
  rw [dstIp.property] at hdst
  have hlen : (UInt16.ofNat udp.length).toNat = udp.length :=
    UInt16.toNat_ofNat_of_lt' (by unfold UInt16.size; omega)
  rw [wordSum_pseudoHeader, hlen]
  have hproto : ipProtoUdp.toUInt32 = UInt32.ofNat 17 := rfl
  unfold udpChecksum
  rw [sumBeWords_ok build (by omega), ok_bind, sumBeWords_ok build (by omega), ok_bind,
    addU32_ofNat_bind build (by omega)]
  dsimp only
  rw [hproto, addU32_ofNat_bind build (by omega)]
  dsimp only
  rw [addU32_ofNat_bind build (by omega)]
  dsimp only
  rw [sumBeWords_ok build (by omega), ok_bind, addU32_ofNat_bind build (by omega)]
  dsimp only
  rw [foldChecksum_ok, ok_bind, UInt32.toNat_ofNat_of_lt' (by unfold UInt32.size; omega)]
  rfl

/-! ## The frame

  The two checksum fields are zero at first, and filled in once the header or the datagram around
  them is summed up. -/

/-- `data[off..off + n].copy_from_slice(bytes)`. -/
def copyAt (data : List UInt8) (off : Nat) (bytes : List UInt8) : List UInt8 :=
  data.take off ++ (bytes ++ data.drop (off + bytes.length))

/-- An Ethernet, IPv4 and UDP frame around `payload` (`build_udp_frame`). -/
def buildUdpFrame (build : Build) (srcMac dstMac : Mac) (srcIp dstIp : Bytes 4)
    (srcPort dstPort ipId : UInt16) (payload : List UInt8) : Comp (List UInt8) := do
  let udpLen := 8 + payload.length
  let totalLen := 20 + udpLen
  let ip :=
    0x45 :: -- version 4, IHL 5
    0x00 :: -- TOS
    (be16 (UInt16.ofNat totalLen) ++
    (be16 ipId ++
    (be16 0x4000 ++ -- DF, fragment offset 0
    (64 :: -- TTL
    ipProtoUdp ::
    (be16 0 ++ -- checksum, computed below
    (srcIp.val ++
    dstIp.val))))))
  let ipCksum ← ipv4Checksum build ip
  let ip := copyAt ip 10 (be16 ipCksum)
  let udp :=
    be16 srcPort ++
    (be16 dstPort ++
    (be16 (UInt16.ofNat udpLen) ++
    (be16 0 ++ -- checksum, computed below
    payload)))
  let udpCksum ← udpChecksum build srcIp dstIp udp
  let udp := copyAt udp 6 (be16 udpCksum)
  return dstMac.val ++ (srcMac.val ++ (be16 ethertypeIpv4 ++ (ip ++ udp)))

/-! ## What the frame is

  The parts of the frame around its two checksum fields, so that filling one in is replacing a
  word of a list. -/

/-- What a frame is built from. -/
structure UdpPacket where
  srcMac : Mac
  dstMac : Mac
  srcIp : Bytes 4
  dstIp : Bytes 4
  srcPort : UInt16
  dstPort : UInt16
  ipId : UInt16
  payload : List UInt8

section Layout

variable (p : UdpPacket)

/-- The 20 bytes of the IP header. -/
def ipHeader (cksum : UInt16) : List UInt8 :=
  0x45 :: 0x00 :: (be16 (UInt16.ofNat (20 + (8 + p.payload.length))) ++ (be16 p.ipId ++
    (be16 0x4000 ++ (64 :: ipProtoUdp :: (be16 cksum ++ (p.srcIp.val ++ p.dstIp.val))))))

/-- UDP header and payload. -/
def udpDatagram (cksum : UInt16) : List UInt8 :=
  be16 p.srcPort ++ (be16 p.dstPort ++ (be16 (UInt16.ofNat (8 + p.payload.length)) ++
    (be16 cksum ++ p.payload)))

/-- The frame with these checksums. -/
def udpFrame (ipCksum udpCksum : UInt16) : List UInt8 :=
  p.dstMac.val ++ (p.srcMac.val ++ (be16 ethertypeIpv4 ++
    (ipHeader p ipCksum ++ udpDatagram p udpCksum)))

/-- Twenty bytes. -/
theorem ipHeader_length (cksum : UInt16) : (ipHeader p cksum).length = 20 := by
  simp only [ipHeader, List.length_cons, List.length_append, be16_length, p.srcIp.property,
    p.dstIp.property]

/-- Eight bytes and the payload. -/
theorem udpDatagram_length (cksum : UInt16) :
    (udpDatagram p cksum).length = 8 + p.payload.length := by
  simp only [udpDatagram, List.length_append, be16_length]
  omega

/-- The IP header around its checksum. -/
theorem ipHeader_eq :
    ∃ head, head.length = 10
      ∧ ∀ cksum, ipHeader p cksum = head ++ (be16 cksum ++ (p.srcIp.val ++ p.dstIp.val)) :=
  ⟨0x45 :: 0x00 :: (be16 (UInt16.ofNat (20 + (8 + p.payload.length))) ++
      (be16 p.ipId ++ (be16 0x4000 ++ [64, ipProtoUdp]))),
    rfl, fun _ => rfl⟩

/-- The datagram around its checksum. -/
theorem udpDatagram_eq :
    ∃ head, head.length = 6
      ∧ ∀ cksum, udpDatagram p cksum = head ++ (be16 cksum ++ p.payload) :=
  ⟨be16 p.srcPort ++ (be16 p.dstPort ++ be16 (UInt16.ofNat (8 + p.payload.length))), rfl,
    fun _ => rfl⟩

/-- A word put in the place of another. -/
theorem copyAt_word {a b : List UInt8} {off : Nat} (ha : a.length = off) (old new : UInt16) :
    copyAt (a ++ (be16 old ++ b)) off (be16 new) = a ++ (be16 new ++ b) := by
  unfold copyAt
  rw [take_append_exact ha, ← List.drop_drop, drop_append_exact ha,
    drop_append_exact (a := be16 old) (n := (be16 new).length) rfl]

/-- Writing the checksum into the header gives the header with it. -/
theorem copyAt_ipHeader (cksum : UInt16) :
    copyAt (ipHeader p 0) 10 (be16 cksum) = ipHeader p cksum := by
  obtain ⟨head, hhead, heq⟩ := ipHeader_eq p
  rw [heq, heq, copyAt_word hhead]

/-- Writing the checksum into the datagram gives the datagram with it. -/
theorem copyAt_udpDatagram (cksum : UInt16) :
    copyAt (udpDatagram p 0) 6 (be16 cksum) = udpDatagram p cksum := by
  obtain ⟨head, hhead, heq⟩ := udpDatagram_eq p
  rw [heq, heq, copyAt_word hhead]

/-- Two checksums, and the frame with them. -/
theorem buildUdpFrame_eq (build : Build) :
    buildUdpFrame build p.srcMac p.dstMac p.srcIp p.dstIp p.srcPort p.dstPort p.ipId p.payload
      = (do
      let ipCksum ← ipv4Checksum build (ipHeader p 0)
      let udpCksum ← udpChecksum build p.srcIp p.dstIp (udpDatagram p 0)
      pure (udpFrame p ipCksum udpCksum)) := by
  have hframe (ipCksum udpCksum : UInt16) :
      udpFrame p ipCksum udpCksum
        = p.dstMac.val ++ (p.srcMac.val ++ (be16 ethertypeIpv4 ++
            (copyAt (ipHeader p 0) 10 (be16 ipCksum) ++
              copyAt (udpDatagram p 0) 6 (be16 udpCksum)))) := by
    rw [copyAt_ipHeader, copyAt_udpDatagram]
    rfl
  simp only [hframe]
  rfl

/-- The checksums of the frame with this payload. -/
def ipCksumOf : UInt16 := complement (wordSum (ipHeader p 0))

/-- The UDP checksum, over the pseudo header and the datagram. -/
def udpCksumOf : UInt16 :=
  udpComplement (wordSum (pseudoHeader p.srcIp p.dstIp (UInt16.ofNat (8 + p.payload.length)))
    + wordSum (udpDatagram p 0))

/-- **What is built**, in either build: the layout, with the complements of the sums. -/
theorem buildUdpFrame_ok (build : Build) (hlen : 28 + p.payload.length ≤ 0xFFFF) :
    buildUdpFrame build p.srcMac p.dstMac p.srcIp p.dstIp p.srcPort p.dstPort p.ipId p.payload
      = .ok (udpFrame p (ipCksumOf p) (udpCksumOf p)) := by
  have hipLen := ipHeader_length p 0
  have hudpLen := udpDatagram_length p 0
  have hipSum := wordSum_le (ipHeader p 0)
  have hudpFits : (udpDatagram p 0).length ≤ 0xFFFF := by omega
  have hudpCksum := udpChecksum_ok build p.srcIp p.dstIp hudpFits
  rw [hudpLen] at hudpCksum
  rw [buildUdpFrame_eq, ipv4Checksum_ok build (by omega), ok_bind, hudpCksum]
  rfl

/-! ## The sums come out

  A receiver adds up the same words with the checksum among them, and gets all ones. -/

/-- A word that was zero adds what it becomes. -/
theorem wordSum_word {a b : List UInt8} (ha : a.length % 2 = 0) (cksum : UInt16) :
    wordSum (a ++ (be16 cksum ++ b)) = wordSum (a ++ (be16 0 ++ b)) + cksum.toNat := by
  have hword (v : UInt16) : wordSum (a ++ (be16 v ++ b)) = wordSum a + (v.toNat + wordSum b) := by
    rw [wordSum_append _ _ ha, wordSum_append _ _ (by rw [be16_length]), wordSum_be16]
  rw [hword, hword, UInt16.toNat_zero]
  omega

/-- The IP header sums to all ones. -/
theorem fold_ipHeader : fold (wordSum (ipHeader p (ipCksumOf p))) = 0xFFFF := by
  obtain ⟨head, hhead, heq⟩ := ipHeader_eq p
  rw [heq, wordSum_word (by rw [hhead]), ← heq]
  exact fold_add_complement _

/-- So does the datagram with its pseudo-header. -/
theorem fold_udpDatagram :
    fold (wordSum (pseudoHeader p.srcIp p.dstIp (UInt16.ofNat (8 + p.payload.length)) ++
      udpDatagram p (udpCksumOf p))) = 0xFFFF := by
  obtain ⟨head, hhead, heq⟩ := udpDatagram_eq p
  have heven : (pseudoHeader p.srcIp p.dstIp (UInt16.ofNat (8 + p.payload.length))).length % 2
      = 0 := by
    simp only [pseudoHeader, List.length_append, List.length_cons, p.srcIp.property,
      p.dstIp.property, be16_length]
  rw [wordSum_append _ _ heven, heq, wordSum_word (by rw [hhead]), ← heq, ← Nat.add_assoc]
  exact fold_add_udpComplement _

/-! ## The parser takes it

  The frame as it is received: under tags, and with bytes behind it that the lengths do not
  count. -/

section Received

variable {p} {ipCksum udpCksum : UInt16} {received appended : List UInt8}
variable (hreceived : received = udpFrame p ipCksum udpCksum ++ appended)
include hreceived

/-- The length of the frame as it is received. -/
theorem received_length : received.length = 42 + p.payload.length + appended.length := by
  rw [hreceived, List.length_append]
  simp only [udpFrame, List.length_append, p.dstMac.property, p.srcMac.property, be16_length,
    ipHeader_length, udpDatagram_length]
  omega

/-- Behind the addresses: the EtherType, the IPv4 header, the datagram and what is appended. -/
theorem received_ethertype :
    received.drop 12 = be16 ethertypeIpv4 ++ (ipHeader p ipCksum ++
      (udpDatagram p udpCksum ++ appended)) := by
  have h0 : received.drop 0 = _ := hreceived
  simp only [udpFrame, List.append_assoc] at h0
  have h6 : received.drop 6 = _ := drop_field h0 p.dstMac.property
  exact drop_field h6 p.srcMac.property

/-- The frame is untagged. -/
theorem received_untagged : Untagged received where
  long := by
    have hlen := received_length hreceived
    omega
  ethertype := by
    rw [rdU16_be (received_ethertype hreceived)]
    decide

/-- A frame that was built passes the checks, and its payload is what is delivered. -/
theorem received_accepted (hlen : 28 + p.payload.length ≤ 0xFFFF) :
    Accepted received p.srcIp p.dstIp ∧ delivered received = (p.payload, p.srcPort) := by
  have hlength := received_length hreceived
  have h12 := received_ethertype hreceived
  have hskip := (received_untagged hreceived).skip
  -- each field starts where the one before it ends
  have h14 : received.drop 14 = _ := drop_field h12 rfl
  have h34 : received.drop 34 = _ := drop_field h14 (ipHeader_length ..)
  simp only [ipHeader, udpDatagram, List.cons_append, List.append_assoc] at h14 h34
  have h16 := congrArg (List.drop 2) h14
  simp only [List.drop_drop, List.drop_succ_cons, List.drop_zero] at h16
  have h18 : received.drop 18 = _ := drop_field h16 rfl
  have h20 : received.drop 20 = _ := drop_field h18 rfl
  have h22 : received.drop 22 = _ := drop_field h20 rfl
  have h23 := congrArg (List.drop 1) h22
  have h24 := congrArg (List.drop 2) h22
  simp only [List.drop_drop, List.drop_succ_cons, List.drop_zero] at h23 h24
  have h26 : received.drop 26 = _ := drop_field h24 rfl
  have h30 : received.drop 30 = _ := drop_field h26 p.srcIp.property
  have h36 : received.drop 36 = _ := drop_field h34 rfl
  have h38 : received.drop 38 = _ := drop_field h36 rfl
  have h40 : received.drop 40 = _ := drop_field h38 rfl
  have h42 : received.drop 42 = _ := drop_field h40 rfl
  have hip : ipAt received = 14 := congrArg (· + 2) hskip
  have hheader : headerLength received = 20 := by
    rw [headerLength, hip, getD_of_drop h14]
    rfl
  have hudp : udpAt received = 34 := by rw [udpAt, hip, hheader]
  have hudpLen : udpLength received = 8 + p.payload.length := by
    rw [udpLength, hudp, rdU16_be h38]
    exact UInt16.toNat_ofNat_of_lt' (by unfold UInt16.size; omega)
  constructor
  · exact
      { ethertype := by rw [hskip, rdU16_be h12]
        version := by
          rw [hip, getD_of_drop h14]
          decide
        options := by omega
        header := by omega
        offset := by
          rw [fragmentField, hip, rdU16_be h20]
          decide
        protocol := by rw [hip, getD_of_drop h23]
        source := by rw [hip, h26, take_append_exact p.srcIp.property]
        destination := by rw [hip, h30, take_append_exact p.dstIp.property]
        counted := by omega
        captured := by omega }
  · rw [delivered, hudp, hudpLen, rdU16_be h34, h42, take_append_exact (by omega)]

end Received

/-- Under any tags and before any trailer the payload and the source port are returned. -/
theorem parseUdpFrame_built {ipCksum udpCksum : UInt16} (hlen : 28 + p.payload.length ≤ 0xFFFF)
    {tags : List VlanTag} {appended : List UInt8}
    (hbound : (tagged tags (udpFrame p ipCksum udpCksum ++ appended)).length < 2 ^ 63) :
    parseUdpFrame (tagged tags (udpFrame p ipCksum udpCksum ++ appended)) p.srcIp p.dstIp
      = .ok (some (p.payload, p.srcPort)) := by
  obtain ⟨received, hreceived⟩ : ∃ received,
      received = udpFrame p ipCksum udpCksum ++ appended := ⟨_, rfl⟩
  rw [← hreceived] at hbound ⊢
  have huntagged := received_untagged hreceived
  have hshort : received.length < 2 ^ 63 := by
    rw [tagged_length huntagged] at hbound
    omega
  obtain ⟨haccepted, hdelivered⟩ := received_accepted hreceived hlen
  rw [alike_eq.mp (parseUdpFrame_tagged huntagged tags hbound p.srcIp p.dstIp)]
  exact (parseUdpFrame_iff hshort).mpr ⟨haccepted, hdelivered.symm⟩

/-- What stands behind the Ethernet header. -/
theorem udpFrame_packet (ipCksum udpCksum : UInt16) :
    (udpFrame p ipCksum udpCksum).drop 14 = ipHeader p ipCksum ++ udpDatagram p udpCksum := by
  have h12 := received_ethertype (List.append_nil (udpFrame p ipCksum udpCksum)).symm
  rw [List.append_nil] at h12
  exact drop_field h12 rfl

/-- The parts of a frame, each in its place. -/
theorem udpFrame_parts (ipCksum udpCksum : UInt16) :
    ((udpFrame p ipCksum udpCksum).drop 14).take 20 = ipHeader p ipCksum
      ∧ (udpFrame p ipCksum udpCksum).drop 34 = udpDatagram p udpCksum
      ∧ rdU16 (udpFrame p ipCksum udpCksum) 38 false = UInt16.ofNat (8 + p.payload.length)
      ∧ rdU16 (udpFrame p ipCksum udpCksum) 40 false = udpCksum := by
  have h14 := udpFrame_packet p ipCksum udpCksum
  have h34 : (udpFrame p ipCksum udpCksum).drop 34 = _ := drop_field h14 (ipHeader_length ..)
  have h38 : (udpFrame p ipCksum udpCksum).drop 38 = _ :=
    drop_field (drop_field (h34.trans (udpDatagram.eq_1 ..)) rfl) rfl
  have h40 : (udpFrame p ipCksum udpCksum).drop 40 = _ := drop_field h38 rfl
  exact ⟨by rw [h14, take_append_exact (ipHeader_length ..)], h34, rdU16_be h38, rdU16_be h40⟩

end Layout

/-! ## The round trip -/

/-- **A built frame reads back, and its checksums are right.**  For every payload that fits the
    16-bit lengths the frame is the same in a build that checks its sums and in one that does not;
    and under any tags and before any trailer the parser returns the payload and the source port. -/
theorem udp_frame_round_trip (srcMac dstMac : Mac) (srcIp dstIp : Bytes 4)
    (srcPort dstPort ipId : UInt16) (payload : List UInt8) (hlen : 28 + payload.length ≤ 65535) :
    ∃ frame,
      (∀ build, buildUdpFrame build srcMac dstMac srcIp dstIp srcPort dstPort ipId payload
        = .ok frame)
      ∧ fold (wordSum ((frame.drop 14).take 20)) = 0xFFFF
      ∧ fold (wordSum (pseudoHeader srcIp dstIp (rdU16 frame 38 false) ++ frame.drop 34)) = 0xFFFF
      ∧ (rdU16 frame 38 false).toNat = (frame.drop 34).length
      ∧ rdU16 frame 40 false ≠ 0
      ∧ ∀ tags appended, (tagged tags (frame ++ appended)).length < 2 ^ 63 →
          parseUdpFrame (tagged tags (frame ++ appended)) srcIp dstIp
            = .ok (some (payload, srcPort)) := by
  let p : UdpPacket := ⟨srcMac, dstMac, srcIp, dstIp, srcPort, dstPort, ipId, payload⟩
  have hsize : 8 + p.payload.length < UInt16.size := by
    show 8 + payload.length < 65536
    omega
  obtain ⟨hip, hudp, hlength, hcksum⟩ := udpFrame_parts p (ipCksumOf p) (udpCksumOf p)
  refine ⟨udpFrame p (ipCksumOf p) (udpCksumOf p), fun build => buildUdpFrame_ok p build hlen,
    ?_, ?_, ?_, ?_, fun tags appended hbound => parseUdpFrame_built p hlen hbound⟩
  -- the checksums, the length, a checksum that is there, and the parser
  · rw [hip]
    exact fold_ipHeader p
  · rw [hlength, hudp]
    exact fold_udpDatagram p
  · rw [hlength, hudp, udpDatagram_length]
    exact UInt16.toNat_ofNat_of_lt' hsize
  · rw [hcksum]
    exact udpComplement_ne_zero _

/-- A read request's worth of bytes, of odd length. -/
theorem udp_frame_round_trip_odd :
    ∃ frame,
      (∀ build, buildUdpFrame build ⟨[2, 0, 0, 0, 0, 1], rfl⟩ ⟨[2, 0, 0, 0, 0, 2], rfl⟩ benchSrcIp
        benchDstIp 50000 34964 0xFFFF (List.replicate 101 0xAB) = .ok frame)
      ∧ fold (wordSum ((frame.drop 14).take 20)) = 0xFFFF
      ∧ fold (wordSum (pseudoHeader benchSrcIp benchDstIp (rdU16 frame 38 false)
          ++ frame.drop 34)) = 0xFFFF
      ∧ (rdU16 frame 38 false).toNat = (frame.drop 34).length
      ∧ rdU16 frame 40 false ≠ 0
      ∧ ∀ tags appended, (tagged tags (frame ++ appended)).length < 2 ^ 63 →
          parseUdpFrame (tagged tags (frame ++ appended)) benchSrcIp benchDstIp
            = .ok (some (List.replicate 101 0xAB, 50000)) :=
  udp_frame_round_trip _ _ benchSrcIp benchDstIp 50000 34964 0xFFFF _ (by decide)

end Profinet.RawUdp
