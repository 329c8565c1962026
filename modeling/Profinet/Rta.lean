/-
  RTA: the transport of alarm PDUs, one PDU in flight per direction.

  Sequence numbers start at 0xFFFF and wrap modulo 0x8000 once acknowledged:

      0xFFFF, 0, 1, ..., 0x7FFF, 0, 1, ...

  `rtaSeq n` is the number of the `n`-th PDU.  An `RtaSequencer` holds the number of the PDU we
  send next, that of the one we expect next, and the one before either; "the one before" starts at
  0xFFFE, which no PDU bears.
-/
import Profinet.Lib.StopAndWait
import Profinet.Lib.Wire

namespace Profinet.Rta

open Wire StopAndWait

/-! ## The header -/

/-- RTA-PDU header, 12 bytes, big-endian. -/
structure RtaHeader where
  alarmDstEndpoint : UInt16
  alarmSrcEndpoint : UInt16
  /-- Bits: type(4) + version(4). -/
  pduType : UInt8
  addFlags : UInt8
  sendSeqNum : UInt16
  ackSeqNum : UInt16
  varPartLen : UInt16
  deriving DecidableEq, Repr

/-- A DATA PDU. -/
def rtaTypeData : UInt8 := 0x01
/-- A NACK PDU. -/
def rtaTypeNack : UInt8 := 0x02
/-- An ACK PDU. -/
def rtaTypeAck : UInt8 := 0x03
/-- An ERR PDU. -/
def rtaTypeErr : UInt8 := 0x04
/-- Protocol version 1. -/
def version1 : UInt8 := 0x01

/-- RTA AddFlags: window size in bits 0-3. -/
def addFlagsWindow1 : UInt8 := 0x01
/-- RTA AddFlags: transport-acknowledge this PDU, bit 4. -/
def addFlagsTack : UInt8 := 0x10

/-- The sequence number before the first. -/
def seqNumInit : UInt16 := 0xFFFF
/-- The sequence number before that. -/
def seqNumInitO : UInt16 := 0xFFFE
/-- The fifteen bits that count. -/
def seqNumMask : UInt16 := 0x7FFF

namespace RtaHeader

/-- PDU type: the low nibble of `pduType`. -/
def kind (h : RtaHeader) : UInt8 := h.pduType &&& 0x0F

/-- Protocol version: the high nibble of `pduType`. -/
def version (h : RtaHeader) : UInt8 := (h.pduType >>> 4) &&& 0x0F

/-- `encode_pdu_type`: two nibbles. -/
def encodePduType (version kind : UInt8) : UInt8 := ((version &&& 0x0F) <<< 4) ||| (kind &&& 0x0F)

/-- Serialize to the 12-byte wire layout. -/
def toBytes (h : RtaHeader) : List UInt8 :=
  be16 h.alarmDstEndpoint ++ be16 h.alarmSrcEndpoint ++ [h.pduType, h.addFlags]
    ++ be16 h.sendSeqNum ++ be16 h.ackSeqNum ++ be16 h.varPartLen

/-- A DATA PDU of our version that asks for a transport acknowledgment. -/
def IsData (h : RtaHeader) : Prop :=
  h.version = version1 ∧ h.kind = rtaTypeData ∧ h.addFlags &&& addFlagsTack ≠ 0

end RtaHeader

/-! ## The sequencer -/

/-- What the receiver must do with an incoming RTA PDU. -/
inductive RtaAction where
  | ignore
  | ourDataAcked
  | deviceNack
  | deviceError
  | reAck
  | sendNack
  | accept
  deriving DecidableEq, Repr

/-- RTA sequence bookkeeping. -/
structure RtaSequencer where
  sendSeqNum : UInt16
  sendSeqNumO : UInt16
  expSeqNum : UInt16
  expSeqNumO : UInt16
  deriving DecidableEq, Repr

namespace RtaSequencer

/-- A new sequencer. -/
def new : RtaSequencer := ⟨seqNumInit, seqNumInitO, seqNumInit, seqNumInitO⟩

/-- The number after `x`: `x.wrapping_add(1) & SEQ_NUM_MASK`. -/
def succ (x : UInt16) : UInt16 := (x + 1) &&& seqNumMask

/-- Sequence numbers for a transport ACK or NACK. -/
def ackSeqPair (s : RtaSequencer) : UInt16 × UInt16 := (s.sendSeqNumO, s.expSeqNumO)

/-- Sequence numbers for a DATA PDU we originate. -/
def dataSeqPair (s : RtaSequencer) : UInt16 × UInt16 := (s.sendSeqNum, s.expSeqNumO)

/-- The next sequence number to send. -/
def advanceSend (s : RtaSequencer) : RtaSequencer :=
  { s with sendSeqNumO := s.sendSeqNum, sendSeqNum := succ s.sendSeqNum }

/-- Classify an incoming PDU and advance the counters accordingly. -/
def onPdu (s : RtaSequencer) (h : RtaHeader) : RtaAction × RtaSequencer :=
  if h.version ≠ version1 then (.ignore, s)
  else if h.kind = rtaTypeAck then
    if h.ackSeqNum = s.sendSeqNum then (.ourDataAcked, s.advanceSend) else (.ignore, s)
  else if h.kind = rtaTypeNack then (.deviceNack, s)
  else if h.kind = rtaTypeErr then (.deviceError, s)
  else if h.kind = rtaTypeData then
    if h.addFlags &&& addFlagsTack = 0 then (.ignore, s)
    else if h.sendSeqNum = s.expSeqNumO then (.reAck, s)
    else if h.sendSeqNum ≠ s.expSeqNum then (.sendNack, s)
    else
      let s' := { s with expSeqNumO := s.expSeqNum, expSeqNum := succ s.expSeqNum }
      (.accept, if h.ackSeqNum = s.sendSeqNum then s'.advanceSend else s')
  else (.ignore, s)

/-- An ACK PDU that names the number we sent. -/
def AckOf (s : RtaSequencer) (h : RtaHeader) : Prop :=
  h.version = version1 ∧ h.kind = rtaTypeAck ∧ h.ackSeqNum = s.sendSeqNum

/-- An in-sequence DATA PDU that carries the acknowledgment of what we sent along. -/
def Piggyback (s : RtaSequencer) (h : RtaHeader) : Prop :=
  h.IsData ∧ h.sendSeqNum ≠ s.expSeqNumO ∧ h.sendSeqNum = s.expSeqNum ∧
    h.ackSeqNum = s.sendSeqNum

instance (h : RtaHeader) : Decidable h.IsData :=
  inferInstanceAs (Decidable (_ ∧ _ ∧ _))

instance (s : RtaSequencer) (h : RtaHeader) : Decidable (s.AckOf h) :=
  inferInstanceAs (Decidable (_ ∧ _ ∧ _))

instance (s : RtaSequencer) (h : RtaHeader) : Decidable (s.Piggyback h) :=
  inferInstanceAs (Decidable (_ ∧ _ ∧ _ ∧ _))

/-- The outcome for an acknowledgment of ours. -/
theorem onPdu_acked (s : RtaSequencer) (h : RtaHeader) :
    (s.onPdu h).1 = .ourDataAcked ↔ s.AckOf h := by
  unfold onPdu AckOf
  by_cases hversion : h.version = version1
  · rw [if_neg (not_not_intro hversion)]
    by_cases hkind : h.kind = rtaTypeAck
    · rw [if_pos hkind]
      by_cases hack : h.ackSeqNum = s.sendSeqNum
      · simp [hversion, hkind, hack]
      · simp [hack]
    · rw [if_neg hkind]
      simp only [hkind, false_and, and_false, iff_false]
      repeat' split
      all_goals simp
  · simp [hversion]

/-- A DATA PDU that asks for an acknowledgment is classified by its number alone. -/
theorem onPdu_data {s : RtaSequencer} {h : RtaHeader} (hdata : h.IsData) :
    s.onPdu h =
      if h.sendSeqNum = s.expSeqNumO then (.reAck, s)
      else if h.sendSeqNum ≠ s.expSeqNum then (.sendNack, s)
      else
        let s' := { s with expSeqNumO := s.expSeqNum, expSeqNum := succ s.expSeqNum }
        (.accept, if h.ackSeqNum = s.sendSeqNum then s'.advanceSend else s') := by
  obtain ⟨hversion, hkind, htack⟩ := hdata
  unfold onPdu
  rw [if_neg (not_not_intro hversion), hkind, if_neg (by decide), if_neg (by decide),
    if_neg (by decide), if_pos rfl, if_neg htack]

/-- Any other PDU changes the counters as an acknowledgment, or not at all. -/
theorem onPdu_other {s : RtaSequencer} {h : RtaHeader} (hdata : ¬ h.IsData) :
    (s.onPdu h).2 = if s.AckOf h then s.advanceSend else s := by
  unfold onPdu
  by_cases hversion : h.version = version1
  · rw [if_neg (not_not_intro hversion)]
    by_cases hkind : h.kind = rtaTypeAck
    · rw [if_pos hkind]
      by_cases hack : h.ackSeqNum = s.sendSeqNum
      · rw [if_pos hack, if_pos ⟨hversion, hkind, hack⟩]
      · rw [if_neg hack, if_neg fun hall => hack hall.2.2]
    · have hno : ¬ s.AckOf h := fun hall => hkind hall.2.1
      rw [if_neg hkind, if_neg hno]
      split
      · rfl
      · split
        · rfl
        · split
          · rename_i hisData
            by_cases htack : h.addFlags &&& addFlagsTack = 0
            · rw [if_pos htack]
            · exact absurd ⟨hversion, hisData, htack⟩ hdata
          · rfl
  · have hno : ¬ s.AckOf h := fun hall => hversion hall.1
    rw [if_pos hversion, if_neg hno]

/-- Only these two kinds of PDU advance the send counter. -/
theorem onPdu_send (s : RtaSequencer) (h : RtaHeader) :
    (s.onPdu h).2.sendSeqNum =
      if s.AckOf h ∨ s.Piggyback h then succ s.sendSeqNum else s.sendSeqNum := by
  by_cases hdata : h.IsData
  · have hnot : ¬ s.AckOf h := fun hack => absurd (hdata.2.1.symm.trans hack.2.1) (by decide)
    rw [onPdu_data hdata]
    by_cases hO : h.sendSeqNum = s.expSeqNumO
    · rw [if_pos hO, if_neg (fun hor => hor.elim hnot fun hp => hp.2.1 hO)]
    · rw [if_neg hO]
      by_cases hexp : h.sendSeqNum = s.expSeqNum
      · rw [if_neg (not_not_intro hexp)]
        by_cases hack : h.ackSeqNum = s.sendSeqNum
        · rw [if_pos (.inr ⟨hdata, hO, hexp, hack⟩)]
          simp only
          rw [if_pos hack]
          rfl
        · rw [if_neg (fun hor => hor.elim hnot fun hp => hack hp.2.2.2)]
          simp only
          rw [if_neg hack]
      · rw [if_pos hexp, if_neg (fun hor => hor.elim hnot fun hp => hexp hp.2.2.1)]
  · rw [onPdu_other hdata]
    by_cases hack : s.AckOf h
    · rw [if_pos hack, if_pos (.inl hack)]
      rfl
    · rw [if_neg hack, if_neg (fun hor => hor.elim hack fun hp => hdata hp.1)]

end RtaSequencer

/-! ## The numbers in order -/

/-- The sequence number of the `n`-th PDU, from 0. -/
def rtaSeq : Nat → UInt16
  | 0 => seqNumInit
  | n + 1 => UInt16.ofNat (n % 0x8000)

/-- The number before it. -/
def rtaSeqO : Nat → UInt16
  | 0 => seqNumInitO
  | n + 1 => rtaSeq n

/-- Numbers count up modulo 2^15. -/
theorem succ_toNat (x : UInt16) : (RtaSequencer.succ x).toNat = (x.toNat + 1) % 0x8000 := by
  have hx := x.toNat_lt
  unfold RtaSequencer.succ seqNumMask
  rw [UInt16.toNat_and, UInt16.toNat_add]
  show (x.toNat + 1) % 2 ^ 16 &&& (2 ^ 15 - 1) = _
  rw [Nat.and_two_pow_sub_one_eq_mod]
  omega

/-- The next number is another one. -/
theorem succ_ne (x : UInt16) : RtaSequencer.succ x ≠ x := by
  intro h
  have hx := x.toNat_lt
  have hval := congrArg UInt16.toNat h
  rw [succ_toNat] at hval
  omega

/-- The number of the n-th message. -/
theorem rtaSeq_toNat (n : Nat) : (rtaSeq (n + 1)).toNat = n % 0x8000 := by
  unfold rtaSeq
  rw [UInt16.toNat_ofNat']
  omega

/-- The counters run through the numbers in order. -/
theorem succ_rtaSeq (n : Nat) : RtaSequencer.succ (rtaSeq n) = rtaSeq (n + 1) := by
  apply UInt16.toNat_inj.mp
  rw [succ_toNat, rtaSeq_toNat]
  cases n with
  | zero => rfl
  | succ n =>
    rw [rtaSeq_toNat]
    omega

/-- Two PDUs bear the same number if their distance is a multiple of 0x8000, the first PDU
    excepted, whose number does not come back. -/
theorem rtaSeq_eq_iff (a b : Nat) :
    rtaSeq a = rtaSeq (a + b) ↔ b = 0 ∨ (0 < a ∧ 0x8000 ∣ b) := by
  rw [← UInt16.toNat_inj]
  cases a with
  | zero =>
    cases b with
    | zero => simp
    | succ b =>
      rw [Nat.zero_add, rtaSeq_toNat]
      show 65535 = _ ↔ _
      omega
  | succ a =>
    rw [show a + 1 + b = (a + b) + 1 by omega, rtaSeq_toNat, rtaSeq_toNat]
    omega

/-- Neighbouring messages have different numbers. -/
theorem rtaSeq_ne_succ (n : Nat) : rtaSeq n ≠ rtaSeq (n + 1) := by
  rw [Ne, rtaSeq_eq_iff]
  omega

/-- A message's number differs from the one before the current. -/
theorem rtaSeq_ne_before (n : Nat) : rtaSeq n ≠ rtaSeqO n := by
  cases n with
  | zero => decide
  | succ n => exact (rtaSeq_ne_succ n).symm

end Profinet.Rta
