/-
  RTA RECEIVE: every alarm is taken once and in order.

  `RtaSequencer` is a receiver of the stop-and-wait protocol: after `n` accepted DATA PDUs it
  expects `rtaSeq n` and remembers the number before.  Our own acknowledgments and their counters
  run beside that and do not disturb it.
-/
import Profinet.Rta

namespace Profinet.Rta

open StopAndWait RtaSequencer

/-- After `n` accepted PDUs: the next number, and the one before. -/
def Expects (s : RtaSequencer) (n : Nat) : Prop :=
  s.expSeqNum = rtaSeq n ∧ s.expSeqNumO = rtaSeqO n

theorem new_expects : Expects .new 0 := ⟨rfl, rfl⟩

theorem Expects.advanceSend {s : RtaSequencer} {n : Nat} (h : Expects s n) :
    Expects s.advanceSend n := h

theorem onPdu_fresh {s : RtaSequencer} {n : Nat} {h : RtaHeader} (hs : Expects s n)
    (hdata : h.IsData) (hseq : h.sendSeqNum = rtaSeq n) :
    (s.onPdu h).1 = .accept ∧ Expects (s.onPdu h).2 (n + 1) := by
  obtain ⟨hexp, hexpO⟩ := hs
  have hnotO : h.sendSeqNum ≠ s.expSeqNumO := by
    rw [hseq, hexpO]
    exact rtaSeq_ne_before n
  have heq : h.sendSeqNum = s.expSeqNum := hseq.trans hexp.symm
  rw [onPdu_data hdata, if_neg hnotO, if_neg (not_not_intro heq)]
  refine ⟨rfl, ?_⟩
  have hnext : Expects { s with expSeqNumO := s.expSeqNum, expSeqNum := succ s.expSeqNum }
      (n + 1) := by
    refine ⟨?_, hexp⟩
    show succ s.expSeqNum = rtaSeq (n + 1)
    rw [hexp, succ_rtaSeq]
  simp only
  split
  · exact hnext.advanceSend
  · exact hnext

theorem onPdu_copy {s : RtaSequencer} {n : Nat} {h : RtaHeader} (hs : Expects s (n + 1))
    (hdata : h.IsData) (hseq : h.sendSeqNum = rtaSeq n) :
    (s.onPdu h).1 = .reAck ∧ Expects (s.onPdu h).2 (n + 1) := by
  have hO : h.sendSeqNum = s.expSeqNumO := hseq.trans hs.2.symm
  rw [onPdu_data hdata, if_pos hO]
  exact ⟨rfl, hs⟩

/-- Nothing but such a PDU touches the receive counters. -/
theorem onPdu_noise {s : RtaSequencer} {n : Nat} {h : RtaHeader} (hs : Expects s n)
    (hdata : ¬ h.IsData) : Expects (s.onPdu h).2 n := by
  rw [onPdu_other hdata]
  split
  · exact hs.advanceSend
  · exact hs

/-- **The sequencer as a receiver.**  A transport ACK names what `ack_seq_pair` offers. -/
def rtaReceiver : Receiver rtaSeq RtaHeader RtaAction where
  State := RtaSequencer
  recv := onPdu
  Data := RtaHeader.IsData
  seqOf := RtaHeader.sendSeqNum
  ackOf := fun s => s.ackSeqPair.2
  accept := .accept
  again := .reAck
  distinct := by decide
  Rep := Expects
  fresh := onPdu_fresh
  copy := onPdu_copy
  acked := fun h => h.2
  noise := onPdu_noise

/-- **Alarms are received exactly once and in order.**  Whatever the channels between a
    stop-and-wait sender and the sequencer lose and repeat, and however often the numbers wrap:
    the accepted PDUs are the first `n` in order; the first arrival of each is accepted, every
    other one re-acknowledged, none refused; and each transport ACK names the PDU it answers, which
    is the last accepted one.  The sender is never further than the PDU after that. -/
theorem rta_exactly_once {s : Net rtaReceiver} (h : Reachable rtaReceiver s) :
    ∃ n, rtaReceiver.accepted s.log = List.range n ∧
      (∀ before x after, s.log = before ++ x :: after →
        (x.verdict = .accept ∧ x.index ∉ before.map (·.index) ∨
          x.verdict = .reAck ∧ x.index ∈ before.map (·.index)) ∧
        x.verdict ≠ .sendNack ∧ x.offered = rtaSeq x.index ∧
        rtaReceiver.accepted (before ++ [x]) = List.range (x.index + 1)) ∧
      s.next ≤ n ∧ n ≤ s.next + 1 := by
  obtain ⟨n, honce, hlower, hupper, -⟩ := exactly_once rtaSeq_ne_succ h
  refine ⟨n, honce.accepted, fun before x after hsplit => ?_, hlower, hupper⟩
  have hmem : x ∈ s.log := by
    rw [hsplit]
    simp
  have hanswer := honce.answer before x after hsplit
  refine ⟨hanswer, ?_, honce.offered x hmem, honce.latest before x after hsplit⟩
  rcases hanswer with ⟨haccept, -⟩ | ⟨hagain, -⟩
  · intro hnack
    cases haccept.symm.trans hnack
  · intro hnack
    cases hagain.symm.trans hnack

/-- DATA PDU number 0 of a device, which asks for an acknowledgment. -/
def benchData : RtaHeader := ⟨0, 0, 0x11, 0x11, 0xFFFF, 0, 0⟩

/-- The device sends its first alarm, the network repeats it, and both copies arrive. -/
theorem rta_exactly_once_bench :
    ∃ s : Net rtaReceiver, s.log.map (·.verdict) = [.accept, .reAck] ∧
      ∃ n, rtaReceiver.accepted s.log = List.range n ∧ s.next ≤ n ∧ n ≤ s.next + 1 := by
  have hdata : benchData.IsData := ⟨by decide, by decide, by decide⟩
  have hinit : Reachable rtaReceiver (.init rtaReceiver RtaSequencer.new) := .init new_expects
  have hsent := hinit.step (.send benchData hdata rfl)
  have htwice := hsent.step (.repeatData (show _ = [] ++ _ :: [] from rfl))
  have hfirst := htwice.step (.deliver rfl)
  have hsecond := hfirst.step (.deliver rfl)
  obtain ⟨n, haccepted, -, hbounds⟩ := rta_exactly_once hsecond
  exact ⟨_, by decide, n, haccepted, hbounds⟩

end Profinet.Rta
