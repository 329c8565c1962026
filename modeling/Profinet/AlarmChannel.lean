/-
  ALARM CHANNEL: the AlarmAcks we owe a device, on one alarm priority.

  An AlarmAck is a DATA PDU of ours.  The send window is one PDU: an AlarmAck that awaits its
  transport ACK is `pending`, the others wait in `queued`.  A `service` call first looks after the
  pending one, then sends the next one if the window is free:

      pending, not due            nothing
      pending, due, tries left    send the same frame again
      pending, due, none left     give it up: the window is free
      window free                 send the next queued payload, with the current number

  The transport ACK of the device frees the window and advances the number.
-/
import Profinet.Rta
import Profinet.Util

namespace Profinet.Rta

open Wire Util

/-! ## Our frames -/

/-- `ETHERTYPE_PROFINET`. -/
def ethertypeProfinet : UInt16 := 0x8892
/-- Frame ID for high-priority RT alarms (Layer 2). -/
def frameIdAlarmHigh : UInt16 := 0xFC01
/-- Frame ID for low-priority RT alarms (Layer 2). -/
def frameIdAlarmLow : UInt16 := 0xFE01
/-- 802.1Q priority tag: PCP 6, VID 0. -/
def vlanTagAlarmHigh : List UInt8 := [0x81, 0x00, 0xC0, 0x00]
/-- 802.1Q priority tag: PCP 5, VID 0. -/
def vlanTagAlarmLow : List UInt8 := [0x81, 0x00, 0xA0, 0x00]

/-- What it takes to talk to the device of an AlarmCR. -/
structure AlarmEndpoint where
  controllerRef : UInt16
  deviceRef : UInt16
  deviceMac : Mac
  rtaRetries : UInt16
  deriving DecidableEq, Repr

/-- An outgoing RTA PDU: everything about it that is not fixed by the endpoint. -/
structure RtaPdu where
  kind : UInt8
  addFlags : UInt8
  sendSeqNum : UInt16
  ackSeqNum : UInt16
  varPart : List UInt8
  highPriority : Bool
  deriving DecidableEq, Repr

/-- Ethernet header, priority tag, EtherType and frame ID: what stands before the RTA header. -/
def rtaFrameHead (e : AlarmEndpoint) (controllerMac : Mac) (highPriority : Bool) : List UInt8 :=
  e.deviceMac.val ++ controllerMac.val
    ++ (if highPriority then vlanTagAlarmHigh else vlanTagAlarmLow)
    ++ be16 ethertypeProfinet ++ be16 (if highPriority then frameIdAlarmHigh else frameIdAlarmLow)

/-- A complete Ethernet frame carrying an RTA PDU. -/
def buildRtaFrame (e : AlarmEndpoint) (controllerMac : Mac) (pdu : RtaPdu) : List UInt8 :=
  let rta : RtaHeader := ⟨e.deviceRef, e.controllerRef,
    RtaHeader.encodePduType version1 pdu.kind, pdu.addFlags, pdu.sendSeqNum, pdu.ackSeqNum,
    UInt16.ofNat pdu.varPart.length⟩
  rtaFrameHead e controllerMac pdu.highPriority ++ (rta.toBytes ++ pdu.varPart)

/-- The complete Layer-2 AlarmAck frame: a DATA PDU with the TACK flag set. -/
def buildLayer2AckFrame (e : AlarmEndpoint) (controllerMac : Mac) (sendSeqNum ackSeqNum : UInt16)
    (ackData : List UInt8) (highPriority : Bool) : List UInt8 :=
  buildRtaFrame e controllerMac ⟨rtaTypeData, addFlagsWindow1 ||| addFlagsTack, sendSeqNum,
    ackSeqNum, ackData, highPriority⟩

/-- An RTA PDU that carries no variable part: a transport ACK or a NACK. -/
def buildRtaControlFrame (e : AlarmEndpoint) (controllerMac : Mac) (kind : UInt8)
    (sendSeqNum ackSeqNum : UInt16) (highPriority : Bool) : List UInt8 :=
  buildRtaFrame e controllerMac ⟨kind, addFlagsWindow1, sendSeqNum, ackSeqNum, [], highPriority⟩

/-- `send_seq_num` of a frame of ours: its RTA header is at offset 20. -/
def frameSeq (frame : List UInt8) : UInt16 := ofBe16 (frame.getD 26 0) (frame.getD 27 0)

/-- The variable part of a frame of ours. -/
def framePayload (frame : List UInt8) : List UInt8 := frame.drop 32

theorem rtaFrameHead_length (e : AlarmEndpoint) (controllerMac : Mac) (highPriority : Bool) :
    (rtaFrameHead e controllerMac highPriority).length = 20 := by
  have hdst := e.deviceMac.property
  have hsrc := controllerMac.property
  unfold rtaFrameHead
  cases highPriority with
  | true => simp [hdst, hsrc, vlanTagAlarmHigh]
  | false => simp [hdst, hsrc, vlanTagAlarmLow]

theorem getD_past {head tail : List UInt8} {n : Nat} (h : head.length = n) (k : Nat) :
    (head ++ tail).getD (n + k) 0 = tail.getD k 0 := by
  rw [List.getD_eq_getElem?_getD, List.getD_eq_getElem?_getD,
    List.getElem?_append_right (by omega), ← h, Nat.add_sub_cancel_left]

/-- A frame of ours says which number and which payload it was built with. -/
theorem buildRtaFrame_fields (e : AlarmEndpoint) (controllerMac : Mac) (pdu : RtaPdu) :
    frameSeq (buildRtaFrame e controllerMac pdu) = pdu.sendSeqNum ∧
      framePayload (buildRtaFrame e controllerMac pdu) = pdu.varPart := by
  have hhead := rtaFrameHead_length e controllerMac pdu.highPriority
  unfold frameSeq framePayload buildRtaFrame
  simp only
  generalize rtaFrameHead e controllerMac pdu.highPriority = head at hhead
  refine ⟨?_, ?_⟩
  · rw [getD_past hhead 6, getD_past hhead 7]
    exact ofBe16_be16 pdu.sendSeqNum
  · rw [List.drop_append, hhead, List.drop_eq_nil_of_le (by omega)]
    rfl

theorem buildLayer2AckFrame_fields (e : AlarmEndpoint) (controllerMac : Mac)
    (sendSeqNum ackSeqNum : UInt16) (ackData : List UInt8) (highPriority : Bool) :
    frameSeq (buildLayer2AckFrame e controllerMac sendSeqNum ackSeqNum ackData highPriority)
        = sendSeqNum ∧
      framePayload (buildLayer2AckFrame e controllerMac sendSeqNum ackSeqNum ackData highPriority)
        = ackData :=
  buildRtaFrame_fields e controllerMac _

/-! ## The channel -/

/-- An AlarmAck awaiting its transport ACK: frame, when to retransmit, retransmissions left. -/
structure Pending where
  frame : List UInt8
  due : Nat
  retriesLeft : Nat
  deriving DecidableEq, Repr

/-- RTA state for one alarm priority. -/
structure AlarmChannel where
  seq : RtaSequencer
  pending : Option Pending
  /-- AlarmAck payloads waiting for the window to free. -/
  queued : List (List UInt8)
  highPriority : Bool
  deriving DecidableEq, Repr

/-- Whom the channel talks to, and how patiently. -/
structure Peer where
  endpoint : AlarmEndpoint
  controllerMac : Mac
  retransmitAfter : Nat

namespace AlarmChannel

/-- Nothing sent, nothing pending, nothing queued. -/
def new (highPriority : Bool) : AlarmChannel := ⟨.new, none, [], highPriority⟩

/-- The first half of `service`: retransmit the pending AlarmAck when it is due, or give it up. -/
def retransmit (c : AlarmChannel) (peer : Peer) (now : Nat) : AlarmChannel × Option (List UInt8) :=
  match c.pending with
  | some p =>
    if p.due ≤ now then
      if 0 < p.retriesLeft then
        ({ c with pending := some ⟨p.frame, now + peer.retransmitAfter, p.retriesLeft - 1⟩ },
          some p.frame)
      else ({ c with pending := none }, none)
    else (c, none)
  | none => (c, none)

/-- The second half: send the next queued AlarmAck once the window is free. -/
def sendNext (c : AlarmChannel) (peer : Peer) (now : Nat) : AlarmChannel × Option (List UInt8) :=
  match c.pending, c.queued with
  | none, ackData :: queued =>
    let frame := buildLayer2AckFrame peer.endpoint peer.controllerMac c.seq.dataSeqPair.1
      c.seq.dataSeqPair.2 ackData c.highPriority
    ({ c with
        queued
        pending := some ⟨frame, now + peer.retransmitAfter, peer.endpoint.rtaRetries.toNat⟩ },
      some frame)
  | _, _ => (c, none)

/-- One `service` call, with the frames it sends. -/
def service (c : AlarmChannel) (peer : Peer) (now : Nat) : AlarmChannel × List (List UInt8) :=
  let (c', again) := c.retransmit peer now
  let (c'', next) := c'.sendNext peer now
  (c'', again.toList ++ next.toList)

/-- The listener queues the AlarmAck of an alarm it has taken. -/
def push (c : AlarmChannel) (ackData : List UInt8) : AlarmChannel :=
  { c with queued := c.queued ++ [ackData] }

/-- The listener hands the channel a PDU addressed to it: only the transport ACK of our DATA frees
    the window. -/
def receive (c : AlarmChannel) (h : RtaHeader) : AlarmChannel :=
  let (action, seq) := c.seq.onPdu h
  { c with seq, pending := if action = .ourDataAcked then none else c.pending }

/-- What the listener sends for that PDU: a transport ACK, a NACK, or nothing. -/
def answer (c : AlarmChannel) (peer : Peer) (h : RtaHeader) : Option (List UInt8) :=
  let (action, seq) := c.seq.onPdu h
  match action with
  | .sendNack => some (buildRtaControlFrame peer.endpoint peer.controllerMac rtaTypeNack
      seq.ackSeqPair.1 seq.ackSeqPair.2 c.highPriority)
  | .reAck | .accept => some (buildRtaControlFrame peer.endpoint peer.controllerMac rtaTypeAck
      seq.ackSeqPair.1 seq.ackSeqPair.2 c.highPriority)
  | _ => none

end AlarmChannel

end Profinet.Rta
