/-
  ALARM LISTENER: the thread of an `AlarmListener`.

  A pass looks after the AlarmAcks of both priorities, waits for one frame, and hands the PDU in it
  to the channel of its priority:

      service both  -->  receive  -->  transport ACK or NACK  -->  queue the AlarmAck  -->  callbacks

  The channel is the one of the frame ID, but the AlarmAck goes to the channel that the block type
  of the notification names.  `priorities_independent` says what that leaves of the receiving side:
  each priority is a sequencer of its own, which sees the PDUs of its priority and nothing else.
-/
import Profinet.AlarmQueue
import Profinet.PolledAlarms

namespace Profinet.Rta

open Wire Checked Util Alarms

/-! ## The PDU in a frame

  A frame reaches a channel only if it comes from the device, has an alarm frame ID, and an RTA
  header that names our reference.  What stands behind the header is looked at later, and only in
  a PDU that the channel accepts. -/

/-- A PDU that is addressed to us, in the payload that it is the front of. -/
structure Pdu where
  highPriority : Bool
  header : RtaHeader
  payload : List UInt8

/-- The PDU of a frame; none in a frame of another device, without an alarm frame ID, too short for
    the header, or for another reference. -/
def pduOf (e : AlarmEndpoint) (frame : List UInt8) : Comp (Option Pdu) := do
  match ← checkLayer2Frame frame e.deviceMac with
  | none => return none
  | some (isHigh, payload) =>
    match ← RtaHeader.fromBytes payload with
    | .error _ => return none
    | .ok rta =>
      if rta.alarmDstEndpoint ≠ e.controllerRef then return none
      else return some ⟨isHigh, rta, payload⟩

/-- The notification in the payload of an accepted PDU, if it parses. -/
def alarmOf (e : AlarmEndpoint) (payload : List UInt8) : Comp (Option AlarmNotification) := do
  match ← processLayer2Alarm payload e.controllerRef with
  | .ok (some (_, alarm)) => return some alarm
  | _ => return none

/-! ## The thread -/

/-- What `recv` comes back with: a frame, nothing in time, or an error. -/
abbrev Captured := Except String (Option Slice)

/-- The channels of the thread: the counters of the two priorities are independent. -/
structure AlarmListener where
  low : AlarmChannel
  high : AlarmChannel
  deriving DecidableEq, Repr

/-- What one pass meets: the clock at its head, what it receives, and the clock when it queues an
    AlarmAck. -/
structure ListenerInput where
  now : Nat
  received : Captured
  accepted : Nat

/-- What a pass did: the PDU it heard, the frames it sent at its head, for the PDU, and for the alarm
    of it, and the alarm that it gave to the callbacks. -/
structure ListenerPass where
  listener : AlarmListener
  heard : Option Pdu
  serviced : List (List UInt8)
  answer : Option (List UInt8)
  acks : List (List UInt8)
  alarm : Option AlarmNotification

/-- The frames of a pass, in order. -/
def ListenerPass.sent (p : ListenerPass) : List (List UInt8) :=
  p.serviced ++ p.answer.toList ++ p.acks

namespace AlarmListener

/-- Both channels new. -/
def new : AlarmListener := ⟨.new false, .new true⟩

/-- The channel of a priority (`true` = high). -/
def channel (l : AlarmListener) : Bool → AlarmChannel
  | true => l.high
  | false => l.low

/-- Replace one of the channels. -/
def update (l : AlarmListener) (c : AlarmChannel) : Bool → AlarmListener
  | true => { l with high := c }
  | false => { l with low := c }

/-- The replaced channel. -/
@[simp] theorem channel_update_same (l : AlarmListener) (c : AlarmChannel) (q : Bool) :
    (l.update c q).channel q = c := by
  cases q with
  | true => rfl
  | false => rfl

/-- The other channel stays. -/
theorem channel_update_other {p q : Bool} (h : p ≠ q) (l : AlarmListener) (c : AlarmChannel) :
    (l.update c q).channel p = l.channel p := by
  cases p with
  | true =>
    cases q with
    | true => exact absurd rfl h
    | false => rfl
  | false =>
    cases q with
    | true => rfl
    | false => exact absurd rfl h

/-- The head of a pass: both channels are serviced. -/
def service (l : AlarmListener) (peer : Peer) (now : Nat) : AlarmListener × List (List UInt8) :=
  let (low, fromLow) := l.low.service peer now
  let (high, fromHigh) := l.high.service peer now
  (⟨low, high⟩, fromLow ++ fromHigh)

/-- How long a pass waits for a frame: a second at most, never past a retransmission, and no less
    than a millisecond. -/
def wait (l : AlarmListener) (now : Nat) : Nat :=
  let dues := (l.low.pending.toList ++ l.high.pending.toList).map Pending.due
  max (dues.foldl (fun wait due => min wait (due - now)) 1000000000) 1000000

/-- The AlarmAck of an alarm, queued on the channel of its block type and sent if that is free. -/
def acknowledge (l : AlarmListener) (peer : Peer) (accepted : Nat) (alarm : AlarmNotification) :
    AlarmListener × List (List UInt8) :=
  let (c, sent) :=
    ((l.channel alarm.isHighPriority).push (buildAlarmAck alarm)).service peer accepted
  (l.update c alarm.isHighPriority, sent)

/-- What a PDU does: the channel of its priority takes it and answers it; one that is accepted and
    carries an alarm is acknowledged by the application as well. -/
def hear (l : AlarmListener) (peer : Peer) (accepted : Nat) (serviced : List (List UInt8))
    (pdu : Pdu) : Comp ListenerPass := do
  let c := l.channel pdu.highPriority
  let answer := c.answer peer pdu.header
  let l := l.update (c.receive pdu.header) pdu.highPriority
  if (c.seq.onPdu pdu.header).1 ≠ .accept then
    return ⟨l, some pdu, serviced, answer, [], none⟩
  match ← alarmOf peer.endpoint pdu.payload with
  | none => return ⟨l, some pdu, serviced, answer, [], none⟩
  | some alarm =>
    let (l, acks) := l.acknowledge peer accepted alarm
    return ⟨l, some pdu, serviced, answer, acks, some alarm⟩

/-- One pass of the loop. -/
def pass (l : AlarmListener) (peer : Peer) (i : ListenerInput) : Comp ListenerPass := do
  let (l, serviced) := l.service peer i.now
  match i.received with
  | .ok (some frame) =>
    match ← pduOf peer.endpoint frame.val with
    | none => return ⟨l, none, serviced, none, [], none⟩
    | some pdu => l.hear peer i.accepted serviced pdu
  | _ => return ⟨l, none, serviced, none, [], none⟩

/-- The passes the thread makes of these inputs: an error of the socket ends it. -/
def run (peer : Peer) : AlarmListener → List ListenerInput → Comp (List ListenerPass)
  | _, [] => return []
  | l, i :: is => do
    let p ← l.pass peer i
    match i.received with
    | .error _ => return [p]
    | .ok _ =>
      let ps ← run peer p.listener is
      return p :: ps

/-- The listener after these passes. -/
def after (l : AlarmListener) (ps : List ListenerPass) : AlarmListener :=
  (ps.getLast?.map ListenerPass.listener).getD l

end AlarmListener

/-! ## It runs on every capture

  Each parser indexes behind a length test of its own, so a pass comes back whatever was
  captured. -/

/-- The payload of an alarm frame is the end of it. -/
theorem checkLayer2Frame_returns {data : List UInt8} (hdata : data.length < 2 ^ 63)
    (deviceMac : Mac) : Returns (checkLayer2Frame data deviceMac)
      fun r => ∀ x, r = some x → x.2.length ≤ data.length := by
  have hnone : ∀ x : Bool × List UInt8, none = some x → x.2.length ≤ data.length := nofun
  obtain ⟨hlow, hhigh⟩ := skipVlanTags_bounds data
  unfold checkLayer2Frame
  refine .ite (fun _ => returns_ok hnone) fun heth => .slice (by omega) (by omega) fun _ _ => ?_
  refine .ite (fun _ => returns_ok hnone) fun _ => ?_
  rw [skipVlanTagsChecked_ok hdata, ok_bind]
  refine .sub hlow fun tag htag => .add (by omega) fun head hhead => ?_
  refine .ite (fun _ => returns_ok hnone) fun hfits => ?_
  refine .add (by omega) fun typeOff _ => .u16At hdata (by omega) fun _ _ => ?_
  refine .ite (fun _ => returns_ok hnone) fun _ => ?_
  refine .add (by omega) fun idOff _ => .u16At hdata (by omega) fun _ _ => ?_
  refine .ite (fun _ => .sliceFrom (by omega) fun w hw => returns_ok ?_) fun _ => ?_
  · rintro x ⟨rfl⟩
    exact hw.le.trans (Nat.sub_le _ _)
  · refine .ite (fun _ => .sliceFrom (by omega) fun w hw => returns_ok ?_) fun _ => returns_ok hnone
    rintro x ⟨rfl⟩
    exact hw.le.trans (Nat.sub_le _ _)

/-- A frame is parsed without a panic. -/
theorem pduOf_returns (e : AlarmEndpoint) (frame : Slice) :
    Returns (pduOf e frame.val) fun r => ∀ pdu, r = some pdu → pdu.payload.length < 2 ^ 63 := by
  have hframe := frame.property
  have hnone : ∀ pdu : Pdu, none = some pdu → pdu.payload.length < 2 ^ 63 := nofun
  refine (checkLayer2Frame_returns hframe e.deviceMac).bind ?_
  rintro (_ | ⟨isHigh, payload⟩) hpayload
  · exact returns_ok hnone
  · have hshort := hpayload _ rfl
    simp only at hshort
    refine (fromBytes_safe (by omega : payload.length < 2 ^ 63)).bind ?_
    rintro (e' | rta) -
    · exact returns_ok hnone
    · refine .ite (fun _ => returns_ok hnone) fun _ => returns_ok ?_
      rintro pdu ⟨rfl⟩
      show payload.length < 2 ^ 63
      omega

/-- An alarm is parsed without a panic. -/
theorem alarmOf_safe (e : AlarmEndpoint) {payload : List UInt8} (h : payload.length < 2 ^ 63) :
    Safe (alarmOf e payload) := by
  refine (processLayer2Alarm_safe h e.controllerRef).bind ?_
  rintro (_ | _ | ⟨_, alarm⟩) -
  · exact safe_ok _
  · exact safe_ok _
  · exact safe_ok _

/-- The PDU of what was received, if there is one. -/
def heardPdu (e : AlarmEndpoint) (i : ListenerInput) : Option Pdu :=
  match i.received with
  | .ok (some frame) => (pduOf e frame.val).toOption.join
  | _ => none

/-- The alarm of a PDU. -/
def Pdu.alarm (e : AlarmEndpoint) (pdu : Pdu) : Option AlarmNotification :=
  (alarmOf e pdu.payload).toOption.join

/-! ## What a pass does

  `Passed` lists what a pass can do, with the conditions under which it does it; all invariants of
  the listener are derived from these cases and not from the code again. -/

namespace AlarmListener

/-- Everything a pass can do. -/
inductive Passed (l : AlarmListener) (peer : Peer) (i : ListenerInput) : ListenerPass → Prop where
  /-- Nothing arrives that is for us. -/
  | quiet (h : heardPdu peer.endpoint i = none) :
      Passed l peer i
        ⟨(l.service peer i.now).1, none, (l.service peer i.now).2, none, [], none⟩
  /-- A PDU arrives, and brings no alarm. -/
  | heard {pdu : Pdu} (h : heardPdu peer.endpoint i = some pdu)
      (hno : (((l.service peer i.now).1.channel pdu.highPriority).seq.onPdu pdu.header).1 = .accept →
        pdu.alarm peer.endpoint = none) :
      Passed l peer i
        ⟨(l.service peer i.now).1.update
            (((l.service peer i.now).1.channel pdu.highPriority).receive pdu.header)
            pdu.highPriority,
          some pdu, (l.service peer i.now).2,
          ((l.service peer i.now).1.channel pdu.highPriority).answer peer pdu.header, [], none⟩
  /-- A PDU is accepted, and brings an alarm. -/
  | delivered {pdu : Pdu} {alarm : AlarmNotification} (h : heardPdu peer.endpoint i = some pdu)
      (haccept : (((l.service peer i.now).1.channel pdu.highPriority).seq.onPdu pdu.header).1 =
        .accept)
      (halarm : pdu.alarm peer.endpoint = some alarm) {l' : AlarmListener}
      (hl' : l' = (l.service peer i.now).1.update
        (((l.service peer i.now).1.channel pdu.highPriority).receive pdu.header)
        pdu.highPriority) :
      Passed l peer i
        ⟨(l'.acknowledge peer i.accepted alarm).1, some pdu, (l.service peer i.now).2,
          ((l.service peer i.now).1.channel pdu.highPriority).answer peer pdu.header,
          (l'.acknowledge peer i.accepted alarm).2, some alarm⟩

/-- A pass comes back, and does what `Passed` says. -/
theorem pass_returns (l : AlarmListener) (peer : Peer) (i : ListenerInput) :
    Returns (l.pass peer i) (l.Passed peer i) := by
  unfold pass
  simp only
  cases hreceived : i.received with
  | error e => exact returns_ok (.quiet (by rw [heardPdu, hreceived]))
  | ok frame =>
    cases frame with
    | none => exact returns_ok (.quiet (by rw [heardPdu, hreceived]))
    | some frame =>
      obtain ⟨pdu, hpdu, hshort⟩ := pduOf_returns peer.endpoint frame
      have hheard : heardPdu peer.endpoint i = pdu := by
        rw [heardPdu, hreceived]
        simp only
        rw [hpdu]
        rfl
      simp only
      rw [hpdu, ok_bind]
      cases pdu with
      | none => exact returns_ok (.quiet hheard)
      | some pdu =>
        obtain ⟨alarm, halarm, -⟩ := alarmOf_safe peer.endpoint (hshort pdu rfl)
        have hof : pdu.alarm peer.endpoint = alarm := by
          rw [Pdu.alarm, halarm]
          rfl
        simp only [hear]
        refine .ite (fun hnot => returns_ok (.heard hheard fun h => absurd h hnot)) fun hnot => ?_
        have haccept := not_not.mp hnot
        rw [halarm, ok_bind]
        cases alarm with
        | none => exact returns_ok (.heard hheard fun _ => hof)
        | some alarm => exact returns_ok (.delivered hheard haccept hof rfl)

/-- The passes of a run: an error of the socket is the last thing it meets. -/
inductive Ran (peer : Peer) : AlarmListener → List ListenerInput → List ListenerPass → Prop where
  | nil (l : AlarmListener) : Ran peer l [] []
  | last {l : AlarmListener} {i : ListenerInput} {is : List ListenerInput} {p : ListenerPass}
      (hp : l.Passed peer i p) (herr : i.received.isOk = false) : Ran peer l (i :: is) [p]
  | cons {l : AlarmListener} {i : ListenerInput} {is : List ListenerInput} {p : ListenerPass}
      {ps : List ListenerPass} (hp : l.Passed peer i p) (hok : i.received.isOk = true)
      (hrest : Ran peer p.listener is ps) : Ran peer l (i :: is) (p :: ps)

/-- So does a run of passes. -/
theorem run_returns (peer : Peer) (is : List ListenerInput) (l : AlarmListener) :
    Returns (run peer l is) (Ran peer l is) := by
  induction is generalizing l with
  | nil => exact returns_ok (.nil l)
  | cons i is ih =>
    unfold run
    refine (l.pass_returns peer i).bind ?_
    intro p hp
    cases hreceived : i.received with
    | error e => exact returns_ok (.last hp (by rw [hreceived]; rfl))
    | ok frame =>
      refine (ih p.listener).bind ?_
      intro ps hps
      exact returns_ok (.cons hp (by rw [hreceived]; rfl) hps)

/-! ## One priority

  A priority has its own counters, and the other one's frames do not move them.  So what a run
  shows on one priority is what a sequencer by itself makes of the PDUs of that priority
  (`Ran.alone`). -/

end AlarmListener

namespace AlarmChannel

/-- Servicing a channel leaves its counters and its priority alone. -/
theorem service_keeps (c : AlarmChannel) (peer : Peer) (now : Nat) :
    (c.service peer now).1.seq = c.seq ∧
      (c.service peer now).1.highPriority = c.highPriority := by
  show ((c.retransmit peer now).1.sendNext peer now).1.seq = c.seq ∧
    ((c.retransmit peer now).1.sendNext peer now).1.highPriority = c.highPriority
  have hagain : (c.retransmit peer now).1.seq = c.seq ∧
      (c.retransmit peer now).1.highPriority = c.highPriority := by
    rcases c.retransmit_cases peer now with h | ⟨p, -, -, -, h⟩ | ⟨p, -, -, -, h⟩
    · rw [h]
      exact ⟨rfl, rfl⟩
    · rw [h]
      exact ⟨rfl, rfl⟩
    · rw [h]
      exact ⟨rfl, rfl⟩
  rcases (c.retransmit peer now).1.sendNext_cases peer now with ⟨h, -⟩ | ⟨ackData, queued, -, -, h⟩
  · rw [h]
    exact hagain
  · rw [h]
    exact hagain

/-- A channel that has only counters. -/
def bare (seq : RtaSequencer) (highPriority : Bool) : AlarmChannel := ⟨seq, none, [], highPriority⟩

/-- Neither what is pending nor what is queued is looked at for an answer. -/
theorem answer_bare (c : AlarmChannel) (peer : Peer) (h : RtaHeader) :
    c.answer peer h = (bare c.seq c.highPriority).answer peer h := rfl

end AlarmChannel

namespace AlarmListener

/-- The channel of a priority has these counters, and answers on it. -/
def Counts (l : AlarmListener) (q : Bool) (s : RtaSequencer) : Prop :=
  (l.channel q).seq = s ∧ (l.channel q).highPriority = q

/-- A new listener counts like new sequencers. -/
theorem new_counts (q : Bool) : Counts .new q .new := by
  cases q with
  | true => exact ⟨rfl, rfl⟩
  | false => exact ⟨rfl, rfl⟩

/-- A service serves both channels. -/
theorem service_channel (l : AlarmListener) (peer : Peer) (now : Nat) (q : Bool) :
    (l.service peer now).1.channel q = ((l.channel q).service peer now).1 := by
  cases q with
  | true => rfl
  | false => rfl

/-- A service leaves the sequencers alone. -/
theorem Counts.service {l : AlarmListener} {q : Bool} {s : RtaSequencer} (h : l.Counts q s)
    (peer : Peer) (now : Nat) : (l.service peer now).1.Counts q s := by
  obtain ⟨hseq, hhigh⟩ := (l.channel q).service_keeps peer now
  unfold Counts
  rw [service_channel, hseq, hhigh]
  exact h

/-- A replaced channel counts what it counts. -/
theorem Counts.update {l : AlarmListener} {q p : Bool} {s s' : RtaSequencer} (h : l.Counts q s)
    {c : AlarmChannel} (hc : p = q → c.seq = s' ∧ c.highPriority = q) (hs : p ≠ q → s' = s) :
    (l.update c p).Counts q s' := by
  unfold Counts
  by_cases hp : p = q
  · subst hp
    rw [channel_update_same]
    exact hc rfl
  · rw [channel_update_other (fun heq => hp heq.symm), hs hp]
    exact h

/-- An acknowledgment is queued: no sequencer moves. -/
theorem Counts.acknowledge {l : AlarmListener} {q : Bool} {s : RtaSequencer} (h : l.Counts q s)
    (peer : Peer) (accepted : Nat) (alarm : AlarmNotification) :
    (l.acknowledge peer accepted alarm).1.Counts q s := by
  refine h.update ?_ fun _ => rfl
  rintro rfl
  obtain ⟨hseq, hhigh⟩ :=
    ((l.channel alarm.isHighPriority).push (buildAlarmAck alarm)).service_keeps peer accepted
  exact ⟨hseq.trans h.1, hhigh.trans h.2⟩

/-- A PDU of the priority `q`. -/
def ofPriority (q : Bool) : Option Pdu → Option Pdu
  | some pdu => if pdu.highPriority = q then some pdu else none
  | none => none

/-- A PDU of the priority asked for. -/
theorem ofPriority_same {q : Bool} {pdu : Pdu} (h : pdu.highPriority = q) :
    ofPriority q (some pdu) = some pdu := if_pos h

/-- A PDU of the other priority. -/
theorem ofPriority_other {q : Bool} {pdu : Pdu} (h : pdu.highPriority ≠ q) :
    ofPriority q (some pdu) = none := if_neg h

/-- The counters after a PDU of the priority `q`; no other one touches them. -/
def turn (q : Bool) (s : RtaSequencer) (heard : Option Pdu) : RtaSequencer :=
  ((ofPriority q heard).map fun pdu => (s.onPdu pdu.header).2).getD s

/-- What is shown of a pass on the priority `q`: the answer to its PDU, and the alarm of it. -/
def shown (q : Bool) (p : ListenerPass) :
    Option (Option (List UInt8) × Option AlarmNotification) :=
  (ofPriority q p.heard).map fun _ => (p.answer, p.alarm)

/-- What a sequencer by itself makes of a PDU. -/
def verdict (peer : Peer) (q : Bool) (s : RtaSequencer) (pdu : Pdu) :
    Option (List UInt8) × Option AlarmNotification :=
  ((AlarmChannel.bare s q).answer peer pdu.header,
    if (s.onPdu pdu.header).1 = .accept then pdu.alarm peer.endpoint else none)

/-- What one pass does to the counters of a priority, and what it shows on it. -/
theorem Passed.counts {l : AlarmListener} {peer : Peer} {i : ListenerInput} {p : ListenerPass}
    (hp : l.Passed peer i p) {q : Bool} {s : RtaSequencer} (h : l.Counts q s) :
    p.listener.Counts q (turn q s (heardPdu peer.endpoint i)) ∧
      shown q p = (ofPriority q (heardPdu peer.endpoint i)).map (verdict peer q s) := by
  have hserviced := h.service peer i.now
  generalize hl : (l.service peer i.now).1 = l' at hserviced hp
  -- the channel of the PDU takes it; the counters of the other one stay
  have hreceived (pdu : Pdu) :
      (l'.update ((l'.channel pdu.highPriority).receive pdu.header) pdu.highPriority).Counts q
        (turn q s (some pdu)) := by
    unfold turn
    refine hserviced.update ?_ fun hne => by rw [ofPriority_other hne]; rfl
    rintro rfl
    obtain ⟨hseq, hhigh⟩ := hserviced
    refine ⟨?_, hhigh⟩
    show ((l'.channel pdu.highPriority).seq.onPdu pdu.header).2 = _
    rw [hseq, ofPriority_same rfl]
    rfl
  have hverdict (pdu : Pdu) (alarm : Option AlarmNotification)
      (halarm : alarm = if ((l'.channel pdu.highPriority).seq.onPdu pdu.header).1 = .accept
        then pdu.alarm peer.endpoint else none) :
      (ofPriority q (some pdu)).map
          (fun _ => ((l'.channel pdu.highPriority).answer peer pdu.header, alarm)) =
        (ofPriority q (some pdu)).map (verdict peer q s) := by
    by_cases hq : pdu.highPriority = q
    · subst hq
      obtain ⟨hseq, hhigh⟩ := hserviced
      rw [halarm, AlarmChannel.answer_bare, hseq, hhigh, ofPriority_same rfl]
      rfl
    · rw [ofPriority_other hq]
      rfl
  cases hp with
  | quiet hnone =>
    rw [hnone]
    exact ⟨hl ▸ hserviced, rfl⟩
  | heard hsome hno =>
    rename_i pdu
    rw [hsome]
    simp only [hl] at hno ⊢
    refine ⟨hreceived pdu, hverdict pdu none ?_⟩
    by_cases haccept : ((l'.channel pdu.highPriority).seq.onPdu pdu.header).1 = .accept
    · rw [if_pos haccept, hno haccept]
    · rw [if_neg haccept]
  | delivered hsome haccept halarm hl' =>
    rename_i pdu alarm l''
    rw [hsome]
    simp only [hl] at haccept hl' ⊢
    subst hl'
    refine ⟨(hreceived pdu).acknowledge peer i.accepted alarm, hverdict pdu (some alarm) ?_⟩
    rw [if_pos haccept, halarm]

/-- A sequencer by itself over the PDUs of its priority. -/
def alone (peer : Peer) (q : Bool) :
    RtaSequencer → List Pdu → List (Option (List UInt8) × Option AlarmNotification)
  | _, [] => []
  | s, pdu :: pdus => verdict peer q s pdu :: alone peer q (s.onPdu pdu.header).2 pdus

/-- The PDUs of a priority that a run hears: after an error it hears nothing. -/
def heardOn (e : AlarmEndpoint) (q : Bool) (is : List ListenerInput) : List Pdu :=
  (is.takeWhile fun i => i.received.isOk).filterMap fun i => ofPriority q (heardPdu e i)

/-- One more PDU for a sequencer on its own. -/
theorem alone_turn (peer : Peer) (q : Bool) (s : RtaSequencer) (heard : Option Pdu)
    (pdus : List Pdu) :
    alone peer q s ((ofPriority q heard).toList ++ pdus) =
      ((ofPriority q heard).map (verdict peer q s)).toList ++
        alone peer q (turn q s heard) pdus := by
  cases heard with
  | none => rfl
  | some pdu =>
    unfold turn
    by_cases hq : pdu.highPriority = q
    · rw [ofPriority_same hq]
      rfl
    · rw [ofPriority_other hq]
      rfl

/-- One more element, filtered. -/
theorem filterMap_cons_toList {α β : Type} (f : α → Option β) (a : α) (l : List α) :
    (a :: l).filterMap f = (f a).toList ++ l.filterMap f := by
  cases h : f a with
  | none => rw [List.filterMap_cons_none h, Option.toList_none, List.nil_append]
  | some b => rw [List.filterMap_cons_some h, Option.toList_some, List.singleton_append]

/-- A channel gives to the application what its sequencer on its own accepts. -/
theorem Ran.alone {peer : Peer} {l : AlarmListener} {is : List ListenerInput}
    {ps : List ListenerPass} (hran : Ran peer l is ps) {q : Bool} {s : RtaSequencer}
    (h : l.Counts q s) : ps.filterMap (shown q) = alone peer q s (heardOn peer.endpoint q is) := by
  induction hran generalizing s with
  | nil l => rfl
  | @last l i is p hp herr =>
    have hquiet : heardPdu peer.endpoint i = none := by
      unfold heardPdu
      split
      · rename_i hok
        rw [hok] at herr
        cases herr
      · rfl
    have hshown := (hp.counts h).2
    rw [hquiet] at hshown
    unfold heardOn
    rw [List.takeWhile_cons_of_neg (by simp [herr]), List.filterMap_cons_none hshown]
    rfl
  | @cons l i is p ps hp hok hrest ih =>
    obtain ⟨hcounts, hshown⟩ := hp.counts h
    have hheard : heardOn peer.endpoint q (i :: is) =
        (ofPriority q (heardPdu peer.endpoint i)).toList ++ heardOn peer.endpoint q is := by
      unfold heardOn
      rw [List.takeWhile_cons_of_pos (by exact hok), filterMap_cons_toList]
    rw [hheard, alone_turn, ← hshown, ← ih hcounts, filterMap_cons_toList]

/-- **The priorities are independent.**  The listener returns for every capture, and on each
    priority it gives exactly the answers and delivers exactly the alarms that a sequencer by itself
    would, given the PDUs of this priority alone: the other priority, foreign frames, timeouts, the
    AlarmAcks that are due and all instants leave no trace in them. -/
theorem priorities_independent (peer : Peer) (is : List ListenerInput) :
    ∃ ps, run peer .new is = .ok ps ∧ ∀ q,
      ps.filterMap (shown q) = alone peer q .new (heardOn peer.endpoint q is) := by
  obtain ⟨ps, hrun, hran⟩ := run_returns peer is .new
  exact ⟨ps, hrun, fun q => hran.alone (new_counts q)⟩

end AlarmListener

end Profinet.Rta
