/-
  ALARM DELIVERY: a device, a network that loses and repeats frames, and the listener.

  The device has a stream of alarms on each priority and sends the `next` one of either in a DATA
  frame, as often as it likes, until a transport ACK of ours names it.  Frames of both priorities
  share the two directions of the wire; anything else may arrive in between.

  On each priority this is the stop-and-wait protocol with the sequencer as its receiver: `Beside`
  runs it beside the system, the messages of the other priority and all frames that mean nothing to
  it being steps it does not make.  So the callbacks get the alarms of each priority once, in order.
-/
import Profinet.ListenerAcks
import Profinet.RtaReceive
import Profinet.VlanTags

namespace Profinet.Rta

open Wire Checked Util Alarms StopAndWait AlarmListener

/-! ## A DATA frame of the device

  A frame of the device with its tags and its padding.  The listener hears exactly its PDU, and
  the alarm in it if there is one. -/

/-- A frame with this payload behind its frame ID. -/
def alarmFrame (dst deviceMac : Mac) (q : Bool) (payload : List UInt8) : List UInt8 :=
  dst.val ++ (deviceMac.val ++ (be16 ethertypeProfinet ++
    (be16 (if q then frameIdAlarmHigh else frameIdAlarmLow) ++ payload)))

/-- The addresses, the EtherType and the frame id, and the payload. -/
theorem alarmFrame_length (dst deviceMac : Mac) (q : Bool) (payload : List UInt8) :
    (alarmFrame dst deviceMac q payload).length = 16 + payload.length := by
  have hdst := dst.property
  have hsrc := deviceMac.property
  simp only [alarmFrame, List.length_append, be16_length, hdst, hsrc]
  omega

/-- An alarm frame has no tags of its own. -/
theorem alarmFrame_untagged (dst deviceMac : Mac) (q : Bool) {payload : List UInt8}
    (h : 2 ≤ payload.length) : Untagged (alarmFrame dst deviceMac q payload) where
  long := by
    rw [alarmFrame_length]
    omega
  ethertype := by
    obtain ⟨-, h⟩ := (stands_whole (alarmFrame dst deviceMac q payload)).split dst.property
    obtain ⟨-, h⟩ := h.split deviceMac.property
    obtain ⟨htype, -⟩ := h.split (be16_length ethertypeProfinet)
    rw [htype.rdU16]
    decide

/-- The filter finds the payload of an alarm frame of the device. -/
theorem checkLayer2Frame_alarm (dst deviceMac : Mac) (q : Bool) {payload : List UInt8}
    (hlong : 2 ≤ payload.length) (hdata : (alarmFrame dst deviceMac q payload).length < 2 ^ 63) :
    checkLayer2Frame (alarmFrame dst deviceMac q payload) deviceMac = .ok (some (q, payload)) := by
  have hlen := alarmFrame_length dst deviceMac q payload
  have huntagged := alarmFrame_untagged dst deviceMac q hlong
  -- where the four parts of the frame stand
  obtain ⟨-, h⟩ := (stands_whole (alarmFrame dst deviceMac q payload)).split dst.property
  obtain ⟨hsrc, h⟩ := h.split deviceMac.property
  obtain ⟨htype, h⟩ := h.split (be16_length ethertypeProfinet)
  obtain ⟨hid, hpayload⟩ := h.split (be16_length _)
  unfold checkLayer2Frame
  rw [if_neg (by omega), slice_ok (by omega) (by omega), ok_bind]
  dsimp only
  rw [hsrc.take_eq (by rw [deviceMac.property]), if_neg (not_not_intro rfl),
    skipVlanTagsChecked_ok hdata, ok_bind, huntagged.skip, sub_ok (by omega), ok_bind]
  dsimp only
  rw [add_ok (by omega), ok_bind]
  dsimp only
  rw [if_neg (by omega), add_ok (by omega), ok_bind]
  dsimp only
  rw [htype.u16At hdata, ok_bind, if_neg (not_not_intro rfl), add_ok (by omega), ok_bind]
  dsimp only
  rw [hid.u16At hdata, ok_bind]
  have hrest : ((alarmFrame dst deviceMac q payload).drop 16) = payload :=
    hpayload.drop_eq (by rw [hlen])
  -- the frame id says the priority
  cases q with
  | true =>
    rw [if_pos rfl, sliceFrom_ok (by omega), ok_bind]
    dsimp only
    rw [hrest]
    rfl
  | false =>
    rw [if_neg (by decide), if_pos (by decide), sliceFrom_ok (by omega), ok_bind]
    dsimp only
    rw [hrest]
    rfl

/-- The alarms of a device, on each priority. -/
abbrev Alarming := Bool → Nat → SentAlarm

/-- DATA PDU `n` of a priority, for us, in a frame with these tags and with padding behind it. -/
structure DataFrame (e : AlarmEndpoint) (alarms : Alarming) (q : Bool) (n : Nat) where
  dst : Mac
  tags : List VlanTag
  header : RtaHeader
  padding : List UInt8
  ours : header.alarmDstEndpoint = e.controllerRef
  data : header.IsData
  seq : header.sendSeqNum = rtaSeq n
  short : (tagged tags (alarmFrame dst e.deviceMac q
    (header.toBytes ++ ((alarms q n).pdu ++ padding)))).length < 2 ^ 63

namespace DataFrame

variable {e : AlarmEndpoint} {alarms : Alarming} {q : Bool} {n : Nat}

/-- The RTA PDU the frame carries, with its padding. -/
def payload (f : DataFrame e alarms q n) : List UInt8 :=
  f.header.toBytes ++ ((alarms q n).pdu ++ f.padding)

/-- The frame before any tags. -/
def untagged (f : DataFrame e alarms q n) : List UInt8 :=
  alarmFrame f.dst e.deviceMac q f.payload

/-- The frame as it is received. -/
def frame (f : DataFrame e alarms q n) : Slice := ⟨tagged f.tags f.untagged, f.short⟩

/-- The length of the payload. -/
theorem payload_length (f : DataFrame e alarms q n) :
    f.payload.length = 12 + ((alarms q n).pdu ++ f.padding).length := by
  unfold payload
  rw [List.length_append]
  rfl

/-- The frame before the tags is untagged. -/
theorem isUntagged (f : DataFrame e alarms q n) : Untagged f.untagged :=
  alarmFrame_untagged _ _ _ (by rw [f.payload_length]; omega)

/-- The frame before the tags is a slice. -/
theorem untagged_short (f : DataFrame e alarms q n) : f.untagged.length < 2 ^ 63 := by
  have hshort := f.short
  have hlen := tagged_length f.isUntagged f.tags
  unfold untagged payload at hlen
  unfold untagged payload
  omega

/-- The payload is a slice. -/
theorem payload_short (f : DataFrame e alarms q n) : f.payload.length < 2 ^ 63 := by
  have hshort := f.untagged_short
  have hlen := alarmFrame_length f.dst e.deviceMac q f.payload
  unfold untagged at hshort
  omega

/-- The PDU in the frame. -/
def pdu (f : DataFrame e alarms q n) : Pdu := ⟨q, f.header, f.payload⟩

/-- The listener hears exactly the PDU of the frame, through tags and padding. -/
theorem pduOf_frame (f : DataFrame e alarms q n) : pduOf e f.frame.val = .ok (some f.pdu) := by
  have hfilter : checkLayer2Frame f.frame.val e.deviceMac = .ok (some (q, f.payload)) := by
    have halike := checkLayer2Frame_tagged f.isUntagged f.tags f.short e.deviceMac
    show checkLayer2Frame (tagged f.tags f.untagged) e.deviceMac = _
    rw [alike_eq.mp halike]
    exact checkLayer2Frame_alarm f.dst e.deviceMac q (by rw [f.payload_length]; omega)
      f.untagged_short
  unfold pduOf
  rw [hfilter, ok_bind]
  dsimp only
  rw [show RtaHeader.fromBytes f.payload = .ok (.ok f.header) from
    fromBytes_toBytes f.header _ f.payload_short, ok_bind]
  dsimp only
  rw [if_neg (not_not_intro f.ours)]
  rfl

/-- It brings the alarm of its number. -/
theorem pdu_alarm (f : DataFrame e alarms q n) :
    f.pdu.alarm e = some (alarms q n).notification := by
  have hlen := f.payload_length
  have hshort := f.payload_short
  have hhead : f.header.toBytes.length = RtaHeader.size := rfl
  have hprocess : processLayer2Alarm f.payload e.controllerRef
      = .ok (.ok (some (some f.header, (alarms q n).notification))) := by
    unfold processLayer2Alarm
    rw [if_pos (by rw [hlen]; exact Nat.le_add_right 12 _),
      show RtaHeader.fromBytes f.payload = .ok (.ok f.header) from
        fromBytes_toBytes f.header _ hshort, ok_bind]
    dsimp only
    rw [if_neg (not_not_intro f.ours), if_neg (not_not_intro f.data.1),
      if_neg (not_not_intro f.data.2.1),
      sliceFrom_ok (by rw [hlen]; exact Nat.le_add_right 12 _), ok_bind]
    dsimp only
    rw [show f.payload.drop RtaHeader.size = (alarms q n).pdu ++ f.padding from
      drop_append_exact hhead _, parseAlarmNotification_sent (alarms q n) f.padding (by omega), ok_bind]
    rfl
  unfold Pdu.alarm alarmOf
  rw [show f.pdu.payload = f.payload from rfl, hprocess]
  rfl

end DataFrame

/-! ## The system

  The state of device, wire and listener, and their steps; a wire is a list of frames, from which
  any may be lost or repeated. -/

/-- A DATA frame in flight. -/
structure Flight (e : AlarmEndpoint) (alarms : Alarming) where
  high : Bool
  index : Nat
  data : DataFrame e alarms high index

/-- The number that a frame of ours acknowledges on a priority, if it is a transport ACK there. -/
def transportAck (q : Bool) (frame : List UInt8) : Option UInt16 :=
  if frameHigh frame = q ∧ frameKind frame = rtaTypeAck then some (frameAck frame) else none

/-- The device goes on to the next alarm when a transport ACK names the one it is at. -/
def goOn (next : Bool → Nat) (frame : List UInt8) (q : Bool) : Nat :=
  if transportAck q frame = some (rtaSeq (next q)) then next q + 1 else next q

/-- The device, the frames under way in both directions, the listener, and its passes so far. -/
structure AlarmNet (e : AlarmEndpoint) (alarms : Alarming) where
  next : Bool → Nat
  down : List (Flight e alarms)
  up : List (List UInt8)
  listener : AlarmListener
  passes : List ListenerPass

namespace AlarmNet

variable {alarms : Alarming} {peer : Peer}

/-- Nothing is sent yet and the listener is new. -/
def init : AlarmNet peer.endpoint alarms := ⟨fun _ => 0, [], [], .new, []⟩

/-- The listener has made a pass. -/
def passed (s : AlarmNet peer.endpoint alarms) (down : List (Flight peer.endpoint alarms))
    (p : ListenerPass) : AlarmNet peer.endpoint alarms :=
  { s with down, up := s.up ++ p.sent, listener := p.listener, passes := s.passes ++ [p] }

/-- One step of the device, the network or the listener. -/
inductive Step : AlarmNet peer.endpoint alarms → AlarmNet peer.endpoint alarms → Prop where
  /-- The device sends the alarm it is at, for the first time or again. -/
  | send {s : AlarmNet peer.endpoint alarms} (q : Bool)
      (data : DataFrame peer.endpoint alarms q (s.next q)) :
      Step s { s with down := s.down ++ [⟨q, s.next q, data⟩] }
  /-- The listener makes a pass and receives a DATA frame in it. -/
  | deliver {s : AlarmNet peer.endpoint alarms} {f : Flight peer.endpoint alarms}
      {rest : List (Flight peer.endpoint alarms)} (h : s.down = f :: rest) {i : ListenerInput}
      (hi : i.received = .ok (some f.data.frame)) {p : ListenerPass}
      (hp : s.listener.pass peer i = .ok p) : Step s (s.passed rest p)
  /-- The listener makes a pass and receives nothing, or something else. -/
  | other {s : AlarmNet peer.endpoint alarms} {i : ListenerInput}
      (hi : ∀ pdu, heardPdu peer.endpoint i = some pdu → ¬ pdu.header.IsData) {p : ListenerPass}
      (hp : s.listener.pass peer i = .ok p) : Step s (s.passed s.down p)
  /-- A frame of ours arrives. -/
  | answered {s : AlarmNet peer.endpoint alarms} {f : List UInt8} {rest : List (List UInt8)}
      (h : s.up = f :: rest) : Step s { s with up := rest, next := goOn s.next f }
  | loseDown {s : AlarmNet peer.endpoint alarms} {before after : List (Flight peer.endpoint alarms)}
      {f : Flight peer.endpoint alarms} (h : s.down = before ++ f :: after) :
      Step s { s with down := before ++ after }
  | repeatDown {s : AlarmNet peer.endpoint alarms}
      {before after : List (Flight peer.endpoint alarms)} {f : Flight peer.endpoint alarms}
      (h : s.down = before ++ f :: after) : Step s { s with down := before ++ f :: f :: after }
  | loseUp {s : AlarmNet peer.endpoint alarms} {before after : List (List UInt8)}
      {f : List UInt8} (h : s.up = before ++ f :: after) : Step s { s with up := before ++ after }
  | repeatUp {s : AlarmNet peer.endpoint alarms} {before after : List (List UInt8)}
      {f : List UInt8} (h : s.up = before ++ f :: after) :
      Step s { s with up := before ++ f :: f :: after }

/-- What steps lead to. -/
inductive Reachable : AlarmNet peer.endpoint alarms → Prop where
  | init : Reachable init
  | step {s s' : AlarmNet peer.endpoint alarms} (h : Reachable s) (hstep : Step s s') : Reachable s'

end AlarmNet

/-! ## What a pass sends and delivers on a priority

  What a pass does on one priority, as far as the other end can see: the transport ACKs it sends
  and the alarm it gives to the application. -/

namespace AlarmListener

/-- What is heard of a priority is what was heard. -/
theorem ofPriority_some {q : Bool} {heard : Option Pdu} {pdu : Pdu}
    (h : ofPriority q heard = some pdu) : heard = some pdu := by
  cases heard with
  | none => cases h
  | some pdu' =>
    by_cases hq : pdu'.highPriority = q
    · rw [ofPriority_same hq] at h
      exact h
    · rw [ofPriority_other hq] at h
      cases h

/-- The alarm a pass delivers for a PDU of the priority `q`. -/
def given (q : Bool) (p : ListenerPass) : Option AlarmNotification :=
  (ofPriority q p.heard).bind fun _ => p.alarm

variable {l : AlarmListener} {peer : Peer} {i : ListenerInput} {p : ListenerPass} {q : Bool}
  {s : RtaSequencer}

/-- What a pass gives to the application on a priority is decided by the sequencer. -/
theorem Passed.given_eq (hp : l.Passed peer i p) (hc : l.Counts q s) :
    given q p = (ofPriority q (heardPdu peer.endpoint i)).bind fun pdu =>
      if (s.onPdu pdu.header).1 = .accept then pdu.alarm peer.endpoint else none := by
  have hshown := (hp.counts hc).2
  unfold shown at hshown
  unfold given
  cases hheard : ofPriority q p.heard with
  | none =>
    rw [hheard] at hshown
    rw [Option.map_eq_none_iff.mp hshown.symm]
    rfl
  | some pdu =>
    rw [hheard] at hshown
    obtain ⟨pdu', hpdu', hverdict⟩ := Option.map_eq_some_iff.mp hshown.symm
    rw [hpdu']
    exact (congrArg Prod.snd hverdict).symm

/-- A DATA PDU of ours is no transport ACK. -/
theorem transportAck_data {frames : List (List UInt8)}
    (h : ∀ f ∈ frames, frameKind f = rtaTypeData) (q : Bool) :
    frames.filterMap (transportAck q) = [] := by
  refine List.filterMap_eq_nil_iff.mpr ?_
  intro f hf
  refine if_neg ?_
  rintro ⟨-, hack⟩
  exact absurd ((h f hf).symm.trans hack) (by decide)

/-- A PDU is answered by a transport ACK if it is taken, on the priority of the channel. -/
theorem answer_acks (c : AlarmChannel) (peer : Peer) (h : RtaHeader) (q : Bool) :
    (c.answer peer h).toList.filterMap (transportAck q) =
      if c.highPriority = q then rtaReceiver.reply (c.seq.onPdu h).1 (c.seq.onPdu h).2 else [] := by
  have hframe (kind : UInt8) (hkind : RtaHeader.encodePduType version1 kind &&& 0x0F = kind)
      (seqs : UInt16 × UInt16) :
      transportAck q (buildRtaControlFrame peer.endpoint peer.controllerMac kind seqs.1 seqs.2
        c.highPriority) = if c.highPriority = q ∧ kind = rtaTypeAck then some seqs.2 else none := by
    unfold transportAck buildRtaControlFrame
    rw [frameHigh_built, frameKind_built, frameAck_built, hkind]
  -- a NACK shows its own kind, so it is no acknowledgment
  have hnever : ¬ (c.highPriority = q ∧ rtaTypeNack = rtaTypeAck) :=
    fun h => absurd h.2 (by decide)
  unfold AlarmChannel.answer
  generalize c.seq.onPdu h = taken
  obtain ⟨action, seq⟩ := taken
  show _ = if c.highPriority = q then
    (if action = .accept ∨ action = .reAck then [seq.ackSeqPair.2] else []) else []
  have hack : [buildRtaControlFrame peer.endpoint peer.controllerMac rtaTypeAck seq.ackSeqPair.1
      seq.ackSeqPair.2 c.highPriority].filterMap (transportAck q) =
      if c.highPriority = q then [seq.ackSeqPair.2] else [] := by
    have hone := hframe rtaTypeAck (by decide) seq.ackSeqPair
    by_cases hq : c.highPriority = q
    · rw [if_pos ⟨hq, rfl⟩] at hone
      rw [List.filterMap_cons_some hone, if_pos hq]
      rfl
    · rw [if_neg (fun h => hq h.1)] at hone
      rw [List.filterMap_cons_none hone, if_neg hq]
      rfl
  -- an answer is an ACK for what is accepted or heard again, a NACK out of order, else nothing
  cases action with
  | accept => exact hack
  | reAck => exact hack
  | sendNack =>
    have hone := hframe rtaTypeNack (by decide) seq.ackSeqPair
    rw [if_neg hnever] at hone
    refine (List.filterMap_cons_none hone).trans ?_
    simp
  | _ => simp

/-- Only a DATA PDU is taken. -/
theorem reply_noise {h : RtaHeader} (hdata : ¬ h.IsData) (s : RtaSequencer) :
    rtaReceiver.reply (s.onPdu h).1 (s.onPdu h).2 = [] := by
  refine if_neg ?_
  show ¬ ((s.onPdu h).1 = .accept ∨ (s.onPdu h).1 = .reAck)
  unfold RtaHeader.IsData at hdata
  unfold RtaSequencer.onPdu
  grind

/-- The transport ACKs of a pass on a priority: the reply to its PDU there. -/
theorem Passed.acks {h : Bool → History} (hp : l.Passed peer i p) (hl : Kept peer l h)
    (hc : l.Counts q s) :
    p.sent.filterMap (transportAck q) =
      ((ofPriority q (heardPdu peer.endpoint i)).map fun pdu =>
        rtaReceiver.reply (s.onPdu pdu.header).1 (s.onPdu pdu.header).2).getD [] := by
  obtain ⟨h₁, hserviced⟩ := Kept.service hl i.now
  have hcounts := hc.service peer i.now
  -- what the head of the pass sends is DATA, which acknowledges nothing
  have hhead : (l.service peer i.now).2.filterMap (transportAck q) = [] := by
    refine transportAck_data ?_ q
    intro f hf
    rcases List.mem_append.mp (show f ∈ (l.low.service peer i.now).2 ++
      (l.high.service peer i.now).2 from hf) with hf | hf
    · exact (hl.service_data i.now false f hf).kind
    · exact (hl.service_data i.now true f hf).kind
  -- on the other channel neither side answers
  have hanswer (pdu : Pdu) :
      (((l.service peer i.now).1.channel pdu.highPriority).answer peer
          pdu.header).toList.filterMap (transportAck q) =
        ((ofPriority q (some pdu)).map fun pdu =>
          rtaReceiver.reply (s.onPdu pdu.header).1 (s.onPdu pdu.header).2).getD [] := by
    rw [answer_acks, (hserviced.kept pdu.highPriority).high]
    by_cases hq : pdu.highPriority = q
    · rw [if_pos hq, ofPriority_same hq, hq, hcounts.1]
      rfl
    · rw [if_neg hq, ofPriority_other hq]
      rfl
  -- nothing heard, heard without an alarm, heard with one
  cases hp with
  | quiet hnone =>
    rw [hnone]
    simp [ListenerPass.sent, hhead, ofPriority]
  | heard hsome hno =>
    rename_i pdu
    rw [hsome, ← hanswer]
    simp only [ListenerPass.sent, List.filterMap_append, hhead, List.nil_append, List.append_nil]
  | delivered hsome haccept halarm hl' =>
    rename_i pdu alarm l'
    obtain ⟨h₂, hreceived⟩ := hserviced.kept.receive pdu
    rw [← hl'] at hreceived
    have hacks : (l'.acknowledge peer i.accepted alarm).2.filterMap (transportAck q) = [] :=
      transportAck_data (fun f hf => (hreceived.kept.acknowledge_data i.accepted alarm f hf).kind) q
    rw [hsome, ← hanswer]
    simp only [ListenerPass.sent, List.filterMap_append, hhead, hacks, List.nil_append,
      List.append_nil]

end AlarmListener

/-! ## Stop-and-wait beside the system

  `Beside` relates the system to the library's link on one priority.  Every step of the system is
  a step of the link or none (`Beside.step`), so what holds of the link's runs holds here. -/

/-- The message a DATA frame in flight is on a priority. -/
def Flight.message {e : AlarmEndpoint} {alarms : Alarming} (q : Bool) (f : Flight e alarms) :
    Option (Nat × RtaHeader) :=
  if f.high = q then some (f.index, f.data.header) else none

namespace AlarmNet

variable {alarms : Alarming} {peer : Peer}

/-- The stop-and-wait protocol of a priority stands where the system does. -/
structure Beside (q : Bool) (s : AlarmNet peer.endpoint alarms) (n : Net rtaReceiver) : Prop where
  next : n.next = s.next q
  down : n.data = s.down.filterMap (Flight.message q)
  up : n.acks = s.up.filterMap (transportAck q)
  counts : s.listener.Counts q n.state
  given : s.passes.filterMap (given q) =
    (rtaReceiver.accepted n.log).map fun k => (alarms q k).notification

/-- A new network stands beside a new link of the sender and the receiver. -/
theorem init_beside (q : Bool) : Beside q (init : AlarmNet peer.endpoint alarms)
    (.init rtaReceiver .new) :=
  ⟨rfl, rfl, rfl, new_counts q, rfl⟩

/-- The protocol makes a step, or none. -/
def Follow (n n' : Net rtaReceiver) : Prop := n' = n ∨ StopAndWait.Step rtaReceiver n n'

section Simulation

/-- A channel in which an item is lost or repeated, as `g` shows it: nothing happens to it, or the
    same does to what is shown. -/
theorem shown_split {α β : Type} {g : α → Option β} {items before after : List α} {f : α}
    {shown : List β} (h : shown = items.filterMap g) (hsplit : items = before ++ f :: after) :
    ((before ++ after).filterMap g = shown ∧ (before ++ f :: f :: after).filterMap g = shown) ∨
      ∃ b, shown = before.filterMap g ++ b :: after.filterMap g ∧
        (before ++ after).filterMap g = before.filterMap g ++ after.filterMap g ∧
        (before ++ f :: f :: after).filterMap g =
          before.filterMap g ++ b :: b :: after.filterMap g := by
  rw [hsplit, List.filterMap_append] at h
  rw [List.filterMap_append, List.filterMap_append]
  cases hf : g f with
  | none =>
    rw [List.filterMap_cons_none hf] at h
    rw [List.filterMap_cons_none hf, List.filterMap_cons_none hf]
    exact .inl ⟨h.symm, h.symm⟩
  | some b =>
    rw [List.filterMap_cons_some hf] at h
    rw [List.filterMap_cons_some hf, List.filterMap_cons_some hf]
    exact .inr ⟨b, h, rfl, rfl⟩

variable {q : Bool} {s s' : AlarmNet peer.endpoint alarms} {n : Net rtaReceiver}

/-- A pass in which the priority hears no DATA PDU. -/
theorem Beside.other (hb : Beside q s n) {h : Bool → History} (hl : Kept peer s.listener h)
    {i : ListenerInput}
    (hi : ∀ pdu, ofPriority q (heardPdu peer.endpoint i) = some pdu → ¬ pdu.header.IsData)
    {p : ListenerPass} (hp : s.listener.Passed peer i p)
    {down : List (Flight peer.endpoint alarms)}
    (hdown : down.filterMap (Flight.message q) = s.down.filterMap (Flight.message q)) :
    ∃ n', Follow n n' ∧ Beside q (s.passed down p) n' := by
  have hcounts := (hp.counts hb.counts).1
  have hacks := hp.acks hl hb.counts
  have hgiven := hp.given_eq hb.counts
  -- what is no DATA PDU of this priority is neither answered nor given
  have hup : s.up.filterMap (transportAck q) = (s.up ++ p.sent).filterMap (transportAck q) ∧
      AlarmListener.given q p = none := by
    rw [List.filterMap_append, hacks, hgiven]
    cases hheard : ofPriority q (heardPdu peer.endpoint i) with
    | none => exact ⟨(List.append_nil _).symm, rfl⟩
    | some pdu =>
      have hnone := reply_noise (hi pdu hheard) n.state
      refine ⟨((congrArg _ hnone).trans (List.append_nil _)).symm, if_neg fun haccept => ?_⟩
      exact absurd ((if_pos (.inl haccept)).symm.trans hnone) nofun
  have hpasses : (s.passes ++ [p]).filterMap (AlarmListener.given q) =
      (rtaReceiver.accepted n.log).map fun k => (alarms q k).notification := by
    rw [List.filterMap_append, List.filterMap_cons_none hup.2, List.filterMap_nil, List.append_nil]
    exact hb.given
  unfold turn at hcounts
  cases hheard : ofPriority q (heardPdu peer.endpoint i) with
  | none =>
    rw [hheard] at hcounts
    exact ⟨n, .inl rfl, hb.next, hb.down.trans hdown.symm, hb.up.trans hup.1, hcounts, hpasses⟩
  | some pdu =>
    rw [hheard] at hcounts
    exact ⟨_, .inr (.noise pdu.header (hi pdu hheard)), hb.next, hb.down.trans hdown.symm,
      hb.up.trans hup.1, hcounts, hpasses⟩

/-- A pass that receives a DATA frame. -/
theorem Beside.deliver (hb : Beside q s n) {h : Bool → History} (hl : Kept peer s.listener h)
    {f : Flight peer.endpoint alarms} {rest : List (Flight peer.endpoint alarms)}
    (hdown : s.down = f :: rest) {i : ListenerInput} (hi : i.received = .ok (some f.data.frame))
    {p : ListenerPass} (hp : s.listener.Passed peer i p) :
    ∃ n', Follow n n' ∧ Beside q (s.passed rest p) n' := by
  have hheard : heardPdu peer.endpoint i = some f.data.pdu := by
    unfold heardPdu
    rw [hi]
    show ((pduOf peer.endpoint f.data.frame.val).toOption).join = _
    rw [f.data.pduOf_frame]
    rfl
  -- a frame of this priority is a message of the link; any other is noise to it
  by_cases hq : f.high = q
  · have hsame : ofPriority q (some f.data.pdu) = some f.data.pdu := ofPriority_same hq
    have hmessage : f.message q = some (f.index, f.data.header) := if_pos hq
    have hcounts := (hp.counts hb.counts).1
    have hacks := hp.acks hl hb.counts
    have hgiven := hp.given_eq hb.counts
    unfold turn at hcounts
    rw [hheard, hsame] at hcounts hacks hgiven
    have hhead : n.data = (f.index, f.data.header) :: rest.filterMap (Flight.message q) := by
      rw [hb.down, hdown, List.filterMap_cons_some hmessage]
    refine ⟨_, .inr (.deliver hhead), hb.next, rfl, ?_, hcounts, ?_⟩
    · show _ = (s.up ++ p.sent).filterMap (transportAck q)
      rw [List.filterMap_append, hacks, hb.up]
      rfl
    · show (s.passes ++ [p]).filterMap (AlarmListener.given q) = _
      have halarm : f.data.pdu.alarm peer.endpoint = some (alarms q f.index).notification := by
        rw [f.data.pdu_alarm, hq]
      rw [List.filterMap_append, hb.given, Receiver.accepted_snoc, List.map_append]
      refine congrArg _ ?_
      show _ = List.map _
        (if (n.state.onPdu f.data.header).1 = RtaAction.accept then [f.index] else [])
      -- the link logs the message exactly where the listener accepts it
      by_cases haccept : (n.state.onPdu f.data.header).1 = .accept
      · rw [if_pos haccept,
          List.filterMap_cons_some (hgiven.trans ((if_pos haccept).trans halarm))]
        rfl
      · rw [if_neg haccept, List.filterMap_cons_none (hgiven.trans (if_neg haccept))]
        rfl
  · refine hb.other hl (i := i) ?_ hp ?_
    · rw [hheard, ofPriority_other hq]
      exact nofun
    · have hmessage : f.message q = none := if_neg hq
      rw [hdown, List.filterMap_cons_none hmessage]

/-- A step of the network is a step of the link, or none. -/
theorem Beside.step (hb : Beside q s n) {h : Bool → History} (hl : Kept peer s.listener h)
    (hstep : Step s s') : ∃ n', Follow n n' ∧ Beside q s' n' := by
  obtain ⟨hnext, hdata, hup, hcounts, hgiven⟩ := hb
  -- a step of this priority is one of the link; a step of the other priority is none
  cases hstep with
  | send q' data =>
    by_cases hq : q' = q
    · subst hq
      refine ⟨_, .inr (.send data.header data.data (by rw [hnext]; exact data.seq)), hnext, ?_,
        hup, hcounts, hgiven⟩
      have hmessage : Flight.message q' ⟨q', s.next q', data⟩ = some (s.next q', data.header) :=
        if_pos rfl
      rw [List.filterMap_append, List.filterMap_cons_some hmessage]
      show n.data ++ [(n.next, data.header)] = _
      rw [hdata, hnext]
      rfl
    · refine ⟨n, .inl rfl, hnext, ?_, hup, hcounts, hgiven⟩
      have hmessage : Flight.message q ⟨q', s.next q', data⟩ = none := if_neg hq
      rw [List.filterMap_append, hdata, List.filterMap_cons_none hmessage]
      exact (List.append_nil _).symm
  | deliver hdown hi hp =>
    obtain ⟨p', hp', hpassed⟩ := s.listener.pass_returns peer _
    cases hp.symm.trans hp'
    exact Beside.deliver ⟨hnext, hdata, hup, hcounts, hgiven⟩ hl hdown hi hpassed
  | other hi hp =>
    obtain ⟨p', hp', hpassed⟩ := s.listener.pass_returns peer _
    cases hp.symm.trans hp'
    refine Beside.other ⟨hnext, hdata, hup, hcounts, hgiven⟩ hl ?_ hpassed rfl
    intro pdu hpdu
    exact hi pdu (ofPriority_some hpdu)
  -- the device goes on where the acknowledgment names its message
  | @answered f rest hhead =>
    cases hack : transportAck q f with
    | none =>
      refine ⟨n, .inl rfl, ?_, hdata, ?_, hcounts, hgiven⟩
      · show _ = goOn s.next f q
        unfold goOn
        rw [hack, if_neg nofun, hnext]
      · rw [hup, hhead, List.filterMap_cons_none hack]
    | some a =>
      have hacks : n.acks = a :: rest.filterMap (transportAck q) := by
        rw [hup, hhead, List.filterMap_cons_some hack]
      refine ⟨_, .inr (.ack hacks), ?_, hdata, rfl, hcounts, hgiven⟩
      show _ = goOn s.next f q
      unfold goOn
      rw [hack, hnext]
      simp only [Option.some.injEq]
  -- losing or repeating a frame of the other priority is no step of the link
  | loseDown hsplit =>
    rcases shown_split hdata hsplit with ⟨hsame, -⟩ | ⟨m, hin, hthen, -⟩
    · exact ⟨n, .inl rfl, hnext, hsame.symm, hup, hcounts, hgiven⟩
    · exact ⟨_, .inr (.loseData hin), hnext, hthen.symm, hup, hcounts, hgiven⟩
  | repeatDown hsplit =>
    rcases shown_split hdata hsplit with ⟨-, hsame⟩ | ⟨m, hin, -, hthen⟩
    · exact ⟨n, .inl rfl, hnext, hsame.symm, hup, hcounts, hgiven⟩
    · exact ⟨_, .inr (.repeatData hin), hnext, hthen.symm, hup, hcounts, hgiven⟩
  | loseUp hsplit =>
    rcases shown_split hup hsplit with ⟨hsame, -⟩ | ⟨m, hin, hthen, -⟩
    · exact ⟨n, .inl rfl, hnext, hdata, hsame.symm, hcounts, hgiven⟩
    · exact ⟨_, .inr (.loseAck hin), hnext, hdata, hthen.symm, hcounts, hgiven⟩
  | repeatUp hsplit =>
    rcases shown_split hup hsplit with ⟨-, hsame⟩ | ⟨m, hin, -, hthen⟩
    · exact ⟨n, .inl rfl, hnext, hdata, hsame.symm, hcounts, hgiven⟩
    · exact ⟨_, .inr (.repeatAck hin), hnext, hdata, hthen.symm, hcounts, hgiven⟩

/-- The AlarmAcks have their records all along. -/
theorem kept_step {h : Bool → History} (hl : Kept peer s.listener h) (hstep : Step s s') :
    ∃ h', Kept peer s'.listener h' := by
  cases hstep with
  | deliver hdown hi hp =>
    obtain ⟨p', hp', hpassed⟩ := s.listener.pass_returns peer _
    cases hp.symm.trans hp'
    obtain ⟨h', hadvanced⟩ := hpassed.kept hl
    exact ⟨h', hadvanced.kept⟩
  | other hi hp =>
    obtain ⟨p', hp', hpassed⟩ := s.listener.pass_returns peer _
    cases hp.symm.trans hp'
    obtain ⟨h', hadvanced⟩ := hpassed.kept hl
    exact ⟨h', hadvanced.kept⟩
  | _ => exact ⟨h, hl⟩

end Simulation

/-- The protocol of each priority runs beside every run of the system. -/
theorem Reachable.beside {s : AlarmNet peer.endpoint alarms} (h : Reachable s) (q : Bool) :
    ∃ n, StopAndWait.Reachable rtaReceiver n ∧ Beside q s n := by
  have hall : (∃ h, Kept peer s.listener h) ∧
      ∃ n, StopAndWait.Reachable rtaReceiver n ∧ Beside q s n := by
    induction h with
    | init => exact ⟨⟨_, new_kept peer⟩, _, .init new_expects, init_beside q⟩
    | step _ hstep ih =>
      obtain ⟨⟨h, hl⟩, n, hn, hb⟩ := ih
      refine ⟨kept_step hl hstep, ?_⟩
      obtain ⟨n', hfollow, hb'⟩ := hb.step hl hstep
      rcases hfollow with rfl | hmove
      · exact ⟨n', hn, hb'⟩
      · exact ⟨n', hn.step hmove, hb'⟩
  exact hall.2

/-- **The callbacks get every alarm once and in order.**  Whatever the network loses and repeats,
    whichever frames of the other priority and whatever else arrives in between, and however often
    the sequence numbers wrap: on each priority the passes of the listener have delivered the first
    `n` alarms of the device, each once and in order, and the device is at alarm `n` or the one
    before.  So it never goes on from an alarm that was not delivered. -/
theorem alarms_delivered {s : AlarmNet peer.endpoint alarms} (h : Reachable s) (q : Bool) :
    ∃ n, s.passes.filterMap (AlarmListener.given q) =
        (List.range n).map (fun k => (alarms q k).notification) ∧
      s.next q ≤ n ∧ n ≤ s.next q + 1 := by
  obtain ⟨net, hnet, hb⟩ := h.beside q
  obtain ⟨n, honce, hlower, hupper, -⟩ := exactly_once rtaSeq_ne_succ hnet
  refine ⟨n, ?_, ?_, ?_⟩
  · rw [hb.given, honce.accepted]
  · rw [← hb.next]
    exact hlower
  · rw [← hb.next]
    exact hupper

/-- The endpoint of the example. -/
def benchEndpoint : AlarmEndpoint := ⟨1, 2, ⟨[2, 0, 0, 0, 2, 1], rfl⟩, 3⟩

/-- The device of the example, with a timeout of 300 ms. -/
def benchPeer : Peer := ⟨benchEndpoint, ⟨[2, 0, 0, 0, 2, 2], rfl⟩, 300000000⟩

/-- DATA PDU 0 of a device that sends one alarm over and over. -/
def benchFrame : DataFrame benchEndpoint (fun _ _ => benchAlarm) true 0 where
  dst := ⟨[2, 0, 0, 0, 2, 2], rfl⟩
  tags := []
  header := ⟨1, 2, 0x11, 0x11, 0xFFFF, 0xFFFE, 64⟩
  padding := []
  ours := rfl
  data := ⟨by decide, by decide, by decide⟩
  seq := rfl
  short := by decide +kernel

/-- The network repeats the first alarm, and one copy has arrived. -/
theorem alarms_delivered_bench :
    ∃ s : AlarmNet benchPeer.endpoint (fun _ _ => benchAlarm), s.down.length = 1 ∧
      s.passes.length = 1 ∧
      ∃ n, s.passes.filterMap (AlarmListener.given true) =
          (List.range n).map (fun _ => benchAlarm.notification) ∧
        s.next true ≤ n ∧ n ≤ s.next true + 1 := by
  have hinit : Reachable (init : AlarmNet benchPeer.endpoint fun _ _ => benchAlarm) := .init
  have hsent := hinit.step (.send true benchFrame)
  have htwice := hsent.step (.repeatDown (show _ = [] ++ _ :: [] from rfl))
  obtain ⟨p, hp, -⟩ := AlarmListener.new.pass_returns benchPeer ⟨0, .ok (some benchFrame.frame), 0⟩
  have hpassed := htwice.step (.deliver rfl rfl hp)
  exact ⟨_, rfl, rfl, alarms_delivered hpassed true⟩

end AlarmNet

end Profinet.Rta
