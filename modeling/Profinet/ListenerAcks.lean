/-
  LISTENER ACKS: every alarm that the callbacks are given is owed one AlarmAck.

  Each pass of the listener is a few operations on either channel: both are serviced, the PDU goes
  to one, and the AlarmAck of an alarm is pushed on one and serviced at once.  So a run of the
  listener is a run of the two channels, and the record `History` of a channel can be kept beside
  it (`Kept`): what is pushed are the AlarmAcks of the delivered alarms, and what is sent are the
  frames with the frame ID of the channel, transport acknowledgments apart, at the instants at
  which the passes read the clock.
-/
import Profinet.AlarmListener

namespace Profinet.Rta

open Wire Checked Util Alarms

/-! ## What a frame of ours says of itself

  The fields of a frame that say on which priority it was sent, and whether it is a DATA PDU.
  They are read at fixed offsets, as a device would. -/

/-- The priority a frame of ours was sent on: its frame ID is at offset 18. -/
def frameHigh (frame : List UInt8) : Bool :=
  ofBe16 (frame.getD 18 0) (frame.getD 19 0) = frameIdAlarmHigh

/-- The PDU type of a frame of ours. -/
def frameKind (frame : List UInt8) : UInt8 := frame.getD 24 0 &&& 0x0F

/-- `ack_seq_num` of a frame of ours. -/
def frameAck (frame : List UInt8) : UInt16 := ofBe16 (frame.getD 28 0) (frame.getD 29 0)

theorem frameHigh_built (e : AlarmEndpoint) (controllerMac : Mac) (pdu : RtaPdu) :
    frameHigh (buildRtaFrame e controllerMac pdu) = pdu.highPriority := by
  have hdst := e.deviceMac.property
  have hsrc := controllerMac.property
  have hhead : (e.deviceMac.val ++ controllerMac.val
      ++ (if pdu.highPriority then vlanTagAlarmHigh else vlanTagAlarmLow)
      ++ be16 ethertypeProfinet).length = 18 := by
    cases pdu.highPriority with
    | true => simp [hdst, hsrc, vlanTagAlarmHigh]
    | false => simp [hdst, hsrc, vlanTagAlarmLow]
  have hid (w : UInt16) (rest : List UInt8) :
      ofBe16 ((be16 w ++ rest).getD 0 0) ((be16 w ++ rest).getD 1 0) = w := ofBe16_be16 w
  unfold frameHigh buildRtaFrame rtaFrameHead
  simp only
  rw [List.append_assoc (_ ++ be16 ethertypeProfinet), getD_past hhead 0, getD_past hhead 1, hid]
  cases pdu.highPriority with
  | true => rfl
  | false => rfl

theorem frameKind_built (e : AlarmEndpoint) (controllerMac : Mac) (pdu : RtaPdu) :
    frameKind (buildRtaFrame e controllerMac pdu) =
      RtaHeader.encodePduType version1 pdu.kind &&& 0x0F := by
  have hhead := rtaFrameHead_length e controllerMac pdu.highPriority
  unfold frameKind buildRtaFrame
  simp only
  generalize rtaFrameHead e controllerMac pdu.highPriority = head at hhead
  rw [getD_past hhead 4]
  rfl

theorem frameAck_built (e : AlarmEndpoint) (controllerMac : Mac) (pdu : RtaPdu) :
    frameAck (buildRtaFrame e controllerMac pdu) = pdu.ackSeqNum := by
  have hhead := rtaFrameHead_length e controllerMac pdu.highPriority
  unfold frameAck buildRtaFrame
  simp only
  generalize rtaFrameHead e controllerMac pdu.highPriority = head at hhead
  rw [getD_past hhead 8, getD_past hhead 9]
  exact ofBe16_be16 pdu.ackSeqNum

/-- A DATA PDU of ours on the priority `q`. -/
structure DataOn (q : Bool) (frame : List UInt8) : Prop where
  high : frameHigh frame = q
  kind : frameKind frame = rtaTypeData

/-- A channel sends DATA PDUs on its priority if what is pending is one. -/
theorem AlarmChannel.service_data {c : AlarmChannel} {q : Bool} (hq : c.highPriority = q)
    (hpending : ∀ p, c.pending = some p → DataOn q p.frame) (peer : Peer) (now : Nat) :
    ∀ f ∈ (c.service peer now).2, DataOn q f := by
  -- what is sent again was sent before; what is sent anew is built as DATA
  have hagain : ∀ f ∈ (c.retransmit peer now).2.toList, DataOn q f := by
    rcases c.retransmit_cases peer now with h | ⟨p, hp, -, -, h⟩ | ⟨p, -, -, -, h⟩
    · rw [h]
      exact nofun
    · rw [h]
      intro f hf
      rw [List.mem_singleton.mp hf]
      exact hpending p hp
    · rw [h]
      exact nofun
  have hkeeps : (c.retransmit peer now).1.highPriority = q := by
    rcases c.retransmit_cases peer now with h | ⟨p, -, -, -, h⟩ | ⟨p, -, -, -, h⟩
    · rw [h, hq]
    · rw [h, hq]
    · rw [h, hq]
  intro f hf
  rcases List.mem_append.mp (show f ∈ (c.retransmit peer now).2.toList ++
    ((c.retransmit peer now).1.sendNext peer now).2.toList from hf) with hf | hf
  · exact hagain f hf
  · rcases (c.retransmit peer now).1.sendNext_cases peer now with
      ⟨h, -⟩ | ⟨ackData, queued, -, -, h⟩
    · rw [h] at hf
      cases hf
    · rw [h] at hf
      rw [List.mem_singleton.mp hf]
      have hkind : RtaHeader.encodePduType version1 rtaTypeData &&& 0x0F = rtaTypeData := by decide
      exact ⟨(frameHigh_built _ _ _).trans hkeeps, (frameKind_built _ _ _).trans hkind⟩

/-! ## The record of a channel

  What `History` records of one channel, kept by each operation on it.  An operation that sends
  adds to the record what was sent and the clock reading it was sent at. -/

/-- The record of the channel of the priority `q`. -/
structure Recorded (peer : Peer) (q : Bool) (c : AlarmChannel) (h : History) : Prop where
  channel : h.channel = c
  high : c.highPriority = q
  orderly : h.Orderly peer
  wire : ∀ t ∈ h.sent, DataOn q t.frame

theorem new_recorded (peer : Peer) (q : Bool) : Recorded peer q (.new q) (.new q) :=
  ⟨rfl, rfl, History.orderly_new peer q, nofun⟩

namespace Recorded

variable {peer : Peer} {q : Bool} {c : AlarmChannel} {h : History}

/-- The pending frame is the last one sent. -/
theorem pending_data (hc : Recorded peer q c h) {p : Pending} (hp : c.pending = some p) :
    DataOn q p.frame := by
  rw [← hc.channel] at hp
  obtain ⟨t, hlast, hframe, -⟩ := hc.orderly.pending p hp
  rw [← hframe]
  exact hc.wire t (List.mem_of_getLast? hlast)

theorem service (hc : Recorded peer q c h) (now : Nat) :
    ∃ h', Recorded peer q (c.service peer now).1 h' ∧ h'.pushed = h.pushed ∧
      h'.clocked = h.clocked ++ (c.service peer now).2.map (now, ·) := by
  have hchannel := hc.channel
  have hsent : (h.apply peer (.service now)).clocked =
      h.clocked ++ (c.service peer now).2.map (now, ·) := by
    rw [← hchannel]
    exact History.apply_sent peer h now
  refine ⟨h.apply peer (.service now), ⟨?_, ?_, ?_, ?_⟩, ?_, hsent⟩
  · rw [History.apply_channel, hchannel]
    rfl
  · exact (c.service_keeps peer now).2.trans hc.high
  · exact (hc.orderly.retransmit now).sendNext now
  -- a frame sent now came from the service, an older one is on record
  · intro t ht
    have hmem : (t.time, t.frame) ∈ (h.apply peer (.service now)).clocked :=
      List.mem_map.mpr ⟨t, ht, rfl⟩
    rw [hsent] at hmem
    rcases List.mem_append.mp hmem with hold | hnew
    · obtain ⟨u, hu, heq⟩ := List.mem_map.mp hold
      rw [← (Prod.mk.inj heq).2]
      exact hc.wire u hu
    · obtain ⟨f, hf, heq⟩ := List.mem_map.mp hnew
      rw [← (Prod.mk.inj heq).2]
      exact AlarmChannel.service_data hc.high (fun p hp => hc.pending_data hp) peer now f hf
  · show ((h.retransmit peer now).sendNext peer now).pushed = h.pushed
    unfold History.sendNext
    simp only
    split
    · rfl
    · rfl

theorem receive (hc : Recorded peer q c h) (header : RtaHeader) :
    ∃ h', Recorded peer q (c.receive header) h' ∧ h'.pushed = h.pushed ∧
      h'.clocked = h.clocked := by
  refine ⟨h.receive header, ⟨?_, hc.high, hc.orderly.receive header, hc.wire⟩, rfl, rfl⟩
  show h.channel.receive header = c.receive header
  rw [hc.channel]

theorem push (hc : Recorded peer q c h) (ackData : List UInt8) :
    ∃ h', Recorded peer q (c.push ackData) h' ∧ h'.pushed = h.pushed ++ [ackData] ∧
      h'.clocked = h.clocked := by
  refine ⟨h.apply peer (.push ackData), ⟨?_, hc.high, hc.orderly.push ackData, hc.wire⟩, rfl, rfl⟩
  show h.channel.push ackData = c.push ackData
  rw [hc.channel]

end Recorded

/-! ## The records beside the listener

  The listener has two channels and so two records.  Each part of a pass advances them
  (`Advanced`): what it pushes and what it sends are what the pass itself shows on either
  priority, frames and instants. -/

namespace AlarmListener

/-- Both channels have their record. -/
def Kept (peer : Peer) (l : AlarmListener) (h : Bool → History) : Prop :=
  ∀ q, Recorded peer q (l.channel q) (h q)

/-- The AlarmAcks a pass owes on a priority. -/
def owed (q : Bool) (p : ListenerPass) : List (List UInt8) :=
  (p.alarm.toList.filter fun alarm => alarm.isHighPriority = q).map buildAlarmAck

/-- The AlarmAcks a pass sends on a priority, each with the clock as it was read for it: at the head
    of the pass, or when the AlarmAck of the pass was queued. -/
def acksOn (q : Bool) (i : ListenerInput) (p : ListenerPass) : List (Nat × List UInt8) :=
  (p.serviced.filter fun f => frameHigh f = q).map (i.now, ·) ++
    (p.acks.filter fun f => frameHigh f = q).map (i.accepted, ·)

/-- The records after some operations that pushed and sent these. -/
structure Advanced (peer : Peer) (h : Bool → History) (l' : AlarmListener)
    (pushed : Bool → List (List UInt8)) (sent : Bool → List (Nat × List UInt8))
    (h' : Bool → History) : Prop where
  kept : Kept peer l' h'
  pushed : ∀ q, (h' q).pushed = (h q).pushed ++ pushed q
  clocked : ∀ q, (h' q).clocked = (h q).clocked ++ sent q

theorem new_kept (peer : Peer) : Kept peer .new History.new := by
  intro q
  cases q with
  | true => exact new_recorded peer true
  | false => exact new_recorded peer false

/-- Of frames that were sent on one priority, those of a priority. -/
theorem filter_high {frames : List (List UInt8)} {p : Bool} (h : ∀ f ∈ frames, frameHigh f = p)
    (q : Bool) : frames.filter (fun f => frameHigh f = q) = if p = q then frames else [] := by
  by_cases hpq : p = q
  · rw [if_pos hpq]
    refine List.filter_eq_self.mpr ?_
    intro f hf
    simp [h f hf, hpq]
  · rw [if_neg hpq]
    refine List.filter_eq_nil_iff.mpr ?_
    intro f hf
    simp [h f hf, hpq]

variable {peer : Peer} {l : AlarmListener} {h : Bool → History}

theorem Kept.service_data (hl : Kept peer l h) (now : Nat) (q : Bool) :
    ∀ f ∈ ((l.channel q).service peer now).2, DataOn q f :=
  AlarmChannel.service_data (hl q).high (fun _ hp => (hl q).pending_data hp) peer now

theorem Kept.service (hl : Kept peer l h) (now : Nat) :
    ∃ h', Advanced peer h (l.service peer now).1 (fun _ => [])
      (fun q => ((l.service peer now).2.filter fun f => frameHigh f = q).map (now, ·)) h' := by
  choose h' hrec hpushed hclocked using fun q => (hl q).service now
  refine ⟨h', fun q => ?_, fun q => ?_, fun q => ?_⟩
  · rw [service_channel]
    exact hrec q
  · rw [hpushed, List.append_nil]
  · have hlow := filter_high (fun f hf => (hl.service_data now false f hf).high) q
    have hhigh := filter_high (fun f hf => (hl.service_data now true f hf).high) q
    have hboth : ((l.service peer now).2.filter fun f => frameHigh f = q) =
        ((l.channel q).service peer now).2 := by
      show ((l.low.service peer now).2 ++ (l.high.service peer now).2).filter _ = _
      simp only [channel] at hlow hhigh
      rw [List.filter_append, hlow, hhigh]
      cases q with
      | true => rfl
      | false => exact List.append_nil _
    rw [hclocked, hboth]

/-- One channel goes on, the other stays. -/
theorem Kept.update (hl : Kept peer l h) {p : Bool} {c : AlarmChannel} {r : History}
    {pushed : List (List UInt8)} {sent : List (Nat × List UInt8)} (hc : Recorded peer p c r)
    (hpushed : r.pushed = (h p).pushed ++ pushed)
    (hclocked : r.clocked = (h p).clocked ++ sent) :
    Advanced peer h (l.update c p) (fun q => if p = q then pushed else [])
      (fun q => if p = q then sent else []) (fun q => if p = q then r else h q) := by
  refine ⟨fun q => ?_, fun q => ?_, fun q => ?_⟩
  · by_cases hq : p = q
    · subst hq
      rw [channel_update_same, if_pos rfl]
      exact hc
    · rw [channel_update_other (fun heq => hq heq.symm), if_neg hq]
      exact hl q
  · by_cases hq : p = q
    · subst hq
      simp only [if_pos]
      exact hpushed
    · simp only [if_neg hq, List.append_nil]
  · by_cases hq : p = q
    · subst hq
      simp only [if_pos]
      exact hclocked
    · simp only [if_neg hq, List.append_nil]

theorem Kept.receive (hl : Kept peer l h) (pdu : Pdu) :
    ∃ h', Advanced peer h
      (l.update ((l.channel pdu.highPriority).receive pdu.header) pdu.highPriority)
      (fun _ => []) (fun _ => []) h' := by
  obtain ⟨r, hrec, hpushed, hclocked⟩ := (hl pdu.highPriority).receive pdu.header
  have hup := hl.update hrec (hpushed.trans (List.append_nil _).symm)
    (hclocked.trans (List.append_nil _).symm)
  simp only [ite_self] at hup
  exact ⟨_, hup⟩

theorem Kept.acknowledge (hl : Kept peer l h) (accepted : Nat) (alarm : AlarmNotification) :
    ∃ h', Advanced peer h (l.acknowledge peer accepted alarm).1
      (fun q => if alarm.isHighPriority = q then [buildAlarmAck alarm] else [])
      (fun q => if alarm.isHighPriority = q
        then (l.acknowledge peer accepted alarm).2.map (accepted, ·) else [])
      h' := by
  obtain ⟨r, hrec, hpushed, hclocked⟩ := (hl alarm.isHighPriority).push (buildAlarmAck alarm)
  obtain ⟨r', hrec', hpushed', hclocked'⟩ := hrec.service accepted
  refine ⟨_, hl.update hrec' ?_ ?_⟩
  · rw [hpushed', hpushed]
  · rw [hclocked', hclocked]
    rfl

/-- The AlarmAcks of an alarm are sent on its own priority. -/
theorem Kept.acknowledge_data (hl : Kept peer l h) (accepted : Nat) (alarm : AlarmNotification) :
    ∀ f ∈ (l.acknowledge peer accepted alarm).2, DataOn alarm.isHighPriority f :=
  AlarmChannel.service_data (c := (l.channel alarm.isHighPriority).push (buildAlarmAck alarm))
    (hl alarm.isHighPriority).high (fun _ hp => (hl alarm.isHighPriority).pending_data hp) peer
    accepted

/-- What one pass pushes and sends. -/
theorem Passed.kept {i : ListenerInput} {p : ListenerPass} (hp : l.Passed peer i p)
    (hl : Kept peer l h) :
    ∃ h', Advanced peer h p.listener (fun q => owed q p) (fun q => acksOn q i p) h' := by
  obtain ⟨h₁, hserviced⟩ := Kept.service hl i.now
  -- nothing owed, nothing owed again, or one AlarmAck for the alarm delivered
  cases hp with
  | quiet hnone =>
    refine ⟨h₁, hserviced.kept, hserviced.pushed, fun q => ?_⟩
    rw [hserviced.clocked]
    simp [acksOn]
  | heard hsome hno =>
    rename_i pdu
    obtain ⟨h₂, hreceived⟩ := hserviced.kept.receive pdu
    refine ⟨h₂, hreceived.kept, fun q => ?_, fun q => ?_⟩
    · rw [hreceived.pushed, hserviced.pushed]
      simp [owed]
    · rw [hreceived.clocked, hserviced.clocked]
      simp [acksOn]
  | delivered hsome haccept halarm hl' =>
    rename_i pdu alarm l'
    obtain ⟨h₂, hreceived⟩ := hserviced.kept.receive pdu
    rw [← hl'] at hreceived
    obtain ⟨h₃, hacked⟩ := hreceived.kept.acknowledge i.accepted alarm
    refine ⟨h₃, hacked.kept, fun q => ?_, fun q => ?_⟩
    · rw [hacked.pushed, hreceived.pushed, hserviced.pushed]
      by_cases hq : alarm.isHighPriority = q
      · simp [owed, hq]
      · simp [owed, hq]
    · have hhigh := filter_high
        (fun f hf => (hreceived.kept.acknowledge_data i.accepted alarm f hf).high) q
      rw [hacked.clocked, hreceived.clocked, hserviced.clocked]
      simp only [acksOn, hhigh, List.append_nil, List.append_assoc, apply_ite (List.map _),
        List.map_nil]

theorem Ran.kept {l : AlarmListener} {is : List ListenerInput} {ps : List ListenerPass}
    (hran : Ran peer l is ps) {h : Bool → History} (hl : Kept peer l h) :
    ∃ h', Advanced peer h (l.after ps) (fun q => ps.flatMap (owed q))
      (fun q => (is.zip ps).flatMap fun x => acksOn q x.1 x.2) h' := by
  -- on the run: a pass that fails is the last one, with nothing behind it
  induction hran generalizing h with
  | nil l => exact ⟨h, hl, fun q => (List.append_nil _).symm, fun q => (List.append_nil _).symm⟩
  | last hp herr =>
    obtain ⟨h', hpass⟩ := hp.kept hl
    refine ⟨h', hpass.kept, fun q => ?_, fun q => ?_⟩
    · rw [hpass.pushed]
      simp
    · rw [hpass.clocked]
      simp
  | @cons l i is p ps hp hok hrest ih =>
    obtain ⟨h₁, hpass⟩ := hp.kept hl
    obtain ⟨h₂, hlater⟩ := ih hpass.kept
    have hafter : l.after (p :: ps) = p.listener.after ps := by
      unfold after
      cases ps with
      | nil => rfl
      | cons p' ps => rfl
    refine ⟨h₂, ?_, fun q => ?_, fun q => ?_⟩
    · rw [hafter]
      exact hlater.kept
    · rw [hlater.pushed, hpass.pushed, List.append_assoc, List.flatMap_cons]
    · rw [hlater.clocked, hpass.clocked, List.append_assoc, List.zip_cons_cons, List.flatMap_cons]

/-- **Every delivered alarm is owed one AlarmAck.**  In every run of the listener, on each priority:
    the DATA frames sent, each at the instant its pass read the clock for it, are transmissions of
    which the first ones carry, in order, the AlarmAcks of the alarms of this block type that the
    callbacks were given, and the rest of these are still queued; every further transmission repeats
    the frame before it, the retransmission interval later by those instants at the earliest; and
    none is sent more than once and the configured retries. -/
theorem delivered_alarms_acked (peer : Peer) (is : List ListenerInput) :
    ∃ ps, run peer .new is = .ok ps ∧ ∀ q, ∃ h : History,
      h.clocked = ((is.zip ps).flatMap fun x => acksOn q x.1 x.2) ∧
        h.firsts ++ ((after .new ps).channel q).queued = ps.flatMap (owed q) ∧
        h.sent.IsChain (Follows peer) ∧
        ∀ k, h.copies k ≤ 1 + peer.endpoint.rtaRetries.toNat := by
  obtain ⟨ps, hrun, hran⟩ := run_returns peer is .new
  obtain ⟨h, hkept⟩ := hran.kept (new_kept peer)
  refine ⟨ps, hrun, fun q => ⟨h q, hkept.clocked q, ?_, ?_, ?_⟩⟩
  · have hpushed : (h q).pushed = ps.flatMap (owed q) := hkept.pushed q
    have ho := (hkept.kept q).orderly
    rw [← (hkept.kept q).channel, ho.firsts, ho.queue, List.take_append_drop, hpushed]
  · exact (hkept.kept q).orderly.chain
  · exact (hkept.kept q).orderly.copies

end AlarmListener

end Profinet.Rta
