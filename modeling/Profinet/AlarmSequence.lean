/-
  ALARM SEQUENCE: the numbers of our AlarmAcks, and what the channel holds pending.

  The number advances when the device acknowledges; the window becomes free when the device
  acknowledges by an ACK PDU, or when the retries are used up.  The two part in both directions:

      given up, not acknowledged     the next AlarmAck bears the number of the one given up
      acknowledged within a DATA PDU   the AlarmAck stays pending, under a number of the past
-/
import Profinet.AlarmQueue

namespace Profinet.Rta

/-! ## The number of every frame sent

  The number of a frame is fixed when it is sent first, and a retransmission repeats it.
  `Numbered` ties the numbers of the record to the acknowledgments in it, and that is what tells
  when two AlarmAcks bear different ones. -/

namespace History

/-- The counter stands where the acknowledgments put it, and every frame bears the number that was
    current when its AlarmAck was first sent. -/
structure Numbered (h : History) : Prop where
  send : h.channel.seq.sendSeqNum = rtaSeq h.acks
  sentAt : h.sentAt ≤ h.acks
  pending : ∀ p, h.channel.pending = some p → frameSeq p.frame = rtaSeq h.sentAt
  sent : ∀ t ∈ h.sent, frameSeq t.frame = rtaSeq t.acks ∧ t.acks ≤ h.sentAt
  order : h.sent.IsChain fun t u => t.acks ≤ u.acks

theorem numbered_new (highPriority : Bool) : (new highPriority).Numbered := by
  refine ⟨rfl, Nat.le_refl _, fun p hp => ?_, fun t ht => ?_, .nil⟩
  · cases hp
  · cases ht

theorem Numbered.receive {h : History} (hn : h.Numbered) (pdu : RtaHeader) :
    (h.receive pdu).Numbered := by
  have hsend : (h.receive pdu).channel.seq.sendSeqNum = rtaSeq (h.receive pdu).acks := by
    show (h.channel.seq.onPdu pdu).2.sendSeqNum = rtaSeq (h.acks + _)
    rw [h.channel.seq.onPdu_send pdu]
    split
    · rw [hn.send, succ_rtaSeq]
    · exact hn.send
  refine ⟨hsend, Nat.le_add_right_of_le hn.sentAt, fun p hp => ?_, hn.sent, hn.order⟩
  have hpending := h.channel.receive_pending pdu
  split at hpending
  · cases hpending.symm.trans hp
  · exact hn.pending p (hpending.symm.trans hp)

theorem Numbered.retransmit {peer : Peer} {h : History} (hn : h.Numbered)
    (ho : h.Orderly peer) (now : Nat) : (h.retransmit peer now).Numbered := by
  rcases h.channel.retransmit_cases peer now with
    hsame | ⟨p, hp, -, -, hagain⟩ | ⟨p, hp, -, -, hgone⟩
  · unfold History.retransmit
    rw [hsame]
    refine ⟨hn.send, hn.sentAt, hn.pending, ?_, ?_⟩
    · simpa using hn.sent
    · simpa using hn.order
  · obtain ⟨t, ht, hframe, -, -⟩ := ho.pending p hp
    obtain ⟨-, hacks⟩ := hn.sent t (List.mem_of_getLast? ht)
    unfold History.retransmit
    rw [hagain]
    refine ⟨hn.send, hn.sentAt, fun q hq => ?_,
      History.forall_mem_snoc hn.sent ⟨hn.pending p hp, Nat.le_refl _⟩, ?_⟩
    · cases hq
      exact hn.pending p hp
    · refine isChain_snoc hn.order ?_
      intro y hy
      exact (hn.sent y (List.mem_of_getLast? hy)).2
  · unfold History.retransmit
    rw [hgone]
    refine ⟨hn.send, hn.sentAt, fun q hq => ?_, ?_, ?_⟩
    · cases hq
    · simpa using hn.sent
    · simpa using hn.order

theorem Numbered.sendNext {peer : Peer} {h : History} (hn : h.Numbered) (now : Nat) :
    (h.sendNext peer now).Numbered := by
  rcases h.channel.sendNext_cases peer now with
    ⟨hsame, -⟩ | ⟨ackData, queued, -, -, hsend⟩
  · unfold History.sendNext
    rw [hsame]
    exact ⟨hn.send, hn.sentAt, hn.pending, hn.sent, hn.order⟩
  · have hseq : frameSeq (h.channel.nextFrame peer ackData) = rtaSeq h.acks :=
      (buildLayer2AckFrame_fields _ _ _ _ _ _).1.trans hn.send
    unfold History.sendNext
    rw [hsend]
    refine ⟨hn.send, Nat.le_refl _, fun q hq => ?_,
      History.forall_mem_snoc (fun u hu => ?_) ⟨hseq, Nat.le_refl _⟩, ?_⟩
    · cases hq
      exact hseq
    · obtain ⟨hu1, hu2⟩ := hn.sent u hu
      exact ⟨hu1, Nat.le_trans hu2 hn.sentAt⟩
    · refine isChain_snoc hn.order ?_
      intro y hy
      exact Nat.le_trans (hn.sent y (List.mem_of_getLast? hy)).2 hn.sentAt

theorem Numbered.run {peer : Peer} {h : History} (hn : h.Numbered) (ho : h.Orderly peer)
    (ops : List ChannelOp) : (h.run peer ops).Numbered := by
  induction ops generalizing h with
  | nil => exact hn
  | cons op ops ih =>
    cases op with
    | push ackData =>
      exact ih ⟨hn.send, hn.sentAt, hn.pending, hn.sent, hn.order⟩ (ho.push ackData)
    | receive pdu => exact ih (hn.receive pdu) (ho.receive pdu)
    | service now =>
      exact ih ((hn.retransmit ho now).sendNext now) ((ho.retransmit now).sendNext now)

/-- No two DATA PDUs in a row carry different payloads under one number. -/
def DistinctNumbers (h : History) : Prop :=
  h.sent.IsChain fun t u =>
    framePayload t.frame ≠ framePayload u.frame → frameSeq t.frame ≠ frameSeq u.frame

/-- Between the first transmissions of two AlarmAcks of different payloads, one sent right after
    the other, the device acknowledged something, and, the very first number apart, not just as
    often as the numbers take to come round. -/
def Acknowledged (h : History) : Prop :=
  h.sent.IsChain fun t u => framePayload t.frame ≠ framePayload u.frame →
    t.acks < u.acks ∧ (t.acks = 0 ∨ ¬ 0x8000 ∣ u.acks - t.acks)

end History

/-- **When distinct AlarmAcks bear distinct numbers.**  In every run of a channel, two different
    payloads sent in a row bear different numbers exactly when the device's acknowledgments in
    between have moved the counter on. -/
theorem alarm_ack_numbers (peer : Peer) (highPriority : Bool) (ops : List ChannelOp) :
    ((History.new highPriority).run peer ops).DistinctNumbers ↔
      ((History.new highPriority).run peer ops).Acknowledged := by
  have hn := (History.numbered_new highPriority).run (History.orderly_new peer highPriority) ops
  generalize (History.new highPriority).run peer ops = h at hn
  unfold History.DistinctNumbers History.Acknowledged
  rw [List.isChain_iff_forall_rel_of_append_cons_cons,
    List.isChain_iff_forall_rel_of_append_cons_cons]
  have horder := List.isChain_iff_forall_rel_of_append_cons_cons.mp hn.order
  have hnumber : ∀ {t u before after}, h.sent = before ++ t :: u :: after →
      (frameSeq t.frame ≠ frameSeq u.frame ↔
        t.acks < u.acks ∧ (t.acks = 0 ∨ ¬ 0x8000 ∣ u.acks - t.acks)) := by
    intro t u before after hsplit
    have hle := horder hsplit
    have ht := (hn.sent t (by rw [hsplit]; simp)).1
    have hu := (hn.sent u (by rw [hsplit]; simp)).1
    obtain ⟨d, hd⟩ := Nat.exists_eq_add_of_le hle
    rw [ht, hu, hd, Ne, rtaSeq_eq_iff]
    omega
  exact ⟨fun hall t u before after hsplit hne => (hnumber hsplit).mp (hall hsplit hne),
    fun hall t u before after hsplit hne => (hnumber hsplit).mpr (hall hsplit hne)⟩

/-- A device that gets no second chance: no retries, an interval of one nanosecond. -/
def benchPeer : Peer := ⟨⟨0x0001, 0x0002, ⟨[2, 0, 0, 0, 1, 1], rfl⟩, 0⟩, ⟨[2, 0, 0, 0, 1, 2], rfl⟩, 1⟩

/-- The first AlarmAck is given up without an acknowledgment, and the second is sent under its
    number. -/
theorem alarm_ack_number_reused :
    ¬ ((History.new false).run benchPeer
      [.push [1], .push [2], .service 0, .service 1]).DistinctNumbers := by
  intro h
  have hpair := List.isChain_pair.mp h
  exact hpair (by decide) (by decide)

/-! ## The pending AlarmAck and the counter

  The counter advances with every acknowledgment, the window becomes free with an ACK PDU or when
  the retries are used up.  A DATA PDU that acknowledges along the way does the first and not the
  second, and nothing else brings them out of step. -/

namespace AlarmChannel

/-- Operations, one after the other. -/
def run (peer : Peer) (c : AlarmChannel) (ops : List ChannelOp) : AlarmChannel :=
  ops.foldl (apply peer) c

theorem run_snoc (peer : Peer) (c : AlarmChannel) (ops : List ChannelOp) (op : ChannelOp) :
    c.run peer (ops ++ [op]) = (c.run peer ops).apply peer op := by
  unfold run
  rw [List.foldl_append]
  rfl

/-- A pending AlarmAck bears the channel's current number. -/
def InStep (c : AlarmChannel) : Prop :=
  ∀ p, c.pending = some p → frameSeq p.frame = c.seq.sendSeqNum

/-- The PDU is no in-sequence DATA PDU that acknowledges a pending AlarmAck along the way. -/
def Unpiggybacked (c : AlarmChannel) (op : ChannelOp) : Prop :=
  ∀ pdu, op = .receive pdu → c.pending.isSome → ¬ c.seq.Piggyback pdu

theorem InStep.service {c : AlarmChannel} (h : c.InStep) (peer : Peer) (now : Nat) :
    (c.service peer now).1.InStep := by
  have hsendNext : ∀ {c : AlarmChannel}, c.InStep → (c.sendNext peer now).1.InStep := by
    intro c h
    rcases c.sendNext_cases peer now with ⟨hsame, -⟩ | ⟨ackData, queued, -, -, hsend⟩
    · rw [hsame]
      exact h
    · rw [hsend]
      intro p hp
      cases hp
      exact (buildLayer2AckFrame_fields _ _ _ _ _ _).1
  show ((c.retransmit peer now).1.sendNext peer now).1.InStep
  apply hsendNext
  rcases c.retransmit_cases peer now with
    hsame | ⟨p, hp, -, -, hagain⟩ | ⟨p, hp, -, -, hgone⟩
  · rw [hsame]
    exact h
  · rw [hagain]
    intro q hq
    cases hq
    exact h p hp
  · rw [hgone]
    intro q hq
    cases hq

theorem InStep.receive {c : AlarmChannel} (h : c.InStep) {pdu : RtaHeader}
    (hno : c.pending.isSome → ¬ c.seq.Piggyback pdu) : (c.receive pdu).InStep := by
  intro p hp
  have hpending := c.receive_pending pdu
  split at hpending
  · cases hpending.symm.trans hp
  · rename_i hack
    have hsome : c.pending = some p := hpending.symm.trans hp
    have hsame : (c.seq.onPdu pdu).2.sendSeqNum = c.seq.sendSeqNum := by
      rw [c.seq.onPdu_send pdu, if_neg]
      rintro (hyes | hpiggy)
      · exact hack hyes
      · exact hno (by rw [hsome]; rfl) hpiggy
    show frameSeq p.frame = (c.seq.onPdu pdu).2.sendSeqNum
    rw [hsame]
    exact h p hsome

/-- The counter moves on, the pending AlarmAck stays: they are out of step. -/
theorem not_inStep_of_piggyback {c : AlarmChannel} (h : c.InStep) (hsome : c.pending.isSome)
    {pdu : RtaHeader} (hpiggy : c.seq.Piggyback pdu) : ¬ (c.receive pdu).InStep := by
  obtain ⟨p, hp⟩ := Option.isSome_iff_exists.mp hsome
  have hnot : ¬ c.seq.AckOf pdu := fun hack =>
    absurd (hpiggy.1.2.1.symm.trans hack.2.1) (by decide)
  intro hstep
  have hpending := c.receive_pending pdu
  rw [if_neg hnot] at hpending
  have hnext : (c.receive pdu).seq.sendSeqNum = RtaSequencer.succ c.seq.sendSeqNum := by
    show (c.seq.onPdu pdu).2.sendSeqNum = _
    rw [c.seq.onPdu_send pdu, if_pos (.inr hpiggy)]
  have hsame := hstep p (hpending.trans hp)
  rw [h p hp, hnext] at hsame
  exact succ_ne _ hsame.symm

theorem inStep_iff (peer : Peer) (highPriority : Bool) (ops : List ChannelOp) :
    (∀ before after, ops = before ++ after → ((new highPriority).run peer before).InStep) ↔
      ∀ before op after, ops = before ++ op :: after →
        ((new highPriority).run peer before).Unpiggybacked op := by
  constructor
  · intro hall before op after hops pdu hop hsome hpiggy
    subst hop
    have hbefore := hall before _ hops
    have hafter := hall (before ++ [.receive pdu]) after (by rw [hops]; simp)
    rw [run_snoc] at hafter
    exact not_inStep_of_piggyback hbefore hsome hpiggy hafter
  · intro hall before
    induction before using List.reverseRecOn with
    | nil =>
      intro _ _ p hp
      cases hp
    | append_singleton before op ih =>
      intro after hops
      rw [List.append_assoc, List.singleton_append] at hops
      have hstep := ih _ hops
      have hop := hall before op after hops
      rw [run_snoc]
      cases op with
      | push ackData => exact hstep
      | service now => exact hstep.service peer now
      | receive pdu => exact hstep.receive (hop pdu rfl)

/-- Once the window is free, a service call sends the next queued AlarmAck and nothing else. -/
theorem service_free {c : AlarmChannel} (h : c.pending = none) (peer : Peer) (now : Nat) :
    (c.service peer now).2 = (c.queued.head?.map (c.nextFrame peer)).toList := by
  unfold service retransmit sendNext
  rw [h]
  cases hq : c.queued with
  | nil =>
    simp only [h, hq]
    rfl
  | cons ackData queued =>
    simp only [h, hq]
    rfl

end AlarmChannel

/-- **When an AlarmAck and its acknowledgment meet.**  A pending AlarmAck bears the current number
    in every state of a run exactly when the device never acknowledges a pending one within a DATA
    PDU.  In such a run the acknowledgment of a pending AlarmAck frees the window, and the next
    service call sends the next queued payload instead of another copy. -/
theorem alarm_ack_in_step (peer : Peer) (highPriority : Bool) (ops : List ChannelOp) :
    ((∀ before after, ops = before ++ after →
        ((AlarmChannel.new highPriority).run peer before).InStep) ↔
      ∀ before op after, ops = before ++ op :: after →
        ((AlarmChannel.new highPriority).run peer before).Unpiggybacked op) ∧
    ((∀ before op after, ops = before ++ op :: after →
        ((AlarmChannel.new highPriority).run peer before).Unpiggybacked op) →
      ∀ before pdu after, ops = before ++ .receive pdu :: after →
        let c := (AlarmChannel.new highPriority).run peer before
        (∃ p, c.pending = some p ∧ (c.seq.onPdu pdu).2.sendSeqNum ≠ frameSeq p.frame) →
        (c.receive pdu).pending = none ∧ (c.receive pdu).queued = c.queued ∧
        ∀ now, ((c.receive pdu).service peer now).2 =
          (c.queued.head?.map ((c.receive pdu).nextFrame peer)).toList) := by
  refine ⟨AlarmChannel.inStep_iff peer highPriority ops, ?_⟩
  intro hall before pdu after hops c
  rintro ⟨p, hp, hmoved⟩
  -- in step, the pending AlarmAck has the number that was sent last
  have hstep := (AlarmChannel.inStep_iff peer highPriority ops).mpr hall before _ hops
  have hack : c.seq.AckOf pdu := by
    by_contra hnot
    apply hmoved
    -- our number moves by an acknowledgment only, and it was not piggybacked
    rw [c.seq.onPdu_send pdu, if_neg]
    · exact (hstep p hp).symm
    · rintro (hyes | hpiggy)
      · exact hnot hyes
      · exact hall before _ after hops pdu rfl (Option.isSome_iff_exists.mpr ⟨p, hp⟩) hpiggy
  have hfree : (c.receive pdu).pending = none := by
    rw [c.receive_pending pdu, if_pos hack]
  exact ⟨hfree, rfl, fun now => AlarmChannel.service_free hfree peer now⟩

/-- The first alarm of the device, which carries the acknowledgment of our first AlarmAck along. -/
def benchPiggyback : RtaHeader := ⟨0x0001, 0x0002, 0x11, 0x11, 0xFFFF, 0xFFFF, 0⟩

/-- The acknowledged AlarmAck stays pending under a number of the past. -/
theorem alarm_ack_out_of_step :
    ¬ ((AlarmChannel.new false).run benchPeer
      [.push [1], .service 0, .receive benchPiggyback]).InStep := by
  intro h
  have hstale := h _ rfl
  exact absurd hstale (by decide)

end Profinet.Rta
