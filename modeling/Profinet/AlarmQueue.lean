/-
  ALARM QUEUE: what becomes of the AlarmAcks queued on a channel.

  `History` runs a channel and writes down beside it what went in and what went out: the payloads
  pushed, the frames sent, how many AlarmAcks were started and how many of those are settled,
  acknowledged or given up.  The record never feeds back (`apply_channel`, `apply_sent`).

      pushed   p0 p1 p2 p3 ...
      sent     p0 p0 p1 p2 p2 p2 ...        one AlarmAck at a time, in order, copies together
-/
import Profinet.AlarmChannel

namespace Profinet.Rta

/-- What happens to one channel. -/
inductive ChannelOp where
  | push (ackData : List UInt8)
  | service (now : Nat)
  | receive (h : RtaHeader)
  deriving DecidableEq, Repr

/-- One operation on a channel. -/
def AlarmChannel.apply (peer : Peer) (c : AlarmChannel) : ChannelOp → AlarmChannel
  | .push ackData => c.push ackData
  | .service now => (c.service peer now).1
  | .receive h => c.receive h

/-- A DATA PDU sent: for which AlarmAck in the order of the queue, whether for the first time, how
    many acknowledgments the channel had seen when that one was first sent, and when. -/
structure Transmission where
  index : Nat
  first : Bool
  acks : Nat
  frame : List UInt8
  time : Nat
  deriving DecidableEq, Repr

/-- A channel and what happened to it. -/
structure History where
  channel : AlarmChannel
  pushed : List (List UInt8)
  started : Nat
  settled : Nat
  acks : Nat
  /-- `acks` when the last AlarmAck was first sent. -/
  sentAt : Nat
  sent : List Transmission
  deriving DecidableEq, Repr

/-- One AlarmAck is settled when the window becomes free. -/
def freed (c c' : AlarmChannel) : Nat := if c.pending.isSome ∧ c'.pending.isNone then 1 else 0

namespace History

/-- A new channel, nothing done yet. -/
def new (highPriority : Bool) : History := ⟨.new highPriority, [], 0, 0, 0, 0, []⟩

/-- The first half of `service`, recorded. -/
def retransmit (peer : Peer) (h : History) (now : Nat) : History :=
  let (channel, frame) := h.channel.retransmit peer now
  { h with
    channel
    settled := h.settled + freed h.channel channel
    sent := h.sent ++ frame.toList.map fun f => ⟨h.started - 1, false, h.sentAt, f, now⟩ }

/-- The second half of `service`, recorded. -/
def sendNext (peer : Peer) (h : History) (now : Nat) : History :=
  let (channel, frame) := h.channel.sendNext peer now
  match frame with
  | none => { h with channel }
  | some f =>
    { h with
      channel
      started := h.started + 1
      sentAt := h.acks
      sent := h.sent ++ [⟨h.started, true, h.acks, f, now⟩] }

/-- A received PDU, recorded. -/
def receive (h : History) (pdu : RtaHeader) : History :=
  let channel := h.channel.receive pdu
  { h with
    channel
    settled := h.settled + freed h.channel channel
    acks := h.acks +
      if h.channel.seq.AckOf pdu ∨ h.channel.seq.Piggyback pdu then 1 else 0 }

/-- One operation, recorded. -/
def apply (peer : Peer) (h : History) : ChannelOp → History
  | .push ackData => { h with channel := h.channel.push ackData, pushed := h.pushed ++ [ackData] }
  | .service now => (h.retransmit peer now).sendNext peer now
  | .receive pdu => h.receive pdu

/-- Operations, one after the other. -/
def run (peer : Peer) (h : History) (ops : List ChannelOp) : History := ops.foldl (apply peer) h

/-- The record runs beside the channel. -/
theorem apply_channel (peer : Peer) (h : History) (op : ChannelOp) :
    (h.apply peer op).channel = h.channel.apply peer op := by
  cases op with
  | push ackData => rfl
  | receive pdu => rfl
  | service now =>
    show ((h.retransmit peer now).sendNext peer now).channel = _
    unfold sendNext
    simp only
    split
    · rfl
    · rfl

/-- What was sent, each frame with the instant of the call that sent it. -/
def clocked (h : History) : List (Nat × List UInt8) := h.sent.map fun t => (t.time, t.frame)

/-- What it writes down as sent, and when, is what the channel sent in that call. -/
theorem apply_sent (peer : Peer) (h : History) (now : Nat) :
    (h.apply peer (.service now)).clocked =
      h.clocked ++ (h.channel.service peer now).2.map (now, ·) := by
  have hagain : (h.retransmit peer now).clocked =
      h.clocked ++ (h.channel.retransmit peer now).2.toList.map (now, ·) := by
    show (h.sent ++ _).map _ = _
    rw [List.map_append, List.map_map]
    rfl
  have hnext : ((h.retransmit peer now).sendNext peer now).clocked =
      (h.retransmit peer now).clocked ++
        ((h.retransmit peer now).channel.sendNext peer now).2.toList.map (now, ·) := by
    unfold sendNext clocked
    simp only
    split
    · rename_i hnone
      rw [hnone]
      simp
    · rename_i f hsome
      rw [hsome, List.map_append]
      rfl
  show ((h.retransmit peer now).sendNext peer now).clocked = _
  rw [hnext, hagain, List.append_assoc, ← List.map_append]
  rfl

end History

/-! ## What one call does

  The record beside the channel is what the channel sends and keeps; reading it back gives the
  channel. -/

/-- Everything the first half of `service` can do. -/
theorem AlarmChannel.retransmit_cases (c : AlarmChannel) (peer : Peer) (now : Nat) :
    c.retransmit peer now = (c, none) ∨
      (∃ p, c.pending = some p ∧ p.due ≤ now ∧ 0 < p.retriesLeft ∧
        c.retransmit peer now =
          ({ c with pending := some ⟨p.frame, now + peer.retransmitAfter, p.retriesLeft - 1⟩ },
            some p.frame)) ∨
      ∃ p, c.pending = some p ∧ p.due ≤ now ∧ p.retriesLeft = 0 ∧
        c.retransmit peer now = ({ c with pending := none }, none) := by
  unfold retransmit
  cases hp : c.pending with
  | none => exact .inl rfl
  | some p =>
    by_cases hdue : p.due ≤ now
    · by_cases hleft : 0 < p.retriesLeft
      · exact .inr (.inl ⟨p, rfl, hdue, hleft, by simp only [if_pos hdue, if_pos hleft]⟩)
      · exact .inr (.inr ⟨p, rfl, hdue, by omega, by simp only [if_pos hdue, if_neg hleft]⟩)
    · exact .inl (by simp only [if_neg hdue])

/-- The frame of the next queued payload. -/
def AlarmChannel.nextFrame (c : AlarmChannel) (peer : Peer) (ackData : List UInt8) : List UInt8 :=
  buildLayer2AckFrame peer.endpoint peer.controllerMac c.seq.sendSeqNum c.seq.expSeqNumO ackData
    c.highPriority

/-- Everything the second half can do. -/
theorem AlarmChannel.sendNext_cases (c : AlarmChannel) (peer : Peer) (now : Nat) :
    (c.sendNext peer now = (c, none) ∧ (c.pending.isSome ∨ c.queued = [])) ∨
      ∃ ackData queued, c.pending = none ∧ c.queued = ackData :: queued ∧
        c.sendNext peer now =
          ({ c with
              queued
              pending := some ⟨c.nextFrame peer ackData, now + peer.retransmitAfter,
                peer.endpoint.rtaRetries.toNat⟩ },
            some (c.nextFrame peer ackData)) := by
  unfold sendNext
  cases hp : c.pending with
  | some p => exact .inl ⟨rfl, .inl rfl⟩
  | none =>
    cases hq : c.queued with
    | nil => exact .inl ⟨rfl, .inr rfl⟩
    | cons ackData queued => exact .inr ⟨ackData, queued, rfl, rfl, rfl⟩

/-- What a PDU does to the window. -/
theorem AlarmChannel.receive_pending (c : AlarmChannel) (pdu : RtaHeader) :
    (c.receive pdu).pending = if c.seq.AckOf pdu then none else c.pending := by
  show (if (c.seq.onPdu pdu).1 = .ourDataAcked then none else c.pending) = _
  by_cases hack : c.seq.AckOf pdu
  · rw [if_pos hack, if_pos ((c.seq.onPdu_acked pdu).mpr hack)]
  · rw [if_neg hack, if_neg fun h => hack ((c.seq.onPdu_acked pdu).mp h)]

/-! ## The discipline of the queue

  `Orderly` is kept by every operation.  It speaks of the record only, so what follows from it is
  about what was sent. -/

/-- A transmission and the next one: the next AlarmAck for the first time, or a copy of the same
    frame after the retransmission interval. -/
def Follows (peer : Peer) (t u : Transmission) : Prop :=
  (u.first = true ∧ u.index = t.index + 1) ∨
    (u.first = false ∧ u.index = t.index ∧ u.frame = t.frame ∧
      t.time + peer.retransmitAfter ≤ u.time)

/-- How often an AlarmAck was transmitted. -/
def History.copies (h : History) (k : Nat) : Nat := h.sent.countP fun t => t.index = k

/-- The AlarmAcks transmitted for the first time, in order. -/
def History.firsts (h : History) : List (List UInt8) :=
  (h.sent.filter (·.first)).map fun t => framePayload t.frame

namespace History

/-- What holds of every history: the AlarmAcks go out in order, one at a time, and a bounded number
    of times. -/
structure Orderly (peer : Peer) (h : History) : Prop where
  /-- One AlarmAck is outstanding, or none. -/
  window : h.started = h.settled + if h.channel.pending.isSome then 1 else 0
  bound : h.started ≤ h.pushed.length
  queue : h.channel.queued = h.pushed.drop h.started
  firsts : h.firsts = h.pushed.take h.started
  payload : ∀ t ∈ h.sent, h.pushed[t.index]? = some (framePayload t.frame)
  below : ∀ t ∈ h.sent, t.index < h.started
  chain : h.sent.IsChain (Follows peer)
  last : ∀ t, h.sent.getLast? = some t → t.index + 1 = h.started
  pending : ∀ p, h.channel.pending = some p → ∃ t, h.sent.getLast? = some t ∧
    t.frame = p.frame ∧ p.due = t.time + peer.retransmitAfter ∧
    h.copies t.index + p.retriesLeft = 1 + peer.endpoint.rtaRetries.toNat
  copies : ∀ k, h.copies k ≤ 1 + peer.endpoint.rtaRetries.toNat

/-- A new history is orderly. -/
theorem orderly_new (peer : Peer) (highPriority : Bool) : (new highPriority).Orderly peer := by
  refine ⟨rfl, Nat.le_refl _, rfl, rfl, ?_, ?_, .nil, ?_, ?_, fun k => Nat.zero_le _⟩
  · intro t ht
    cases ht
  · intro t ht
    cases ht
  · intro t ht
    cases ht
  · intro p hp
    cases hp

/-- Nothing is settled while one is pending. -/
theorem freed_of_some {c c' : AlarmChannel} (h : c'.pending.isSome) : freed c c' = 0 := by
  obtain ⟨p, hp⟩ := Option.isSome_iff_exists.mp h
  unfold freed
  rw [hp]
  simp

/-- One is settled where the window becomes free. -/
theorem freed_of_freed {c c' : AlarmChannel} (h : c.pending.isSome) (h' : c'.pending = none) :
    freed c c' = 1 := by
  unfold freed
  rw [h, h']
  rfl

/-- Nothing is settled where none was pending. -/
theorem freed_of_none {c c' : AlarmChannel} (h : c.pending = none) : freed c c' = 0 := by
  unfold freed
  rw [h]
  simp

/-- A channel that frees its window settles the outstanding AlarmAck; one that was free already
    settles nothing. -/
theorem window_freed {c c' : AlarmChannel} {started settled : Nat}
    (h : started = settled + if c.pending.isSome then 1 else 0) (hfree : c'.pending = none) :
    started = settled + freed c c' + if c'.pending.isSome then 1 else 0 := by
  cases hp : c.pending with
  | none =>
    rw [hp] at h
    rw [freed_of_none hp, hfree]
    exact h
  | some p =>
    rw [hp] at h
    rw [freed_of_freed (by rw [hp]; rfl) hfree, hfree]
    exact h

/-- A queued AlarmAck keeps a history orderly. -/
theorem Orderly.push {peer : Peer} {h : History} (ho : h.Orderly peer) (ackData : List UInt8) :
    (h.apply peer (.push ackData)).Orderly peer := by
  have hbound := ho.bound
  refine ⟨ho.window, ?_, ?_, ?_, ?_, ho.below, ho.chain, ho.last, ho.pending, ho.copies⟩
  · show h.started ≤ (h.pushed ++ [ackData]).length
    rw [List.length_append]
    exact Nat.le_add_right_of_le hbound
  · show h.channel.queued ++ [ackData] = (h.pushed ++ [ackData]).drop h.started
    rw [ho.queue, List.drop_append_of_le_length hbound]
  · show h.firsts = (h.pushed ++ [ackData]).take h.started
    rw [ho.firsts, List.take_append_of_le_length hbound]
  · intro t ht
    have hlt := ho.below t ht
    show (h.pushed ++ [ackData])[t.index]? = _
    rw [List.getElem?_append_left (by omega)]
    exact ho.payload t ht

/-- A received PDU keeps a history orderly. -/
theorem Orderly.receive {peer : Peer} {h : History} (ho : h.Orderly peer) (pdu : RtaHeader) :
    (h.receive pdu).Orderly peer := by
  have hpending := h.channel.receive_pending pdu
  by_cases hack : h.channel.seq.AckOf pdu
  · rw [if_pos hack] at hpending
    refine ⟨window_freed ho.window hpending, ho.bound, ho.queue, ho.firsts, ho.payload, ho.below,
      ho.chain, ho.last, fun p hp => ?_, ho.copies⟩
    cases hpending.symm.trans hp
  · rw [if_neg hack] at hpending
    refine ⟨?_, ho.bound, ho.queue, ho.firsts, ho.payload, ho.below, ho.chain, ho.last,
      fun p hp => ho.pending p (hpending.symm.trans hp), ho.copies⟩
    show h.started = h.settled + freed h.channel (h.channel.receive pdu) +
      if (h.channel.receive pdu).pending.isSome then 1 else 0
    have hsame : freed h.channel (h.channel.receive pdu) = 0 := by
      unfold freed
      rw [hpending]
      cases h.channel.pending <;> simp
    rw [hsame, hpending]
    exact ho.window

/-- Appending a transmission to an orderly record. -/
theorem isChain_snoc {α : Type} {r : α → α → Prop} {l : List α} {x : α} (h : l.IsChain r)
    (hlast : ∀ y, l.getLast? = some y → r y x) : (l ++ [x]).IsChain r := by
  refine List.isChain_append.mpr ⟨h, List.isChain_singleton x, fun y hy z hz => ?_⟩
  rw [List.head?_singleton, Option.mem_some_iff] at hz
  subst hz
  exact hlast y hy

/-- One more transmission, among the copies of an AlarmAck. -/
theorem copies_snoc (l : List Transmission) (t : Transmission) (k : Nat) :
    (l ++ [t]).countP (fun u => u.index = k) =
      l.countP (fun u => u.index = k) + if t.index = k then 1 else 0 := by
  rw [List.countP_append, List.countP_singleton]
  simp

/-- One more transmission, among the first ones. -/
theorem firsts_snoc (l : List Transmission) (t : Transmission) :
    ((l ++ [t]).filter (·.first)).map (fun u => framePayload u.frame) =
      (l.filter (·.first)).map (fun u => framePayload u.frame) ++
        if t.first then [framePayload t.frame] else [] := by
  rw [List.filter_append, List.map_append]
  cases ht : t.first with
  | true => simp [ht]
  | false => simp [ht]

/-- A retransmission keeps a history orderly: it repeats the pending frame, or gives it up. -/
theorem Orderly.retransmit {peer : Peer} {h : History} (ho : h.Orderly peer) (now : Nat) :
    (h.retransmit peer now).Orderly peer := by
  rcases h.channel.retransmit_cases peer now with
    hsame | ⟨p, hp, hdue, hleft, hagain⟩ | ⟨p, hp, hdue, hleft, hgone⟩
  · have hh : h.retransmit peer now = h := by
      unfold History.retransmit
      rw [hsame]
      have hzero : freed h.channel h.channel = 0 := by
        unfold freed
        cases h.channel.pending <;> simp
      simp [hzero]
    rw [hh]
    exact ho
  · -- a copy of the pending frame
    obtain ⟨t, ht, hframe, hpdue, hcopies⟩ := ho.pending p hp
    have hindex : t.index + 1 = h.started := ho.last t ht
    have hmem : t ∈ h.sent := List.mem_of_getLast? ht
    have hh : h.retransmit peer now =
        { h with
          channel := { h.channel with
            pending := some ⟨p.frame, now + peer.retransmitAfter, p.retriesLeft - 1⟩ }
          sent := h.sent ++ [⟨t.index, false, h.sentAt, p.frame, now⟩] } := by
      unfold History.retransmit
      rw [hagain]
      simp only
      rw [freed_of_some rfl, ← hindex]
      rfl
    have hcount : ∀ k, (h.retransmit peer now).copies k =
        h.copies k + if t.index = k then 1 else 0 := by
      intro k
      rw [hh]
      exact copies_snoc h.sent _ k
    rw [hh] at hcount ⊢
    refine ⟨?_, ho.bound, ho.queue, ?_, ?_, ?_, ?_, ?_, ?_, ?_⟩
    · have hwindow := ho.window
      rw [hp] at hwindow
      exact hwindow
    · exact (firsts_snoc h.sent _).trans ((List.append_nil _).trans ho.firsts)
    · refine History.forall_mem_snoc ho.payload ?_
      rw [← hframe]
      exact ho.payload t hmem
    · exact History.forall_mem_snoc ho.below (ho.below t hmem)
    · refine isChain_snoc ho.chain ?_
      intro y hy
      cases ht.symm.trans hy
      exact .inr ⟨rfl, rfl, hframe.symm, by simp only; omega⟩
    · intro u hu
      rw [List.getLast?_concat] at hu
      cases hu
      exact hindex
    · intro q hq
      cases hq
      refine ⟨_, List.getLast?_concat, rfl, rfl, ?_⟩
      have hk := hcount t.index
      rw [if_pos rfl] at hk
      simp only at hk ⊢
      omega
    · intro k
      rw [hcount k]
      split
      · rename_i hk
        subst hk
        omega
      · exact ho.copies k
  · -- the window is free again
    have hh : h.retransmit peer now =
        { h with channel := { h.channel with pending := none }, settled := h.settled + 1 } := by
      unfold History.retransmit
      rw [hgone]
      simp only
      rw [freed_of_freed (by rw [hp]; rfl) rfl]
      simp
    rw [hh]
    refine ⟨?_, ho.bound, ho.queue, ho.firsts, ho.payload, ho.below, ho.chain, ho.last,
      fun q hq => ?_, ho.copies⟩
    · have hwindow := ho.window
      rw [hp] at hwindow
      exact hwindow
    · cases hq

/-- A first transmission keeps a history orderly: it takes the head of the queue. -/
theorem Orderly.sendNext {peer : Peer} {h : History} (ho : h.Orderly peer) (now : Nat) :
    (h.sendNext peer now).Orderly peer := by
  rcases h.channel.sendNext_cases peer now with
    ⟨hsame, -⟩ | ⟨ackData, queued, hp, hq, hsend⟩
  · have hh : h.sendNext peer now = h := by
      unfold History.sendNext
      rw [hsame]
    rw [hh]
    exact ho
  · have hh : h.sendNext peer now =
        { h with
          channel := { h.channel with
            queued
            pending := some ⟨h.channel.nextFrame peer ackData, now + peer.retransmitAfter,
              peer.endpoint.rtaRetries.toNat⟩ }
          started := h.started + 1
          sentAt := h.acks
          sent := h.sent ++
            [⟨h.started, true, h.acks, h.channel.nextFrame peer ackData, now⟩] } := by
      unfold History.sendNext
      rw [hsend]
    have hpayload : framePayload (h.channel.nextFrame peer ackData) = ackData :=
      (buildLayer2AckFrame_fields _ _ _ _ _ _).2
    -- the head of the queue is the payload pushed as number `started`
    have hqueue := ho.queue
    rw [hq] at hqueue
    have hlt : h.started < h.pushed.length := by
      by_contra hge
      rw [List.drop_eq_nil_of_le (by omega)] at hqueue
      cases hqueue
    rw [List.drop_eq_getElem_cons hlt] at hqueue
    injection hqueue with hhead hrest
    have hget : h.pushed[h.started]? = some ackData := by
      rw [List.getElem?_eq_getElem hlt, hhead]
    have hfresh : h.copies h.started = 0 := by
      refine List.countP_eq_zero.mpr ?_
      intro t ht
      have hbelow := ho.below t ht
      simp only [decide_eq_true_eq]
      omega
    have hcount : ∀ k, (h.sendNext peer now).copies k =
        h.copies k + if h.started = k then 1 else 0 := by
      intro k
      rw [hh]
      exact copies_snoc h.sent _ k
    rw [hh] at hcount ⊢
    refine ⟨?_, hlt, hrest, ?_, ?_, ?_, ?_, ?_, ?_, ?_⟩
    · have hwindow := ho.window
      rw [hp] at hwindow
      exact congrArg (· + 1) hwindow
    · refine (firsts_snoc h.sent _).trans ?_
      show h.firsts ++ [framePayload (h.channel.nextFrame peer ackData)] = _
      rw [ho.firsts, hpayload, List.take_succ_eq_append_getElem hlt, hhead]
    · refine History.forall_mem_snoc ho.payload ?_
      rw [hpayload]
      exact hget
    · refine History.forall_mem_snoc (fun u hu => ?_) (Nat.lt_succ_self _)
      exact Nat.lt_succ_of_lt (ho.below u hu)
    · refine isChain_snoc ho.chain ?_
      intro y hy
      exact .inl ⟨rfl, (ho.last y hy).symm⟩
    · intro u hu
      rw [List.getLast?_concat] at hu
      cases hu
      rfl
    · intro q hq
      cases hq
      refine ⟨_, List.getLast?_concat, rfl, rfl, ?_⟩
      have hk := hcount h.started
      rw [if_pos rfl, hfresh] at hk
      simp only at hk ⊢
      omega
    · intro k
      rw [hcount k]
      split
      · rename_i hk
        subst hk
        omega
      · exact ho.copies k

/-- Operations keep a history orderly. -/
theorem Orderly.run {peer : Peer} {h : History} (ho : h.Orderly peer) (ops : List ChannelOp) :
    (h.run peer ops).Orderly peer := by
  induction ops generalizing h with
  | nil => exact ho
  | cons op ops ih =>
    apply ih
    cases op with
    | push ackData => exact ho.push ackData
    | receive pdu => exact ho.receive pdu
    | service now => exact (ho.retransmit now).sendNext now

end History

/-- **The discipline of the AlarmAck queue.**  After any pushes, service calls and PDUs, at any
    instants: at most one AlarmAck is started and not settled; the first transmissions carry the
    pushed payloads in order, none skipped or repeated, and the rest are still queued; every
    transmission is the next AlarmAck for the first time or a copy of the frame before, at least
    the retransmission interval after it; and no AlarmAck is transmitted more than once and the
    configured number of retries. -/
theorem alarm_ack_queue (peer : Peer) (highPriority : Bool) (ops : List ChannelOp) :
    let h := (History.new highPriority).run peer ops
    (h.settled ≤ h.started ∧ h.started ≤ h.settled + 1) ∧
      h.firsts ++ h.channel.queued = h.pushed ∧ h.firsts.length = h.started ∧
      (∀ t ∈ h.sent, h.pushed[t.index]? = some (framePayload t.frame)) ∧
      h.sent.IsChain (Follows peer) ∧
      ∀ k, h.copies k ≤ 1 + peer.endpoint.rtaRetries.toNat := by
  intro h
  have ho : h.Orderly peer := (History.orderly_new peer highPriority).run ops
  have hwindow := ho.window
  have hbound := ho.bound
  refine ⟨?_, ?_, ?_, ho.payload, ho.chain, ho.copies⟩
  · split at hwindow
    · omega
    · omega
  · rw [ho.firsts, ho.queue, List.take_append_drop]
  · rw [ho.firsts, List.length_take]
    omega

end Profinet.Rta
