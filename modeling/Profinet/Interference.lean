/-
  INTERFERENCE: what datagrams of others do to a pending call.

  The receive loop looks at a datagram's packet type before it asks whose it is.  A RESPONSE of
  another call is passed over, and so is every REQUEST; but a FAULT, a REJECT, an unknown packet
  type or a short datagram ends the call with an error, whoever sent it.

  Two queues are compared, one with datagrams of others added before the call's own response and
  one without them.  `foreign_datagrams_pass`: the result is the same exactly when each added
  datagram is one the loop passes over (`Skippable`).  `foreign_fault_ends_call` is a queue where
  it is not.
-/
import Profinet.Transport

namespace Profinet.Transport

open Wire

/-- The datagram does not carry both this activity UUID and this sequence number; one shorter than
    a header carries neither. -/
def Foreign (expectedUuid : Uuid) (expectedSeq : UInt32) (data : List UInt8) : Prop :=
  ∀ hdr, parseRpcHeader data = some hdr → isOurs expectedUuid expectedSeq hdr = false

/-- A whole header of packet type REQUEST or RESPONSE. -/
def Skippable (data : List UInt8) : Prop :=
  80 ≤ data.length
    ∧ (data.getD 1 0 = packetTypeRequest ∨ data.getD 1 0 = packetTypeResponse)

instance (data : List UInt8) : Decidable (Skippable data) := inferInstanceAs (Decidable (_ ∧ _))

/-- The UUID and the sequence number a call waits for, of its request. -/
def ParsedRpc.expects (req : ParsedRpc) : Uuid × UInt32 :=
  (drepNormalizedUuid req.activityUuid req.isLittleEndian, req.sequenceNumber)

/-- A foreign datagram never is the response. -/
theorem Foreign.not_response {u : Uuid} {seq : UInt32} {data : List UInt8}
    (h : Foreign u seq data) (resp : ParsedRpc) : verdict u seq (.ok data) ≠ some (.ok resp) := by
  intro hv
  obtain ⟨_, heq, hparse, hours⟩ := verdict_ok.mp hv
  obtain rfl := Except.ok.inj heq
  obtain ⟨hhdr, -⟩ := parseRpcResponse_ok.mp hparse
  rw [h resp hhdr] at hours
  nomatch hours

theorem parseRpcHeader_long {data : List UInt8} (h : 80 ≤ data.length) :
    ∃ hdr, parseRpcHeader data = some hdr ∧ hdr.packetType = data.getD 1 0 := by
  rw [parseRpcHeader, if_neg (by omega)]
  exact ⟨_, rfl, rfl⟩

/-- The loop passes over a foreign datagram exactly when it is a whole REQUEST or RESPONSE. -/
theorem Foreign.verdict_none {u : Uuid} {seq : UInt32} {data : List UInt8}
    (h : Foreign u seq data) : verdict u seq (.ok data) = none ↔ Skippable data := by
  by_cases hlen : 80 ≤ data.length
  · obtain ⟨hdr, hhdr, htype⟩ := parseRpcHeader_long hlen
    have hother := h hdr hhdr
    unfold Skippable
    rw [verdict, parseRpcResponse, hhdr, ← htype]
    dsimp only
    by_cases hreq : hdr.packetType = packetTypeRequest
    · rw [if_pos hreq]
      exact ⟨fun _ => ⟨hlen, .inl hreq⟩, fun _ => rfl⟩
    · by_cases hresp : hdr.packetType = packetTypeResponse
      · rw [if_neg hreq, if_pos hresp]
        dsimp only
        rw [hother]
        exact ⟨fun _ => ⟨hlen, .inr hresp⟩, fun _ => rfl⟩
      · rw [if_neg hreq, if_neg hresp]
        constructor
        · intro hnone
          split at hnone
          · cases hnone
          · next heq =>
            split at heq
            · cases heq
            · split at heq <;> cases heq
          · next heq =>
            split at heq
            · cases heq
            · split at heq <;> cases heq
        · rintro ⟨-, hreq' | hresp'⟩
          · exact absurd hreq' hreq
          · exact absurd hresp' hresp
  · rw [verdict, parseRpcResponse, parseRpcHeader, if_pos (by omega)]
    constructor
    · intro hnone
      cases hnone
    · rintro ⟨hlong, -⟩
      exact absurd hlong hlen

/-- **Datagrams of others do not change a call's result exactly if each of them is a whole REQUEST
    or RESPONSE.**  `mixed` is what stands before the deciding response `own`, with a mark on the
    datagrams that were added; without them the call returns the response. -/
theorem foreign_datagrams_pass (req : ParsedRpc) (mixed : List (Bool × List UInt8))
    (own : List UInt8) (post : List (Except String (List UInt8))) (resp : ParsedRpc)
    (hforeign : ∀ p ∈ mixed, p.1 = true → Foreign req.expects.1 req.expects.2 p.2)
    (hbase : nextRpcResponse req.expects.1 req.expects.2
        (((mixed.filter fun p => !p.1).map fun p => .ok p.2) ++ .ok own :: post)
      = some (.ok resp, post)) :
    (nextRpcResponse req.expects.1 req.expects.2
        ((mixed.map fun p => .ok p.2) ++ .ok own :: post)).map Prod.fst = some (.ok resp)
      ↔ ∀ p ∈ mixed, p.1 = true → Skippable p.2 := by
  rw [nextRpcResponse_eq_scan] at hbase ⊢
  -- the marks, over the returns of `recv`
  obtain ⟨marked, hmarked⟩ : ∃ marked : List (Bool × Except String (List UInt8)),
      marked = mixed.map fun p => (p.1, .ok p.2) := ⟨_, rfl⟩
  have hall : mixed.map (fun p => Except.ok p.2) = marked.map Prod.snd := by
    rw [hmarked, List.map_map]
    rfl
  have hkept : (mixed.filter fun p => !p.1).map (fun p => Except.ok p.2)
      = (marked.filter fun p => !p.1).map Prod.snd := by
    rw [hmarked, List.filter_map, List.map_map]
    rfl
  have hmem : ∀ P : Bool × Except String (List UInt8) → Prop,
      (∀ p ∈ marked, P p) ↔ ∀ p ∈ mixed, P (p.1, .ok p.2) := by
    intro P
    rw [hmarked]
    exact List.forall_mem_map
  rw [hkept] at hbase
  rw [hall, Scan.scan_inserted ((hmem _).mpr fun p hp hmark =>
    (hforeign p hp hmark).not_response resp) hbase, hmem]
  constructor
  · intro h p hp hmark
    exact (hforeign p hp hmark).verdict_none.mp (h p hp hmark)
  · intro h p hp hmark
    exact (hforeign p hp hmark).verdict_none.mpr (h p hp hmark)

/-! ## Two callers on one network -/

/-- A bare datagram of the given packet type, activity and sequence number. -/
def benchPacket (packetType activity : UInt8) (seq : UInt32) : ParsedRpc :=
  { requestHeader ⟨List.replicate 16 0, rfl⟩ Rpc.ifaceUuidDevice ⟨List.replicate 16 activity, rfl⟩
      seq Rpc.read [] with packetType := packetType }

/-- A response of another activity before our own does not disturb our call. -/
theorem foreign_datagrams_pass_bench :
    (nextRpcResponse (benchPacket packetTypeRequest 1 7).expects.1 7
        [.ok (rpcBytes (benchPacket packetTypeResponse 2 7)),
          .ok (rpcBytes (benchPacket packetTypeResponse 1 7))]).map Prod.fst
      = some (.ok (benchPacket packetTypeResponse 1 7)) := by
  refine (foreign_datagrams_pass (benchPacket packetTypeRequest 1 7)
    [(true, rpcBytes (benchPacket packetTypeResponse 2 7))]
    (rpcBytes (benchPacket packetTypeResponse 1 7)) [] (benchPacket packetTypeResponse 1 7)
    ?_ ?_).mpr ?_
  · intro p hp hmark hdr hhdr
    obtain rfl := List.mem_singleton.mp hp
    rw [parseRpcHeader_rpcBytes (by decide)] at hhdr
    obtain rfl := Option.some.inj hhdr
    decide
  · decide
  · decide

/-- **A FAULT for somebody else's call ends ours**, although our own response is next in the queue.
    Its activity UUID is another one, and without it the call returns the response. -/
theorem foreign_fault_ends_call :
    Foreign (benchPacket packetTypeRequest 1 7).expects.1 7
        (rpcBytes (benchPacket packetTypeFault 2 7))
      ∧ nextRpcResponse (benchPacket packetTypeRequest 1 7).expects.1 7
          [.ok (rpcBytes (benchPacket packetTypeResponse 1 7))]
        = some (.ok (benchPacket packetTypeResponse 1 7), [])
      ∧ ∃ e, nextRpcResponse (benchPacket packetTypeRequest 1 7).expects.1 7
          [.ok (rpcBytes (benchPacket packetTypeFault 2 7)),
            .ok (rpcBytes (benchPacket packetTypeResponse 1 7))]
        = some (.error e, [.ok (rpcBytes (benchPacket packetTypeResponse 1 7))]) := by
  refine ⟨?_, by decide, _, rfl⟩
  intro hdr hhdr
  rw [parseRpcHeader_rpcBytes (by decide)] at hhdr
  obtain rfl := Option.some.inj hhdr
  decide

end Profinet.Transport
