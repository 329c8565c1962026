/-
  APPLICATION READY: the device's request that ends the connect sequence.

  `applicationReady` takes datagrams off the CControl channel until one is an ApplicationReady, and
  confirms that one with DONE.  What counts as one is its shape (`IsAppReady`): a REQUEST with
  opnum CONTROL and a whole control block of type 0x0112.  The AR the block names is not looked at
  (`foreign_ready_confirmed`); everything else is skipped without a reply
  (`application_ready_first`).

  Over UDP the request and the response to the PrmEnd before it arrive on two sockets.  On the raw
  capture they share one queue, and the loop that waits for the response skips REQUESTs, so that
  an ApplicationReady that arrives before the response is gone: `ready_after_response`.
-/
import Profinet.CrossMatching

namespace Profinet.Transport

open Wire RpcTransport

/-! ## What is accepted

  The parsers ask for the packet type, the operation and the length; `IsAppReady` says the same in
  terms of the fields. -/

/-- A whole REQUEST with opnum CONTROL and an ApplicationReady control block. -/
def IsAppReady (data : List UInt8) (hdr : ParsedRpc) (cc : CControlRequest) : Prop :=
  parseRpcHeader data = some hdr ∧ hdr.packetType = packetTypeRequest
    ∧ hdr.operationNumber = Rpc.control
    ∧ ∃ n, parseNrd hdr.payload hdr.isLittleEndian = .ok n ∧ 32 ≤ n.payload.length
      ∧ rdU16 n.payload 0 false = blockIodControlAppReadyReq
      ∧ cc = ⟨blockIodControlAppReadyReq, rdU16 n.payload 28 false, n.payload⟩

/-- A control request that parses is a whole one with opnum CONTROL. -/
theorem parseCcontrolRequest_ok {hdr : ParsedRpc} {cc : CControlRequest} :
    parseCcontrolRequest hdr = .ok cc
      ↔ hdr.packetType = packetTypeRequest ∧ hdr.operationNumber = Rpc.control
        ∧ ∃ n, parseNrd hdr.payload hdr.isLittleEndian = .ok n ∧ 32 ≤ n.payload.length
          ∧ cc = ⟨rdU16 n.payload 0 false, rdU16 n.payload 28 false, n.payload⟩ := by
  unfold parseCcontrolRequest
  -- the four tests of the parser, in its order
  by_cases htype : hdr.packetType ≠ packetTypeRequest
  · rw [if_pos htype]
    constructor
    · intro h
      nomatch h
    · rintro ⟨h, -⟩
      exact absurd h htype
  · rw [if_neg htype]
    by_cases hop : hdr.operationNumber ≠ Rpc.control
    · rw [if_pos hop]
      constructor
      · intro h
        nomatch h
      · rintro ⟨-, h, -⟩
        exact absurd h hop
    · rw [if_neg hop]
      cases hn : parseNrd hdr.payload hdr.isLittleEndian with
      | error e =>
        constructor
        · intro h
          nomatch h
        · rintro ⟨-, -, n, h, -⟩
          nomatch h
      | ok n =>
        simp only [bind, Except.bind]
        by_cases hshort : n.payload.length < 32
        · rw [if_pos hshort]
          constructor
          · intro h
            nomatch h
          · rintro ⟨-, -, n', h, hlen, -⟩
            obtain rfl := Except.ok.inj h
            omega
        · rw [if_neg hshort]
          constructor
          · intro h
            exact ⟨not_not.mp htype, not_not.mp hop, n, rfl, by omega, (Except.ok.inj h).symm⟩
          · rintro ⟨-, -, n', h, -, rfl⟩
            obtain rfl := Except.ok.inj h
            rfl

/-- **What `applicationReady` accepts is exactly an ApplicationReady by its shape.** -/
theorem extractAppReady_iff {data : List UInt8} {hdr : ParsedRpc} {cc : CControlRequest} :
    extractAppReady data = some (hdr, cc) ↔ IsAppReady data hdr cc := by
  unfold extractAppReady IsAppReady
  -- the header, the control block and the block type, as they are tested
  cases hhdr : parseRpcHeader data with
  | none =>
    constructor
    · intro h
      nomatch h
    · rintro ⟨h, -⟩
      nomatch h
  | some hdr' =>
    simp only [bind, Option.bind]
    cases hcc : parseCcontrolRequest hdr' with
    | error e =>
      constructor
      · intro h
        nomatch h
      · rintro ⟨h, htype, hop, n, hn, hlen, -, -⟩
        obtain rfl := Option.some.inj h
        nomatch hcc.symm.trans (parseCcontrolRequest_ok.mpr ⟨htype, hop, n, hn, hlen, rfl⟩)
    | ok cc' =>
      obtain ⟨htype, hop, n, hn, hlen, rfl⟩ := parseCcontrolRequest_ok.mp hcc
      simp only [Except.toOption]
      by_cases hblock : rdU16 n.payload 0 false ≠ blockIodControlAppReadyReq
      · rw [if_pos hblock]
        constructor
        · intro h
          nomatch h
        · rintro ⟨h, -, -, n', hn', -, hblock', -⟩
          obtain rfl := Option.some.inj h
          obtain rfl := Except.ok.inj (hn.symm.trans hn')
          exact absurd hblock' hblock
      · rw [if_neg hblock]
        constructor
        · intro h
          obtain ⟨rfl, rfl⟩ := Prod.mk.inj (Option.some.inj h)
          refine ⟨rfl, htype, hop, n, hn, hlen, not_not.mp hblock, ?_⟩
          rw [not_not.mp hblock]
        · rintro ⟨h, -, -, n', hn', -, hblock', rfl⟩
          obtain rfl := Option.some.inj h
          obtain rfl := Except.ok.inj (hn.symm.trans hn')
          rw [hblock']
          rfl

/-- A response is none. -/
theorem extractAppReady_response {data : List UInt8} {resp : ParsedRpc}
    (h : parseRpcResponse data = .ok (some resp)) : extractAppReady data = none := by
  obtain ⟨hhdr, htype⟩ := parseRpcResponse_ok.mp h
  cases hready : extractAppReady data with
  | none => rfl
  | some p =>
    obtain ⟨hhdr', htype', -⟩ := extractAppReady_iff.mp hready
    obtain rfl := Option.some.inj (hhdr.symm.trans hhdr')
    rw [htype] at htype'
    nomatch htype'

/-! ## The wait

  The loop is a scan of the queue.  What it skips is consumed; what it confirms is the first
  ApplicationReady in the queue. -/

/-- What the wait makes of one return of the receive call. -/
def readyVerdict :
    Except String (List UInt8) → Option (Except String (ParsedRpc × CControlRequest))
  | .error e => some (.error e)
  | .ok data => (extractAppReady data).map .ok

theorem nextAppReady_eq_scan (recv : List (Except String (List UInt8))) :
    nextAppReady recv = Scan.scan readyVerdict recv := by
  induction recv with
  | nil => rfl
  | cons r rest ih =>
    cases r with
    | error e => rfl
    | ok data =>
      rw [nextAppReady, Scan.scan, readyVerdict]
      cases extractAppReady data with
      | none => exact ih
      | some ready => rfl

/-- A datagram the wait passes over. -/
def NotReady (r : Received) : Prop := ∃ data, r = .ok (some data) ∧ extractAppReady data = none

theorem NotReady.passed {r : Received} (h : NotReady r) (e : String) :
    readyVerdict (recvOutcome e r) = none := by
  obtain ⟨data, rfl, hnone⟩ := h
  show (extractAppReady data).map _ = none
  rw [hnone]
  rfl

/-- The first ApplicationReady of a queue, behind datagrams that are none. -/
structure FirstReady (queue pre : List Received) (data : List UInt8) (post : List Received)
    (hdr : ParsedRpc) (cc : CControlRequest) : Prop where
  split : queue = pre ++ .ok (some data) :: post
  skipped : ∀ r ∈ pre, NotReady r
  ready : IsAppReady data hdr cc

theorem FirstReady.getElem {queue pre post : List Received} {data : List UInt8} {hdr : ParsedRpc}
    {cc : CControlRequest} (h : FirstReady queue pre data post hdr cc) :
    queue[pre.length]? = some (.ok (some data)) := by
  rw [h.split, List.getElem?_append_right (Nat.le_refl _), Nat.sub_self]
  rfl

variable {T : Type} [RpcTransport T]

/-- The first ApplicationReady of the queue is confirmed. -/
theorem applicationReady_first {c : RpcConn T} (hc : c.connected = true) {pre post : List Received}
    {data : List UInt8} {hdr : ParsedRpc} {cc : CControlRequest}
    (h : FirstReady (ccontrols c.transport) pre data post hdr cc) (timeout : Nat) :
    c.applicationReady timeout
      = ((replyCcontrol (afterCcontrols (pre.length + 1) c.transport)
            (ccontrolResponse hdr c.arUuid c.sessionKey)).1.map fun _ => cc.nrdBody,
          { c with transport := (replyCcontrol (afterCcontrols (pre.length + 1) c.transport)
              (ccontrolResponse hdr c.arUuid c.sessionKey)).2 }) := by
  obtain ⟨e, he⟩ : ∃ e, e = "No ApplicationReady from " ++ peer c.transport ++ " within "
    ++ toString timeout ++ "s" := ⟨_, rfl⟩
  have hout : (ccontrols c.transport).map (recvOutcome e)
      = pre.map (recvOutcome e) ++ .ok data :: post.map (recvOutcome e) := by
    rw [h.split, List.map_append, List.map_cons]
    rfl
  have hscan : nextAppReady ((ccontrols c.transport).map (recvOutcome e))
      = some (.ok (hdr, cc), post.map (recvOutcome e)) := by
    rw [nextAppReady_eq_scan, hout]
    refine Scan.scan_eq_some.mpr ⟨_, _, rfl, ?_, ?_⟩
    · intro r hr
      obtain ⟨r', hr', rfl⟩ := List.mem_map.mp hr
      exact (h.skipped r' hr').passed e
    · rw [readyVerdict, extractAppReady_iff.mpr h.ready]
      rfl
  -- the scan consumes what it skips and the ApplicationReady itself
  have hlen : ((ccontrols c.transport).map (recvOutcome e)).length
      - (post.map (recvOutcome e)).length = pre.length + 1 := by
    rw [hout]
    simp only [List.length_append, List.length_cons, List.length_map]
    omega
  rw [RpcConn.applicationReady, if_pos hc]
  dsimp only
  rw [← he, hscan]
  dsimp only
  rw [hlen]
  cases hreply : replyCcontrol (afterCcontrols (pre.length + 1) c.transport)
      (ccontrolResponse hdr c.arUuid c.sessionKey) with
  | mk r t => cases r <;> rfl

/-- Without one the wait fails, and nothing is sent. -/
theorem applicationReady_none {c : RpcConn T} (hc : c.connected = true)
    (h : ∀ pre data post hdr cc, ¬ FirstReady (ccontrols c.transport) pre data post hdr cc)
    (timeout : Nat) :
    ∃ e n, c.applicationReady timeout
      = (.error e, { c with transport := afterCcontrols n c.transport }) := by
  rw [RpcConn.applicationReady, if_pos hc]
  dsimp only
  split
  · exact ⟨_, _, rfl⟩
  · exact ⟨_, _, rfl⟩
  -- what the scan found is the first by `FirstReady`, which `h` excludes
  · next hdr cc rest hnext =>
    rw [nextAppReady_eq_scan] at hnext
    obtain ⟨pre, r, hqueue, hpre, hv⟩ := Scan.scan_eq_some.mp hnext
    obtain ⟨pre', tail, hsplit, rfl, htail⟩ := List.map_eq_append_iff.mp hqueue
    obtain ⟨r', post, rfl, rfl, -⟩ := List.map_eq_cons_iff.mp htail
    have hskip : ∀ q ∈ pre', NotReady q := by
      intro q hq
      have hnone := hpre _ (List.mem_map_of_mem hq)
      rcases q with e' | (_ | data)
      · cases hnone
      · cases hnone
      · exact ⟨data, rfl, Option.map_eq_none_iff.mp hnone⟩
    rcases r' with e' | (_ | data)
    · cases hv
    · cases hv
    · obtain ⟨ready, hready, heq⟩ := Option.map_eq_some_iff.mp hv
      obtain rfl := Except.ok.inj heq
      exact absurd ⟨hsplit, hskip, extractAppReady_iff.mp hready⟩ (h pre' data post hdr cc)

/-- **The first ApplicationReady is confirmed, and nothing else.**  Of any queue: where datagrams
    of other shapes stand before an ApplicationReady, they are skipped, and it gets the one
    confirmation, made of this connection's identifiers; without such a datagram, or without an
    established AR, nothing is sent and the wait fails. -/
theorem application_ready_first (c : RpcConn T) (timeout : Nat) :
    (c.connected = true ∧ ∃ pre data post hdr cc,
        FirstReady (ccontrols c.transport) pre data post hdr cc
        ∧ replied (c.applicationReady timeout).2.transport
          = replied c.transport ++ [ccontrolResponse hdr c.arUuid c.sessionKey]
        ∧ (c.applicationReady timeout).1
          = (replyCcontrol (afterCcontrols (pre.length + 1) c.transport)
              (ccontrolResponse hdr c.arUuid c.sessionKey)).1.map fun _ => cc.nrdBody)
      ∨ ((c.connected = false
          ∨ ∀ pre data post hdr cc, ¬ FirstReady (ccontrols c.transport) pre data post hdr cc)
        ∧ replied (c.applicationReady timeout).2.transport = replied c.transport
        ∧ ∃ e, (c.applicationReady timeout).1 = .error e) := by
  cases hc : c.connected with
  | false =>
    refine .inr ⟨.inl rfl, ?_, "Not connected", ?_⟩
    · simp only [RpcConn.applicationReady, hc, Bool.false_eq_true, if_false]
    · simp only [RpcConn.applicationReady, hc, Bool.false_eq_true, if_false]
  | true =>
    by_cases h : ∃ pre data post hdr cc, FirstReady (ccontrols c.transport) pre data post hdr cc
    · obtain ⟨pre, data, post, hdr, cc, hfirst⟩ := h
      refine .inl ⟨rfl, pre, data, post, hdr, cc, hfirst, ?_, ?_⟩
      · rw [applicationReady_first hc hfirst]
        exact replyCcontrol_replied hfirst.getElem _
      · rw [applicationReady_first hc hfirst]
    · have hnone : ∀ pre data post hdr cc,
          ¬ FirstReady (ccontrols c.transport) pre data post hdr cc := by
        intro pre data post hdr cc hfirst
        exact h ⟨pre, data, post, hdr, cc, hfirst⟩
      obtain ⟨e, n, heq⟩ := applicationReady_none hc hnone timeout
      refine .inr ⟨.inr hnone, ?_, e, ?_⟩
      · rw [heq]
        exact afterCcontrols_replied n _
      · rw [heq]

/-! ## An ApplicationReady on the bench

  A request of a device, byte by byte, with any AR and session key. -/

/-- An ApplicationReady of an AR. -/
def benchReady (arUuid : Uuid) (sessionKey : UInt16) : List UInt8 :=
  rpcBytes (requestHeader (benchUuid 0) (benchUuid 0) (benchUuid 0xD0) 1 Rpc.control
    (Rpc.nrd (iodControlBlock blockIodControlAppReadyReq arUuid sessionKey 0x0002)))

/-- A connection that waits, with these datagrams on the listener. -/
def benchWaiting (queue : List (List UInt8)) : RpcConn UdpTransport :=
  { benchConn with
    connected := true
    transport := { benchConn.transport with
      ccontrolSocket := queue.map fun data => .ok (some (data, ⟨1, 34964⟩)) } }

/-- **The ApplicationReady of another AR is confirmed** with this connection's identifiers, and ends
    the wait. -/
theorem foreign_ready_confirmed :
    benchUuid 0xC0 ≠ benchConn.arUuid ∧ 99 ≠ benchConn.sessionKey
      ∧ ((benchWaiting [benchReady (benchUuid 0xC0) 99]).applicationReady 5).1.isOk = true
      ∧ (replied ((benchWaiting [benchReady (benchUuid 0xC0) 99]).applicationReady 5).2.transport)
        = [ccontrolResponse
            (requestHeader (benchUuid 0) (benchUuid 0) (benchUuid 0xD0) 1 Rpc.control
              (Rpc.nrd (iodControlBlock blockIodControlAppReadyReq (benchUuid 0xC0) 99 0x0002)))
            benchConn.arUuid benchConn.sessionKey] := by
  decide +kernel

/-! ## The PrmEnd before it

  PrmEnd is a request and waits for its own response.  It comes back without one where the queue
  has none. -/

/-- The PrmEnd request of a connection. -/
def RpcConn.prmEndRequest {T : Type} (c : RpcConn T) : List UInt8 :=
  c.request Rpc.control
    (Rpc.nrd (iodControlBlock blockIodControlPrmEndReq c.arUuid c.sessionKey controlCmdPrmEnd
      ++ []))

/-- The datagram is a device's response with status 0. -/
def positive (data : List UInt8) : Bool :=
  match parseRpcHeader data with
  | some resp => (parseStatusResponse resp.payload resp.isLittleEndian).isOk
  | none => false

theorem parse_prmEndRequest {T : Type} (c : RpcConn T) :
    parseRpcHeader c.prmEndRequest
      = some (requestHeader c.objectUuid Rpc.ifaceUuidDevice c.activityUuid c.sequenceNumber
        Rpc.control (Rpc.nrd (iodControlBlock blockIodControlPrmEndReq c.arUuid c.sessionKey
          controlCmdPrmEnd ++ []))) := c.parse_request _ _

theorem prmEnd_eq {c : RpcConn T} (hc : c.connected = true) :
    c.prmEnd
      = (((exchange c.transport c.prmEndRequest).1.bind fun resp =>
          parseStatusResponse resp.payload resp.isLittleEndian).mapError ("PrmEnd failed: " ++ ·),
        c.asked c.prmEndRequest) := by
  obtain ⟨build, hbuild⟩ : ∃ build : UInt32 → List UInt8, build = fun seq =>
      Rpc.rpcRequest c.objectUuid Rpc.ifaceUuidDevice c.activityUuid seq Rpc.control
        (Rpc.nrd (iodControlBlock blockIodControlPrmEndReq c.arUuid c.sessionKey controlCmdPrmEnd
          ++ [])) := ⟨_, rfl⟩
  have hreq : build c.sequenceNumber = c.prmEndRequest := by
    rw [hbuild]
    rfl
  rw [RpcConn.prmEnd, RpcConn.sendControl, if_pos hc]
  dsimp only
  rw [← hbuild, RpcConn.call_eq, hreq]
  cases (exchange c.transport c.prmEndRequest).1 <;> rfl

/-- A PrmEnd that could not be sent fails. -/
theorem prmEnd_unsent {c : RpcConn T} (hc : c.connected = true)
    (hsend : (sendRequest c.transport c.prmEndRequest).1.isOk ≠ true) :
    c.prmEnd.1.isOk = false := by
  rw [prmEnd_eq hc, exchange, parse_prmEndRequest]
  dsimp only
  cases hs : sendRequest c.transport c.prmEndRequest with
  | mk r t =>
    rw [hs] at hsend
    cases r with
    | error e => rfl
    | ok u => exact absurd rfl hsend

/-- The loop that waits for a response skips an ApplicationReady. -/
theorem IsAppReady.passed {data : List UInt8} {hdr : ParsedRpc} {cc : CControlRequest}
    (h : IsAppReady data hdr cc) (u : Uuid) (seq : UInt32) : verdict u seq (.ok data) = none := by
  have hskip : parseRpcResponse data = .ok none := by
    rw [parseRpcResponse, h.1]
    exact if_pos h.2.1
  rw [verdict, hskip]

/-- Behind what the loop passes over, the first response to the PrmEnd decides it. -/
theorem prmEnd_at {c : RpcConn T} (hc : c.connected = true)
    (hsend : (sendRequest c.transport c.prmEndRequest).1.isOk = true)
    {pre post : List Received} {data : List UInt8}
    (hqueue : responses c.transport = pre ++ .ok (some data) :: post)
    (hpre : ∀ r ∈ pre, ∀ u seq e, verdict u seq (recvOutcome e r) = none)
    (hanswer : Answers c.prmEndRequest data) :
    c.prmEnd.1.isOk = positive data
      ∧ c.prmEnd.2.transport
        = afterResponses (pre.length + 1) (sendRequest c.transport c.prmEndRequest).2 := by
  obtain ⟨resp, hresp, hours⟩ := hanswer.parses (parse_prmEndRequest c)
  have hex : exchange c.transport c.prmEndRequest
      = (.ok resp, afterResponses (pre.length + 1) (sendRequest c.transport c.prmEndRequest).2) :=
    exchange_at (parse_prmEndRequest c) hsend hqueue (fun r hr e => hpre r hr _ _ e) hresp hours
  have hpositive : positive data
      = (parseStatusResponse resp.payload resp.isLittleEndian).isOk := by
    rw [positive, (parseRpcResponse_ok.mp hresp).1]
  rw [prmEnd_eq hc, RpcConn.asked, hex, hpositive]
  refine ⟨?_, rfl⟩
  show ((parseStatusResponse resp.payload resp.isLittleEndian).mapError _).isOk = _
  cases parseStatusResponse resp.payload resp.isLittleEndian <;> rfl

/-- Over a channel without a verdict the PrmEnd fails. -/
theorem prmEnd_silent {c : RpcConn T} (hc : c.connected = true)
    (hqueue : ∀ r ∈ responses c.transport, ∀ u seq e, verdict u seq (recvOutcome e r) = none) :
    c.prmEnd.1.isOk = false := by
  by_cases hsend : (sendRequest c.transport c.prmEndRequest).1.isOk = true
  · rw [prmEnd_eq hc, exchange_of_sent (parse_prmEndRequest c) hsend, nextRpcResponse_eq_scan,
      Scan.scan_eq_none.mpr]
    · rfl
    · intro a ha
      obtain ⟨r, hr, rfl⟩ := List.mem_map.mp ha
      rw [sendRequest_responses] at hr
      exact hqueue r hr _ _ _
  · exact prmEnd_unsent hc hsend

/-! ## One capture for both

  Requests and responses in one queue.  The wait for the response to PrmEnd skips everything
  before it, the ApplicationReady included. -/

/-- Everything on the capture is a response to the PrmEnd but for one ApplicationReady. -/
structure Racing (c : RpcConn RawL2Transport) (before : List (Incoming UInt16))
    (ready : List UInt8) (src : UInt16) (after : List (Incoming UInt16)) (hdr : ParsedRpc)
    (cc : CControlRequest) : Prop where
  connected : c.connected = true
  capture : c.transport.raw = before ++ .ok (some (ready, src)) :: after
  answers : ∀ i ∈ before ++ after, ∃ data s, i = .ok (some (data, s))
    ∧ Answers c.prmEndRequest data
  isReady : IsAppReady ready hdr cc

/-- `prm_end(); application_ready()` succeeds, and its one confirmation is of this request. -/
def ReadyConfirmed (c : RpcConn RawL2Transport) (timeout : Nat) (hdr : ParsedRpc)
    (cc : CControlRequest) : Prop :=
  c.prmEnd.1.isOk = true
    ∧ (c.prmEnd.2.applicationReady timeout).1 = .ok cc.nrdBody
    ∧ replied (c.prmEnd.2.applicationReady timeout).2.transport
      = replied c.transport ++ [ccontrolResponse hdr c.arUuid c.sessionKey]

/-- The send of the confirmation takes whenever there is something to confirm. -/
theorem replyCcontrol_result {t : RawL2Transport} {n : Nat} {bytes : List UInt8}
    (h : (ccontrols t)[n]? = some (.ok (some bytes))) (d : List UInt8) :
    (replyCcontrol (afterCcontrols (n + 1) t) d).1 = sendResult t.failures := by
  obtain ⟨s, hs⟩ := received_data h
  show (RawL2Transport.replyCcontrol _ d).1 = _
  rw [RawL2Transport.replyCcontrol]
  dsimp only [afterCcontrols]
  rw [lastSource_of_data hs]

/-- An answer to the PrmEnd is no ApplicationReady. -/
theorem Answers.notReady {req data : List UInt8} {r : ParsedRpc}
    (hreq : parseRpcHeader req = some r) (h : Answers req data) : NotReady (.ok (some data)) := by
  obtain ⟨resp, hresp, -⟩ := h.parses hreq
  exact ⟨data, rfl, extractAppReady_response hresp⟩

theorem Racing.notReady {c : RpcConn RawL2Transport} {before after : List (Incoming UInt16)}
    {ready : List UInt8} {src : UInt16} {hdr : ParsedRpc} {cc : CControlRequest}
    (h : Racing c before ready src after hdr cc) {i : Incoming UInt16} (hi : i ∈ before ++ after) :
    NotReady i.received := by
  obtain ⟨data, s, rfl, hanswer⟩ := h.answers i hi
  exact hanswer.notReady (parse_prmEndRequest c)

/-- The response behind it: the ApplicationReady is gone when the wait begins. -/
theorem Racing.lost {c : RpcConn RawL2Transport} {after : List (Incoming UInt16)}
    {ready : List UInt8} {src : UInt16} {hdr : ParsedRpc} {cc : CControlRequest}
    (h : Racing c [] ready src after hdr cc) (timeout : Nat) : ¬ ReadyConfirmed c timeout hdr cc := by
  rintro ⟨hprm, hready, -⟩
  have hskip : ∀ r ∈ [.ok (some ready)], ∀ u seq e, verdict u seq (recvOutcome e r) = none := by
    intro r hr u seq e
    obtain rfl := List.mem_singleton.mp hr
    exact h.isReady.passed u seq
  -- nothing behind it: PrmEnd gets no response; something behind it: that is the response
  cases after with
  | nil =>
    have hqueue : responses c.transport = [.ok (some ready)] := congrArg (List.map _) h.capture
    rw [prmEnd_silent h.connected (by rw [hqueue]; exact hskip)] at hprm
    nomatch hprm
  | cons i rest =>
    obtain ⟨data, s, rfl, hanswer⟩ := h.answers i List.mem_cons_self
    have hqueue : responses c.transport
        = [.ok (some ready)] ++ .ok (some data) :: rest.map Incoming.received :=
      congrArg (List.map _) h.capture
    by_cases hsend : (sendRequest c.transport c.prmEndRequest).1.isOk = true
    · obtain ⟨-, htransport⟩ := prmEnd_at h.connected hsend hqueue hskip hanswer
      have hrest : ccontrols c.prmEnd.2.transport = rest.map Incoming.received := by
        rw [htransport]
        show ((c.transport.raw.drop 2).map Incoming.received) = _
        rw [h.capture]
        rfl
      -- the ApplicationReady went with the response, and no frame behind it is one
      have hnone : ∀ pre data post hdr cc,
          ¬ FirstReady (ccontrols c.prmEnd.2.transport) pre data post hdr cc := by
        intro pre data' post hdr' cc' hfirst
        have hmem : .ok (some data') ∈ rest.map Incoming.received := by
          rw [← hrest, hfirst.split]
          exact List.mem_append_right _ List.mem_cons_self
        obtain ⟨j, hj, heq⟩ := List.mem_map.mp hmem
        obtain ⟨data'', heq', hnot⟩ := h.notReady (List.mem_cons_of_mem _ hj)
        obtain rfl := Option.some.inj (Except.ok.inj (heq.symm.trans heq'))
        nomatch hnot.symm.trans (extractAppReady_iff.mpr hfirst.ready)
      have hconnected : c.prmEnd.2.connected = true := by
        rw [prmEnd_eq h.connected]
        exact h.connected
      obtain ⟨e, n, herror⟩ := applicationReady_none hconnected hnone timeout
      rw [herror] at hready
      nomatch hready
    · rw [prmEnd_unsent h.connected hsend] at hprm
      nomatch hprm

/-- A response in front: it decides the PrmEnd, and the wait begins with what is left on the
    capture. -/
theorem Racing.met {c : RpcConn RawL2Transport} {before after : List (Incoming UInt16)}
    {data ready : List UInt8} {s src : UInt16} {hdr : ParsedRpc} {cc : CControlRequest}
    (h : Racing c (.ok (some (data, s)) :: before) ready src after hdr cc)
    (hsend : (sendResult c.transport.failures).isOk = true) :
    c.prmEnd.1.isOk = positive data
      ∧ c.prmEnd.2.transport
        = afterResponses 1 (sendRequest c.transport c.prmEndRequest).2
      ∧ FirstReady (ccontrols c.prmEnd.2.transport) (before.map Incoming.received) ready
        (after.map Incoming.received) hdr cc := by
  obtain ⟨data', s', heq, hanswer⟩ := h.answers _ List.mem_cons_self
  obtain ⟨rfl, -⟩ := Prod.mk.inj (Option.some.inj (Except.ok.inj heq))
  have hqueue : responses c.transport
      = [] ++ .ok (some data) ::
        (before ++ .ok (some (ready, src)) :: after).map Incoming.received :=
    congrArg (List.map _) h.capture
  obtain ⟨hprm, htransport⟩ := prmEnd_at h.connected hsend hqueue nofun hanswer
  refine ⟨hprm, htransport, ?_, ?_, h.isReady⟩
  · rw [htransport]
    show ((c.transport.raw.drop 1).map Incoming.received) = _
    rw [h.capture]
    exact List.map_append
  · intro r hr
    obtain ⟨i, hi, rfl⟩ := List.mem_map.mp hr
    exact h.notReady (List.mem_append_left _ (List.mem_cons_of_mem _ hi))

theorem map_const_ok {r : Except String Unit} {body : List UInt8} :
    r.map (fun _ => body) = .ok body ↔ r.isOk = true := by
  cases r with
  | error e =>
    constructor
    · intro h
      nomatch h
    · intro h
      nomatch h
  | ok u => exact ⟨fun _ => rfl, fun _ => rfl⟩

/-- **An ApplicationReady that overtakes the response is lost.**  However often the response to the
    PrmEnd is repeated before and after it, an ApplicationReady on the one capture is confirmed
    exactly when a response stands before it, the first of them is positive, and both sends
    take. -/
theorem ready_after_response {c : RpcConn RawL2Transport} {before after : List (Incoming UInt16)}
    {ready : List UInt8} {src : UInt16} {hdr : ParsedRpc} {cc : CControlRequest}
    (h : Racing c before ready src after hdr cc) (timeout : Nat) :
    ReadyConfirmed c timeout hdr cc
      ↔ (∃ data s rest, before = .ok (some (data, s)) :: rest ∧ positive data = true)
        ∧ (sendResult c.transport.failures).isOk = true
        ∧ (sendResult c.transport.failures.tail).isOk = true := by
  -- nothing before it: the ApplicationReady is taken for the missing response
  cases before with
  | nil =>
    constructor
    · intro hconfirmed
      exact absurd hconfirmed (h.lost timeout)
    · rintro ⟨⟨data, s, rest, hempty, -⟩, -⟩
      nomatch hempty
  | cons i rest =>
    obtain ⟨data, s, rfl, -⟩ := h.answers i List.mem_cons_self
    -- the first frame before it is the response, and the queue behind it begins with the
    -- ApplicationReady
    by_cases hsend : (sendResult c.transport.failures).isOk = true
    · obtain ⟨hprm, htransport, hfirst⟩ := h.met hsend
      have hstate : c.prmEnd.2 = c.asked c.prmEndRequest := by
        rw [prmEnd_eq h.connected]
      have hready := applicationReady_first (c := c.prmEnd.2)
        (by rw [hstate]; exact h.connected) hfirst timeout
      have hfailures : c.prmEnd.2.transport.failures = c.transport.failures.tail := by
        rw [htransport]
        rfl
      rw [ReadyConfirmed, hprm, hready]
      dsimp only
      rw [replyCcontrol_result hfirst.getElem, replyCcontrol_replied hfirst.getElem, hfailures,
        map_const_ok]
      constructor
      · rintro ⟨hpositive, hreply, -⟩
        exact ⟨⟨data, s, rest, rfl, hpositive⟩, hsend, hreply⟩
      · rintro ⟨⟨data', s', rest', heq, hpositive⟩, -, hreply⟩
        obtain ⟨hhead, -⟩ := List.cons.inj heq
        obtain ⟨rfl, -⟩ := Prod.mk.inj (Option.some.inj (Except.ok.inj hhead))
        refine ⟨hpositive, hreply, ?_⟩
        rw [htransport, hstate]
        rfl
    -- a request that is not sent confirms nothing
    · constructor
      · rintro ⟨hprm, -⟩
        rw [prmEnd_unsent h.connected hsend] at hprm
        nomatch hprm
      · rintro ⟨-, hsend', -⟩
        exact absurd hsend' hsend

/-- A connection that ends its parameter phase, with these datagrams to come on the capture. -/
def benchCapture (capture : List (List UInt8)) : RpcConn RawL2Transport :=
  { withTransport ⟨capture.map fun data => .ok (some (data, 34964)), none, "device", [], [], []⟩
      1 2 (benchUuid 0xA0) (benchUuid 0xB0) 7 with connected := true }

/-- Its device's response to the PrmEnd, and its ApplicationReady. -/
def benchPrmEnd : List UInt8 := rpcBytes (benchAnswer true 0 (nrdBytes ⟨0, 0, 0, 0, 0, []⟩ true))

/-- The ApplicationReady of the example's own AR. -/
def benchOwnReady : List UInt8 := benchReady benchConn.arUuid benchConn.sessionKey

theorem benchOwnReady_isReady : ∃ hdr cc, IsAppReady benchOwnReady hdr cc := by
  obtain ⟨ready, hready⟩ :=
    Option.isSome_iff_exists.mp (show (extractAppReady benchOwnReady).isSome = true by
      decide +kernel)
  exact ⟨ready.1, ready.2, extractAppReady_iff.mp hready⟩

theorem benchPrmEnd_answers (capture : List (List UInt8)) :
    Answers (benchCapture capture).prmEndRequest benchPrmEnd :=
  benchAnswer_answers (parse_prmEndRequest _) rfl rfl _

/-- The response, the ApplicationReady, and the response again. -/
theorem ready_after_response_bench :
    ∃ hdr cc, ReadyConfirmed (benchCapture [benchPrmEnd, benchOwnReady, benchPrmEnd]) 60 hdr cc := by
  obtain ⟨hdr, cc, hready⟩ := benchOwnReady_isReady
  have hracing : Racing (benchCapture [benchPrmEnd, benchOwnReady, benchPrmEnd])
      [.ok (some (benchPrmEnd, 34964))] benchOwnReady 34964 [.ok (some (benchPrmEnd, 34964))] hdr
      cc := by
    refine ⟨rfl, rfl, ?_, hready⟩
    intro i hi
    obtain rfl : i = .ok (some (benchPrmEnd, 34964)) := by
      rcases List.mem_cons.mp hi with h | h
      · exact h
      · exact List.mem_singleton.mp h
    exact ⟨_, _, rfl, benchPrmEnd_answers _⟩
  have hpositive : positive benchPrmEnd = true := by decide +kernel
  exact ⟨hdr, cc, (ready_after_response hracing 60).mpr ⟨⟨_, _, _, rfl, hpositive⟩, rfl, rfl⟩⟩

/-- **An ApplicationReady that overtakes the response**: the PrmEnd succeeds, the wait for the
    ApplicationReady fails, and nothing was confirmed. -/
theorem overtaking_ready_lost :
    (∃ hdr cc, Racing (benchCapture [benchOwnReady, benchPrmEnd]) [] benchOwnReady 34964
        [.ok (some (benchPrmEnd, 34964))] hdr cc)
      ∧ (benchCapture [benchOwnReady, benchPrmEnd]).prmEnd.1.isOk = true
      ∧ ((benchCapture [benchOwnReady, benchPrmEnd]).prmEnd.2.applicationReady 60).1.isOk = false
      ∧ replied ((benchCapture [benchOwnReady, benchPrmEnd]).prmEnd.2.applicationReady
          60).2.transport = [] := by
  refine ⟨?_, by decide +kernel, by decide +kernel, by decide +kernel⟩
  obtain ⟨hdr, cc, hready⟩ := benchOwnReady_isReady
  refine ⟨hdr, cc, rfl, rfl, ?_, hready⟩
  intro i hi
  obtain rfl := List.mem_singleton.mp hi
  exact ⟨_, _, rfl, benchPrmEnd_answers _⟩

/-- Over two sockets no order is lost: what the PrmEnd takes off one does not touch the other. -/
theorem ready_on_two_sockets {c : RpcConn UdpTransport} (hc : c.connected = true)
    (hsend : (sendRequest c.transport c.prmEndRequest).1.isOk = true) {data ready : List UInt8}
    {rest pre post : List Received} (hqueue : responses c.transport = .ok (some data) :: rest)
    (hanswer : Answers c.prmEndRequest data) {hdr : ParsedRpc} {cc : CControlRequest}
    (hready : FirstReady (ccontrols c.transport) pre ready post hdr cc) (timeout : Nat) :
    c.prmEnd.1.isOk = positive data
      ∧ replied (c.prmEnd.2.applicationReady timeout).2.transport
        = replied c.transport ++ [ccontrolResponse hdr c.arUuid c.sessionKey] := by
  have hfront : responses c.transport = [] ++ .ok (some data) :: rest := hqueue
  obtain ⟨hprm, htransport⟩ := prmEnd_at hc hsend hfront nofun hanswer
  refine ⟨hprm, ?_⟩
  have hccontrols : ccontrols c.prmEnd.2.transport = ccontrols c.transport := by
    rw [htransport]
    rfl
  rw [← hccontrols] at hready
  have hstate : c.prmEnd.2 = c.asked c.prmEndRequest := by
    rw [prmEnd_eq hc]
  rw [applicationReady_first (c := c.prmEnd.2) (by rw [hstate]; exact hc) hready]
  dsimp only
  rw [replyCcontrol_replied hready.getElem, htransport, hstate]
  rfl

end Profinet.Transport
