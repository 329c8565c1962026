/-
  RPC SESSION: a connection over a whole run.

  A run is a list of steps: an operation of the caller, or datagrams arriving at the transport.  A
  call receives off the channel, so what arrives while it waits stands in a step before it.
  What an operation can do is said once (`perform_effect`): nothing; take from the CControl
  channel; ask, that is send one request with the next sequence number and receive; or send the
  RELEASE.  From it follow the facts that hold throughout a run (`SessionInv`): the identifiers of
  the connection stay, the k-th request given to the network carries sequence number k, and every
  response that `sendReceive` came back with was in a datagram that had arrived.
-/
import Profinet.RpcConn

namespace Profinet.Transport

open Wire Util RpcTransport

/-! ## Steps

  What a caller can do and what can arrive, as one type of steps. -/

/-- An operation of the caller.  The other reads of the source are `readRaw` with a parser behind
    it. -/
inductive Op where
  | connect (cmMac : Mac) (cmStationName : List UInt8) (setup : Connect.IocrSetup)
  | connectDeviceAccess (cmMac : Mac) (cmStationName : List UInt8)
  | sendControl (blockType controlCommand : UInt16) (subBlocks : List UInt8)
  | prmEnd
  | prmBegin
  | applicationReady (timeout : Nat)
  | readRaw (idx slot subslot : UInt16) (length : UInt32)
  | readRawImplicit (idx slot subslot : UInt16) (length : UInt32)
  | write (idx slot subslot : UInt16) (data : List UInt8)
  | writeMultiple (writes : List (UInt16 × UInt16 × UInt16 × List UInt8))
  | release

variable {T : Type} [RpcTransport T]

/-- What an operation leaves of the connection. -/
def RpcConn.perform (c : RpcConn T) : Op → RpcConn T
  | .connect m n s => (c.connect m n s).2
  | .connectDeviceAccess m n => (c.connectDeviceAccess m n).2
  | .sendControl t k b => (c.sendControl t k b).2
  | .prmEnd => c.prmEnd.2
  | .prmBegin => c.prmBegin.2
  | .applicationReady n => (c.applicationReady n).2
  | .readRaw i s u l => (c.readRaw i s u l).2
  | .readRawImplicit i s u l => (c.readRawImplicit i s u l).2
  | .write i s u d => (c.write i s u d).2
  | .writeMultiple w => (c.writeMultiple w).2
  | .release => c.release

/-- One step of a session: an operation, or something arrives. -/
inductive Step (T : Type) [RpcTransport T] where
  | arrive (a : Arrival T)
  | op (o : Op)

/-- What a step leaves of the connection. -/
def RpcConn.step (c : RpcConn T) : Step T → RpcConn T
  | .arrive a => { c with transport := RpcTransport.arrive a c.transport }
  | .op o => c.perform o

/-- Steps, one after the other. -/
def RpcConn.run (c : RpcConn T) (steps : List (Step T)) : RpcConn T := steps.foldl RpcConn.step c

/-- The operations that ask for an AR. -/
def Op.isConnect : Op → Bool
  | .connect .. => true
  | .connectDeviceAccess .. => true
  | _ => false

/-- Is it a release? -/
def Op.isRelease : Op → Bool
  | .release => true
  | _ => false

/-- Whether an operation sets `connected` on this response. -/
def Op.judges : Op → ParsedRpc → Bool
  | .connect .., resp => (parseConnectResponse resp.payload resp.isLittleEndian).isOk
  | .connectDeviceAccess .., resp => (parseStatusResponse resp.payload resp.isLittleEndian).isOk
  | _, _ => false

/-- The same of what `sendReceive` came back with. -/
def Op.establishes (o : Op) : Except String ParsedRpc → Bool
  | .ok resp => o.judges resp
  | .error _ => false

/-! ## What an operation can do

  `Effect` names the four kinds, with all that changes.  Later proofs go by the kind and never
  look into an operation again. -/

/-- The request with the next sequence number. -/
def RpcConn.request (c : RpcConn T) (opnum : UInt16) (body : List UInt8) : List UInt8 :=
  Rpc.rpcRequest c.objectUuid Rpc.ifaceUuidDevice c.activityUuid c.sequenceNumber opnum body

/-- The connection after a request was sent and its answer received. -/
def RpcConn.asked (c : RpcConn T) (req : List UInt8) : RpcConn T :=
  { c with sequenceNumber := c.sequenceNumber + 1
           transport := (exchange c.transport req).2
           exchanges := c.exchanges ++ [(req, (exchange c.transport req).1)] }

theorem RpcConn.call_eq {α : Type} (c : RpcConn T) (build : UInt32 → List UInt8)
    (finish : ParsedRpc → RpcConn T → Except String α × RpcConn T) :
    c.call build finish
      = match (exchange c.transport (build c.sequenceNumber)).1 with
        | .error e => (.error e, c.asked (build c.sequenceNumber))
        | .ok resp => finish resp (c.asked (build c.sequenceNumber)) := by
  simp only [RpcConn.call, RpcConn.sendReceive, RpcConn.asked]
  cases (exchange c.transport (build c.sequenceNumber)).1 <;> rfl

/-- **What an operation can do to a connection.** -/
inductive Effect (c : RpcConn T) (o : Op) : RpcConn T → Prop where
  /-- Nothing. -/
  | quiet (ho : o.isConnect = false) (hc : o.isRelease = true → c.connected = false) : Effect c o c
  /-- Take from the CControl channel, and reply to it. -/
  | waited (ho : o.isConnect = false) (hr : o.isRelease = false) (t : T)
      (hsent : sent t = sent c.transport) (hrest : responses t <:+ responses c.transport) :
      Effect c o { c with transport := t }
  /-- Send a request and receive its answer. -/
  | asked (opnum : UInt16) (body : List UInt8) (i j : UInt16) (hr : o.isRelease = false)
      (hop : o.isConnect = (opnum == Rpc.connect)) (hnot : opnum ≠ Rpc.release) :
      Effect c o
        { c.asked (c.request opnum body) with
          inputFrameId := i
          outputFrameId := j
          connected :=
            c.connected || o.establishes (exchange c.transport (c.request opnum body)).1 }
  /-- Send the RELEASE. -/
  | released (ho : o.isRelease = true) (hc : c.connected = true) : Effect c o c.release

/-- An operation that asks, whatever it makes of the response beyond frame IDs and `connected`. -/
theorem effect_of_call {α : Type} {c : RpcConn T} {o : Op} {opnum : UInt16} {body : List UInt8}
    {finish : ParsedRpc → RpcConn T → Except String α × RpcConn T} (hr : o.isRelease = false)
    (hop : o.isConnect = (opnum == Rpc.connect)) (hnot : opnum ≠ Rpc.release)
    (hfinish : ∀ (resp : ParsedRpc) (c' : RpcConn T), ∃ i j, (finish resp c').2
      = { c' with inputFrameId := i, outputFrameId := j
                  connected := c'.connected || o.judges resp }) :
    Effect c o
      (c.call (fun seq => Rpc.rpcRequest c.objectUuid Rpc.ifaceUuidDevice c.activityUuid seq opnum
        body) finish).2 := by
  have heffect (i j : UInt16) := Effect.asked (c := c) (o := o) opnum body i j hr hop hnot
  rw [RpcConn.call_eq]
  show Effect c o (match (exchange c.transport (c.request opnum body)).1 with
    | .error e => (Except.error e, c.asked (c.request opnum body))
    | .ok resp => finish resp (c.asked (c.request opnum body))).2
  -- a failed exchange leaves the frame ids and the connection flag alone
  cases hex : (exchange c.transport (c.request opnum body)).1 with
  | error e =>
    have h := heffect c.inputFrameId c.outputFrameId
    rw [hex, Op.establishes, Bool.or_false] at h
    exact h
  | ok resp =>
    obtain ⟨i, j, hfin⟩ := hfinish resp (c.asked (c.request opnum body))
    have h := heffect i j
    rw [hex, Op.establishes] at h
    dsimp only
    rw [hfin]
    exact h

/-- Looking at the response is all that the operations without an AR do with it. -/
theorem finish_look {T α : Type} {o : Op} (ho : ∀ resp, o.judges resp = false)
    (look : ParsedRpc → Except String α) (resp : ParsedRpc) (c : RpcConn T) :
    ∃ i j, (look resp, c).2
      = { c with inputFrameId := i, outputFrameId := j
                 connected := c.connected || o.judges resp } := by
  refine ⟨c.inputFrameId, c.outputFrameId, ?_⟩
  rw [ho, Bool.or_false]

theorem effect_connect (c : RpcConn T) (cmMac : Mac) (cmStationName : List UInt8)
    (setup : Connect.IocrSetup) :
    Effect c (.connect cmMac cmStationName setup) (c.connect cmMac cmStationName setup).2 := by
  refine effect_of_call rfl (beq_self_eq_true Rpc.connect).symm (by decide) ?_
  intro resp c'
  simp only [Op.judges]
  cases parseConnectResponse resp.payload resp.isLittleEndian with
  | error e =>
    refine ⟨c'.inputFrameId, c'.outputFrameId, ?_⟩
    rw [Except.isOk, Except.toBool, Bool.or_false]
  | ok result =>
    refine ⟨result.inputFrameId, result.outputFrameId, ?_⟩
    rw [Except.isOk, Except.toBool, Bool.or_true]

theorem effect_connectDeviceAccess (c : RpcConn T) (cmMac : Mac) (cmStationName : List UInt8) :
    Effect c (.connectDeviceAccess cmMac cmStationName)
      (c.connectDeviceAccess cmMac cmStationName).2 := by
  refine effect_of_call rfl (beq_self_eq_true Rpc.connect).symm (by decide) ?_
  intro resp c'
  refine ⟨c'.inputFrameId, c'.outputFrameId, ?_⟩
  simp only [Op.judges]
  cases parseStatusResponse resp.payload resp.isLittleEndian with
  | error e => rw [Except.isOk, Except.toBool, Bool.or_false]
  | ok result => rw [Except.isOk, Except.toBool, Bool.or_true]

theorem effect_sendControl (c : RpcConn T) (o : Op) (hr : o.isRelease = false) (hno : o.isConnect = false)
    (ho : ∀ resp, o.judges resp = false) (blockType controlCommand : UInt16)
    (subBlocks : List UInt8) : Effect c o (c.sendControl blockType controlCommand subBlocks).2 := by
  rw [RpcConn.sendControl]
  split
  · exact effect_of_call hr hno (by decide) (finish_look ho _)
  · refine .quiet hno ?_
    intro h
    rw [hr] at h
    nomatch h

theorem effect_applicationReady (c : RpcConn T) (timeout : Nat) :
    Effect c (.applicationReady timeout) (c.applicationReady timeout).2 := by
  have hwaited (n : Nat) : Effect c (.applicationReady timeout)
      { c with transport := afterCcontrols n c.transport } :=
    .waited rfl rfl _ (afterCcontrols_sent n _) (afterCcontrols_responses n _)
  -- first the queue of CControls, then the reply; neither is a request
  rw [RpcConn.applicationReady]
  split
  · dsimp only
    split
    · exact hwaited _
    · exact hwaited _
    · next hdr cc rest heq =>
      have hreply {n : Nat} {d : List UInt8} {r : Except String Unit} {t : T}
          (ht : replyCcontrol (afterCcontrols n c.transport) d = (r, t)) :
          Effect c (.applicationReady timeout) { c with transport := t } := by
        have hsent := replyCcontrol_sent (afterCcontrols n c.transport) d
        have hresp := replyCcontrol_responses (afterCcontrols n c.transport) d
        rw [ht] at hsent hresp
        refine .waited rfl rfl t ?_ ?_
        · rw [hsent, afterCcontrols_sent]
        · rw [hresp]
          exact afterCcontrols_responses n _
      split
      · next ht => exact hreply ht
      · next ht => exact hreply ht
  · exact .quiet rfl nofun

/-- **Every operation does one of these.** -/
theorem perform_effect (c : RpcConn T) (o : Op) : Effect c o (c.perform o) := by
  -- one case per operation: most are one request, and `release` is sent only while connected
  cases o with
  | connect m n s => exact effect_connect c m n s
  | connectDeviceAccess m n => exact effect_connectDeviceAccess c m n
  | sendControl t k b => exact effect_sendControl c _ rfl rfl (fun _ => rfl) t k b
  | prmEnd => exact effect_sendControl c _ rfl rfl (fun _ => rfl) _ _ _
  | prmBegin => exact effect_sendControl c _ rfl rfl (fun _ => rfl) _ _ _
  | applicationReady n => exact effect_applicationReady c n
  | readRaw i s u l =>
    exact effect_of_call rfl rfl (by decide) (finish_look (fun _ => rfl) _)
  | readRawImplicit i s u l =>
    exact effect_of_call rfl rfl (by decide) (finish_look (fun _ => rfl) _)
  | write i s u d =>
    exact effect_of_call rfl rfl (by decide) (finish_look (fun _ => rfl) _)
  | writeMultiple w =>
    show Effect c _ (c.writeMultiple w).2
    rw [RpcConn.writeMultiple]
    split
    · exact .quiet rfl nofun
    · exact effect_of_call rfl rfl (by decide) (finish_look (fun _ => rfl) _)
  | release =>
    by_cases hc : c.connected = true
    · exact .released rfl hc
    · have hquiet : c.perform .release = c := by
        show c.release = c
        rw [RpcConn.release, if_neg hc]
      rw [hquiet]
      exact .quiet rfl fun _ => Bool.eq_false_iff.mpr hc

/-! ## One exchange

  A request and the wait for its response.  The response is the first datagram in the queue that
  belongs to the request; what stands before it is consumed with it. -/

theorem RpcConn.parse_request {T : Type} (c : RpcConn T) (opnum : UInt16) (body : List UInt8) :
    parseRpcHeader (c.request opnum body)
      = some (requestHeader c.objectUuid Rpc.ifaceUuidDevice c.activityUuid c.sequenceNumber opnum
        body) := parseRpcHeader_rpcRequest _ _ _ _ _ _

/-- What the loop of `send_receive` receives: the next datagrams of the response channel. -/
def outcomes (t : T) : List (Except String (List UInt8)) :=
  (responses t).map (recvOutcome ("No response from " ++ peer t))

/-- The send took, and the loop ran over what the transport then delivers. -/
theorem exchange_of_sent {t : T} {req : List UInt8} {h : ParsedRpc}
    (hparse : parseRpcHeader req = some h) (hsend : (sendRequest t req).1.isOk = true) :
    exchange t req
      = match nextRpcResponse (drepNormalizedUuid h.activityUuid h.isLittleEndian)
          h.sequenceNumber (outcomes (sendRequest t req).2) with
        | some (result, rest) =>
          (result, afterResponses ((outcomes (sendRequest t req).2).length - rest.length)
            (sendRequest t req).2)
        | none =>
          (.error ("No response from " ++ peer (sendRequest t req).2),
            afterResponses (outcomes (sendRequest t req).2).length (sendRequest t req).2) := by
  rw [exchange, hparse]
  dsimp only
  cases hs : sendRequest t req with
  | mk r t' =>
    rw [hs] at hsend
    cases r with
    | error e => nomatch hsend
    | ok u => rfl

/-- **An exchange gives one datagram to the network**, takes some off the response channel, and its
    response was in one of them. -/
theorem exchange_spec {t : T} {req : List UInt8} {h : ParsedRpc}
    (hparse : parseRpcHeader req = some h) :
    sent (exchange t req).2 = sent t ++ [req]
      ∧ responses (exchange t req).2 <:+ responses t
      ∧ ∀ resp, (exchange t req).1 = .ok resp →
        ∃ data, .ok (some data) ∈ responses t ∧ parseRpcResponse data = .ok (some resp)
          ∧ isOurs (drepNormalizedUuid h.activityUuid h.isLittleEndian) h.sequenceNumber resp
            = true := by
  have hsent := sendRequest_sent t req
  have hresp := sendRequest_responses t req
  by_cases hsend : (sendRequest t req).1.isOk = true
  · have hdrop (n : Nat) : sent (afterResponses n (sendRequest t req).2) = sent t ++ [req]
        ∧ responses (afterResponses n (sendRequest t req).2) <:+ responses t := by
      rw [afterResponses_sent, afterResponses_responses, hsent, hresp]
      exact ⟨rfl, List.drop_suffix n _⟩
    rw [exchange_of_sent hparse hsend]
    cases hnext : nextRpcResponse (drepNormalizedUuid h.activityUuid h.isLittleEndian)
        h.sequenceNumber (outcomes (sendRequest t req).2) with
    | none =>
      refine ⟨(hdrop _).1, (hdrop _).2, ?_⟩
      intro resp hok
      nomatch hok
    | some p =>
      refine ⟨(hdrop _).1, (hdrop _).2, ?_⟩
      rintro resp hok
      obtain ⟨result, rest⟩ := p
      obtain rfl : result = .ok resp := hok
      rw [nextRpcResponse_eq_scan] at hnext
      obtain ⟨pre, r, hqueue, -, hv⟩ := Scan.scan_eq_some.mp hnext
      obtain ⟨data, rfl, hdata, hours⟩ := verdict_ok.mp hv
      refine ⟨data, ?_, hdata, hours⟩
      -- the deciding outcome is that of a datagram on the channel
      have hmem : .ok data ∈ outcomes (sendRequest t req).2 := by
        rw [hqueue]
        exact List.mem_append_right _ List.mem_cons_self
      obtain ⟨received, hreceived, houtcome⟩ := List.mem_map.mp hmem
      rw [hresp] at hreceived
      match received, houtcome with
      | .ok (some _), rfl => exact hreceived
  · have hex : (exchange t req).2 = (sendRequest t req).2
        ∧ ∀ resp, (exchange t req).1 ≠ .ok resp := by
      rw [exchange, hparse]
      dsimp only
      cases hs : sendRequest t req with
      | mk r t' =>
        rw [hs] at hsend
        cases r with
        | error e => exact ⟨rfl, nofun⟩
        | ok u => exact absurd rfl hsend
    have hsame : responses (exchange t req).2 = responses t := (congrArg responses hex.1).trans hresp
    exact ⟨by rw [hex.1, hsent], ⟨[], hsame⟩, fun resp hok => absurd hok (hex.2 resp)⟩

/-- **Behind datagrams that the loop passes over, the first response of ours is returned**, and what
    stands behind it stays on the channel. -/
theorem exchange_at {t : T} {req : List UInt8} {h : ParsedRpc}
    (hparse : parseRpcHeader req = some h) (hsend : (sendRequest t req).1.isOk = true)
    {pre post : List Received} {data : List UInt8} {resp : ParsedRpc}
    (hqueue : responses t = pre ++ .ok (some data) :: post)
    (hpre : ∀ r ∈ pre, ∀ e, verdict (drepNormalizedUuid h.activityUuid h.isLittleEndian)
      h.sequenceNumber (recvOutcome e r) = none)
    (hresp : parseRpcResponse data = .ok (some resp))
    (hours : isOurs (drepNormalizedUuid h.activityUuid h.isLittleEndian) h.sequenceNumber resp
      = true) :
    exchange t req = (.ok resp, afterResponses (pre.length + 1) (sendRequest t req).2) := by
  obtain ⟨e, he⟩ : ∃ e, e = "No response from " ++ peer (sendRequest t req).2 := ⟨_, rfl⟩
  have hout : outcomes (sendRequest t req).2
      = pre.map (recvOutcome e) ++ .ok data :: post.map (recvOutcome e) := by
    rw [outcomes, ← he, sendRequest_responses, hqueue, List.map_append, List.map_cons]
    rfl
  -- what stands before the response is passed over by the scan
  have hscan : nextRpcResponse (drepNormalizedUuid h.activityUuid h.isLittleEndian)
      h.sequenceNumber (outcomes (sendRequest t req).2)
      = some (.ok resp, post.map (recvOutcome e)) := by
    rw [nextRpcResponse_eq_scan, hout]
    refine Scan.scan_eq_some.mpr ⟨_, _, rfl, ?_, verdict_ok.mpr ⟨data, rfl, hresp, hours⟩⟩
    intro r hr
    obtain ⟨r', hr', rfl⟩ := List.mem_map.mp hr
    exact hpre r' hr' e
  rw [exchange_of_sent hparse hsend, hscan]
  dsimp only
  rw [hout]
  simp only [List.length_append, List.length_cons, List.length_map]
  congr 2
  omega

/-! ## What holds throughout a run

  `SessionInv` is kept by each kind of effect and by arrivals, and so by runs.  The numbers count
  modulo 2^32. -/

/-- A connection at its start: nothing sent, nothing received, no AR. -/
structure Fresh (c : RpcConn T) : Prop where
  sequenceNumber : c.sequenceNumber = 0
  connected : c.connected = false
  exchanges : c.exchanges = []
  sent : sent c.transport = []
  responses : responses c.transport = []

theorem fresh_withTransport {t : T} (hs : sent t = []) (hr : responses t = [])
    (deviceId vendorId : UInt16) (activityUuid arUuid : Uuid) (sessionKey : UInt16) :
    Fresh (withTransport t deviceId vendorId activityUuid arUuid sessionKey) :=
  ⟨rfl, rfl, rfl, hs, hr⟩

/-- What arrives on the response channel in a step. -/
def Step.arrived : Step T → List Received
  | .arrive a => onResponses a
  | .op _ => []

/-- A response to the request with number `k` arrived, and is the one that was returned. -/
def Answered (activity : Uuid) (k : Nat) (arrived : List Received) (resp : ParsedRpc) : Prop :=
  ∃ data, .ok (some data) ∈ arrived ∧ parseRpcResponse data = .ok (some resp)
    ∧ isOurs activity (UInt32.ofNat k) resp = true

/-- **What holds throughout a run** from `c₀` in which these outcomes arrived. -/
structure SessionInv (c₀ : RpcConn T) (arrived : List Received) (c : RpcConn T) : Prop where
  object : c.objectUuid = c₀.objectUuid
  activity : c.activityUuid = c₀.activityUuid
  ar : c.arUuid = c₀.arUuid
  key : c.sessionKey = c₀.sessionKey
  count : c.sequenceNumber = UInt32.ofNat (sent c.transport).length
  /-- The k-th request carries our activity UUID and the number k. -/
  numbered : ∀ (k : Nat) (req : List UInt8), (sent c.transport)[k]? = some req →
    ∃ h, parseRpcHeader req = some h ∧ h.isLittleEndian = false
      ∧ h.activityUuid = c₀.activityUuid ∧ h.sequenceNumber = UInt32.ofNat k
  queued : ∀ r ∈ responses c.transport, r ∈ arrived
  answered : ∀ p ∈ c.exchanges, ∃ k, (sent c.transport)[k]? = some p.1
    ∧ ∀ resp, p.2 = .ok resp → Answered c₀.activityUuid k arrived resp

theorem sessionInv_fresh {c : RpcConn T} (h : Fresh c) : SessionInv c [] c where
  object := rfl
  activity := rfl
  ar := rfl
  key := rfl
  count := by rw [h.sequenceNumber, h.sent]; rfl
  numbered k req hk := by
    rw [h.sent] at hk
    nomatch hk
  queued r hr := by
    rw [h.responses] at hr
    nomatch hr
  answered p hp := by
    rw [h.exchanges] at hp
    nomatch hp

theorem Answered.mono {activity : Uuid} {k : Nat} {arrived more : List Received} {resp : ParsedRpc}
    (h : Answered activity k arrived resp) : Answered activity k (arrived ++ more) resp := by
  obtain ⟨data, hdata, hparse, hours⟩ := h
  exact ⟨data, List.mem_append_left _ hdata, hparse, hours⟩

/-- One more request on the record is the one with the next number. -/
theorem numbered_append {activity : Uuid} {log : List (List UInt8)} {req : List UInt8}
    {h : ParsedRpc} (hparse : parseRpcHeader req = some h) (hle : h.isLittleEndian = false)
    (hact : h.activityUuid = activity) (hseq : h.sequenceNumber = UInt32.ofNat log.length)
    (hlog : ∀ (k : Nat) (r : List UInt8), log[k]? = some r → ∃ h, parseRpcHeader r = some h
      ∧ h.isLittleEndian = false ∧ h.activityUuid = activity ∧ h.sequenceNumber = UInt32.ofNat k)
    (k : Nat) (r : List UInt8) (hk : (log ++ [req])[k]? = some r) :
    ∃ h, parseRpcHeader r = some h ∧ h.isLittleEndian = false ∧ h.activityUuid = activity
      ∧ h.sequenceNumber = UInt32.ofNat k := by
  by_cases hlt : k < log.length
  · rw [List.getElem?_append_left hlt] at hk
    exact hlog k r hk
  · rw [List.getElem?_append_right (by omega)] at hk
    obtain ⟨hone, rfl⟩ : k - log.length = 0 ∧ req = r := by
      rcases hz : k - log.length with _ | n
      · rw [hz] at hk
        exact ⟨rfl, Option.some.inj hk⟩
      · rw [hz] at hk
        nomatch hk
    obtain rfl : k = log.length := by omega
    exact ⟨h, hparse, hle, hact, hseq⟩

theorem ofNat_succ (n : Nat) : UInt32.ofNat n + 1 = UInt32.ofNat (n + 1) := by
  rw [UInt32.ofNat_add]
  rfl

/-- One more request on the record, with the answer to it if there was one. -/
theorem SessionInv.sentOne {c₀ c c' : RpcConn T} {arrived : List Received}
    (hinv : SessionInv c₀ arrived c) {opnum : UInt16} {body : List UInt8}
    (hobject : c'.objectUuid = c.objectUuid) (hactivity : c'.activityUuid = c.activityUuid)
    (har : c'.arUuid = c.arUuid) (hkey : c'.sessionKey = c.sessionKey)
    (hseq : c'.sequenceNumber = c.sequenceNumber + 1)
    (hsent : sent c'.transport = sent c.transport ++ [c.request opnum body])
    (hrest : responses c'.transport <:+ responses c.transport)
    (hexchanges : ∀ p ∈ c'.exchanges, p ∈ c.exchanges ∨ p.1 = c.request opnum body
      ∧ ∀ resp, p.2 = .ok resp →
        Answered c₀.activityUuid (sent c.transport).length arrived resp) :
    SessionInv c₀ arrived c' where
  object := hobject.trans hinv.object
  activity := hactivity.trans hinv.activity
  ar := har.trans hinv.ar
  key := hkey.trans hinv.key
  count := by
    rw [hseq, hsent, List.length_append, List.length_singleton, hinv.count, ofNat_succ]
  numbered := by
    rw [hsent]
    exact numbered_append (c.parse_request opnum body) rfl hinv.activity hinv.count hinv.numbered
  queued := by
    intro r hr
    exact hinv.queued r (hrest.subset hr)
  answered := by
    intro p hp
    -- an exchange of before keeps its request; the new one has the last number
    rw [hsent]
    rcases hexchanges p hp with hold | ⟨hreq, hanswered⟩
    · obtain ⟨k, hk, hans⟩ := hinv.answered p hold
      exact ⟨k, (List.getElem?_append_left (List.getElem?_eq_some_iff.mp hk).1).trans hk, hans⟩
    · refine ⟨(sent c.transport).length, ?_, hanswered⟩
      rw [hreq]
      exact List.getElem?_concat_length

/-- An operation keeps the invariant. -/
theorem perform_inv {c₀ c : RpcConn T} {arrived : List Received} (hinv : SessionInv c₀ arrived c)
    (o : Op) : SessionInv c₀ arrived (c.perform o) := by
  -- on the effect, not on the operation: what matters is how many requests it sent
  have heffect := perform_effect c o
  generalize c.perform o = c' at heffect ⊢
  cases heffect with
  | quiet _ _ => exact hinv
  | waited _ _ t hsent hrest =>
    refine { hinv with count := ?_, numbered := ?_, queued := ?_, answered := ?_ }
    · show c.sequenceNumber = UInt32.ofNat (sent t).length
      rw [hsent]
      exact hinv.count
    · show ∀ (k : Nat) (req : List UInt8), (sent t)[k]? = some req → _
      rw [hsent]
      exact hinv.numbered
    · intro r hr
      exact hinv.queued r (hrest.subset hr)
    · show ∀ p ∈ c.exchanges, ∃ k, (sent t)[k]? = some p.1 ∧ _
      rw [hsent]
      exact hinv.answered
  -- the response was in the queue, so it had arrived
  | asked opnum body i j _ _ _ =>
    obtain ⟨hsent, hrest, hresp⟩ := exchange_spec (t := c.transport) (c.parse_request opnum body)
    refine hinv.sentOne rfl rfl rfl rfl rfl hsent hrest ?_
    intro p hp
    rcases List.mem_append.mp hp with hold | hnew
    · exact .inl hold
    · obtain rfl := List.mem_singleton.mp hnew
      refine .inr ⟨rfl, ?_⟩
      intro resp hok
      obtain ⟨data, hdata, hdparse, hours⟩ := hresp resp hok
      refine ⟨data, hinv.queued _ hdata, hdparse, ?_⟩
      rw [← hinv.count, ← hinv.activity]
      exact hours
  | released _ hc =>
    have hrelease : c.release = { c with
        sequenceNumber := c.sequenceNumber + 1
        transport := (sendRequest c.transport (c.request Rpc.release (Rpc.nrd (iodControlBlock
          blockIodReleaseReq c.arUuid c.sessionKey controlCmdRelease)))).2
        connected := false } := by
      rw [RpcConn.release, if_pos hc]
      rfl
    rw [hrelease]
    refine hinv.sentOne rfl rfl rfl rfl rfl (sendRequest_sent _ _) ?_ fun p hp => .inl hp
    exact ⟨[], sendRequest_responses _ _⟩

/-- A step keeps the invariant, with what arrived in it. -/
theorem step_inv {c₀ c : RpcConn T} {arrived : List Received} (hinv : SessionInv c₀ arrived c)
    (s : Step T) : SessionInv c₀ (arrived ++ s.arrived) (c.step s) := by
  -- an arrival only lengthens the queue
  cases s with
  | arrive a =>
    have hsent := arrive_sent a c.transport
    refine ⟨hinv.object, hinv.activity, hinv.ar, hinv.key, ?_, ?_, ?_, ?_⟩
    · show c.sequenceNumber = UInt32.ofNat (sent (RpcTransport.arrive a c.transport)).length
      rw [hsent]
      exact hinv.count
    · show ∀ (k : Nat) (req : List UInt8),
        (sent (RpcTransport.arrive a c.transport))[k]? = some req → _
      rw [hsent]
      exact hinv.numbered
    · intro r hr
      have hr' : r ∈ responses (RpcTransport.arrive a c.transport) := hr
      rw [arrive_responses] at hr'
      rcases List.mem_append.mp hr' with hold | hnew
      · exact List.mem_append_left _ (hinv.queued r hold)
      · exact List.mem_append_right _ hnew
    · intro p hp
      obtain ⟨k, hk, hans⟩ := hinv.answered p hp
      refine ⟨k, ?_, fun resp hok => (hans resp hok).mono⟩
      show (sent (RpcTransport.arrive a c.transport))[k]? = some p.1
      rw [hsent]
      exact hk
  | op o =>
    show SessionInv c₀ (arrived ++ []) (c.perform o)
    rw [List.append_nil]
    exact perform_inv hinv o

/-- **The invariant holds in every run.** -/
theorem run_inv {c₀ : RpcConn T} (h : Fresh c₀) (steps : List (Step T)) :
    SessionInv c₀ (steps.flatMap Step.arrived) (c₀.run steps) := by
  have hgen : ∀ (steps : List (Step T)) (arrived : List Received) (c : RpcConn T),
      SessionInv c₀ arrived c →
        SessionInv c₀ (arrived ++ steps.flatMap Step.arrived) (c.run steps) := by
    intro steps
    induction steps with
    | nil =>
      intro arrived c hinv
      rw [List.flatMap_nil, List.append_nil]
      exact hinv
    | cons s steps ih =>
      intro arrived c hinv
      rw [List.flatMap_cons, ← List.append_assoc]
      exact ih _ _ (step_inv hinv s)
  exact hgen steps [] c₀ (sessionInv_fresh h)

/-! ## A connection on the bench

  A connection with an AR, used by the examples of several modules. -/

/-- A UUID whose bytes differ, so that its byte order shows. -/
def benchUuid (b : UInt8) : Uuid :=
  ⟨[b, 1, 2, 3, 4, 5, 6, 7, 8, 9, 10, 11, 12, 13, 14, 15], rfl⟩

/-- A fresh connection over two UDP sockets on which nothing has arrived. -/
def benchConn : RpcConn UdpTransport :=
  withTransport ⟨[], [], none, "device", [], [], []⟩ 1 2 (benchUuid 0xA0) (benchUuid 0xB0) 7

theorem benchConn_fresh : Fresh benchConn := fresh_withTransport rfl rfl _ _ _ _ _

/-- The device's response to the request with this number, in the given byte order. -/
def benchAnswer (le : Bool) (seq : UInt32) (payload : List UInt8) : ParsedRpc :=
  { requestHeader benchConn.objectUuid Rpc.ifaceUuidDevice
      (drepNormalizedUuid benchConn.activityUuid le) seq 0 payload with
    packetType := packetTypeResponse
    drep := ⟨[if le then 0x10 else 0x00, 0, 0], rfl⟩
    isLittleEndian := le }

end Profinet.Transport
