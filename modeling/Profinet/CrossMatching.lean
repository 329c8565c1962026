/-
  CROSS MATCHING: a call is answered by the response to its own request.

  A call that timed out leaves its late answer on the channel, for a later call to find.  The
  device chooses the byte order of each answer, and other controllers' traffic arrives as well.
  `Answers` says how a device answers a request: a RESPONSE that echoes activity UUID and sequence
  number, in the byte order of its own DREP.

  The numbers of the requests of a session differ as long as there are fewer than 2^32 of them
  (`Answers.unique`), so a datagram answers at most one request, and `no_cross_matching` follows
  from the run invariant.
-/
import Profinet.RpcSession

namespace Profinet.Transport

open Wire RpcTransport

/-! ## Answers -/

/-- The datagram is a device's response to the request, in whichever byte order the device chose;
    all fields beyond the echoed ones are the device's. -/
def Answers (req data : List UInt8) : Prop :=
  ∃ r h, parseRpcHeader req = some r ∧ h.Coherent ∧ h.packetType = packetTypeResponse
    ∧ h.activityUuid = drepNormalizedUuid (drepNormalizedUuid r.activityUuid r.isLittleEndian)
        h.isLittleEndian
    ∧ h.sequenceNumber = r.sequenceNumber ∧ data = rpcBytes h

/-- The datagram carries another activity UUID, or none. -/
def OfOtherActivity (activity : Uuid) (data : List UInt8) : Prop :=
  ∀ h, parseRpcHeader data = some h → drepNormalizedUuid h.activityUuid h.isLittleEndian ≠ activity

/-- **An answer parses as the response to its request**, in both byte orders. -/
theorem Answers.parses {req data : List UInt8} {r : ParsedRpc} (hreq : parseRpcHeader req = some r)
    (h : Answers req data) :
    ∃ resp, parseRpcResponse data = .ok (some resp)
      ∧ isOurs (drepNormalizedUuid r.activityUuid r.isLittleEndian) r.sequenceNumber resp = true := by
  obtain ⟨r', h, hreq', hle, htype, hact, hseq, rfl⟩ := h
  obtain rfl := Option.some.inj (hreq.symm.trans hreq')
  refine ⟨h, parseRpcResponse_ok.mpr ⟨parseRpcHeader_rpcBytes hle, htype⟩, ?_⟩
  rw [isOurs, hact, drepNormalizedUuid_twice, hseq]
  simp only [decide_true, Bool.and_self]

theorem isOurs_iff {u : Uuid} {seq : UInt32} {resp : ParsedRpc} :
    isOurs u seq resp = true
      ↔ drepNormalizedUuid resp.activityUuid resp.isLittleEndian = u
        ∧ resp.sequenceNumber = seq := by
  rw [isOurs, Bool.and_eq_true, decide_eq_true_eq, decide_eq_true_eq]

variable {T : Type} [RpcTransport T]

/-- A response with number `k` that answers a request of the session answers the k-th. -/
theorem Answers.unique {c₀ c : RpcConn T} {arrived : List Received}
    (hinv : SessionInv c₀ arrived c) (hshort : (sent c.transport).length ≤ 2 ^ 32)
    {data : List UInt8} {resp : ParsedRpc} (hparse : parseRpcResponse data = .ok (some resp))
    {k : Nat} (hk : resp.sequenceNumber = UInt32.ofNat k) (hklt : k < 2 ^ 32)
    {j : Nat} {req : List UInt8} (hj : (sent c.transport)[j]? = some req)
    (h : Answers req data) : j = k := by
  obtain ⟨r, hr, -, -, hrseq⟩ := hinv.numbered j req hj
  obtain ⟨resp', hparse', hours⟩ := h.parses hr
  obtain rfl : resp = resp' := Option.some.inj (Except.ok.inj (hparse.symm.trans hparse'))
  have hjlt := (List.getElem?_eq_some_iff.mp hj).1
  have hof : UInt32.ofNat j = UInt32.ofNat k := by
    rw [← hrseq, ← (isOurs_iff.mp hours).2, hk]
  have hnat := congrArg UInt32.toNat hof
  rw [UInt32.toNat_ofNat', UInt32.toNat_ofNat'] at hnat
  omega

/-! ## Fewer than 2^32 calls -/

/-- Is it an operation, and not an arrival? -/
def Step.isCall : Step T → Bool
  | .op _ => true
  | .arrive _ => false

/-- The number of calls of a run. -/
def calls (steps : List (Step T)) : Nat := steps.countP Step.isCall

/-- A call sends at most one request. -/
theorem sent_perform_length (c : RpcConn T) (o : Op) :
    (sent (c.perform o).transport).length ≤ (sent c.transport).length + 1 := by
  have heffect := perform_effect c o
  generalize c.perform o = c' at heffect ⊢
  cases heffect with
  | quiet _ _ => omega
  | waited _ _ t hsent _ =>
    show (sent t).length ≤ _
    rw [hsent]
    omega
  | asked opnum body i j _ _ _ =>
    obtain ⟨hsent, -, -⟩ := exchange_spec (t := c.transport) (c.parse_request opnum body)
    show (sent (exchange c.transport (c.request opnum body)).2).length ≤ _
    rw [hsent, List.length_append, List.length_singleton]
  | released _ hc =>
    rw [RpcConn.release, if_pos hc]
    dsimp only
    rw [sendRequest_sent, List.length_append, List.length_singleton]

theorem sent_run_length (c : RpcConn T) (steps : List (Step T)) :
    (sent (c.run steps).transport).length ≤ (sent c.transport).length + calls steps := by
  induction steps generalizing c with
  | nil => exact Nat.le_refl _
  | cons s steps ih =>
    have hrest := ih (c.step s)
    show (sent ((c.step s).run steps).transport).length ≤ _
    unfold calls at hrest ⊢
    rw [List.countP_cons]
    cases s with
    | arrive a =>
      have hsent : sent (c.step (.arrive a)).transport = sent c.transport :=
        arrive_sent a c.transport
      rw [hsent] at hrest
      exact hrest
    | op o =>
      have hone : (sent (c.step (.op o)).transport).length ≤ (sent c.transport).length + 1 :=
        sent_perform_length c o
      simp only [Step.isCall, if_true]
      omega

/-! ## The two halves -/

/-- The schedule of a run is the device's and other controllers': every datagram that arrives is
    an answer to a request of the session or carries another activity. -/
def Genuine (c₀ : RpcConn T) (steps : List (Step T)) : Prop :=
  ∀ data, .ok (some data) ∈ steps.flatMap Step.arrived →
    (∃ req ∈ sent (c₀.run steps).transport, Answers req data)
      ∨ OfOtherActivity c₀.activityUuid data

/-- On the channel before the own response: late answers to earlier requests, and responses of
    other activities. -/
def Stale (c : RpcConn T) (r : Received) : Prop :=
  ∃ data, r = .ok (some data)
    ∧ ((∃ req ∈ sent c.transport, Answers req data)
      ∨ (OfOtherActivity c.activityUuid data
        ∧ ∃ h, parseRpcHeader data = some h ∧ h.packetType = packetTypeResponse))

/-- What a call returned was an answer to its own request and to no other. -/
theorem own_response {c₀ : RpcConn T} (hfresh : Fresh c₀) {steps : List (Step T)}
    (hcalls : calls steps < 2 ^ 32) (hgenuine : Genuine c₀ steps)
    {p : List UInt8 × Except String ParsedRpc} (hp : p ∈ (c₀.run steps).exchanges)
    {resp : ParsedRpc} (hok : p.2 = .ok resp) :
    ∃ (k : Nat) (data : List UInt8), (sent (c₀.run steps).transport)[k]? = some p.1
      ∧ .ok (some data) ∈ steps.flatMap Step.arrived
      ∧ parseRpcHeader data = some resp ∧ Answers p.1 data
      ∧ ∀ (j : Nat) (req : List UInt8), (sent (c₀.run steps).transport)[j]? = some req →
        Answers req data → j = k := by
  have hinv := run_inv hfresh steps
  have hlen := sent_run_length c₀ steps
  rw [hfresh.sent, List.length_nil, Nat.zero_add] at hlen
  obtain ⟨k, hk, hans⟩ := hinv.answered p hp
  obtain ⟨data, hdata, hparse, hours⟩ := hans resp hok
  obtain ⟨huuid, hseq⟩ := isOurs_iff.mp hours
  obtain ⟨hhdr, -⟩ := parseRpcResponse_ok.mp hparse
  have hklt := (List.getElem?_eq_some_iff.mp hk).1
  have hunique (j : Nat) (req : List UInt8)
      (hj : (sent (c₀.run steps).transport)[j]? = some req) (h : Answers req data) : j = k :=
    h.unique hinv (by omega) hparse hseq (by omega) hj
  refine ⟨k, data, hk, hdata, hhdr, ?_, hunique⟩
  rcases hgenuine data hdata with ⟨req, hreq, hanswers⟩ | hother
  · obtain ⟨j, hj⟩ := List.getElem?_of_mem hreq
    obtain rfl := hunique j req hj hanswers
    obtain rfl := Option.some.inj (hj.symm.trans hk)
    exact hanswers
  · exact absurd huuid (hother resp hhdr)

/-- The loop passes over what is stale. -/
theorem Stale.passed {c₀ c : RpcConn T} {arrived : List Received} (hinv : SessionInv c₀ arrived c)
    (hlen : (sent c.transport).length < 2 ^ 32) {r : Received} (h : Stale c r) (e : String) :
    verdict c.activityUuid c.sequenceNumber (recvOutcome e r) = none := by
  obtain ⟨data, rfl, hwhose⟩ := h
  have hskip {resp : ParsedRpc} (hparse : parseRpcResponse data = .ok (some resp))
      (hnot : isOurs c.activityUuid c.sequenceNumber resp ≠ true) :
      verdict c.activityUuid c.sequenceNumber (recvOutcome e (.ok (some data))) = none := by
    show verdict c.activityUuid c.sequenceNumber (.ok data) = none
    rw [verdict, hparse]
    exact if_neg hnot
  rcases hwhose with ⟨req, hreq, hans⟩ | ⟨hother, h, hhdr, htype⟩
  · obtain ⟨j, hj⟩ := List.getElem?_of_mem hreq
    obtain ⟨r, hr, -, -, -⟩ := hinv.numbered j req hj
    obtain ⟨resp, hparse, -⟩ := hans.parses hr
    refine hskip hparse ?_
    intro hours
    have hjlt := (List.getElem?_eq_some_iff.mp hj).1
    have hnum := (isOurs_iff.mp hours).2
    rw [hinv.count] at hnum
    -- the call's own number is that of no request sent before
    have := hans.unique hinv (by omega) hparse hnum hlen hj
    omega
  · refine hskip (parseRpcResponse_ok.mpr ⟨hhdr, htype⟩) ?_
    intro hours
    exact hother h hhdr (isOurs_iff.mp hours).1

/-- A call whose own response is the next that matches returns it. -/
theorem own_response_returned {c₀ c : RpcConn T} {arrived : List Received}
    (hinv : SessionInv c₀ arrived c) (hlen : (sent c.transport).length < 2 ^ 32) {o : Op}
    {req : List UInt8} {result : Except String ParsedRpc}
    (hcall : (c.perform o).exchanges = c.exchanges ++ [(req, result)])
    (hsend : (sendRequest c.transport req).1.isOk = true)
    {pre post : List Received} {data : List UInt8}
    (hqueue : responses c.transport = pre ++ .ok (some data) :: post)
    (hstale : ∀ r ∈ pre, Stale c r) (hown : Answers req data) :
    ∃ resp, parseRpcHeader data = some resp ∧ result = .ok resp := by
  have heffect := perform_effect c o
  generalize c.perform o = c' at heffect hcall
  have hsame {l : List (List UInt8 × Except String ParsedRpc)} :
      ¬ l = l ++ [(req, result)] := by
    intro h
    have := congrArg List.length h
    rw [List.length_append, List.length_singleton] at this
    omega
  cases heffect with
  | quiet _ _ => exact absurd hcall hsame
  | waited _ _ t _ _ => exact absurd hcall hsame
  | released _ hc =>
    rw [RpcConn.release, if_pos hc] at hcall
    exact absurd hcall hsame
  | asked opnum body i j _ _ _ =>
    have hpair := List.append_cancel_left hcall
    obtain ⟨rfl, rfl⟩ := Prod.mk.inj (List.cons.inj hpair).1
    have hparse := c.parse_request opnum body
    obtain ⟨resp, hresp, hours⟩ := hown.parses hparse
    refine ⟨resp, (parseRpcResponse_ok.mp hresp).1, ?_⟩
    have hpre (r : Received) (hr : r ∈ pre) (e : String) :
        verdict c.activityUuid c.sequenceNumber (recvOutcome e r) = none :=
      (hstale r hr).passed hinv hlen e
    rw [exchange_at hparse hsend hqueue hpre hresp hours]

/-- **No cross-matching over whole sessions.**  In a run of fewer than 2^32 calls whose arriving
    datagrams are answers to its requests, in any order, delayed, repeated and in either byte
    order, and datagrams of other activities: a response that a call returned is an answer to that
    very call's request, and to no other; and a further call whose own response stands behind
    nothing but late answers and responses of others returns it. -/
theorem no_cross_matching {c₀ : RpcConn T} (hfresh : Fresh c₀) {steps : List (Step T)}
    (hcalls : calls steps < 2 ^ 32) :
    (Genuine c₀ steps → ∀ p ∈ (c₀.run steps).exchanges, ∀ resp, p.2 = .ok resp →
      ∃ (k : Nat) (data : List UInt8), (sent (c₀.run steps).transport)[k]? = some p.1
        ∧ .ok (some data) ∈ steps.flatMap Step.arrived
        ∧ parseRpcHeader data = some resp ∧ Answers p.1 data
        ∧ ∀ (j : Nat) (req : List UInt8), (sent (c₀.run steps).transport)[j]? = some req →
          Answers req data → j = k)
      ∧ ∀ (o : Op) (req : List UInt8) (result : Except String ParsedRpc)
          (pre post : List Received) (data : List UInt8),
        ((c₀.run steps).perform o).exchanges = (c₀.run steps).exchanges ++ [(req, result)] →
        (sendRequest (c₀.run steps).transport req).1.isOk = true →
        responses (c₀.run steps).transport = pre ++ .ok (some data) :: post →
        (∀ r ∈ pre, Stale (c₀.run steps) r) → Answers req data →
        ∃ resp, parseRpcHeader data = some resp ∧ result = .ok resp := by
  have hlen := sent_run_length c₀ steps
  rw [hfresh.sent, List.length_nil, Nat.zero_add] at hlen
  constructor
  · intro hgenuine p hp resp hok
    exact own_response hfresh hcalls hgenuine hp hok
  · intro o req result pre post data hcall hsend hqueue hstale hown
    exact own_response_returned (run_inv hfresh steps) (by omega) hcall hsend hqueue hstale hown

/-- The first call times out; then its answer and that of the second arrive, little-endian. -/
def benchLate : List (Step UdpTransport) :=
  [.op (.readRaw 0xAFF0 0 1 64),
    .arrive ([.ok (some (rpcBytes (benchAnswer true 0 [1]), ⟨1, 2⟩)),
      .ok (some (rpcBytes (benchAnswer true 1 [2]), ⟨1, 2⟩))], [])]

theorem benchAnswer_answers {req : List UInt8} {r : ParsedRpc} (hreq : parseRpcHeader req = some r)
    (hact : r.activityUuid = benchConn.activityUuid) (hle : r.isLittleEndian = false)
    (payload : List UInt8) :
    Answers req (rpcBytes (benchAnswer true r.sequenceNumber payload)) := by
  have hcoherent : true = drepLittleEndian 0x10 := by decide
  refine ⟨r, benchAnswer true r.sequenceNumber payload, hreq, hcoherent, rfl, ?_, rfl, rfl⟩
  rw [hact, hle]
  rfl

set_option maxRecDepth 20000 in
/-- The second call finds the late answer before its own and returns its own. -/
theorem no_cross_matching_bench :
    (((benchConn.run benchLate).perform (.readRaw 0xAFF1 0 1 64)).exchanges.map
        Prod.snd).getLast?
      = some (.ok (benchAnswer true 1 [2])) := by
  have hcoherent : true = drepLittleEndian 0x10 := by decide
  obtain ⟨resp, hresp, hresult⟩ :=
    (no_cross_matching benchConn_fresh (show calls benchLate < 2 ^ 32 by decide)).2
      (.readRaw 0xAFF1 0 1 64) _ _ [.ok (some (rpcBytes (benchAnswer true 0 [1])))] []
      (rpcBytes (benchAnswer true 1 [2])) rfl rfl rfl
      (by
        intro r hr
        obtain rfl := List.mem_singleton.mp hr
        refine ⟨_, rfl, .inl ⟨_, List.mem_singleton.mpr rfl, ?_⟩⟩
        exact benchAnswer_answers (parseRpcHeader_rpcRequest _ _ _ _ _ _) rfl rfl [1])
      (benchAnswer_answers (parseRpcHeader_rpcRequest _ _ _ _ _ _) rfl rfl [2])
  rw [parseRpcHeader_rpcBytes (h := benchAnswer true 1 [2]) hcoherent] at hresp
  obtain rfl := Option.some.inj hresp
  exact congrArg some hresult

end Profinet.Transport
