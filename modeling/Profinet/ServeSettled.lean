/-
  SERVE SETTLED: what becomes of a request of the caller of `serve`.

  A request is made up to five times, and the last exchange settles it.  The texts of the errors
  carry that decision from the connection to the loop, so it takes what `StatusText` says of them to
  tell what the caller sees of what the device sent:

      an answer with a status       a line with exactly that status, and the session goes on
      busy                          the request again, and nothing else is ever repeated
      no answer                     the AR is lost, and the session ends

  What a pass puts to the device is counted as well (`Accounted`): the requests it issued, which
  are paced (`requests_spaced`), and the readback behind a write of the output byte, which is not.
-/
import Profinet.ServeRequests
import Profinet.ServeRoundTrip

namespace Profinet

open Errors Transport RpcTransport

/-! ## What the device answers

  `Judges` says what the end of an operation makes of a response: a refusal is its status in the
  text of `PnioStatus`, and everything else that fails is a header cut short.  Reads and writes
  both judge so. -/

/-- The PNIO status a response refuses its request with. -/
def refusal (resp : ParsedRpc) : Option UInt32 :=
  match parseNrd resp.payload resp.isLittleEndian with
  | .error _ => none
  | .ok nrd => if nrd.argsStatus = 0 then none else some nrd.argsStatus

/-- The error that a refusal is. -/
def refusalText (status : UInt32) : String := "PNIO error status " ++ pnioStatusStr status

/-- The device is busy; of what the transport says itself only the text is known. -/
def BusyAnswer : Except String ParsedRpc → Prop
  | .ok resp => refusal resp = some 0xDE80C200
  | .error e => isBusy e = true

section
variable {α : Type}

/-- A request whose response is judged by its status first, and then by its headers. -/
structure Ask.Judges (a : Ask α) : Prop where
  refused : ∀ resp status, refusal resp = some status →
    a.finish resp = .error (refusalText status)
  short : ∀ resp e, refusal resp = none → a.finish resp = .error e →
    isTransportFailure e = true ∧ isBusy e = false

/-- Its text gives back the status, and is no transport failure. -/
theorem refusalText_spec (status : UInt32) :
    isTransportFailure (refusalText status) = false ∧
      pnioStatusOf (refusalText status) = some (hex 8 status.toNat).toList ∧
      (isBusy (refusalText status) = true ↔ status = 0xDE80C200) :=
  pnioStatus_text status

/-- A response that refuses, or is too short to, or does not. -/
theorem refusal_cases (resp : ParsedRpc) :
    (∃ e, parseNrd resp.payload resp.isLittleEndian = .error e ∧ refusal resp = none) ∨
      (∃ nrd, parseNrd resp.payload resp.isLittleEndian = .ok nrd ∧ nrd.argsStatus ≠ 0 ∧
        refusal resp = some nrd.argsStatus) ∨
      ∃ nrd, parseNrd resp.payload resp.isLittleEndian = .ok nrd ∧ nrd.argsStatus = 0 ∧
        refusal resp = none := by
  unfold refusal
  cases hnrd : parseNrd resp.payload resp.isLittleEndian with
  | error e => exact .inl ⟨e, rfl, rfl⟩
  | ok nrd =>
    by_cases hstatus : nrd.argsStatus = 0
    · exact .inr (.inr ⟨nrd, rfl, hstatus, if_pos hstatus⟩)
    · exact .inr (.inl ⟨nrd, rfl, hstatus, if_neg hstatus⟩)

theorem Ask.readRaw_judges (idx slot subslot : UInt16) (length : UInt32) :
    (Ask.readRaw idx slot subslot length).Judges := by
  constructor
  · intro resp status h
    -- a refusal is a status in the NDR header; the other errors are headers that are cut
    show parseReadResponse resp.payload resp.isLittleEndian = _
    rcases refusal_cases resp with ⟨e, -, hr⟩ | ⟨nrd, hnrd, hne, hr⟩ | ⟨nrd, -, -, hr⟩
    · rw [hr] at h
      cases h
    · rw [hr] at h
      cases h
      rw [parseReadResponse_of_nrd hnrd, if_pos hne]
      rfl
    · rw [hr] at h
      cases h
  · intro resp e hnone h
    change parseReadResponse resp.payload resp.isLittleEndian = _ at h
    rcases refusal_cases resp with ⟨e', hnrd, -⟩ | ⟨nrd, -, -, hr⟩ | ⟨nrd, hnrd, hzero, -⟩
    · rw [parseReadResponse, hnrd] at h
      cases h
      exact shortNrd_text hnrd
    · rw [hr] at hnone
      cases hnone
    · rw [parseReadResponse_of_nrd hnrd, if_neg (not_not.mpr hzero)] at h
      cases hiod : parseIodHeader nrd.payload with
      | error e' =>
        rw [hiod] at h
        cases h
        exact shortIod_text hiod
      | ok iod =>
        rw [hiod] at h
        cases h

theorem Ask.write_judges (idx slot subslot : UInt16) (data : List UInt8) :
    (Ask.write idx slot subslot data).Judges := by
  constructor
  · intro resp status h
    show (parseStatusResponse resp.payload resp.isLittleEndian).map _ = _
    rcases refusal_cases resp with ⟨e, -, hr⟩ | ⟨nrd, hnrd, hne, hr⟩ | ⟨nrd, -, -, hr⟩
    · rw [hr] at h
      cases h
    · rw [hr] at h
      cases h
      rw [parseStatusResponse_of_nrd hnrd, if_pos hne]
      rfl
    · rw [hr] at h
      cases h
  · intro resp e hnone h
    change (parseStatusResponse resp.payload resp.isLittleEndian).map _ = _ at h
    rcases refusal_cases resp with ⟨e', hnrd, -⟩ | ⟨nrd, -, -, hr⟩ | ⟨nrd, hnrd, hzero, -⟩
    · rw [parseStatusResponse, hnrd] at h
      cases h
      exact shortNrd_text hnrd
    · rw [hr] at hnone
      cases hnone
    · rw [parseStatusResponse_of_nrd hnrd, if_neg (not_not.mpr hzero)] at h
      cases h

/-! ## What the caller sees of it

  The text of an error decides between three lines (`emit_failure` and `refusalText_spec`).  That
  they cannot be mixed up is a fact about texts, which `StatusText` proves. -/

/-- What an exchange comes to for the caller: the line, and whether the AR is lost. -/
inductive Settles (a : Ask α) (id : UInt64) (ok : α → ServeReply) :
    Except String ParsedRpc → ServeReply → Option ServeStop → Prop where
  /-- The device has done it. -/
  | done {resp : ParsedRpc} {v : α} (hnone : refusal resp = none) (h : a.finish resp = .ok v) :
      Settles a id ok (.ok resp) (ok v) none
  /-- It has said no, and with what status. -/
  | refused {resp : ParsedRpc} {status : UInt32} (h : refusal resp = some status) :
      Settles a id ok (.ok resp)
        (.readError id (hex 8 status.toNat).toList (refusalText status)) none
  /-- Its response is too short to be one. -/
  | short {resp : ParsedRpc} {e : String} (hnone : refusal resp = none)
      (h : a.finish resp = .error e) :
      Settles a id ok (.ok resp) (.transportError id e) (some (.arLost e))
  /-- There is no response. -/
  | failed {e : String} (h : isTransportFailure e = true) :
      Settles a id ok (.error e) (.transportError id e) (some (.arLost e))
  /-- The transport itself fails with the words of a refusal; no packet of the device does that. -/
  | quoted {e : String} (h : isTransportFailure e = false)
      (hpacket : ∀ data, parseRpcResponse data ≠ .error e) :
      Settles a id ok (.error e) (serveEmitError id e) none

/-- A transport failure has no status for the caller. -/
theorem emit_failure (id : UInt64) {e : String} (h : isTransportFailure e = true) :
    serveEmitError id e = .transportError id e := by
  have hno : pnioStatusOf e = none := by
    unfold pnioStatusOf
    rcases hsplit : Text.splitOnce "PNIO error status 0x".toList e.toList with _ | ⟨before, rest⟩
    · rfl
    · have hin : "PNIO error status 0x".toList <:+: e.toList := by
        rw [Text.splitOnce_some hsplit]
        exact List.infix_append' _ _ _
      have hcontains := Text.contains_iff.mpr (statusWords_inside.trans hin)
      unfold isTransportFailure at h
      rw [hcontains] at h
      cases h
  unfold serveEmitError
  rw [hno]

variable {a : Ask α}

theorem answered_settles (hj : a.Judges) (id : UInt64) (ok : α → ServeReply)
    (x : Except String ParsedRpc) :
    Settles a id ok x (answered id ok (a.outcome x)).1 (answered id ok (a.outcome x)).2 := by
  have hfailure {e : String} (h : isTransportFailure e = true) :
      answered id ok (.error e) = (.transportError id e, some (.arLost e)) := by
    simp only [answered]
    rw [emit_failure id h, if_pos h]
  -- three kinds of failure, and a response that refuses, succeeds or is cut short
  cases x with
  | error e =>
    show Settles a id ok (.error e) (answered id ok (.error e)).1 (answered id ok (.error e)).2
    cases h : isTransportFailure e with
    | true =>
      rw [hfailure h]
      exact .failed h
    -- an error of the exchange that is none of the transport's is only quoted
    | false =>
      simp only [answered, h]
      refine .quoted h ?_
      intro data hpacket
      rw [(badPacket_text hpacket).1] at h
      cases h
  | ok resp =>
    show Settles a id ok (.ok resp) (answered id ok (a.finish resp)).1
      (answered id ok (a.finish resp)).2
    cases hrefusal : refusal resp with
    | some status =>
      obtain ⟨hgoes, hstatus, -⟩ := refusalText_spec status
      have hanswered : answered id ok (.error (refusalText status)) =
          (.readError id (hex 8 status.toNat).toList (refusalText status), none) := by
        simp only [answered, serveEmitError, hstatus, hgoes]
        rfl
      rw [hj.refused resp status hrefusal, hanswered]
      exact .refused hrefusal
    | none =>
      cases hfinish : a.finish resp with
      | ok v => exact .done hrefusal hfinish
      | error e =>
        rw [hfailure (hj.short resp e hrefusal hfinish).1]
        exact .short hrefusal hfinish

/-- What is tried again is what the device refuses as busy. -/
theorem busy_iff (hj : a.Judges) (x : Except String ParsedRpc) :
    Busy (a.outcome x) ↔ BusyAnswer x := by
  have hbusy (e : String) : Busy (Except.error e : Except String α) ↔ isBusy e = true := by
    constructor
    · rintro ⟨e', he, h⟩
      rw [Except.error.inj he]
      exact h
    · intro h
      exact ⟨e, rfl, h⟩
  -- a busy answer is one refusal status; no other error says the words
  cases x with
  | error e => exact hbusy e
  | ok resp =>
    show Busy (a.finish resp) ↔ refusal resp = some 0xDE80C200
    cases hrefusal : refusal resp with
    | some status =>
      rw [hj.refused resp status hrefusal, hbusy, Option.some.injEq]
      exact (refusalText_spec status).2.2
    | none =>
      cases hfinish : a.finish resp with
      | ok v =>
        constructor
        · rintro ⟨e, h, -⟩
          cases h
        · nofun
      | error e =>
        rw [hbusy, (hj.short resp e hrefusal hfinish).2]
        exact ⟨nofun, nofun⟩

variable {T : Type} [RpcTransport T]

/-- The exchanges made for one request of the caller, with the line it is answered with and whether
    the AR is lost. -/
structure Settled (a : Ask α) (id : UInt64) (ok : α → ServeReply) (c : RpcConn T)
    (xs : List (List UInt8 × Except String ParsedRpc)) (reply : ServeReply)
    (stop : Option ServeStop) : Prop where
  made : xs ≠ []
  few : xs.length ≤ serveBusyRetries
  request : ∀ x ∈ xs, ∃ seq, x.1 = Rpc.rpcRequest c.objectUuid Rpc.ifaceUuidDevice c.activityUuid
    seq a.opnum (a.body c.arUuid)
  repeated : ∀ x ∈ xs.dropLast, BusyAnswer x.2
  gaveUp : ∀ x, xs.getLast? = some x → BusyAnswer x.2 → xs.length = serveBusyRetries
  settles : ∀ x, xs.getLast? = some x → Settles a id ok x.2 reply stop

theorem serveRpc_settled (hj : a.Judges) {op : RpcConn T → Except String α × RpcConn T}
    (hop : a.Performs op) (id : UInt64) (ok : α → ServeReply) (gap : Nat)
    (attempts : Nat → Attempt) (c : RpcConn T) (p : Pace) :
    ∃ xs, Exchanged c (serveRpc gap op attempts c p).conn xs ∧
      Settled a id ok c xs (answered id ok (serveRpc gap op attempts c p).result).1
        (answered id ok (serveRpc gap op attempts c p).result).2 := by
  obtain ⟨xs, hexchanged, -, hrep, -⟩ :=
    serveRpcFrom_repeated hop gap attempts serveBusyRetries 0 "" c p
  refine ⟨xs, hexchanged, hrep.made (by decide), hrep.few, hrep.request, ?_, ?_, ?_⟩
  · intro x hx
    exact (busy_iff hj x.2).mp (hrep.refused x hx)
  · intro x hx hbusy
    have hresult := hrep.last x hx
    rw [← busy_iff hj, ← hresult] at hbusy
    by_contra hne
    have hfew := hrep.few
    exact hrep.gaveUp (by omega) hbusy
  · intro x hx
    have hresult : (serveRpc gap op attempts c p).result = a.outcome x.2 := hrep.last x hx
    rw [hresult]
    exact answered_settles hj id ok x.2

end

/-! ## A pass of the loop

  A request is the last of its exchanges, all others having been answered busy.  The pass it is
  made in may read the output byte back behind it, which is no request of the caller. -/

namespace ServeLink

variable {T : Type} [RpcTransport T] (cfg : ServeLink)

/-- A datagram that a session sends over a connection. -/
inductive Sends (c : RpcConn T) (request : Option ServeCmd) : List UInt8 → Prop where
  /-- A read: of the caller, of the keepalive, or behind a write of the output byte. -/
  | read (idx slot subslot : UInt16) (len seq : UInt32) :
      Sends c request (Rpc.rpcRequest c.objectUuid Rpc.ifaceUuidDevice c.activityUuid seq Rpc.read
        ((Ask.readRaw idx slot subslot len).body c.arUuid))
  /-- A write that the caller asks for and may ask for. -/
  | write (hwrites : cfg.session.readOnly = false) {id : UInt64} {idx slot subslot : UInt16}
      {data : List UInt8} (hrequest : request = some (.write id idx slot subslot data))
      (seq : UInt32) :
      Sends c request (Rpc.rpcRequest c.objectUuid Rpc.ifaceUuidDevice c.activityUuid seq Rpc.write
        ((Ask.write idx slot subslot data).body c.arUuid))

/-- The readback behind a write of the output byte: one exchange at most, and a read. -/
structure Readback (c : RpcConn T) (ys : List (List UInt8 × Except String ParsedRpc)) : Prop where
  few : ys.length ≤ 1
  cyclic : cfg.session.cyclic = none → ys = []
  read : ∀ y ∈ ys, ∃ seq, y.1 = Rpc.rpcRequest c.objectUuid Rpc.ifaceUuidDevice c.activityUuid seq
    Rpc.read ((Ask.readRaw 0x8029 cfg.outSlot cfg.outSubslot 128).body c.arUuid)

/-- What a pass exchanges past the pacing: the readback at most, and where there is one, the line
    of the output byte it stands behind. -/
structure Unpaced (c : RpcConn T) (lines : List ServeOut)
    (ys : List (List UInt8 × Except String ParsedRpc)) : Prop where
  few : ys.length ≤ 1
  read : ∀ y ∈ ys, ∃ seq, y.1 = Rpc.rpcRequest c.objectUuid Rpc.ifaceUuidDevice c.activityUuid seq
    Rpc.read ((Ask.readRaw 0x8029 cfg.outSlot cfg.outSubslot 128).body c.arUuid)
  behind : ys ≠ [] → ∃ byte safe readback, .output byte safe readback ∈ lines

/-- A request of the caller is settled in the pass that took it. -/
def SettledIn {α : Type} (a : Ask α) (id : UInt64) (ok : α → ServeReply) (p : LinkPass T) : Prop :=
  ∃ xs ys reply stop, Exchanged p.before p.state.conn (xs ++ ys) ∧
    Settled a id ok p.before xs reply stop ∧ cfg.Readback p.before ys ∧
    .reply reply ∈ p.lines ∧ ∀ e, p.ended = some (.stopped (.arLost e)) ↔ stop = some (.arLost e)

/-- What is done about a request of the caller: a read and a write are settled, and the others, and
    a write where writes are refused, exchange nothing for it. -/
def RequestSettled (p : LinkPass T) : ServeCmd → Prop
  | .read id idx slot subslot len =>
    cfg.SettledIn (.readRaw idx slot subslot len) id (.data id) p
  | .write id idx slot subslot data =>
    if cfg.session.readOnly then
      .reply (.refusedReadOnly id) ∈ p.lines ∧
        ∃ ys, Exchanged p.before p.state.conn ys ∧ cfg.Readback p.before ys
    else cfg.SettledIn (.write idx slot subslot data) id (fun _ => .ok id) p
  | .ping _ => ∃ ys, Exchanged p.before p.state.conn ys ∧ cfg.Readback p.before ys
  | .quit _ => p.state.conn.exchanges = p.before.exchanges ∧
      p.ended = some (.stopped (.reason "quit"))

/-- Delivery is no exchange. -/
theorem deliver_exchanged (i : LinkInput T) (c : RpcConn T) : Exchanged c (i.deliver c) [] := by
  have hsent : ∀ (as : List (Arrival T)) (t : T),
      sent (as.foldl (fun t a => arrive a t) t) = sent t := by
    intro as
    induction as with
    | nil => exact fun t => rfl
    | cons a as ih => exact fun t => (ih _).trans (arrive_sent a t)
  exact ⟨rfl, rfl, rfl, (List.append_nil _).symm, (hsent _ _).trans (List.append_nil _).symm⟩

/-- What the line asked for ends the pass, or the loop goes on to its own reasons; only a session
    with a cyclic tier writes a byte, and not in a pass that the line ends. -/
theorem session_pass_rpc {session : ServeSession} {s : Serve} {i : PassInput}
    {stop : Option ServeStop} (hhead : session.headStop s i = none) (hrec : i.received = .rpc stop) :
    (∀ e, (session.pass s i).stop = some (.arLost e) ↔ stop = some (.arLost e)) ∧
      (∀ r, stop = some r → (session.pass s i).stop = some r) ∧
      ((session.pass s i).log.write ≠ none → stop = none ∧ session.cyclic ≠ none) := by
  unfold ServeSession.pass
  rw [hhead]
  simp only
  have hhear : (session.hear s.control i.received).2.2 = stop := by
    rw [hrec]
    rfl
  rw [hhear]
  cases stop with
  -- a pass that stops in the request does no write, and stops for that reason
  | some r =>
    refine ⟨fun e => Iff.rfl, ?_, ?_⟩
    · rintro r' ⟨rfl⟩
      rfl
    · exact fun h => absurd rfl h
  | none =>
    simp only
    cases hcyclic : session.cyclic with
    | none => exact ⟨fun e => Iff.rfl, nofun, fun h => absurd rfl h⟩
    | some tier =>
      rw [if_neg (by simp)]
      split
      · refine ⟨?_, nofun, fun h => absurd rfl h⟩
        intro e
        constructor
        · intro h
          cases Option.some.inj h
        · intro h
          cases h
      · refine ⟨?_, nofun, fun _ => ⟨trivial, Option.some_ne_none tier⟩⟩
        intro e
        constructor
        · intro h
          simp only [ServeSession.deadman] at h
          split at h
          · cases Option.some.inj h
          · cases h
        · intro h
          cases h

section

variable {s : LinkState T} {i : LinkInput T}

/-- The rest of a pass reads back at most, and its ending is that of the pass of `ServeLoop`. -/
theorem drive_exchanged (request : Option ServeCmd) (received : Received) (h : Handled T)
    (lines : List ServeOut) (lastTraffic : Nat) :
    ∃ serve ys, Exchanged h.conn (cfg.drive s i request received h lines lastTraffic).state.conn ys ∧
      (ys ≠ [] → (cfg.session.pass s.serve (i.base received serve)).log.write ≠ none) ∧
      cfg.Unpaced h.conn (cfg.drive s i request received h lines lastTraffic).lines ys ∧
      (∀ line ∈ lines, line ∈ (cfg.drive s i request received h lines lastTraffic).lines) ∧
      (cfg.drive s i request received h lines lastTraffic).before = s.conn ∧
      (cfg.drive s i request received h lines lastTraffic).ended =
        (cfg.session.pass s.serve (i.base received serve)).stop.map .stopped := by
  -- the clock of the session has moved on by what the request took
  refine ⟨h.pace.now - cfg.session.heardAt s.serve (i.base received 0) + i.serve, ?_⟩
  unfold drive
  simp only
  split
  -- no output is written in the pass, so nothing is read back
  · refine ⟨[], .refl _, fun h => absurd rfl h, ⟨Nat.zero_le _, nofun, fun h => absurd rfl h⟩, ?_,
      rfl, rfl⟩
    intro line hline
    exact List.mem_append_left _ (List.mem_append_left _ hline)
  · rename_i w hw
    have hread := Ask.readRaw_performs 0x8029 cfg.outSlot cfg.outSubslot 128 h.conn
    simp only at hread
    rw [hread]
    refine ⟨_, Exchanged.asked h.conn Rpc.read _, ?_, ⟨Nat.le_refl _, ?_, fun _ => ?_⟩, ?_, rfl, rfl⟩
    · intro _
      rw [hw]
      nofun
    · intro y hy
      rw [List.mem_singleton.mp hy]
      exact ⟨_, rfl⟩
    · exact ⟨w.byte, decide (w.byte = safeOutputByte), _,
        List.mem_append_left _ (List.mem_append_right _ List.mem_cons_self)⟩
    · intro line hline
      simp only [List.mem_append]
      exact .inl (.inl (.inl hline))

end

/-- Everything a pass can be. -/
inductive PassDoes (s : LinkState T) (i : LinkInput T) : LinkPass T → Prop where
  /-- It ends before a line is dealt with. -/
  | ends {c : RpcConn T} (e : PassEnd) (hc : Exchanged s.conn c []) :
      PassDoes s i ⟨s.conn, { s with conn := c }, none, [], [], some e⟩
  /-- It deals with a line, or with none, and asks the device nothing. -/
  | quiet (received : Received) (h : Handled T) (hc : h.conn = i.deliver s.conn)
      (lines : List ServeOut) (lastTraffic : Nat) (hissued : h.issued = []) :
      PassDoes s i (cfg.drive s i none received h lines lastTraffic)
  /-- It keeps the AR alive. -/
  | idles (p : Pace) (lastTraffic lastTraffic' : Nat) (stop : Option ServeStop) :
      PassDoes s i (cfg.drive s i none (.timeout stop)
        (cfg.idle i.attempts (i.deliver s.conn) p lastTraffic) [] lastTraffic')
  /-- It makes a request. -/
  | requests (cmd : ServeCmd) (p : Pace) (lastTraffic : Nat)
      (hhead : ∀ received serve, cfg.session.headStop s.serve (i.base received serve) = none) :
      PassDoes s i (cfg.drive s i (some cmd)
        (.rpc (cfg.request i.attempts (i.deliver s.conn) p cmd).stop)
        (cfg.request i.attempts (i.deliver s.conn) p cmd)
        ((cfg.request i.attempts (i.deliver s.conn) p cmd).reply.toList.map .reply) lastTraffic)

theorem pass_does (s : LinkState T) (i : LinkInput T) : cfg.PassDoes s i (cfg.pass s i) := by
  unfold pass
  split
  · exact .ends _ (.refl _)
  · rename_i hhead
    unfold hear
    simp only
    split
    · exact .quiet _ _ rfl _ _ rfl
    · exact .idles _ _ _ _
    · split
      · exact .ends _ (deliver_exchanged i s.conn)
      · exact .quiet _ _ rfl _ _ rfl
      · exact .quiet _ _ rfl _ _ rfl
      · exact .requests _ _ _ fun _ _ => hhead

/-- A pass that makes a request exchanges what the request takes, and its readback; it answers it,
    and ends where the request ends it. -/
theorem drive_settles {s : LinkState T} {i : LinkInput T} (cmd : ServeCmd) {h : Handled T}
    (lastTraffic : Nat)
    (hhead : ∀ received serve, cfg.session.headStop s.serve (i.base received serve) = none)
    {xs : List (List UInt8 × Except String ParsedRpc)} (hx : Exchanged s.conn h.conn xs)
    {out : LinkPass T} (hout : out = cfg.drive s i (some cmd) (.rpc h.stop) h
      (h.reply.toList.map .reply) lastTraffic) :
    ∃ ys, Exchanged out.before out.state.conn (xs ++ ys) ∧ cfg.Readback out.before ys ∧
      (h.stop ≠ none → ys = []) ∧ out.before = s.conn ∧
      (∀ r, h.reply = some r → .reply r ∈ out.lines) ∧
      (∀ e, out.ended = some (.stopped (.arLost e)) ↔ h.stop = some (.arLost e)) ∧
      ∀ r, h.stop = some r → out.ended = some (.stopped r) := by
  subst hout
  obtain ⟨serve, ys, hys, hwrote, ⟨hfew, hread, -⟩, hlines, hbefore, hended⟩ :=
    cfg.drive_exchanged (s := s) (i := i) (some cmd) (.rpc h.stop) h (h.reply.toList.map .reply)
      lastTraffic
  obtain ⟨hlost, hstops, hwrite⟩ :=
    session_pass_rpc (i := i.base (.rpc h.stop) serve) (hhead _ _) rfl
  -- the read-back comes behind the request's own exchanges
  refine ⟨ys, ?_, ⟨hfew, ?_, ?_⟩, ?_, hbefore, ?_, ?_, ?_⟩
  · rw [hbefore]
    exact hx.trans hys
  · intro hcyclic
    by_contra hne
    exact (hwrite (hwrote hne)).2 hcyclic
  · rw [hbefore, ← hx.objectUuid, ← hx.activityUuid, ← hx.arUuid]
    exact hread
  · intro hstop
    by_contra hne
    exact hstop (hwrite (hwrote hne)).1
  · intro r hr
    refine hlines _ ?_
    rw [hr]
    exact List.mem_singleton.mpr rfl
  · intro e
    rw [hended, ← hlost e, Option.map_eq_some_iff]
    constructor
    · rintro ⟨stop, hstop, heq⟩
      cases heq
      exact hstop
    · intro hstop
      exact ⟨_, hstop, rfl⟩
  · intro r hr
    rw [hended, hstops r hr]
    rfl

/-- **A request is settled in its pass.** -/
theorem pass_settled {s : LinkState T} {i : LinkInput T} {cmd : ServeCmd}
    (hrequest : (cfg.pass s i).request = some cmd) : cfg.RequestSettled (cfg.pass s i) cmd := by
  have hdoes := cfg.pass_does s i
  generalize cfg.pass s i = p at hrequest hdoes ⊢
  cases hdoes with
  | ends e hc => cases hrequest
  | quiet received h hc lines lastTraffic _ =>
    rw [(cfg.drive_spec s i _ _ _ _ _).2.1] at hrequest
    cases hrequest
  | idles p lastTraffic lastTraffic' stop =>
    rw [(cfg.drive_spec s i _ _ _ _ _).2.1] at hrequest
    cases hrequest
  | requests cmd' p lastTraffic hhead =>
    rw [(cfg.drive_spec s i _ _ _ _ _).2.1] at hrequest
    obtain rfl := Option.some.inj hrequest
    have hdelivered := deliver_exchanged i s.conn
    -- a request that is made over the connection
    have hmade {α : Type} {a : Ask α} {op : RpcConn T → Except String α × RpcConn T}
        (hj : a.Judges) (hop : a.Performs op) (id : UInt64) (ok : α → ServeReply) :
        let r := serveRpc cfg.gap op i.attempts (i.deliver s.conn) p
        let h : Handled T := ⟨some (answered id ok r.result).1, (answered id ok r.result).2, r.conn,
          r.pace, r.issued⟩
        cfg.SettledIn a id ok
          (cfg.drive s i (some cmd') (.rpc h.stop) h (h.reply.toList.map .reply) lastTraffic) := by
      intro r h
      obtain ⟨xs, hxs, hsettled⟩ :=
        serveRpc_settled hj hop id ok cfg.gap i.attempts (i.deliver s.conn) p
      obtain ⟨ys, hys, hback, -, hbefore, hline, hlost, -⟩ :=
        cfg.drive_settles cmd' lastTraffic hhead (h := h) (hdelivered.trans hxs) rfl
      refine ⟨xs, ys, _, _, hys, ?_, hback, hline _ rfl, hlost⟩
      rw [hbefore]
      exact ⟨hsettled.made, hsettled.few, hsettled.request, hsettled.repeated, hsettled.gaveUp,
        hsettled.settles⟩
    cases cmd' with
    | quit id =>
      obtain ⟨ys, hys, -, hnone, hbefore, -, -, hended⟩ :=
        cfg.drive_settles (.quit id) lastTraffic hhead (h := cfg.request i.attempts
          (i.deliver s.conn) p (.quit id)) hdelivered rfl
      rw [hnone nofun] at hys
      exact ⟨by rw [hys.exchanges]; exact List.append_nil _, hended _ rfl⟩
    | ping id =>
      obtain ⟨ys, hys, hback, -⟩ :=
        cfg.drive_settles (.ping id) lastTraffic hhead (h := cfg.request i.attempts
          (i.deliver s.conn) p (.ping id)) hdelivered rfl
      exact ⟨ys, hys, hback⟩
    | read id index slot subslot len =>
      exact hmade (Ask.readRaw_judges _ _ _ _) (Ask.readRaw_performs _ _ _ _) id (.data id)
    | write id index slot subslot data =>
      simp only [RequestSettled, request]
      by_cases hread : cfg.session.readOnly = true
      · rw [if_pos hread, if_pos hread]
        obtain ⟨ys, hys, hback, -, -, hline, -⟩ :=
          cfg.drive_settles (.write id index slot subslot data) lastTraffic hhead
            (h := ⟨some (.refusedReadOnly id), none, i.deliver s.conn, p, []⟩) hdelivered rfl
        exact ⟨hline _ rfl, ys, hys, hback⟩
      · rw [if_neg hread, if_neg hread]
        exact hmade (Ask.write_judges _ _ _ _) (Ask.write_performs _ _ _ _) id fun _ => .ok id

/-! ## A session

  Over a session every pass settles its own request; a pass without one has nothing to settle. -/

/-- What is so of every pass is so of the passes of a run. -/
theorem passes_forall {P : LinkPass T → Prop} (hpass : ∀ s i, P (cfg.pass s i)) (s : LinkState T)
    (is : List (LinkInput T)) : ∀ p ∈ cfg.passes s is, P p := by
  induction is generalizing s with
  | nil => nofun
  | cons i is ih =>
    intro p hp
    unfold passes at hp
    rcases List.mem_cons.mp hp with rfl | hp
    · exact hpass s i
    · split at hp
      · cases hp
      · exact ih _ p hp

/-- **Every request of a session is settled in the pass that takes it**, by what the device answered
    last: done, refused with the status it gave, or lost with the AR; and the one thing that makes
    it try again is a device that is busy. -/
theorem requests_settled (cfg : ServeLink) (s : LinkState T) (is : List (LinkInput T)) :
    ∀ p ∈ cfg.passes s is, ∀ cmd, p.request = some cmd → cfg.RequestSettled p cmd :=
  cfg.passes_forall (fun _ _ _ => cfg.pass_settled) s is

/-- A read-only session without a cyclic tier. -/
def benchLink : ServeLink := ⟨⟨true, none⟩, millis 50, 0, 1, 1⟩

/-- A session that has just begun. -/
def benchLinkState : LinkState UdpTransport := ⟨.initial 0 1000 1000, benchConn, 0, 0⟩

/-- A line, and nothing on the transport. -/
def benchLineInput (text : List Char) : LinkInput UdpTransport :=
  ⟨[], none, .line text, fun _ => ⟨1, 2, 3⟩, true, 0, 0, 0, 0, 0⟩

/-- A line that reads a record. -/
def benchReadLine : List Char :=
  ("\x7b\"cmd\":\"read\", \"id\":77,\"index\":45, \"slot\":1,\"subslot\":1," ++
    "\"len\":128\x7d").toList

theorem benchReadLine_parsed :
    parseServeLine benchReadLine = .ok (.ok (.rpc (.read 77 45 1 1 128))) := by
  have one : Literal 1 ['1'] := .decimal ⟨by decide, [1], by decide, by decide⟩
  have id : Literal 77 "77".toList := .decimal ⟨by decide, [7, 7], by decide, by decide⟩
  have index : Literal 45 "45".toList := .decimal ⟨by decide, [4, 5], by decide, by decide⟩
  have len : Literal 128 "128".toList := .decimal ⟨by decide, [1, 2, 8], by decide, by decide⟩
  refine parseServeLine_writes ⟨[
    ⟨.cmd, _, _, .verb .read, noSpace, oneSpace⟩, ⟨.id, _, _, .number id, noSpace, noSpace⟩,
    ⟨.index, _, _, .number index, noSpace, oneSpace⟩,
    ⟨.slot, _, _, .number one, noSpace, noSpace⟩, ⟨.subslot, _, _, .number one, noSpace, noSpace⟩,
    ⟨.len, _, _, .number len, noSpace, noSpace⟩], ?_, rfl⟩
  show List.Perm
    [(Key.cmd, Datum.verb .read), (.id, .number 77), (.index, .number 45), (.slot, .number 1),
     (.subslot, .number 1), (.len, .number 128)]
    [(.id, .number 77), (.cmd, .verb .read), (.index, .number 45), (.slot, .number 1),
     (.subslot, .number 1), (.len, .number 128)]
  decide

/-- A read that nothing answers. -/
theorem requests_settled_read :
    benchLink.RequestSettled (benchLink.pass benchLinkState (benchLineInput benchReadLine))
      (.read 77 45 1 1 128) := by
  have hrequest : (benchLink.pass benchLinkState (benchLineInput benchReadLine)).request =
      some (.read 77 45 1 1 128) := by
    have hhead : benchLink.session.headStop benchLinkState.serve
        ((benchLineInput benchReadLine).base .disconnected 0) = none := rfl
    unfold pass
    rw [hhead]
    simp only [hear, benchLineInput, benchReadLine_parsed]
    exact (benchLink.drive_spec benchLinkState _ _ _ _ _ _).2.1
  exact requests_settled benchLink benchLinkState [benchLineInput benchReadLine] _
    (by unfold passes; exact List.mem_cons_self) _ hrequest

/-! ## What goes past the pacing

  What a pass puts to the device is its paced requests and the readback.  `Accounted` says which
  datagram is which, so that the bound on the requests can be read as one on datagrams. -/

section

variable {cfg}

/-- A paced request exchanges as often as it is issued. -/
theorem serveRpc_counted {α : Type} {a : Ask α} {op : RpcConn T → Except String α × RpcConn T}
    (hop : a.Performs op) (gap : Nat) (attempts : Nat → Attempt) (c : RpcConn T) (p : Pace) :
    ∃ xs, Exchanged c (serveRpc gap op attempts c p).conn xs ∧
      xs.length = (serveRpc gap op attempts c p).issued.length := by
  obtain ⟨xs, hxs, hissued, -⟩ := serveRpcFrom_repeated hop gap attempts serveBusyRetries 0 "" c p
  exact ⟨xs, hxs, hissued.symm⟩

theorem request_counted (attempts : Nat → Attempt) (c : RpcConn T) (p : Pace) (cmd : ServeCmd) :
    ∃ xs, Exchanged c (cfg.request attempts c p cmd).conn xs ∧
      xs.length = (cfg.request attempts c p cmd).issued.length := by
  cases cmd with
  | quit id => exact ⟨[], .refl c, rfl⟩
  | ping id => exact ⟨[], .refl c, rfl⟩
  | read id index slot subslot len =>
    exact serveRpc_counted (Ask.readRaw_performs index slot subslot len) cfg.gap attempts c p
  | write id index slot subslot data =>
    simp only [request]
    split
    · exact ⟨[], .refl c, rfl⟩
    · exact serveRpc_counted (Ask.write_performs index slot subslot data) cfg.gap attempts c p

theorem idle_counted (attempts : Nat → Attempt) (c : RpcConn T) (p : Pace) (lastTraffic : Nat) :
    ∃ xs, Exchanged c (cfg.idle attempts c p lastTraffic).conn xs ∧
      xs.length = (cfg.idle attempts c p lastTraffic).issued.length := by
  have hkept := serveRpc_counted (Ask.readRaw_performs 0x8028 1 1 128) cfg.gap attempts c p
  unfold idle
  split
  · simp only
    split
    · exact hkept
    · exact hkept
  · exact ⟨[], .refl c, rfl⟩

end

/-- Everything a pass puts to the device is one of the requests it issued, in their number, or the
    readback behind a write of the output byte. -/
def Accounted (p : LinkPass T) : Prop :=
  ∃ xs ys, Exchanged p.before p.state.conn (xs ++ ys) ∧ xs.length = p.issued.length ∧
    cfg.Unpaced p.before p.lines ys

/-- The rest of a pass puts the readback behind what was issued, and no more. -/
theorem drive_accounted {s : LinkState T} {i : LinkInput T} (request : Option ServeCmd)
    (received : Received) {h : Handled T} (lines : List ServeOut) (lastTraffic : Nat)
    (hh : ∃ xs, Exchanged (i.deliver s.conn) h.conn xs ∧ xs.length = h.issued.length) :
    cfg.Accounted (cfg.drive s i request received h lines lastTraffic) := by
  obtain ⟨xs, hxs, hcount⟩ := hh
  obtain ⟨serve, ys, hys, -, hun, -, hbefore, -⟩ :=
    cfg.drive_exchanged (s := s) (i := i) request received h lines lastTraffic
  have hx : Exchanged s.conn h.conn xs := (deliver_exchanged i s.conn).trans hxs
  obtain ⟨-, -, hissued, -⟩ := cfg.drive_spec s i request received h lines lastTraffic
  refine ⟨xs, ys, ?_, ?_, hun.few, ?_, hun.behind⟩
  · rw [hbefore]
    exact hx.trans hys
  · rw [hissued]
    exact hcount
  · rw [hbefore, ← hx.objectUuid, ← hx.activityUuid, ← hx.arUuid]
    exact hun.read

theorem pass_accounted (s : LinkState T) (i : LinkInput T) : cfg.Accounted (cfg.pass s i) := by
  have hdoes := cfg.pass_does s i
  generalize cfg.pass s i = p at hdoes ⊢
  cases hdoes with
  | ends e hc => exact ⟨[], [], hc, rfl, Nat.zero_le _, nofun, fun h => absurd rfl h⟩
  | quiet received h hc lines lastTraffic hissued =>
    refine cfg.drive_accounted _ _ _ _ ⟨[], ?_, ?_⟩
    · rw [hc]
      exact .refl _
    · rw [hissued]
      rfl
  | idles p lastTraffic lastTraffic' stop =>
    exact cfg.drive_accounted _ _ _ _ (idle_counted _ _ _ _)
  | requests cmd p lastTraffic hhead => exact cfg.drive_accounted _ _ _ _ (request_counted _ _ _ _)

/-- **Requests are a gap apart, over the whole session.**  Those of the caller and the keepalives
    are so across passes and across the attempts of one request, however late each of them is, and a
    window of time that is `span` long has no more of them than gaps fit in it, and one.  The one
    exchange that goes past the pacing is the read of record 0x8029 behind a write of the output
    byte: a pass has no other exchange than those it issued and this one. -/
theorem requests_spaced (cfg : ServeLink) (c : RpcConn T) (t e d d' d'' : Nat)
    (is : List (LinkInput T)) :
    let ps := cfg.passes (cfg.initial c t e d d' d'') is
    let issued := ps.flatMap LinkPass.issued
    (GapApart cfg.gap issued ∧ (∀ x ∈ issued, t ≤ x) ∧
      (0 < cfg.gap → ∀ a span : Nat,
        (issued.filter fun x => a ≤ x ∧ x ≤ a + span).length ≤ span / cfg.gap + 1)) ∧
      ∀ p ∈ ps, cfg.Accounted p := by
  intro ps issued
  exact ⟨cfg.issued_spaced c t e d d' d'' is,
    cfg.passes_forall (fun s i => cfg.pass_accounted s i) (cfg.initial c t e d d' d'') is⟩

/-! ## What a session sends

  Every datagram of a session comes from a line, or is the readback of the output byte; a session
  that reads only sends no write. -/

section

variable {cfg} {c c' : RpcConn T}

/-- The same AR, and the same datagrams. -/
theorem Sends.same {request : Option ServeCmd} {datagram : List UInt8}
    {xs : List (List UInt8 × Except String ParsedRpc)} (hc : Exchanged c c' xs)
    (h : cfg.Sends c' request datagram) : cfg.Sends c request datagram := by
  cases h with
  | read idx slot subslot len seq =>
    rw [hc.objectUuid, hc.activityUuid, hc.arUuid]
    exact .read idx slot subslot len seq
  | write hwrites hrequest seq =>
    rw [hc.objectUuid, hc.activityUuid, hc.arUuid]
    exact .write hwrites hrequest seq

omit [RpcTransport T] in
/-- Where writes are refused it is a read. -/
theorem Sends.reads {request : Option ServeCmd} {datagram : List UInt8}
    (h : cfg.Sends c request datagram) (hread : cfg.session.readOnly = true) :
    ∃ idx slot subslot len seq, datagram = Rpc.rpcRequest c.objectUuid Rpc.ifaceUuidDevice
      c.activityUuid seq Rpc.read ((Ask.readRaw idx slot subslot len).body c.arUuid) := by
  cases h with
  | read idx slot subslot len seq => exact ⟨idx, slot, subslot, len, seq, rfl⟩
  | write hwrites hrequest seq =>
    rw [hread] at hwrites
    cases hwrites

end

/-- What a paced request exchanges is that request, over and over. -/
theorem serveRpc_asks {α : Type} {a : Ask α} {op : RpcConn T → Except String α × RpcConn T}
    (hop : a.Performs op) (gap : Nat) (attempts : Nat → Attempt) (c : RpcConn T) (p : Pace) :
    ∃ xs, Exchanged c (serveRpc gap op attempts c p).conn xs ∧ ∀ x ∈ xs, ∃ seq,
      x.1 = Rpc.rpcRequest c.objectUuid Rpc.ifaceUuidDevice c.activityUuid seq a.opnum
        (a.body c.arUuid) := by
  obtain ⟨xs, hxs, -, hrep, -⟩ :=
    serveRpcFrom_repeated hop gap attempts serveBusyRetries 0 "" c p
  exact ⟨xs, hxs, hrep.request⟩

theorem request_sends (attempts : Nat → Attempt) (c : RpcConn T) (p : Pace) (cmd : ServeCmd) :
    ∃ xs, Exchanged c (cfg.request attempts c p cmd).conn xs ∧
      ∀ x ∈ xs, cfg.Sends c (some cmd) x.1 := by
  -- a `ping` and a `quit` send nothing, and a read-only session sends no write
  cases cmd with
  | quit id => exact ⟨[], .refl c, nofun⟩
  | ping id => exact ⟨[], .refl c, nofun⟩
  | read id index slot subslot len =>
    obtain ⟨xs, hxs, hask⟩ :=
      serveRpc_asks (Ask.readRaw_performs index slot subslot len) cfg.gap attempts c p
    refine ⟨xs, hxs, ?_⟩
    intro x hx
    obtain ⟨seq, hseq⟩ := hask x hx
    rw [hseq]
    exact .read index slot subslot len seq
  | write id index slot subslot data =>
    simp only [request]
    cases hwrites : cfg.session.readOnly with
    | true =>
      rw [if_pos rfl]
      exact ⟨[], .refl c, nofun⟩
    | false =>
      rw [if_neg (by decide)]
      obtain ⟨xs, hxs, hask⟩ :=
        serveRpc_asks (Ask.write_performs index slot subslot data) cfg.gap attempts c p
      refine ⟨xs, hxs, ?_⟩
      intro x hx
      obtain ⟨seq, hseq⟩ := hask x hx
      rw [hseq]
      exact .write hwrites rfl seq

theorem idle_sends (attempts : Nat → Attempt) (c : RpcConn T) (p : Pace) (lastTraffic : Nat) :
    ∃ xs, Exchanged c (cfg.idle attempts c p lastTraffic).conn xs ∧
      ∀ x ∈ xs, cfg.Sends c none x.1 := by
  have hkept : ∃ xs, Exchanged c
      (serveRpc cfg.gap (fun c : RpcConn T => c.readRaw 0x8028 1 1 128) attempts c p).conn xs ∧
      ∀ x ∈ xs, cfg.Sends c none x.1 := by
    obtain ⟨xs, hxs, hask⟩ :=
      serveRpc_asks (Ask.readRaw_performs 0x8028 1 1 128) cfg.gap attempts c p
    refine ⟨xs, hxs, ?_⟩
    intro x hx
    obtain ⟨seq, hseq⟩ := hask x hx
    rw [hseq]
    exact .read 0x8028 1 1 128 seq
  unfold idle
  split
  · simp only
    split
    · exact hkept
    · exact hkept
  · exact ⟨[], .refl c, nofun⟩

/-- A pass sends reads, and the write it was asked for. -/
theorem pass_sends (s : LinkState T) (i : LinkInput T) :
    ∃ zs, Exchanged s.conn (cfg.pass s i).state.conn zs ∧
      ∀ z ∈ zs, cfg.Sends s.conn (cfg.pass s i).request z.1 := by
  -- the rest of a pass adds a read at most to what was exchanged before it
  have hdrive (request : Option ServeCmd) (received : Received) (h : Handled T)
      (lines : List ServeOut) (lastTraffic : Nat)
      (hh : ∃ xs, Exchanged (i.deliver s.conn) h.conn xs ∧
        ∀ x ∈ xs, cfg.Sends (i.deliver s.conn) request x.1) :
      ∃ zs, Exchanged s.conn (cfg.drive s i request received h lines lastTraffic).state.conn zs ∧
        ∀ z ∈ zs, cfg.Sends s.conn
          (cfg.drive s i request received h lines lastTraffic).request z.1 := by
    obtain ⟨xs, hxs, hsends⟩ := hh
    obtain ⟨serve, ys, hys, -, ⟨-, hread, -⟩, -⟩ :=
      cfg.drive_exchanged (s := s) (i := i) request received h lines lastTraffic
    have hdelivered := deliver_exchanged i s.conn
    rw [(cfg.drive_spec s i _ _ _ _ _).2.1]
    refine ⟨_, (hdelivered.trans hxs).trans hys, ?_⟩
    intro z hz
    rcases List.mem_append.mp hz with hz | hz
    · exact (hsends z hz).same hdelivered
    · obtain ⟨seq, hseq⟩ := hread z hz
      rw [hseq]
      exact Sends.same (hdelivered.trans hxs) (.read _ _ _ _ seq)
  have hdoes := cfg.pass_does s i
  generalize cfg.pass s i = p at hdoes ⊢
  cases hdoes with
  | ends e hc => exact ⟨[], hc, nofun⟩
  | quiet received h hc lines lastTraffic _ =>
    refine hdrive _ _ _ _ _ ⟨[], ?_, nofun⟩
    rw [hc]
    exact .refl _
  | idles p lastTraffic lastTraffic' stop => exact hdrive _ _ _ _ _ (cfg.idle_sends _ _ _ _)
  | requests cmd p lastTraffic hhead => exact hdrive _ _ _ _ _ (cfg.request_sends _ _ _ _)

/-- At any point of a run, everything sent since its start is what one of its passes sends. -/
theorem passes_send (s : LinkState T) (is : List (LinkInput T)) :
    ∀ p ∈ cfg.passes s is, ∃ zs, Exchanged s.conn p.state.conn zs ∧
      ∀ z ∈ zs, ∃ q ∈ cfg.passes s is, cfg.Sends s.conn q.request z.1 := by
  -- on the inputs: what later passes send, they send on a connection that only counted on
  induction is generalizing s with
  | nil => nofun
  | cons i is ih =>
    intro p hp
    obtain ⟨zs, hzs, hsends⟩ := cfg.pass_sends s i
    unfold passes at hp ⊢
    rcases List.mem_cons.mp hp with rfl | hp
    · exact ⟨zs, hzs, fun z hz => ⟨_, List.mem_cons_self, hsends z hz⟩⟩
    · simp only
      cases hended : (cfg.pass s i).ended with
      | some e =>
        rw [hended] at hp
        cases hp
      | none =>
        rw [hended] at hp
        obtain ⟨ws, hws, hlater⟩ := ih _ p hp
        refine ⟨zs ++ ws, hzs.trans hws, ?_⟩
        intro z hz
        rcases List.mem_append.mp hz with hz | hz
        · exact ⟨_, List.mem_cons_self, hsends z hz⟩
        · obtain ⟨q, hq, hsend⟩ := hlater z hz
          exact ⟨q, List.mem_cons_of_mem _ hq, hsend.same hzs⟩

/-- **What a session sends.**  At any point of it, everything sent since its start is a read, or a
    write that a line it took asks for; a read-only session sends reads. -/
theorem session_sends (cfg : ServeLink) (s : LinkState T) (is : List (LinkInput T)) :
    ∀ p ∈ cfg.passes s is, ∃ zs, Exchanged s.conn p.state.conn zs ∧
      (∀ z ∈ zs, ∃ q ∈ cfg.passes s is, cfg.Sends s.conn q.request z.1) ∧
      (cfg.session.readOnly = true → ∀ z ∈ zs, ∃ idx slot subslot len seq,
        z.1 = Rpc.rpcRequest s.conn.objectUuid Rpc.ifaceUuidDevice s.conn.activityUuid seq Rpc.read
          ((Ask.readRaw idx slot subslot len).body s.conn.arUuid)) := by
  intro p hp
  obtain ⟨zs, hzs, hsends⟩ := cfg.passes_send s is p hp
  refine ⟨zs, hzs, hsends, ?_⟩
  intro hread z hz
  obtain ⟨q, -, hsend⟩ := hsends z hz
  exact hsend.reads hread

/-- In that pass a read-only session sends reads. -/
theorem session_sends_read : ∃ zs, Exchanged benchConn
      (benchLink.pass benchLinkState (benchLineInput benchReadLine)).state.conn zs ∧
      ∀ z ∈ zs, ∃ idx slot subslot len seq, z.1 = Rpc.rpcRequest benchConn.objectUuid
        Rpc.ifaceUuidDevice benchConn.activityUuid seq Rpc.read
        ((Ask.readRaw idx slot subslot len).body benchConn.arUuid) := by
  obtain ⟨zs, hzs, -, hreads⟩ :=
    session_sends benchLink benchLinkState [benchLineInput benchReadLine] _
      (by unfold passes; exact List.mem_cons_self)
  exact ⟨zs, hzs, hreads rfl⟩

end ServeLink

end Profinet
