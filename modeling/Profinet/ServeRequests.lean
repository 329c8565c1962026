/-
  SERVE REQUESTS: the whole loop of `cmd_serve`, with the acyclic requests in it.

  `ServeLoop` takes from a line of the caller only what it does to the output byte.  Here a pass
  reads the line, makes the requests it asks for over the connection and answers it; what is left
  of it goes through the pass of `ServeLoop`:

      a line  -->  its request, paced and repeated while BUSY  -->  one answer with its id
      silence -->  the keepalive, when nothing was asked for long enough (acyclic sessions)

  An emitted line is what it says, not its spelling; status lines, which show the counters of the
  cyclic tier, are left out.
-/
import Profinet.Lib.Spaced
import Profinet.PulseWidth
import Profinet.ServeRpc
import Profinet.ServeVocabulary

namespace Profinet

open Checked Errors Transport RpcTransport

/-! ## What is emitted -/

/-- A line that carries the id of a request. -/
inductive ServeReply where
  | bye (id : UInt64)
  | pong (id : UInt64)
  | refusedReadOnly (id : UInt64)
  | data (id : UInt64) (bytes : List UInt8)
  | ok (id : UInt64)
  | readError (id : UInt64) (pnio : List Char) (msg : String)
  | transportError (id : UInt64) (msg : String)
  deriving DecidableEq

/-- The id a reply carries. -/
def ServeReply.id : ServeReply → UInt64
  | .bye id | .pong id | .refusedReadOnly id | .data id _ | .ok id | .readError id .. |
    .transportError id _ => id

/-- A line of a session. -/
inductive ServeOut where
  | reply (r : ServeReply)
  | badCommand (e : ServeError) (line : List Char)
  | control (r : ControlReply)
  | output (byte : UInt8) (safe : Bool) (readback : List UInt8)
  | ioError
  | deadman
  deriving DecidableEq

/-- The id of the request that a line answers. -/
def ServeOut.id : ServeOut → Option UInt64
  | .reply r => some r.id
  | _ => none

/-- `serve_emit_error`. -/
def serveEmitError (id : UInt64) (msg : String) : ServeReply :=
  match pnioStatusOf msg with
  | some pnio => .readError id pnio msg
  | none => .transportError id msg

/-- What a request that came to `r` is answered with, and whether the AR is lost. -/
def answered {α : Type} (id : UInt64) (ok : α → ServeReply) :
    Except String α → ServeReply × Option ServeStop
  | .ok v => (ok v, none)
  | .error e =>
    (serveEmitError id e, if isTransportFailure e then some (.arLost e) else none)

/-! ## The session

  `hear` deals with the line and `drive` with what every pass does behind it: the output byte, its
  readback, the tick and the checks.  The passes are those of `ServeLoop` with the requests put in
  (`LinkInput.base`). -/

/-- What a session was started with. -/
structure ServeLink where
  session : ServeSession
  gap : Nat
  keepalive : Nat
  outSlot : UInt16
  outSubslot : UInt16

/-- The variables of the loop. -/
structure LinkState (T : Type) where
  serve : Serve
  conn : RpcConn T
  lastRequest : Nat
  lastTraffic : Nat

/-- What the loop receives: a line, nothing within a tick, or the end of stdin. -/
inductive Heard where
  | line (text : List Char)
  | timeout
  | disconnected

/-- What one pass meets: what has arrived on the transport, the caller, and the delays. -/
structure LinkInput (T : Type) [RpcTransport T] where
  arrived : List (Arrival T)
  abort : Option String
  heard : Heard
  attempts : Nat → Attempt
  writeOk : Bool
  wait : Nat
  serve : Nat
  readback : Nat
  restart : Nat
  rest : Nat

/-- What was done about a line: the answer, whether it ends the session, the connection and the
    clock behind it, and when requests were issued. -/
structure Handled (T : Type) where
  reply : Option ServeReply
  stop : Option ServeStop
  conn : RpcConn T
  pace : Pace
  issued : List Nat

/-- How a pass ends the session. -/
inductive PassEnd where
  | stopped (s : ServeStop)
  | aborted (p : Panic)
  deriving DecidableEq

/-- One pass: the loop before and behind it, the request of the caller in it, and what it did. -/
structure LinkPass (T : Type) where
  before : RpcConn T
  state : LinkState T
  request : Option ServeCmd
  lines : List ServeOut
  issued : List Nat
  ended : Option PassEnd

variable {T : Type} [RpcTransport T]

/-- The input of the pass of `ServeLoop`. -/
def LinkInput.base (i : LinkInput T) (received : Received) (serve : Nat) : PassInput :=
  ⟨i.abort, received, i.writeOk, i.wait, serve, i.readback, i.restart, i.rest⟩

/-- The connection with what has arrived on its transport. -/
def LinkInput.deliver (i : LinkInput T) (c : RpcConn T) : RpcConn T :=
  { c with transport := i.arrived.foldl (fun t a => arrive a t) c.transport }

/-- Whether the loop waits in vain. -/
def Heard.silence : Heard → Received
  | .timeout => .timeout none
  | _ => .disconnected

namespace ServeLink

/-- One request of the caller. -/
def request (cfg : ServeLink) (attempts : Nat → Attempt) (c : RpcConn T) (p : Pace) :
    ServeCmd → Handled T
  | .quit id => ⟨some (.bye id), some (.reason "quit"), c, p, []⟩
  | .ping id => ⟨some (.pong id), none, c, p, []⟩
  | .read id index slot subslot len =>
    let r := serveRpc cfg.gap (fun c => c.readRaw index slot subslot len) attempts c p
    let (reply, stop) := answered id (.data id) r.result
    ⟨some reply, stop, r.conn, r.pace, r.issued⟩
  | .write id index slot subslot data =>
    if cfg.session.readOnly then ⟨some (.refusedReadOnly id), none, c, p, []⟩
    else
      let r := serveRpc cfg.gap (fun c => c.write index slot subslot data) attempts c p
      let (reply, stop) := answered id (fun _ => .ok id) r.result
      ⟨some reply, stop, r.conn, r.pace, r.issued⟩

/-- The idle keepalive: an acyclic session reads a record when there was no traffic for so long. -/
def idle (cfg : ServeLink) (attempts : Nat → Attempt) (c : RpcConn T) (p : Pace)
    (lastTraffic : Nat) : Handled T :=
  if cfg.session.cyclic.isNone ∧ 0 < cfg.keepalive ∧ cfg.keepalive ≤ p.now - lastTraffic then
    let r := serveRpc cfg.gap (fun c => c.readRaw 0x8028 1 1 128) attempts c p
    match r.result with
    | .ok _ => ⟨none, none, r.conn, r.pace, r.issued⟩
    | .error e =>
      ⟨none, if isTransportFailure e then some (.arLost e) else none, r.conn, r.pace, r.issued⟩
  else ⟨none, none, c, p, []⟩

/-- The line in which the loop says that it stops. -/
def stopLine : Option ServeStop → List ServeOut
  | some (.reason "io_error") => [.ioError]
  | some (.reason "deadman") => [.deadman]
  | _ => []

/-- The rest of a pass, once the line is dealt with: the output byte, and its readback. -/
def drive (cfg : ServeLink) (s : LinkState T) (i : LinkInput T) (request : Option ServeCmd)
    (received : Received) (h : Handled T) (lines : List ServeOut) (lastTraffic : Nat) :
    LinkPass T :=
  let heardAt := cfg.session.heardAt s.serve (i.base received 0)
  let out := cfg.session.pass s.serve (i.base received (h.pace.now - heardAt + i.serve))
  let lines := lines ++ out.log.reply.toList.map .control
  match out.log.write with
  | none =>
    ⟨s.conn, ⟨out.serve, h.conn, h.pace.last, lastTraffic⟩, request, lines ++ stopLine out.stop,
      h.issued, out.stop.map .stopped⟩
  | some w =>
    let (readback, c) := h.conn.readRaw 0x8029 cfg.outSlot cfg.outSubslot 128
    ⟨s.conn, ⟨out.serve, c, h.pace.last, lastTraffic⟩, request,
      lines ++ [.output w.byte (w.byte = safeOutputByte) (readback.toOption.getD [])]
        ++ stopLine out.stop, h.issued, out.stop.map .stopped⟩

/-- A pass that gets as far as to receive. -/
def hear (cfg : ServeLink) (s : LinkState T) (i : LinkInput T) : LinkPass T :=
  let c := i.deliver s.conn
  let heardAt := cfg.session.heardAt s.serve (i.base i.heard.silence 0)
  let p : Pace := ⟨heardAt, s.lastRequest⟩
  match i.heard with
  | .disconnected => cfg.drive s i none .disconnected ⟨none, none, c, p, []⟩ [] s.lastTraffic
  | .timeout =>
    let h := cfg.idle i.attempts c p s.lastTraffic
    let lastTraffic := if h.issued.isEmpty then s.lastTraffic else h.pace.now
    cfg.drive s i none (.timeout h.stop) h [] lastTraffic
  | .line text =>
    match parseServeLine text with
    | .error panic => ⟨s.conn, { s with conn := c }, none, [], [], some (.aborted panic)⟩
    | .ok (.error e) =>
      cfg.drive s i none (.bad "bad command") ⟨none, none, c, p, []⟩ [.badCommand e text]
        s.lastTraffic
    | .ok (.ok (.control cmd)) =>
      cfg.drive s i none (.control cmd) ⟨none, none, c, p, []⟩ [] s.lastTraffic
    | .ok (.ok (.rpc cmd)) =>
      let h := cfg.request i.attempts c p cmd
      let lastTraffic := if h.issued.isEmpty then s.lastTraffic else h.pace.now
      cfg.drive s i (some cmd) (.rpc h.stop) h (h.reply.toList.map .reply) lastTraffic

/-- One pass of the loop. -/
def pass (cfg : ServeLink) (s : LinkState T) (i : LinkInput T) : LinkPass T :=
  match cfg.session.headStop s.serve (i.base .disconnected 0) with
  | some stop => ⟨s.conn, s, none, [], [], some (.stopped stop)⟩
  | none => cfg.hear s i

/-- The passes the loop makes of these inputs: it makes none after the one that ends it. -/
def passes (cfg : ServeLink) : LinkState T → List (LinkInput T) → List (LinkPass T)
  | _, [] => []
  | s, i :: is =>
    let p := cfg.pass s i
    p ::
      match p.ended with
      | some _ => []
      | none => cfg.passes p.state is

/-! ## Every request is answered once

  A line becomes at most one request, and a request exactly one reply with its id, so the ids of
  the replies are the ids of the requests, pass by pass.  The lines the loop emits by itself carry
  no id. -/

theorem stopLine_id (stop : Option ServeStop) : (stopLine stop).filterMap ServeOut.id = [] := by
  unfold stopLine
  split
  · rfl
  · rfl
  · rfl

section

variable (cfg : ServeLink) (s : LinkState T) (i : LinkInput T)

/-- The rest of a pass answers nothing, and keeps what was done about the line. -/
theorem drive_spec (request : Option ServeCmd) (received : Received) (h : Handled T)
    (lines : List ServeOut) (lastTraffic : Nat) :
    ((cfg.drive s i request received h lines lastTraffic).lines.filterMap ServeOut.id =
        lines.filterMap ServeOut.id) ∧
      (cfg.drive s i request received h lines lastTraffic).request = request ∧
      (cfg.drive s i request received h lines lastTraffic).issued = h.issued ∧
      (cfg.drive s i request received h lines lastTraffic).state.lastRequest = h.pace.last := by
  have hcontrol (r : Option ControlReply) :
      (r.toList.map ServeOut.control).filterMap ServeOut.id = [] := by
    cases r with
    | none => rfl
    | some r => rfl
  unfold drive
  simp only
  split
  · refine ⟨?_, rfl, rfl, rfl⟩
    simp [List.filterMap_append, hcontrol, stopLine_id]
  · rename_i w _
    have hout (safe : Bool) (readback : List UInt8) :
        (ServeOut.output w.byte safe readback).id = none := rfl
    refine ⟨?_, rfl, rfl, rfl⟩
    simp [List.filterMap_append, hcontrol, stopLine_id, hout]

theorem answered_id {α : Type} (id : UInt64) {ok : α → ServeReply} (hok : ∀ v, (ok v).id = id)
    (r : Except String α) : (answered id ok r).1.id = id := by
  cases r with
  | ok v => exact hok v
  | error e =>
    show (serveEmitError id e).id = id
    unfold serveEmitError
    split
    · rfl
    · rfl

/-- Every request has its answer. -/
theorem request_reply (attempts : Nat → Attempt) (c : RpcConn T) (p : Pace) (cmd : ServeCmd) :
    ∃ r, (cfg.request attempts c p cmd).reply = some r ∧ r.id = cmd.id := by
  cases cmd with
  | quit id => exact ⟨_, rfl, rfl⟩
  | ping id => exact ⟨_, rfl, rfl⟩
  | read id index slot subslot len => exact ⟨_, rfl, answered_id id (fun _ => rfl) _⟩
  | write id index slot subslot data =>
    simp only [request]
    split
    · exact ⟨_, rfl, rfl⟩
    · exact ⟨_, rfl, answered_id id (fun _ => rfl) _⟩

/-- A pass answers the request it heard, and nothing else. -/
theorem pass_answers :
    (cfg.pass s i).lines.filterMap ServeOut.id = (cfg.pass s i).request.toList.map ServeCmd.id := by
  unfold pass
  split
  · rfl
  · unfold hear
    simp only
    split
    · rw [(cfg.drive_spec s i _ _ _ _ _).1, (cfg.drive_spec s i _ _ _ _ _).2.1]
      rfl
    · rw [(cfg.drive_spec s i _ _ _ _ _).1, (cfg.drive_spec s i _ _ _ _ _).2.1]
      rfl
    · split
      · rfl
      · rw [(cfg.drive_spec s i _ _ _ _ _).1, (cfg.drive_spec s i _ _ _ _ _).2.1]
        rfl
      · rw [(cfg.drive_spec s i _ _ _ _ _).1, (cfg.drive_spec s i _ _ _ _ _).2.1]
        rfl
      · rename_i cmd _
        rw [(cfg.drive_spec s i _ _ _ _ _).1, (cfg.drive_spec s i _ _ _ _ _).2.1]
        obtain ⟨r, hr, hid⟩ := cfg.request_reply i.attempts (i.deliver s.conn)
          ⟨cfg.session.heardAt s.serve (i.base i.heard.silence 0), s.lastRequest⟩ cmd
        rw [hr]
        exact congrArg (fun id => [id]) hid

end

/-- **Every request is answered exactly once, in order.**  Whatever lines the caller sends,
    whatever the device and the network do, and wherever the session ends: the ids of the answers
    are the ids of the requests it took, one each and in the order of the lines. -/
theorem requests_answered (cfg : ServeLink) (s : LinkState T) (is : List (LinkInput T)) :
    ((cfg.passes s is).flatMap LinkPass.lines).filterMap ServeOut.id =
      (cfg.passes s is).filterMap fun p => p.request.map ServeCmd.id := by
  induction is generalizing s with
  | nil => rfl
  | cons i is ih =>
    unfold passes
    simp only
    have hone := cfg.pass_answers s i
    have hrest : ∀ ps : List (LinkPass T),
        (ps.flatMap LinkPass.lines).filterMap ServeOut.id =
          ps.filterMap (fun p => p.request.map ServeCmd.id) →
        (((cfg.pass s i) :: ps).flatMap LinkPass.lines).filterMap ServeOut.id =
          ((cfg.pass s i) :: ps).filterMap fun p => p.request.map ServeCmd.id := by
      intro ps hps
      rw [List.flatMap_cons, List.filterMap_append, hone, hps]
      cases hreq : (cfg.pass s i).request with
      | none => rw [List.filterMap_cons_none (by rw [hreq]; rfl)]; rfl
      | some cmd => rw [List.filterMap_cons_some (by rw [hreq]; rfl)]; rfl
    split
    · exact hrest [] rfl
    · exact hrest _ (ih _)

/-! ## Requests are paced

  Pacing looks at two numbers, the clock and the instant of the last request.  A pass takes both
  along, so spacing within one request and between two of them is one statement (`Paced`).  The
  readback of the output byte does not go through the pacing and is not counted. -/

/-- A pass that goes on is not done before its line is served. -/
theorem served_le {cfg : ServeSession} {s : Serve} {i : PassInput} (h : (cfg.pass s i).stop = none) :
    cfg.heardAt s i + i.serve ≤ (cfg.pass s i).serve.now := by
  cases hp : cfg.pass s i with
  | mk serve log stop =>
    have hdoes := cfg.pass_does s i
    rw [hp] at h hdoes
    cases hdoes with
    | stops r => cases h
    | hears r => cases h
    | serves => exact Nat.le_refl _
    | drives =>
      show (cfg.heard s i).now + i.serve ≤ (cfg.settled (cfg.heard s i) i).now
      have hdrive : (cfg.heard s i).now + i.serve ≤ (cfg.drive (cfg.heard s i) i).now := by
        unfold ServeSession.drive ServeSession.written
        split
        · rename_i w hw
          split at hw
          · cases hw
            simp only
            omega
          · cases hw
        · exact Nat.le_add_right _ _
      have hadvance : (cfg.drive (cfg.heard s i) i).now ≤
          (cfg.advance (cfg.drive (cfg.heard s i) i) i).now := by
        unfold ServeSession.advance
        simp only
        split
        · exact Nat.le_add_right _ _
        · exact Nat.le_refl _
      exact (hdrive.trans hadvance).trans (Nat.le_add_right _ _)

theorem paced_none (gap : Nat) {p : Pace} (h : p.last ≤ p.now) : Paced gap p [] p :=
  ⟨.nil, nofun, Nat.le_refl _, h⟩

section

variable (cfg : ServeLink) {s : LinkState T} (i : LinkInput T)

theorem request_paced (attempts : Nat → Attempt) (c : RpcConn T) {p : Pace} (h : p.last ≤ p.now)
    (cmd : ServeCmd) :
    Paced cfg.gap p (cfg.request attempts c p cmd).issued (cfg.request attempts c p cmd).pace := by
  cases cmd with
  | quit id => exact paced_none _ h
  | ping id => exact paced_none _ h
  | read id index slot subslot len => exact serveRpc_paced _ h
  | write id index slot subslot data =>
    simp only [request]
    split
    · exact paced_none _ h
    · exact serveRpc_paced _ h

theorem idle_paced (attempts : Nat → Attempt) (c : RpcConn T) {p : Pace} (h : p.last ≤ p.now)
    (lastTraffic : Nat) :
    Paced cfg.gap p (cfg.idle attempts c p lastTraffic).issued
      (cfg.idle attempts c p lastTraffic).pace := by
  unfold idle
  split
  · simp only
    split
    · exact serveRpc_paced _ h
    · exact serveRpc_paced _ h
  · exact paced_none _ h

/-- What a pass does to the pace. -/
structure PassPaced (gap : Nat) (s : LinkState T) (p : LinkPass T) : Prop where
  apart : GapApart gap p.issued
  behind : ∀ t ∈ p.issued, s.lastRequest + gap ≤ t ∧ t ≤ p.state.lastRequest
  last : s.lastRequest ≤ p.state.lastRequest
  now : p.ended = none → p.state.lastRequest ≤ p.state.serve.now

theorem drive_paced {request : Option ServeCmd} {received : Received} {h : Handled T}
    {lines : List ServeOut} {lastTraffic : Nat} {p : Pace} (hlast : p.last = s.lastRequest)
    (hh : Paced cfg.gap p h.issued h.pace) :
    PassPaced cfg.gap s (cfg.drive s i request received h lines lastTraffic) := by
  obtain ⟨-, -, hissued, hrequest⟩ := cfg.drive_spec s i request received h lines lastTraffic
  refine ⟨?_, ?_, ?_, ?_⟩
  · rw [hissued]
    exact hh.apart
  · rw [hissued, hrequest, ← hlast]
    exact hh.behind
  · rw [hrequest, ← hlast]
    exact hh.last
  · intro hended
    rw [hrequest]
    have hnow := hh.now
    have hserved (serve : Nat) (hstop : (cfg.session.pass s.serve (i.base received serve)).stop = none) :
        cfg.session.heardAt s.serve (i.base received 0) + serve ≤
          (cfg.session.pass s.serve (i.base received serve)).serve.now := served_le hstop
    unfold drive at hended ⊢
    simp only at hended ⊢
    split at hended
    · have hstop := hserved _ (Option.map_eq_none_iff.mp hended)
      simp only
      omega
    · have hstop := hserved _ (Option.map_eq_none_iff.mp hended)
      simp only
      omega

theorem pass_paced (h : s.lastRequest ≤ s.serve.now) : PassPaced cfg.gap s (cfg.pass s i) := by
  unfold pass
  split
  · exact ⟨.nil, nofun, Nat.le_refl _, nofun⟩
  · have hheard : s.lastRequest ≤ cfg.session.heardAt s.serve (i.base i.heard.silence 0) :=
      h.trans (cfg.session.now_le_heard s.serve _)
    unfold hear
    simp only
    split
    · exact cfg.drive_paced i rfl (paced_none _ hheard)
    · exact cfg.drive_paced i rfl (cfg.idle_paced _ _ hheard _)
    · split
      · exact ⟨.nil, nofun, Nat.le_refl _, nofun⟩
      · exact cfg.drive_paced i rfl (paced_none _ hheard)
      · exact cfg.drive_paced i rfl (paced_none _ hheard)
      · exact cfg.drive_paced i rfl (cfg.request_paced _ _ hheard _)

theorem passes_paced (is : List (LinkInput T)) (h : s.lastRequest ≤ s.serve.now) :
    GapApart cfg.gap ((cfg.passes s is).flatMap LinkPass.issued) ∧
      ∀ t ∈ (cfg.passes s is).flatMap LinkPass.issued, s.lastRequest + cfg.gap ≤ t := by
  induction is generalizing s with
  | nil => exact ⟨.nil, nofun⟩
  | cons i is ih =>
    obtain ⟨hapart, hbehind, hlast, hnow⟩ := cfg.pass_paced i h
    unfold passes
    simp only
    cases hended : (cfg.pass s i).ended with
    | some e =>
      simp only [List.flatMap_cons, List.flatMap_nil, List.append_nil]
      exact ⟨hapart, fun t ht => (hbehind t ht).1⟩
    | none =>
      obtain ⟨hrest, hlater⟩ := ih (hnow hended)
      rw [List.flatMap_cons]
      refine ⟨List.pairwise_append.mpr ⟨hapart, hrest, ?_⟩, ?_⟩
      · intro t ht u hu
        have hfirst := (hbehind t ht).2
        have hsecond := hlater u hu
        omega
      · intro t ht
        rcases List.mem_append.mp ht with ht | ht
        · exact (hbehind t ht).1
        · have hsecond := hlater t ht
          omega

end

/-- Before the first pass: the gap is over, unless the clock is younger than the gap. -/
def initial (cfg : ServeLink) (c : RpcConn T) (t e d d' d'' : Nat) : LinkState T where
  serve := .initial (t + e + d) d' d''
  conn := c
  lastRequest := if cfg.gap ≤ t then t - cfg.gap else t
  lastTraffic := t + e

/-- The requests that go through the pacing are a gap apart over the whole session: across passes,
    across the attempts of one request and across keepalives, however late each of them is; a
    window of time that is `span` long has no more of them than gaps fit in it, and one. -/
theorem issued_spaced (cfg : ServeLink) (c : RpcConn T) (t e d d' d'' : Nat)
    (is : List (LinkInput T)) :
    let issued := (cfg.passes (cfg.initial c t e d d' d'') is).flatMap LinkPass.issued
    GapApart cfg.gap issued ∧ (∀ x ∈ issued, t ≤ x) ∧
      (0 < cfg.gap → ∀ a span : Nat,
        (issued.filter fun x => a ≤ x ∧ x ≤ a + span).length ≤ span / cfg.gap + 1) := by
  intro issued
  -- the pace begins at most one gap before the session
  have hstart : (cfg.initial c t e d d' d'').lastRequest ≤ t ∧
      t ≤ (cfg.initial c t e d d' d'').lastRequest + cfg.gap := by
    unfold initial
    simp only
    split
    · omega
    · omega
  have hnow : t ≤ (cfg.initial c t e d d' d'').serve.now := by
    show t ≤ t + e + d + d' + d''
    omega
  obtain ⟨hapart, hbehind⟩ := cfg.passes_paced is (hstart.1.trans hnow)
  refine ⟨hapart, fun x hx => hstart.2.trans (hbehind x hx), ?_⟩
  intro hgap a span
  have hfollows : issued.Pairwise (Spaced.Follows id id cfg.gap) :=
    hapart.imp fun h => ⟨h, (Nat.le_add_right _ _).trans h⟩
  have hinside := hfollows.filter fun x => decide (a ≤ x ∧ x ≤ a + span)
  have hmem : ∀ x ∈ issued.filter fun x => a ≤ x ∧ x ≤ a + span, a ≤ x ∧ x ≤ a + span := by
    intro x hx
    simpa using (List.mem_filter.mp hx).2
  generalize (issued.filter fun x => decide (a ≤ x ∧ x ≤ a + span)) = inside at hinside hmem ⊢
  -- in a span there are as many whole gaps as requests behind the first
  cases inside with
  | nil => exact Nat.zero_le _
  | cons x rest =>
    have hspan := Spaced.length_mul_le id id cfg.gap hinside fun y hy => (hmem y hy).2
    have hx := (hmem x List.mem_cons_self).1
    have hcount : rest.length ≤ span / cfg.gap := by
      rw [Nat.le_div_iff_mul_le hgap]
      simp only [id] at hspan
      omega
    exact Nat.succ_le_succ hcount

end ServeLink

end Profinet
