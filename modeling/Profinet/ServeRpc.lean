/-
  SERVE RPC: one acyclic request of the caller of `serve`.

  A request is tried again only when the device is busy, and no sooner than the gap after the one
  before it:

      serveRpcFrom_paced      requests are a gap apart
      serveRpcFrom_repeated   each of them is the same request, all but the last refused as BUSY
-/
import Profinet.RpcSession
import Profinet.ServeLoop
import Profinet.StatusText

namespace Profinet

open Transport RpcTransport

/-! ## One request under the caller's pacing

  The gap is waited out before every attempt, retries included, and the instant is noted when the
  wait is over.  `Paced` carries the last noted instant from one request to the next. -/

/-- The delays of one attempt: until the pacing reads the clock, beyond its sleep, and until the
    request is done with. -/
structure Attempt where
  before : Nat
  late : Nat
  took : Nat

/-- The last clock reading, and the instant of the last request. -/
structure Pace where
  now : Nat
  last : Nat

/-- Wait out the inter-request gap, then mark the request as issued. -/
def servePace (gap : Nat) (p : Pace) (a : Attempt) : Pace :=
  let now := p.now + a.before
  let issued := now + (gap - (now - p.last)) + a.late
  ⟨issued, issued⟩

/-- Another attempt begins with a sleep. -/
def backOff (k : Nat) (p : Pace) : Pace := if 0 < k then { p with now := p.now + millis 50 } else p

/-- Attempts per acyclic request before a BUSY is reported to the caller. -/
def serveBusyRetries : Nat := 5

/-- What a request comes to, with the instants at which it was issued. -/
structure Issue (C α : Type) where
  result : Except String α
  conn : C
  pace : Pace
  issued : List Nat

section
variable {C α : Type}

/-- The loop of `serve_rpc`: `k` attempts are made, and as many are left. -/
def serveRpcFrom (gap : Nat) (op : C → Except String α × C) (attempts : Nat → Attempt) :
    Nat → Nat → String → C → Pace → Issue C α
  | 0, _, busy, c, p => ⟨.error busy, c, p, []⟩
  | left + 1, k, _, c, p =>
    let p := servePace gap (backOff k p) (attempts k)
    let (result, c) := op c
    let done := { p with now := p.now + (attempts k).took }
    match result with
    | .ok v => ⟨.ok v, c, done, [p.last]⟩
    | .error e =>
      if isBusy e then
        let rest := serveRpcFrom gap op attempts left (k + 1) e c done
        { rest with issued := p.last :: rest.issued }
      else ⟨.error e, c, done, [p.last]⟩

/-- Issue one acyclic request under the caller's pacing, retrying only BUSY. -/
def serveRpc (gap : Nat) (op : C → Except String α × C) (attempts : Nat → Attempt) (c : C)
    (p : Pace) : Issue C α :=
  serveRpcFrom gap op attempts serveBusyRetries 0 "" c p

/-- An error that is tried again. -/
def Busy (r : Except String α) : Prop := ∃ e, r = .error e ∧ isBusy e = true

/-- Requests are a gap apart. -/
def GapApart (gap : Nat) (issued : List Nat) : Prop := issued.Pairwise fun a b => a + gap ≤ b

/-- Requests issued while the pace went from the first to the second. -/
structure Paced (gap : Nat) (p : Pace) (issued : List Nat) (q : Pace) : Prop where
  apart : GapApart gap issued
  behind : ∀ t ∈ issued, p.last + gap ≤ t ∧ t ≤ q.last
  last : p.last ≤ q.last
  now : q.last ≤ q.now

theorem backOff_spec (k : Nat) {p : Pace} (h : p.last ≤ p.now) :
    (backOff k p).last = p.last ∧ p.last ≤ (backOff k p).now := by
  unfold backOff
  split
  · exact ⟨rfl, Nat.le_trans h (Nat.le_add_right _ _)⟩
  · exact ⟨rfl, h⟩

theorem servePace_spec {gap : Nat} {p : Pace} (h : p.last ≤ p.now) (a : Attempt) :
    p.last + gap ≤ (servePace gap p a).last ∧ (servePace gap p a).now = (servePace gap p a).last := by
  refine ⟨?_, rfl⟩
  show p.last + gap ≤ p.now + a.before + (gap - (p.now + a.before - p.last)) + a.late
  omega

theorem serveRpcFrom_paced {gap : Nat} {op : C → Except String α × C} {attempts : Nat → Attempt}
    (left k : Nat) (busy : String) (c : C) {p : Pace} (h : p.last ≤ p.now) :
    Paced gap p (serveRpcFrom gap op attempts left k busy c p).issued
      (serveRpcFrom gap op attempts left k busy c p).pace := by
  -- on the attempts left; the first request of an attempt is paced against the last one before
  -- it
  induction left generalizing k busy c p with
  | zero => exact ⟨.nil, nofun, Nat.le_refl _, h⟩
  | succ left ih =>
    obtain ⟨hsame, hslept⟩ := backOff_spec k h
    obtain ⟨hgap, hnow⟩ := @servePace_spec gap _ (hsame.trans_le hslept) (attempts k)
    rw [hsame] at hgap
    unfold serveRpcFrom
    simp only
    -- the pauses and the pace come together in `q`, the pace at which the request goes out
    generalize servePace gap (backOff k p) (attempts k) = q at hgap hnow ⊢
    have hone : Paced gap p [q.last] { q with now := q.now + (attempts k).took } := by
      refine ⟨List.pairwise_singleton _ _, ?_, ?_, ?_⟩
      · intro t ht
        rw [List.mem_singleton.mp ht]
        exact ⟨hgap, Nat.le_refl _⟩
      · show p.last ≤ q.last
        omega
      · show q.last ≤ q.now + (attempts k).took
        omega
    cases hresult : (op c).1 with
    | ok v => exact hone
    | error e =>
      simp only
      split
      · obtain ⟨hapart, hbehind, hlast, hlater⟩ := ih (k + 1) e (op c).2 hone.now
        refine ⟨List.pairwise_cons.mpr ⟨fun t ht => (hbehind t ht).1, hapart⟩, ?_, ?_, hlater⟩
        · intro t ht
          rcases List.mem_cons.mp ht with rfl | ht
          · exact ⟨hgap, hlast⟩
          · have hbound := hbehind t ht
            simp only at hbound
            exact ⟨by omega, hbound.2⟩
        · exact hone.last.trans hlast
      · exact hone

theorem serveRpc_paced {gap : Nat} {op : C → Except String α × C} {attempts : Nat → Attempt} (c : C)
    {p : Pace} (h : p.last ≤ p.now) :
    Paced gap p (serveRpc gap op attempts c p).issued (serveRpc gap op attempts c p).pace :=
  serveRpcFrom_paced serveBusyRetries 0 "" c h

end

/-! ## What is repeated

  An operation that `Performs` a request builds it and judges the response, so the attempts of the
  loop are exchanges of the same bytes but for the sequence number.  All but the last came back
  BUSY. -/

/-- An acyclic request: its operation and body, and what is made of a response. -/
structure Ask (α : Type) where
  opnum : UInt16
  body : Uuid → List UInt8
  finish : ParsedRpc → Except String α

namespace Ask

variable {α T : Type} [RpcTransport T]

/-- What the request comes to if the exchange comes to this. -/
def outcome (a : Ask α) (x : Except String ParsedRpc) : Except String α := x.bind a.finish

/-- The request as bytes. -/
def bytes (a : Ask α) (c : RpcConn T) : List UInt8 := c.request a.opnum (a.body c.arUuid)

/-- The operation is this request. -/
def Performs (a : Ask α) (op : RpcConn T → Except String α × RpcConn T) : Prop :=
  ∀ c, op c = (a.outcome (exchange c.transport (a.bytes c)).1, c.asked (a.bytes c))

/-- The request behind `read_raw`. -/
def readRaw (idx slot subslot : UInt16) (length : UInt32) : Ask (List UInt8) where
  opnum := Rpc.read
  body ar := Rpc.nrd (Blocks.iodReadRequest ar 0 slot subslot idx length)
  finish resp := parseReadResponse resp.payload resp.isLittleEndian

/-- The request behind `write`. -/
def write (idx slot subslot : UInt16) (data : List UInt8) : Ask Unit where
  opnum := Rpc.write
  body ar := Rpc.nrd (Blocks.iodWriteRequest ar 0 slot subslot idx data)
  finish resp := (parseStatusResponse resp.payload resp.isLittleEndian).map fun _ => ()

/-- An operation that builds this request, and does no more with the response. -/
theorem performs_of_call {a : Ask α} {op : RpcConn T → Except String α × RpcConn T}
    (build : RpcConn T → UInt32 → List UInt8) (hbuild : ∀ c, build c c.sequenceNumber = a.bytes c)
    (hop : ∀ c, op c = c.call (build c) fun resp c => (a.finish resp, c)) : a.Performs op := by
  intro c
  rw [hop, RpcConn.call_eq, hbuild, outcome]
  cases (exchange c.transport (a.bytes c)).1 with
  | error e => rfl
  | ok resp => rfl

theorem readRaw_performs (idx slot subslot : UInt16) (length : UInt32) :
    (readRaw idx slot subslot length).Performs
      fun c : RpcConn T => c.readRaw idx slot subslot length :=
  performs_of_call
    (fun c seq => Rpc.readRecordRequest c.objectUuid Rpc.ifaceUuidDevice c.activityUuid c.arUuid
      seq 0 slot subslot idx length)
    (fun _ => rfl) fun _ => rfl

theorem write_performs (idx slot subslot : UInt16) (data : List UInt8) :
    (write idx slot subslot data).Performs fun c : RpcConn T => c.write idx slot subslot data :=
  performs_of_call
    (fun c seq => Rpc.writeRecordRequest c.objectUuid Rpc.ifaceUuidDevice c.activityUuid c.arUuid
      seq 0 slot subslot idx data)
    (fun _ => rfl) fun _ => rfl

end Ask

/-- The requests made for one of the caller, with what each of them came back with: nothing is
    repeated but what was refused as BUSY, and the last answer is the one that counts. -/
structure Repeated {α T : Type} [RpcTransport T] (a : Ask α) (c : RpcConn T) (left : Nat)
    (r : Except String α) (xs : List (List UInt8 × Except String ParsedRpc)) : Prop where
  request : ∀ x ∈ xs, ∃ seq, x.1 = Rpc.rpcRequest c.objectUuid Rpc.ifaceUuidDevice c.activityUuid
    seq a.opnum (a.body c.arUuid)
  few : xs.length ≤ left
  refused : ∀ x ∈ xs.dropLast, Busy (a.outcome x.2)
  last : ∀ x, xs.getLast? = some x → r = a.outcome x.2
  made : 0 < left → xs ≠ []
  gaveUp : xs.length < left → ¬ Busy r

/-- The connection went on by these exchanges, and is the same but for them. -/
structure Exchanged {T : Type} [RpcTransport T] (c c' : RpcConn T)
    (xs : List (List UInt8 × Except String ParsedRpc)) : Prop where
  objectUuid : c'.objectUuid = c.objectUuid
  activityUuid : c'.activityUuid = c.activityUuid
  arUuid : c'.arUuid = c.arUuid
  exchanges : c'.exchanges = c.exchanges ++ xs
  sent : sent c'.transport = sent c.transport ++ xs.map Prod.fst

namespace Exchanged

variable {T : Type} [RpcTransport T] {c c' c'' : RpcConn T}
  {xs ys : List (List UInt8 × Except String ParsedRpc)}

theorem refl (c : RpcConn T) : Exchanged c c [] :=
  ⟨rfl, rfl, rfl, (List.append_nil _).symm, (List.append_nil _).symm⟩

theorem trans (h : Exchanged c c' xs) (h' : Exchanged c' c'' ys) : Exchanged c c'' (xs ++ ys) := by
  refine ⟨h'.1.trans h.1, h'.2.trans h.2, h'.3.trans h.3, ?_, ?_⟩
  · rw [h'.exchanges, h.exchanges, List.append_assoc]
  · rw [h'.sent, h.sent, List.map_append, List.append_assoc]

/-- One request and its answer. -/
theorem asked (c : RpcConn T) (opnum : UInt16) (body : List UInt8) :
    Exchanged c (c.asked (c.request opnum body))
      [(c.request opnum body, (exchange c.transport (c.request opnum body)).1)] :=
  ⟨rfl, rfl, rfl, rfl, (exchange_spec (c.parse_request opnum body)).1⟩

end Exchanged

section
variable {α T : Type} [RpcTransport T] {a : Ask α}
  {op : RpcConn T → Except String α × RpcConn T} {c : RpcConn T} {r : Except String α} {left : Nat}

/-- An attempt that is not refused as BUSY is the last one. -/
theorem Repeated.one (hr : a.outcome (exchange c.transport (a.bytes c)).1 = r) (hnot : ¬ Busy r) :
    Repeated a c (left + 1) r [(a.bytes c, (exchange c.transport (a.bytes c)).1)] where
  request := by
    intro x hx
    rw [List.mem_singleton.mp hx]
    exact ⟨_, rfl⟩
  few := Nat.le_add_left _ _
  refused := nofun
  last := by
    rintro x ⟨rfl⟩
    exact hr.symm
  made _ := List.cons_ne_nil _ _
  gaveUp _ := hnot

/-- One that is refused goes before those behind it, and counts where there are none. -/
theorem Repeated.again (hbusy : Busy (a.outcome (exchange c.transport (a.bytes c)).1))
    {xs : List (List UInt8 × Except String ParsedRpc)}
    (h : Repeated a (c.asked (a.bytes c)) left r xs)
    (hnone : xs = [] → r = a.outcome (exchange c.transport (a.bytes c)).1) :
    Repeated a c (left + 1) r ((a.bytes c, (exchange c.transport (a.bytes c)).1) :: xs) where
  request := by
    intro x hx
    rcases List.mem_cons.mp hx with rfl | hx
    · exact ⟨_, rfl⟩
    · exact h.request x hx
  few := Nat.succ_le_succ h.few
  refused := by
    -- the request that was made before is answered busy exactly when another follows it
    cases xs with
    | nil => exact nofun
    | cons y ys =>
      intro x hx
      rcases List.mem_cons.mp hx with rfl | hx
      · exact hbusy
      · exact h.refused x hx
  last := by
    cases xs with
    | nil =>
      rintro x ⟨rfl⟩
      exact hnone rfl
    | cons y ys =>
      intro x hx
      exact h.last x hx
  made _ := List.cons_ne_nil _ _
  gaveUp hlt := h.gaveUp (Nat.lt_of_succ_lt_succ hlt)

theorem serveRpcFrom_repeated (hop : a.Performs op) (gap : Nat) (attempts : Nat → Attempt)
    (left k : Nat) (busy : String) (c : RpcConn T) (p : Pace) :
    ∃ xs, Exchanged c (serveRpcFrom gap op attempts left k busy c p).conn xs ∧
      (serveRpcFrom gap op attempts left k busy c p).issued.length = xs.length ∧
      Repeated a c left (serveRpcFrom gap op attempts left k busy c p).result xs ∧
      (xs = [] → (serveRpcFrom gap op attempts left k busy c p).result = .error busy) := by
  -- on the attempts left: only a busy answer leads to the next one
  induction left generalizing k busy c p with
  | zero =>
    refine ⟨[], .refl c, rfl, ⟨nofun, Nat.le_refl _, nofun, nofun, ?_, ?_⟩, fun _ => rfl⟩
    · exact fun h => absurd h (Nat.lt_irrefl 0)
    · exact fun h => absurd h (Nat.lt_irrefl 0)
  | succ left ih =>
    have hasked := Exchanged.asked c a.opnum (a.body c.arUuid)
    unfold serveRpcFrom
    simp only [hop c]
    cases hresult : a.outcome (exchange c.transport (a.bytes c)).1 with
    | ok v => exact ⟨_, hasked, rfl, .one hresult nofun, nofun⟩
    | error e =>
      simp only
      by_cases hbusy : isBusy e = true
      · rw [if_pos hbusy]
        obtain ⟨xs, hthen, hissued, hrep, hnone⟩ := ih (k + 1) e (c.asked (a.bytes c))
          ⟨(servePace gap (backOff k p) (attempts k)).now + (attempts k).took,
            (servePace gap (backOff k p) (attempts k)).last⟩
        refine ⟨_, hasked.trans hthen, ?_, hrep.again ⟨e, hresult, hbusy⟩ ?_, nofun⟩
        · rw [List.length_cons, List.singleton_append, List.length_cons, hissued]
        · intro h
          exact (hnone h).trans hresult.symm
      · rw [if_neg hbusy]
        refine ⟨_, hasked, rfl, .one hresult ?_, nofun⟩
        rintro ⟨e', ⟨rfl⟩, he'⟩
        exact hbusy he'

end

end Profinet
