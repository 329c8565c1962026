/-
  STOP AND WAIT over FIFO channels that lose and repeat.

  The sender numbers its messages `num 0`, `num 1`, ... and repeats message `next` until an
  acknowledgment names it.  Neither direction reorders; both may drop any message in flight and
  repeat any of them in place.

  A receiver is whatever keeps up a relation `Rep` with the number of messages it has accepted:

      fresh   it accepts message `n` after accepting `n` of them
      copy    it answers the last accepted one again, and accepts nothing
      acked   what it offers as acknowledgment names the last accepted one

  Then it accepts every message once and in order and has nothing to refuse, whatever the channels
  do and however often the numbers come round: all that is asked of `num` is that neighbours
  differ.
-/
import Mathlib.Data.List.Range
import Profinet.Lib.History

namespace StopAndWait

open History

/-- A receiver of messages numbered by `num`, as a state machine with its laws. -/
structure Receiver {S : Type} (num : Nat → S) (M V : Type) where
  State : Type
  recv : State → M → V × State
  /-- The sender's messages, among all that may arrive. -/
  Data : M → Prop
  seqOf : M → S
  /-- What an acknowledgment sent in this state names. -/
  ackOf : State → S
  accept : V
  again : V
  distinct : accept ≠ again
  /-- The state stands for this many accepted messages. -/
  Rep : State → Nat → Prop
  fresh : ∀ {σ n m}, Rep σ n → Data m → seqOf m = num n →
    (recv σ m).1 = accept ∧ Rep (recv σ m).2 (n + 1)
  copy : ∀ {σ n m}, Rep σ (n + 1) → Data m → seqOf m = num n →
    (recv σ m).1 = again ∧ Rep (recv σ m).2 (n + 1)
  acked : ∀ {σ n}, Rep σ (n + 1) → ackOf σ = num n
  noise : ∀ {σ n m}, Rep σ n → ¬ Data m → Rep (recv σ m).2 n

section
variable {S M V : Type} {num : Nat → S}

/-- The answer to one message of the sender: which it was, what was made of it, and what the
    acknowledgment sent for it names. -/
structure Answer (S V : Type) where
  index : Nat
  verdict : V
  offered : S

/-- Both parties and what is in flight between them.  A message carries its index for the sake of
    the statements; the receiver sees the message only. -/
structure Net (R : Receiver num M V) where
  next : Nat
  data : List (Nat × M)
  acks : List S
  state : R.State
  log : List (Answer S V)

variable (R : Receiver num M V)

/-- Nothing sent, nothing accepted. -/
def Net.init (σ : R.State) : Net R := ⟨0, [], [], σ, []⟩

variable [DecidableEq V]

/-- The acknowledgment for an answer: there is one unless the message was refused. -/
def Receiver.reply (v : V) (σ : R.State) : List S :=
  if v = R.accept ∨ v = R.again then [R.ackOf σ] else []

/-! ## The log of a receiver that accepts exactly once -/

/-- The messages accepted so far, in order. -/
def Receiver.accepted (log : List (Answer S V)) : List Nat :=
  (log.filter fun x => x.verdict = R.accept).map (·.index)

/-- One more answer. -/
theorem Receiver.accepted_snoc (log : List (Answer S V)) (x : Answer S V) :
    R.accepted (log ++ [x]) = R.accepted log ++ if x.verdict = R.accept then [x.index] else [] := by
  unfold accepted
  rw [List.filter_append, List.map_append]
  by_cases h : x.verdict = R.accept
  · simp [h]
  · simp [h]

/-- The first arrival of a message is accepted, every further one answered again, each with an
    acknowledgment that names it and while it is the last accepted one; the accepted ones are the
    first `n` in order. -/
structure Once (n : Nat) (log : List (Answer S V)) : Prop where
  accepted : R.accepted log = List.range n
  latest : ∀ before x after, log = before ++ x :: after →
    R.accepted (before ++ [x]) = List.range (x.index + 1)
  answer : ∀ before x after, log = before ++ x :: after →
    (x.verdict = R.accept ∧ x.index ∉ before.map (·.index)) ∨
      (x.verdict = R.again ∧ x.index ∈ before.map (·.index))
  offered : ∀ x ∈ log, x.offered = num x.index
  below : ∀ x ∈ log, x.index < n

variable {R}

theorem once_nil : Once R 0 [] :=
  ⟨rfl, fun before x after h => (by cases before <;> cases h),
    fun before x after h => (by cases before <;> cases h), fun x hx => (by cases hx),
    fun x hx => (by cases hx)⟩

/-- The indices that have arrived are those below `n`. -/
theorem Once.arrived {n i : Nat} {log : List (Answer S V)} (h : Once R n log) (hi : i < n) :
    i ∈ log.map (·.index) := by
  have hmem : i ∈ R.accepted log := by
    rw [h.accepted]
    exact List.mem_range.mpr hi
  obtain ⟨x, hx, rfl⟩ := List.mem_map.mp hmem
  exact List.mem_map_of_mem (List.mem_of_mem_filter hx)

theorem Once.accept {n : Nat} {log : List (Answer S V)} (h : Once R n log) :
    Once R (n + 1) (log ++ [⟨n, R.accept, num n⟩]) := by
  have haccepted : R.accepted (log ++ [⟨n, R.accept, num n⟩]) = List.range (n + 1) := by
    have hold := h.accepted
    unfold Receiver.accepted at hold ⊢
    rw [List.filter_append, List.map_append, hold, List.range_succ]
    simp
  refine ⟨haccepted, fun before x after hsplit => ?_, fun before x after hsplit => ?_,
    forall_mem_snoc h.offered rfl, forall_mem_snoc (fun x hx => ?_) (Nat.lt_succ_self n)⟩
  · rcases snoc_split hsplit with ⟨after', hlog⟩ | ⟨rfl, rfl⟩
    · exact h.latest before x after' hlog
    · exact haccepted
  · rcases snoc_split hsplit with ⟨after', hlog⟩ | ⟨rfl, rfl⟩
    · exact h.answer before x after' hlog
    · refine .inl ⟨rfl, fun hmem => ?_⟩
      obtain ⟨y, hy, hyn⟩ := List.mem_map.mp hmem
      have hbelow := h.below y hy
      simp only at hyn
      omega
  · exact Nat.lt_succ_of_lt (h.below x hx)

theorem Once.again {i : Nat} {log : List (Answer S V)} (h : Once R (i + 1) log) :
    Once R (i + 1) (log ++ [⟨i, R.again, num i⟩]) := by
  have haccepted : R.accepted (log ++ [⟨i, R.again, num i⟩]) = List.range (i + 1) := by
    have hold := h.accepted
    unfold Receiver.accepted at hold ⊢
    rw [List.filter_append, List.map_append, hold]
    simp [R.distinct.symm]
  refine ⟨haccepted, fun before x after hsplit => ?_, fun before x after hsplit => ?_,
    forall_mem_snoc h.offered rfl, forall_mem_snoc h.below (Nat.lt_succ_self i)⟩
  · rcases snoc_split hsplit with ⟨after', hlog⟩ | ⟨rfl, rfl⟩
    · exact h.latest before x after' hlog
    · exact haccepted
  · rcases snoc_split hsplit with ⟨after', hlog⟩ | ⟨rfl, rfl⟩
    · exact h.answer before x after' hlog
    · exact .inr ⟨rfl, h.arrived (Nat.lt_succ_self i)⟩

/-! ## The protocol -/

section
variable [DecidableEq S] (R)

/-- One step of the sender, the receiver or the network. -/
inductive Step : Net R → Net R → Prop where
  /-- The sender sends message `next`, for the first time or again. -/
  | send {s : Net R} (m : M) (hdata : R.Data m) (hseq : R.seqOf m = num s.next) :
      Step s { s with data := s.data ++ [(s.next, m)] }
  /-- A message arrives. -/
  | deliver {s : Net R} {i : Nat} {m : M} {rest : List (Nat × M)} (h : s.data = (i, m) :: rest) :
      Step s { s with
        data := rest
        state := (R.recv s.state m).2
        acks := s.acks ++ R.reply (R.recv s.state m).1 (R.recv s.state m).2
        log := s.log ++ [⟨i, (R.recv s.state m).1, R.ackOf (R.recv s.state m).2⟩] }
  /-- Something else arrives. -/
  | noise {s : Net R} (m : M) (h : ¬ R.Data m) : Step s { s with state := (R.recv s.state m).2 }
  /-- An acknowledgment arrives; the sender goes on if it names message `next`. -/
  | ack {s : Net R} {a : S} {rest : List S} (h : s.acks = a :: rest) :
      Step s { s with acks := rest, next := if a = num s.next then s.next + 1 else s.next }
  | loseData {s : Net R} {before after : List (Nat × M)} {x : Nat × M}
      (h : s.data = before ++ x :: after) : Step s { s with data := before ++ after }
  | repeatData {s : Net R} {before after : List (Nat × M)} {x : Nat × M}
      (h : s.data = before ++ x :: after) : Step s { s with data := before ++ x :: x :: after }
  | loseAck {s : Net R} {before after : List S} {a : S}
      (h : s.acks = before ++ a :: after) : Step s { s with acks := before ++ after }
  | repeatAck {s : Net R} {before after : List S} {a : S}
      (h : s.acks = before ++ a :: after) : Step s { s with acks := before ++ a :: a :: after }

/-- What steps lead to. -/
inductive Reachable : Net R → Prop where
  | init {σ : R.State} (h : R.Rep σ 0) : Reachable (.init R σ)
  | step {s s' : Net R} : Reachable s → Step R s s' → Reachable s'

end

/-! ## The invariant -/

/-- Where the parties stand: `n` messages are accepted, the sender is at the last of them or just
    past it, and what is in flight is no older than that, in order. -/
structure Inv (s : Net R) (n : Nat) : Prop where
  rep : R.Rep s.state n
  lower : s.next ≤ n
  upper : n ≤ s.next + 1
  order : s.data.Pairwise fun x y => x.1 ≤ y.1
  data : ∀ x ∈ s.data, x.1 ≤ s.next ∧ n ≤ x.1 + 1 ∧ R.Data x.2 ∧ R.seqOf x.2 = num x.1
  acks : ∃ js : List Nat, s.acks = js.map num ∧ js.Pairwise (· ≤ ·) ∧
    ∀ j ∈ js, j < n ∧ s.next ≤ j + 1
  log : Once R n s.log

theorem init_inv {σ : R.State} (h : R.Rep σ 0) : Inv (.init R σ) 0 :=
  ⟨h, Nat.le_refl _, Nat.zero_le _, .nil, fun x hx => (by cases hx),
    ⟨[], rfl, .nil, fun j hj => (by cases hj)⟩, once_nil⟩

/-- The acknowledgments in flight, with the answer to the last accepted message behind them. -/
theorem acks_snoc {acks : List S} {next n i : Nat} (h : ∃ js : List Nat, acks = js.map num ∧
      js.Pairwise (· ≤ ·) ∧ ∀ j ∈ js, j < n ∧ next ≤ j + 1)
    (hn : n ≤ i + 1) (hnext : next ≤ i + 1) :
    ∃ js : List Nat, acks ++ [num i] = js.map num ∧ js.Pairwise (· ≤ ·) ∧
      ∀ j ∈ js, j < i + 1 ∧ next ≤ j + 1 := by
  obtain ⟨js, hjs, hsorted, hj⟩ := h
  refine ⟨js ++ [i], ?_, ?_, ?_⟩
  · rw [hjs, List.map_append]
    rfl
  · rw [List.pairwise_append]
    refine ⟨hsorted, List.pairwise_singleton _ _, fun a ha b hb => ?_⟩
    have hlt := (hj a ha).1
    rw [List.mem_singleton.mp hb]
    omega
  · refine forall_mem_snoc (fun j hmem => ?_) ⟨Nat.lt_succ_self i, hnext⟩
    have hbound := hj j hmem
    omega

/-- An arrival is the next message or a copy of the last accepted one. -/
theorem Inv.deliver {s : Net R} {n i : Nat} {m : M} {rest : List (Nat × M)} (h : Inv s n)
    (hhead : s.data = (i, m) :: rest) :
    ∃ n', Inv { s with
      data := rest
      state := (R.recv s.state m).2
      acks := s.acks ++ R.reply (R.recv s.state m).1 (R.recv s.state m).2
      log := s.log ++ [⟨i, (R.recv s.state m).1, R.ackOf (R.recv s.state m).2⟩] } n' := by
  obtain ⟨hnext, hlate, hdata, hseq⟩ := h.data (i, m) (by rw [hhead]; exact .head _)
  have horder := h.order
  rw [hhead] at horder
  obtain ⟨hhigher, hrest⟩ := List.pairwise_cons.mp horder
  have hmem : ∀ x ∈ rest, x ∈ s.data := fun x hx => by
    rw [hhead]
    exact .tail _ hx
  have hlower := h.lower
  have hupper := h.upper
  simp only at hnext hlate hdata hseq
  rcases Nat.lt_or_eq_of_le hlate with hlt | heq
  · -- the next message: accepted
    have hin : i = n := by omega
    subst hin
    obtain ⟨hverdict, hrep⟩ := R.fresh h.rep hdata hseq
    have hoffer := R.acked hrep
    refine ⟨i + 1, hrep, by simp only; omega, by simp only; omega, hrest, ?_, ?_, ?_⟩
    · intro x hx
      obtain ⟨hx1, -, hx3⟩ := h.data x (hmem x hx)
      have hix := hhigher x hx
      exact ⟨hx1, by omega, hx3⟩
    · have hreply : R.reply (R.recv s.state m).1 (R.recv s.state m).2 = [num i] := by
        simp [Receiver.reply, hverdict, hoffer]
      rw [hreply]
      exact acks_snoc h.acks (Nat.le_succ i) (Nat.le_succ_of_le hlower)
    · rw [hverdict, hoffer]
      exact h.log.accept
  · -- a copy of the last accepted message: answered again
    subst heq
    obtain ⟨hverdict, hrep⟩ := R.copy h.rep hdata hseq
    have hoffer := R.acked hrep
    refine ⟨i + 1, hrep, hlower, hupper, hrest, fun x hx => h.data x (hmem x hx), ?_, ?_⟩
    · have hreply : R.reply (R.recv s.state m).1 (R.recv s.state m).2 = [num i] := by
        simp [Receiver.reply, hverdict, hoffer]
      rw [hreply]
      exact acks_snoc h.acks (Nat.le_refl _) hlower
    · rw [hverdict, hoffer]
      exact h.log.again

/-- Losing or repeating something in flight keeps its order and adds nothing new. -/
theorem inv_flight {s : Net R} {n : Nat} {data : List (Nat × M)} {acks : List S} (h : Inv s n)
    (horder : data.Pairwise fun x y => x.1 ≤ y.1) (hdata : ∀ x ∈ data, x ∈ s.data)
    (hacks : ∃ js : List Nat, acks = js.map num ∧ js.Pairwise (· ≤ ·) ∧
      ∀ j ∈ js, j < n ∧ s.next ≤ j + 1) :
    Inv { s with data, acks } n :=
  ⟨h.rep, h.lower, h.upper, horder, fun x hx => h.data x (hdata x hx), hacks, h.log⟩

/-- An element repeated in place. -/
theorem pairwise_repeat {α : Type} {r : α → α → Prop} (hrefl : ∀ a, r a a) {before after : List α}
    {x : α} (h : (before ++ x :: after).Pairwise r) : (before ++ x :: x :: after).Pairwise r := by
  obtain ⟨hbefore, hxafter, hcross⟩ := List.pairwise_append.mp h
  obtain ⟨hx, hafter⟩ := List.pairwise_cons.mp hxafter
  refine List.pairwise_append.mpr ⟨hbefore, ?_, ?_⟩
  · refine List.pairwise_cons.mpr ⟨?_, hxafter⟩
    intro y hy
    rcases List.mem_cons.mp hy with rfl | hmem
    · exact hrefl y
    · exact hx y hmem
  · intro a ha b hb
    rcases List.mem_cons.mp hb with rfl | hmem
    · exact hcross a ha b (.head _)
    · exact hcross a ha b hmem

/-- Losing or repeating an element brings in no other. -/
theorem mem_of_lose {α : Type} {before after : List α} {x y : α} (h : y ∈ before ++ after) :
    y ∈ before ++ x :: after :=
  ((List.sublist_cons_self x after).append_left before).subset h

theorem mem_of_repeat {α : Type} {before after : List α} {x y : α}
    (h : y ∈ before ++ x :: x :: after) : y ∈ before ++ x :: after := by
  rcases List.mem_append.mp h with hbefore | hafter
  · exact List.mem_append_left _ hbefore
  · rcases List.mem_cons.mp hafter with rfl | hrest
    · exact List.mem_append_right _ (.head _)
    · exact List.mem_append_right _ hrest

theorem pairwise_lose {α : Type} {r : α → α → Prop} {before after : List α} {x : α}
    (h : (before ++ x :: after).Pairwise r) : (before ++ after).Pairwise r :=
  h.sublist ((List.sublist_cons_self x after).append_left before)

theorem Inv.ack [DecidableEq S] {s : Net R} {n : Nat} {a : S} {rest : List S} (hnum : ∀ k, num k ≠ num (k + 1))
    (h : Inv s n) (hhead : s.acks = a :: rest) :
    Inv { s with acks := rest, next := if a = num s.next then s.next + 1 else s.next } n := by
  obtain ⟨js, hjs, hsorted, hj⟩ := h.acks
  rw [hhead] at hjs
  have hlower := h.lower
  have hupper := h.upper
  cases js with
  | nil => cases hjs
  | cons j js =>
    injection hjs with ha hrest
    subst ha
    obtain ⟨hhigher, hsorted'⟩ := List.pairwise_cons.mp hsorted
    obtain ⟨hjn, hnext⟩ := hj j (.head _)
    rcases Nat.lt_or_eq_of_le hnext with hlt | heq
    · -- the acknowledgment the sender waits for
      have hjnext : j = s.next := by omega
      subst hjnext
      rw [if_pos rfl]
      refine ⟨h.rep, hjn, by simp only; omega, h.order, ?_, ?_, h.log⟩
      · intro x hx
        obtain ⟨hx1, hx2⟩ := h.data x hx
        exact ⟨Nat.le_succ_of_le hx1, hx2⟩
      · refine ⟨js, hrest, hsorted', fun k hk => ?_⟩
        have hkn := (hj k (.tail _ hk)).1
        have hjk := hhigher k hk
        exact ⟨hkn, Nat.succ_le_succ hjk⟩
    · -- one for the message before: stale
      rw [if_neg (by rw [heq]; exact hnum j)]
      exact ⟨h.rep, hlower, hupper, h.order, h.data,
        ⟨js, hrest, hsorted', fun k hk => hj k (.tail _ hk)⟩, h.log⟩

theorem inv_step [DecidableEq S] {s s' : Net R} {n : Nat} (hnum : ∀ k, num k ≠ num (k + 1)) (h : Inv s n)
    (hstep : Step R s s') : ∃ n', Inv s' n' := by
  cases hstep with
  | send m hdata hseq =>
    refine ⟨n, h.rep, h.lower, h.upper, ?_, ?_, h.acks, h.log⟩
    · refine List.pairwise_append.mpr ⟨h.order, List.pairwise_singleton _ _, ?_⟩
      intro x hx y hy
      rw [List.mem_singleton.mp hy]
      exact (h.data x hx).1
    · exact forall_mem_snoc h.data ⟨Nat.le_refl _, h.upper, hdata, hseq⟩
  | deliver hhead => exact h.deliver hhead
  | noise m hm =>
    exact ⟨n, R.noise h.rep hm, h.lower, h.upper, h.order, h.data, h.acks, h.log⟩
  | ack hhead => exact ⟨n, h.ack hnum hhead⟩
  | loseData hsplit =>
    have horder := h.order
    rw [hsplit] at horder
    refine ⟨n, inv_flight h (pairwise_lose horder) (fun x hx => ?_) h.acks⟩
    rw [hsplit]
    exact mem_of_lose hx
  | repeatData hsplit =>
    have horder := h.order
    rw [hsplit] at horder
    refine ⟨n, inv_flight h (pairwise_repeat (r := fun x y : Nat × M => x.1 ≤ y.1)
      (fun _ => Nat.le_refl _) horder)
      (fun x hx => ?_) h.acks⟩
    rw [hsplit]
    exact mem_of_repeat hx
  | loseAck hsplit =>
    obtain ⟨js, hjs, hsorted, hj⟩ := h.acks
    rw [hsplit] at hjs
    obtain ⟨jb, jr, rfl, hb, hr⟩ := List.map_eq_append_iff.mp hjs.symm
    obtain ⟨j, ja, rfl, rfl, ha⟩ := List.map_eq_cons_iff.mp hr
    refine ⟨n, inv_flight h h.order (fun x hx => hx) ⟨jb ++ ja, ?_, pairwise_lose hsorted, ?_⟩⟩
    · rw [List.map_append, hb, ha]
    · intro k hk
      exact hj k (mem_of_lose hk)
  | repeatAck hsplit =>
    obtain ⟨js, hjs, hsorted, hj⟩ := h.acks
    rw [hsplit] at hjs
    obtain ⟨jb, jr, rfl, hb, hr⟩ := List.map_eq_append_iff.mp hjs.symm
    obtain ⟨j, ja, rfl, rfl, ha⟩ := List.map_eq_cons_iff.mp hr
    refine ⟨n, inv_flight h h.order (fun x hx => hx)
      ⟨jb ++ j :: j :: ja, ?_, pairwise_repeat (fun _ => Nat.le_refl _) hsorted, ?_⟩⟩
    · rw [List.map_append, List.map_cons, List.map_cons, hb, ha]
    · intro k hk
      exact hj k (mem_of_repeat hk)

/-- **Exactly once and in order.**  In every state the parties can reach, the receiver has accepted
    the first `n` messages, each once and in order, answered every further copy again, and named
    the last accepted one in every acknowledgment; the sender is at message `n` or the one before. -/
theorem exactly_once [DecidableEq S] {s : Net R} (hnum : ∀ k, num k ≠ num (k + 1)) (h : Reachable R s) :
    ∃ n, Once R n s.log ∧ s.next ≤ n ∧ n ≤ s.next + 1 ∧ R.Rep s.state n := by
  have hinv : ∃ n, Inv s n := by
    induction h with
    | init hrep => exact ⟨0, init_inv hrep⟩
    | step _ hstep ih =>
      obtain ⟨n, hn⟩ := ih
      exact inv_step hnum hn hstep
  obtain ⟨n, hn⟩ := hinv
  exact ⟨n, hn.log, hn.lower, hn.upper, hn.rep⟩

end

end StopAndWait
