/-
  LISTENER TIMING: the thread wakes up for its retransmissions.

  A pass services both channels and then waits for a frame, never past the next instant at which a
  frame is due again, with a millisecond as the floor.  After a service nothing is overdue, so if
  the thread is prompt, coming back to the head of its loop when its wait is over, the next pass
  finds nothing that is overdue by more than that floor and what its own work took.
-/
import Profinet.AlarmDelivery

namespace Profinet.Rta

open Wire Checked Util Alarms

namespace AlarmListener

/-! ## When things are due -/

/-- What waits for its transport ACK on either channel is due at this instant at the earliest. -/
def DueFrom (l : AlarmListener) (instant : Nat) : Prop :=
  ∀ q p, (l.channel q).pending = some p → instant ≤ p.due

theorem service_due (c : AlarmChannel) (peer : Peer) (now : Nat) {p : Pending}
    (hp : (c.service peer now).1.pending = some p) : now ≤ p.due := by
  have hagain : ∀ p, (c.retransmit peer now).1.pending = some p → now ≤ p.due := by
    intro p hp
    unfold AlarmChannel.retransmit at hp
    cases hpending : c.pending with
    | none =>
      rw [hpending] at hp
      cases hpending.symm.trans hp
    | some p' =>
      rw [hpending] at hp
      simp only at hp
      by_cases hdue : p'.due ≤ now
      · rw [if_pos hdue] at hp
        by_cases hleft : 0 < p'.retriesLeft
        · rw [if_pos hleft] at hp
          cases hp
          exact Nat.le_add_right _ _
        · rw [if_neg hleft] at hp
          cases hp
      · rw [if_neg hdue] at hp
        cases hpending.symm.trans hp
        omega
  rcases (c.retransmit peer now).1.sendNext_cases peer now with ⟨h, -⟩ | ⟨ackData, queued, -, -, h⟩
  · refine hagain p ?_
    rw [← hp]
    show _ = ((c.retransmit peer now).1.sendNext peer now).1.pending
    rw [h]
  · have hnew : some p = ((c.retransmit peer now).1.sendNext peer now).1.pending := hp.symm
    rw [h] at hnew
    cases hnew
    exact Nat.le_add_right _ _

/-- The wait is no longer than up to the first instant that is due, if that is not past, and no
    longer than a millisecond otherwise. -/
theorem foldl_wait (now : Nat) (dues : List Nat) (w : Nat) :
    dues.foldl (fun wait due => min wait (due - now)) w ≤ w ∧
      ∀ due ∈ dues, dues.foldl (fun wait due => min wait (due - now)) w ≤ due - now := by
  induction dues generalizing w with
  | nil => exact ⟨Nat.le_refl _, nofun⟩
  | cons d dues ih =>
    obtain ⟨hw, hdues⟩ := ih (min w (d - now))
    rw [List.foldl_cons]
    refine ⟨hw.trans (Nat.min_le_left _ _), fun due hdue => ?_⟩
    rcases List.mem_cons.mp hdue with rfl | hdue
    · exact hw.trans (Nat.min_le_right _ _)
    · exact hdues due hdue

theorem wait_le (l : AlarmListener) {now : Nat} (h : l.DueFrom now) {q : Bool} {p : Pending}
    (hp : (l.channel q).pending = some p) : now + l.wait now ≤ p.due + 1000000 := by
  have hdue := h q p hp
  have hmem : p.due ∈ (l.low.pending.toList ++ l.high.pending.toList).map Pending.due := by
    refine List.mem_map_of_mem (List.mem_append.mpr ?_)
    cases q with
    | true => exact .inr (Option.mem_toList.mpr hp)
    | false => exact .inl (Option.mem_toList.mpr hp)
  have hwait := (foldl_wait now _ 1000000000).2 p.due hmem
  unfold wait
  simp only
  omega

/-- The thread comes back to the head of its loop: at most `slack` after its wait is over, or, when
    it has an alarm, at most that after it has read the clock for the AlarmAck, and it has read that
    in time too. -/
structure Prompt (slack : Nat) (peer : Peer) (l : AlarmListener) (i : ListenerInput)
    (p : ListenerPass) (next : ListenerInput) : Prop where
  quiet : p.alarm = none →
    next.now ≤ i.now + (l.service peer i.now).1.wait i.now + slack
  accepted : p.alarm.isSome → i.accepted ≤ i.now + (l.service peer i.now).1.wait i.now + slack
  delivered : p.alarm.isSome → next.now ≤ i.accepted + slack

variable {peer : Peer} {slack : Nat}

/-- What one pass leaves waiting is overdue by so much at the head of the next. -/
theorem Passed.late {l : AlarmListener} {i next : ListenerInput} {p : ListenerPass}
    (hp : l.Passed peer i p) (hprompt : Prompt slack peer l i p next) {q : Bool} {w : Pending}
    (hw : (p.listener.channel q).pending = some w) : next.now ≤ w.due + (1000000 + 2 * slack) := by
  have hserviced : (l.service peer i.now).1.DueFrom i.now := by
    intro q p hp
    rw [service_channel] at hp
    exact service_due _ peer i.now hp
  -- the channels before an AlarmAck: what waits there was waiting when the wait was computed
  have hbefore {pdu : Pdu} {q : Bool} {w : Pending}
      (hw : (((l.service peer i.now).1.update
          (((l.service peer i.now).1.channel pdu.highPriority).receive pdu.header)
          pdu.highPriority).channel q).pending = some w) :
      i.now + (l.service peer i.now).1.wait i.now ≤ w.due + 1000000 := by
    refine wait_le _ hserviced (q := q) ?_
    by_cases hq : q = pdu.highPriority
    · subst hq
      rw [channel_update_same] at hw
      have hpending := ((l.service peer i.now).1.channel pdu.highPriority).receive_pending pdu.header
      split at hpending
      · cases hpending.symm.trans hw
      · exact hpending.symm.trans hw
    · rw [channel_update_other hq] at hw
      exact hw
  cases hp with
  | quiet hnone =>
    have hwait := wait_le _ hserviced hw
    have hnext := hprompt.quiet rfl
    omega
  | heard hsome hno =>
    have hwait := hbefore hw
    have hnext := hprompt.quiet rfl
    omega
  | delivered hsome haccept halarm hl' =>
    rename_i pdu alarm l'
    have hread := hprompt.accepted rfl
    have hnext := hprompt.delivered rfl
    unfold acknowledge at hw
    by_cases hq : q = alarm.isHighPriority
    · subst hq
      rw [channel_update_same] at hw
      have hdue := service_due _ peer i.accepted hw
      omega
    · rw [channel_update_other hq, hl'] at hw
      have hwait := hbefore hw
      omega

/-- The thread is prompt in every pass. -/
def PromptRun (slack : Nat) (peer : Peer) :
    AlarmListener → List ListenerInput → List ListenerPass → Prop
  | l, i :: next :: is, p :: ps =>
    Prompt slack peer l i p next ∧ PromptRun slack peer p.listener (next :: is) ps
  | _, _, _ => True

/-- Every pass finds what waits overdue by so much at most. -/
def OnTime (late : Nat) : AlarmListener → List ListenerInput → List ListenerPass → Prop
  | l, i :: is, p :: ps =>
    (∀ q w, (l.channel q).pending = some w → i.now ≤ w.due + late) ∧ OnTime late p.listener is ps
  | _, _, _ => True

theorem Ran.onTime {l : AlarmListener} {is : List ListenerInput} {ps : List ListenerPass}
    (hran : Ran peer l is ps) (hprompt : PromptRun slack peer l is ps)
    (hfirst : ∀ i ∈ is.head?, ∀ q w, (l.channel q).pending = some w →
      i.now ≤ w.due + (1000000 + 2 * slack)) :
    OnTime (1000000 + 2 * slack) l is ps := by
  induction hran with
  | nil l => exact trivial
  | @last l i is p hp herr =>
    refine ⟨hfirst i rfl, ?_⟩
    cases is with
    | nil => exact trivial
    | cons next is => exact trivial
  | @cons l i is p ps hp hok hrest ih =>
    refine ⟨hfirst i rfl, ?_⟩
    cases is with
    | nil => exact ih trivial nofun
    | cons next is =>
      refine ih hprompt.2 ?_
      rintro _ ⟨rfl⟩ q w hw
      exact hp.late hprompt.1 hw

/-- **Nothing is retransmitted late.**  In every run of a prompt thread, whatever it receives, no
    pass finds a frame of ours overdue by more than a millisecond and twice the slack; as each pass
    services both channels first, a frame is repeated or given up no later than that. -/
theorem retransmissions_on_time {is : List ListenerInput} {ps : List ListenerPass}
    (hrun : run peer .new is = .ok ps) (hprompt : PromptRun slack peer .new is ps) :
    OnTime (1000000 + 2 * slack) .new is ps := by
  obtain ⟨ps', hrun', hran⟩ := run_returns peer is .new
  cases hrun.symm.trans hrun'
  refine hran.onTime hprompt ?_
  intro i _ q w hw
  cases q with
  | true => cases hw
  | false => cases hw

/-- The thread hears the alarm of a device, and is back at its head a millisecond later. -/
theorem retransmissions_on_time_bench :
    ∃ ps, run AlarmNet.benchPeer .new
        [⟨0, .ok (some AlarmNet.benchFrame.frame), 1000000⟩, ⟨2000000, .ok none, 0⟩] = .ok ps ∧
      OnTime 3000000 .new
        [⟨0, .ok (some AlarmNet.benchFrame.frame), 1000000⟩, ⟨2000000, .ok none, 0⟩] ps := by
  obtain ⟨ps, hrun, hran⟩ := run_returns AlarmNet.benchPeer
    [⟨0, .ok (some AlarmNet.benchFrame.frame), 1000000⟩, ⟨2000000, .ok none, 0⟩] .new
  refine ⟨ps, hrun, @retransmissions_on_time _ 1000000 _ _ hrun ?_⟩
  have hfloor (l : AlarmListener) : 1000000 ≤ l.wait 0 := Nat.le_max_right _ _
  have hwait := hfloor (AlarmListener.new.service AlarmNet.benchPeer 0).1
  cases hran with
  | last _ herr => cases herr
  | cons _ _ hrest =>
    refine ⟨⟨fun _ => ?_, fun _ => ?_, fun _ => ?_⟩, ?_⟩
    · show 2000000 ≤ 0 + (AlarmListener.new.service AlarmNet.benchPeer 0).1.wait 0 + 1000000
      omega
    · exact Nat.le_add_left _ _
    · show 2000000 ≤ 1000000 + 1000000
      omega
    · cases hrest with
      | last _ _ => exact trivial
      | cons _ _ _ => exact trivial

end AlarmListener

end Profinet.Rta
