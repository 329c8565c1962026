/-
  PULSE SHAPE: what the pulses make of each bit of the byte.

  A shaper belongs to a mask, and knows nothing of the masks that share a bit with its own.  The
  bit is set while any of them is active:

      0x03      _|‾‾‾‾‾‾‾‾‾|_____          ticks 0, 1, 2
      0x01      ____|‾‾‾‾‾‾‾‾‾|__          ticks 1, 2, 3
      bit 0     _|‾‾‾‾‾‾‾‾‾‾‾‾|__          ticks 0 to 3

  So the bit has the shape of a pulse exactly as long as no pulse starts while a shaper of another
  mask with that bit is on its way, unless both start in the same tick.
-/
import Profinet.Control
import Profinet.Lib.History
import Profinet.Lib.Train

namespace Profinet

open Mask History Train

/-! ## A shaper from tick to tick

  A shaper counts down its pulse, then its cooldown.  `left` is how many ticks that takes in
  all. -/

namespace EdgePulse

/-- A pulse is still driven after fewer ticks than remain of it. -/
theorem tick_active_iff {p : EdgePulse} {n : Nat} :
    (p.tick n).active = true ↔ n < p.remaining := by
  constructor
  · intro h
    induction n generalizing p with
    | zero => exact of_decide_eq_true h
    | succ n ih =>
      unfold tick at h
      split at h
      · split at h
        · have hlt := ih h
          simp only at hlt
          omega
        · have hlt := ih h
          simp only at hlt
          omega
      · rename_i hover
        exfalso
        split at h
        · have hlt := ih h
          simp only at hlt
          omega
        · exact hover (by simpa [active] using h)
  · exact tick_active

/-- What a shaper can be: active, with nothing cooling down yet, or cooling down, or idle. -/
structure Sound (p : EdgePulse) : Prop where
  remaining : p.remaining ≤ pulseTicks
  cooldown : p.cooldown ≤ pulseCooldownTicks
  apart : 0 < p.remaining → p.cooldown = 0

/-- The ticks until the shaper is idle. -/
def left (p : EdgePulse) : Nat :=
  if 0 < p.remaining then p.remaining + pulseCooldownTicks else p.cooldown

/-- An idle shaper counts nothing. -/
theorem idle_sound : idle.Sound := ⟨Nat.zero_le _, Nat.zero_le _, fun _ => rfl⟩

/-- A pulse just started counts its ticks only. -/
theorem started_sound : (⟨pulseTicks, 0⟩ : EdgePulse).Sound :=
  ⟨Nat.le_refl _, Nat.zero_le _, fun _ => rfl⟩

/-- A sound shaper is idle again after the pulse and the cooldown. -/
theorem Sound.left_le {p : EdgePulse} (h : p.Sound) :
    p.left ≤ pulseTicks + pulseCooldownTicks := by
  have hr := h.remaining
  have hc := h.cooldown
  unfold left
  split
  · omega
  · omega

/-- Nothing left to count: idle. -/
theorem Sound.idle_iff {p : EdgePulse} (h : p.Sound) : p = idle ↔ p.left = 0 := by
  constructor
  · rintro rfl
    rfl
  · intro hleft
    unfold left at hleft
    split at hleft
    · unfold pulseCooldownTicks at hleft
      omega
    · obtain ⟨r, c⟩ := p
      simp only [Nat.not_lt, Nat.le_zero] at *
      subst r c
      rfl

/-- Everything left to count: just started. -/
theorem Sound.started_iff {p : EdgePulse} (h : p.Sound) :
    p = ⟨pulseTicks, 0⟩ ↔ p.left = pulseTicks + pulseCooldownTicks := by
  constructor
  · rintro rfl
    rfl
  · intro hleft
    have hr := h.remaining
    have hc := h.cooldown
    unfold left at hleft
    split at hleft
    · rename_i hactive
      have hcool := h.apart hactive
      obtain ⟨r, c⟩ := p
      simp only at *
      subst hcool
      congr 1
      omega
    · unfold pulseTicks at *
      omega

/-- One tick: the pulse, and behind it the cooldown, is counted down. -/
theorem tick_one (p : EdgePulse) :
    (0 < p.remaining ∧ p.tick 1 = ⟨p.remaining - 1,
        if p.remaining = 1 then pulseCooldownTicks else p.cooldown⟩) ∨
      (p.remaining = 0 ∧ p.tick 1 = ⟨0, p.cooldown - 1⟩) := by
  obtain ⟨r, c⟩ := p
  by_cases hr : 0 < r
  · refine .inl ⟨hr, ?_⟩
    by_cases hone : r = 1
    · subst hone
      simp [tick]
    · simp [tick, hr, hone]
  · obtain rfl : r = 0 := by omega
    refine .inr ⟨rfl, ?_⟩
    by_cases hc : 0 < c
    · simp [tick, hc]
    · obtain rfl : c = 0 := by omega
      simp [tick]

/-- One tick takes one off the pulse. -/
theorem remaining_tick_one (p : EdgePulse) : (p.tick 1).remaining = p.remaining - 1 := by
  rcases p.tick_one with ⟨-, heq⟩ | ⟨hzero, heq⟩
  · rw [heq]
  · rw [heq, hzero]

/-- A tick keeps a shaper sound. -/
theorem Sound.tick_one {p : EdgePulse} (h : p.Sound) : (p.tick 1).Sound := by
  have hr := h.remaining
  have hc := h.cooldown
  have hapart := h.apart
  rcases p.tick_one with ⟨hactive, heq⟩ | ⟨hzero, heq⟩
  · rw [heq]
    refine ⟨by simp only; omega, ?_, ?_⟩
    · simp only
      split
      · exact Nat.le_refl _
      · exact hc
    · intro hmore
      simp only at hmore ⊢
      rw [if_neg (by omega)]
      exact hapart hactive
  · rw [heq]
    exact ⟨Nat.zero_le _, Nat.le_trans (Nat.sub_le _ _) hc, fun hmore => by cases hmore⟩

/-- A tick takes one off what is left. -/
theorem Sound.left_tick_one {p : EdgePulse} (h : p.Sound) : (p.tick 1).left = p.left - 1 := by
  have hapart := h.apart
  rcases p.tick_one with ⟨hactive, heq⟩ | ⟨hzero, heq⟩
  · rw [heq]
    unfold left
    by_cases hone : p.remaining = 1
    · simp [hone]
    · rw [if_pos (by simp only; omega), if_pos hactive]
      simp only
      omega
  · rw [heq]
    unfold left
    simp [hzero]

end EdgePulse

/-! ## Calls and ticks

  Calls trigger and time ticks; a trigger that is refused changes nothing. -/

/-- One call on the control state. -/
inductive PulseOp where
  | trigger (mask : UInt8)
  | tick
  deriving DecidableEq, Repr

namespace ControlState

/-- A refused call changes nothing. -/
def pulseOp (s : ControlState) : PulseOp → ControlState
  | .trigger mask =>
    match s.triggerPulse mask with
    | .ok s' => s'
    | .error _ => s
  | .tick => s.tick 1

/-- Commands and ticks, one after the other. -/
def pulseOps (s : ControlState) (ops : List PulseOp) : ControlState := ops.foldl pulseOp s

/-- The byte of every tick, once all calls before it are made; behind the last call the ticks go
    on. -/
def wave (s : ControlState) : List PulseOp → Nat → UInt8
  | [], k => (s.tick k).effective
  | .trigger mask :: ops, k => (s.pulseOp (.trigger mask)).wave ops k
  | .tick :: _, 0 => s.effective
  | .tick :: ops, k + 1 => (s.tick 1).wave ops k

/-- The accepted pulses: the tick each starts in, and its mask. -/
def started (s : ControlState) : List PulseOp → List (Nat × UInt8)
  | [] => []
  | .trigger mask :: ops =>
    match s.triggerPulse mask with
    | .ok s' => (0, mask) :: s'.started ops
    | .error _ => s.started ops
  | .tick :: ops => ((s.tick 1).started ops).map fun x => (x.1 + 1, x.2)

/-- The trigger is refused, or every shaper whose mask shares a bit with it is idle or has started
    in this very tick. -/
def Undisturbed (s : ControlState) (mask : UInt8) : Prop :=
  s.shaper mask = none ∨ s.shaper mask = some .idle →
    ∀ e ∈ s.pulses, ¬ Clear e.1 mask → e.2 = .idle ∨ e.2 = ⟨pulseTicks, 0⟩

/-- The shapers after a trigger: those before it, with a started one in the place of the idle. -/
theorem forall_triggered {P : UInt8 × EdgePulse → Prop} {s s' : ControlState} {mask : UInt8}
    (htrig : s.triggerPulse mask = .ok s') (hidle : P (mask, .idle)) :
    (∀ e ∈ s'.pulses, P e) ↔ P (mask, ⟨pulseTicks, 0⟩) ∧ ∀ e ∈ s.pulses, P e := by
  have hlist : ∀ {l l' : List (UInt8 × EdgePulse)}, triggerIn mask l = .ok l' →
      ((∀ e ∈ l', P e) ↔ P (mask, ⟨pulseTicks, 0⟩) ∧ ∀ e ∈ l, P e) := by
    intro l
    induction l with
    | nil =>
      intro l' h
      rw [triggerIn, EdgePulse.trigger_idle] at h
      cases h
      simp
    | cons e rest ih =>
      obtain ⟨m, pulse⟩ := e
      intro l' h
      unfold triggerIn at h
      split at h
      · rename_i hm
        subst hm
        split at h
        · rename_i pulse' hpulse
          cases h
          obtain ⟨rfl, rfl⟩ := EdgePulse.trigger_ok hpulse
          rw [List.forall_mem_cons, List.forall_mem_cons]
          exact ⟨fun hall => ⟨hall.1, hidle, hall.2⟩, fun hall => ⟨hall.1, hall.2.2⟩⟩
        · cases h
      · split at h
        · rename_i rest' hrest
          cases h
          rw [List.forall_mem_cons, List.forall_mem_cons, ih hrest]
          exact and_left_comm
        · cases h
  unfold triggerPulse at htrig
  split at htrig
  · rename_i pulses hpulses
    cases htrig
    exact hlist hpulses
  · cases htrig

/-- An accepted trigger is its own step. -/
theorem pulseOp_ok {s s' : ControlState} {mask : UInt8} (h : s.triggerPulse mask = .ok s') :
    s.pulseOp (.trigger mask) = s' := by
  show (match s.triggerPulse mask with | .ok s' => s' | .error _ => s) = s'
  rw [h]

/-- A refused trigger changes nothing. -/
theorem pulseOp_error {s : ControlState} {mask : UInt8} {e : String}
    (h : s.triggerPulse mask = .error e) : s.pulseOp (.trigger mask) = s := by
  show (match s.triggerPulse mask with | .ok s' => s' | .error _ => s) = s
  rw [h]

/-- An accepted trigger starts a pulse now. -/
theorem started_ok {s s' : ControlState} {mask : UInt8} (h : s.triggerPulse mask = .ok s')
    (ops : List PulseOp) : s.started (.trigger mask :: ops) = (0, mask) :: s'.started ops := by
  rw [started, h]

/-- A refused trigger starts none. -/
theorem started_error {s : ControlState} {mask : UInt8} {e : String}
    (h : s.triggerPulse mask = .error e) (ops : List PulseOp) :
    s.started (.trigger mask :: ops) = s.started ops := by
  rw [started, h]

/-! ## The wave of a bit

  The effective byte at a time, bit by bit: a bit is set by the level or by an active shaper. -/

/-- A tick changes each shaper and none of the masks. -/
theorem forall_tick {P : UInt8 × EdgePulse → Prop} (s : ControlState) (n : Nat) :
    (∀ e ∈ (s.tick n).pulses, P e) ↔ ∀ e ∈ s.pulses, P (e.1, e.2.tick n) := by
  unfold tick
  rw [List.forall_mem_map]

/-- Which bits a tick sees clear: those of no level bit, of no shaper still active by then, and of
    no pulse started since. -/
theorem clear_wave {b : UInt8} :
    ∀ (ops : List PulseOp) (s : ControlState) (k : Nat),
      Clear (s.wave ops k) b ↔ Clear s.level b ∧
        (∀ e ∈ s.pulses, k < e.2.remaining → Clear e.1 b) ∧
        ∀ x ∈ s.started ops, x.1 ≤ k → k < x.1 + pulseTicks → Clear x.2 b := by
  intro ops
  induction ops with
  | nil =>
    intro s k
    show Clear (s.tick k).effective b ↔ _
    rw [clear_effective, forall_tick]
    simp only [EdgePulse.tick_active_iff]
    simp [started, tick]
  | cons op ops ih =>
    intro s k
    cases op with
    | trigger mask =>
      show Clear ((s.pulseOp (.trigger mask)).wave ops k) b ↔ _
      rw [ih]
      cases htrig : s.triggerPulse mask with
      | error e => rw [pulseOp_error htrig, started_error htrig]
      | ok s' =>
        -- the shaper it starts is the pulse that starts in this tick
        have hstart : pulseTicks = (⟨pulseTicks, 0⟩ : EdgePulse).remaining := rfl
        rw [pulseOp_ok htrig, started_ok htrig, (triggerPulse_ok htrig).1,
          forall_triggered (P := fun e => k < e.2.remaining → Clear e.1 b) htrig
            (fun h => absurd h (Nat.not_lt_zero k)),
          List.forall_mem_cons]
        simp only [Nat.zero_le, true_imp_iff, Nat.zero_add]
        constructor
        · rintro ⟨hlevel, ⟨hmask, hpulses⟩, hlater⟩
          exact ⟨hlevel, hpulses, hmask, hlater⟩
        · rintro ⟨hlevel, hpulses, hmask, hlater⟩
          exact ⟨hlevel, ⟨hmask, hpulses⟩, hlater⟩
    | tick =>
      rw [started, List.forall_mem_map]
      cases k with
      | zero =>
        show Clear s.effective b ↔ _
        rw [clear_effective]
        simp [EdgePulse.active]
      | succ k =>
        show Clear ((s.tick 1).wave ops k) b ↔ _
        rw [ih, forall_tick]
        simp only [EdgePulse.remaining_tick_one]
        have hlevel : (s.tick 1).level = s.level := rfl
        rw [hlevel]
        refine and_congr_right fun _ => and_congr ?_ ?_
        · refine forall₂_congr ?_
          intro e _
          rw [show k < e.2.remaining - 1 ↔ k + 1 < e.2.remaining by omega]
        · refine forall₂_congr ?_
          intro x _
          rw [show x.1 ≤ k ↔ x.1 + 1 ≤ k + 1 by omega,
            show k < x.1 + pulseTicks ↔ k + 1 < x.1 + 1 + pulseTicks by omega]

/-- When the accepted pulses on a bit start. -/
def startsOn (s : ControlState) (ops : List PulseOp) (b : UInt8) (t : Nat) : Prop :=
  ∃ mask, (t, mask) ∈ s.started ops ∧ ¬ Clear mask b

/-- The wave of a bit is a train of pulses. -/
theorem wave_signal (ops : List PulseOp) (b : UInt8) :
    (fun k => ¬ Clear (default.wave ops k) b) = signal (default.startsOn ops b) pulseTicks := by
  funext k
  apply propext
  rw [clear_wave]
  constructor
  · intro h
    by_contra hnone
    apply h
    refine ⟨zero_clear b, fun e he => (by cases he), fun x hx hle hlt => ?_⟩
    by_contra hset
    exact hnone ⟨x.1, ⟨x.2, hx, hset⟩, hle, hlt⟩
  · rintro ⟨t, ⟨mask, hx, hset⟩, hle, hlt⟩ ⟨-, -, hall⟩
    exact hset (hall _ hx hle hlt)

/-! ## Which calls disturb a pulse

  A call disturbs a pulse if it shares a bit with it and comes while the pulse is on its way. -/

/-- Overlapping pulses start in the same tick, or leave each other the time of a pulse. -/
def Apart (l : List (Nat × UInt8)) : Prop :=
  ∀ x ∈ l, ∀ y ∈ l, ¬ Clear x.2 y.2 → x.1 < y.1 → x.1 + (pulseTicks + pulseCooldownTicks) ≤ y.1

/-- A shaper leaves room for a pulse that starts `t` ticks on. -/
def Room (p : EdgePulse) (t : Nat) : Prop :=
  p.left ≤ t ∨ (p.left = pulseTicks + pulseCooldownTicks ∧ t = 0)

/-- Every shaper of the state is sound. -/
def Sound (s : ControlState) : Prop := ∀ e ∈ s.pulses, e.2.Sound

/-- A tick keeps the shapers sound. -/
theorem Sound.tick_one {s : ControlState} (h : s.Sound) : (s.tick 1).Sound :=
  (forall_tick (P := fun e => e.2.Sound) s 1).mpr fun e he => (h e he).tick_one

/-- An accepted trigger keeps the shapers sound. -/
theorem Sound.triggered {s s' : ControlState} {mask : UInt8} (h : s.Sound)
    (htrig : s.triggerPulse mask = .ok s') : s'.Sound :=
  (forall_triggered (P := fun e => e.2.Sound) htrig EdgePulse.idle_sound).mpr
    ⟨EdgePulse.started_sound, h⟩

/-- What one trigger is required to find, said of its own tick. -/
theorem undisturbed_iff {s s' : ControlState} {mask : UInt8} (h : s.Sound)
    (htrig : s.triggerPulse mask = .ok s') :
    s.Undisturbed mask ↔ ∀ e ∈ s.pulses, ¬ Clear e.1 mask → Room e.2 0 := by
  have hfree : s.shaper mask = none ∨ s.shaper mask = some .idle := (triggerPulse_ok htrig).2.free
  unfold Undisturbed
  simp only [hfree, true_imp_iff]
  refine forall₂_congr fun e he => imp_congr_right fun _ => ?_
  rw [(h e he).idle_iff, (h e he).started_iff]
  unfold Room
  simp

/-- A refused trigger finds its own shaper on its way. -/
theorem undisturbed_error {s : ControlState} {mask : UInt8} {e : String}
    (htrig : s.triggerPulse mask = .error e) : s.Undisturbed mask := by
  intro hfree
  exfalso
  obtain ⟨s', hs'⟩ := triggerPulse_free hfree
  rw [hs'] at htrig
  cases htrig

/-- No call of the sequence disturbs a pulse. -/
def Clean (s : ControlState) (ops : List PulseOp) : Prop :=
  ∀ before mask after, ops = before ++ .trigger mask :: after →
    (s.pulseOps before).Undisturbed mask

/-- A clean run begins with an undisturbed trigger, or with a tick. -/
theorem clean_cons {s : ControlState} {op : PulseOp} {ops : List PulseOp} :
    s.Clean (op :: ops) ↔
      (∀ mask, op = .trigger mask → s.Undisturbed mask) ∧ (s.pulseOp op).Clean ops := by
  have hsplits : ∀ (s : ControlState) (ops : List PulseOp), s.Clean ops ↔
      ∀ before op after, ops = before ++ op :: after → ∀ mask, op = .trigger mask →
        (s.pulseOps before).Undisturbed mask := by
    intro s ops
    constructor
    · rintro h before op after heq mask rfl
      exact h before mask after heq
    · intro h before mask after heq
      exact h before _ after heq mask rfl
  rw [hsplits, hsplits, forall_split_cons]
  exact Iff.rfl

/-- The first start is apart from the others where each later one on its bits leaves it room. -/
theorem apart_cons {mask : UInt8} {l : List (Nat × UInt8)} :
    Apart ((0, mask) :: l) ↔
      (∀ x ∈ l, ¬ Clear mask x.2 → Room ⟨pulseTicks, 0⟩ x.1) ∧ Apart l := by
  have hroom : ∀ t, Room ⟨pulseTicks, 0⟩ t ↔ (0 < t → 0 + (pulseTicks + pulseCooldownTicks) ≤ t) := by
    intro t
    show 3 + 3 ≤ t ∨ (3 + 3 = 3 + 3 ∧ t = 0) ↔ (0 < t → 0 + (3 + 3) ≤ t)
    omega
  simp only [hroom]
  constructor
  · intro h
    exact ⟨fun x hx => h _ List.mem_cons_self x (List.mem_cons_of_mem _ hx),
      fun x hx y hy => h x (List.mem_cons_of_mem _ hx) y (List.mem_cons_of_mem _ hy)⟩
  · rintro ⟨hhead, htail⟩ x hx y hy hover hlt
    rcases List.mem_cons.mp hy with rfl | hy
    · exact absurd hlt (Nat.not_lt_zero _)
    · rcases List.mem_cons.mp hx with rfl | hx
      · exact hhead y hy hover hlt
      · exact htail x hx y hy hover hlt

/-- Being apart is about distances: a common delay does not matter. -/
theorem apart_shift {l : List (Nat × UInt8)} :
    Apart (l.map fun x => (x.1 + 1, x.2)) ↔ Apart l := by
  unfold Apart
  simp only [List.forall_mem_map]
  refine forall₂_congr fun x _ => forall₂_congr fun y _ => imp_congr_right fun _ => ?_
  rw [Nat.add_lt_add_iff_right, Nat.add_right_comm, Nat.add_le_add_iff_right]

/-- The room after a tick is the room a tick later. -/
theorem room_tick {p : EdgePulse} (h : p.Sound) (t : Nat) :
    Room (p.tick 1) t ↔ Room p (t + 1) := by
  have hle := h.left_le
  unfold Room
  rw [h.left_tick_one]
  unfold pulseTicks pulseCooldownTicks at *
  omega

/-- A sequence of calls disturbs no pulse exactly when the pulses it starts keep apart from those on
    their way, and from each other. -/
theorem clean_iff :
    ∀ (ops : List PulseOp) (s : ControlState), s.Sound →
      (s.Clean ops ↔
        (∀ e ∈ s.pulses, ∀ x ∈ s.started ops, ¬ Clear e.1 x.2 → Room e.2 x.1) ∧
          Apart (s.started ops)) := by
  intro ops
  induction ops with
  | nil =>
    intro s _
    refine ⟨fun _ => ⟨fun _ _ x hx => (by cases hx), fun x hx => (by cases hx)⟩, fun _ => ?_⟩
    intro before mask after h
    cases before <;> cases h
  | cons op ops ih =>
    intro s hs
    rw [clean_cons]
    cases op with
    | tick =>
      -- everything to come is one tick nearer, and so is the end of every shaper
      show _ ∧ (s.tick 1).Clean ops ↔ _
      rw [ih _ hs.tick_one, forall_tick, started, apart_shift]
      simp only [List.forall_mem_map]
      constructor
      · rintro ⟨-, hold, hnew⟩
        exact ⟨fun e he x hx hover => (room_tick (hs e he) _).mp (hold e he x hx hover), hnew⟩
      · rintro ⟨hold, hnew⟩
        exact ⟨fun mask h => (by cases h),
          fun e he x hx hover => (room_tick (hs e he) _).mpr (hold e he x hx hover), hnew⟩
    | trigger mask =>
      have hhead : (∀ m, PulseOp.trigger mask = .trigger m → s.Undisturbed m) ↔
          s.Undisturbed mask := by
        constructor
        · intro h
          exact h mask rfl
        · rintro h m heq
          cases heq
          exact h
      rw [hhead]
      cases htrig : s.triggerPulse mask with
      | error e =>
        rw [pulseOp_error htrig, started_error htrig, ih s hs]
        exact and_iff_right (undisturbed_error htrig)
      | ok s' =>
        -- an idle shaper leaves room for everything, so it makes no difference that it is replaced
        have hidle : ∀ x ∈ s'.started ops, ¬ Clear mask x.2 → Room .idle x.1 :=
          fun x _ _ => .inl (Nat.zero_le _)
        rw [undisturbed_iff hs htrig, pulseOp_ok htrig, started_ok htrig, ih s' (hs.triggered htrig),
          forall_triggered
            (P := fun e => ∀ x ∈ s'.started ops, ¬ Clear e.1 x.2 → Room e.2 x.1) htrig hidle,
          apart_cons]
        simp only [List.forall_mem_cons]
        constructor
        · rintro ⟨hnow, ⟨hmine, hothers⟩, hnew⟩
          exact ⟨fun e he => ⟨hnow e he, hothers e he⟩, hmine, hnew⟩
        · rintro ⟨hold, hmine, hnew⟩
          exact ⟨fun e he => (hold e he).1, ⟨hmine, fun e he => (hold e he).2⟩, hnew⟩

/-- Pulses keep apart exactly when those on each bit do. -/
theorem apart_iff (s : ControlState) (ops : List PulseOp) :
    Apart (s.started ops) ↔
      ∀ i, Separated (s.startsOn ops (bit i)) (pulseTicks + pulseCooldownTicks) := by
  constructor
  · rintro h i t t' ⟨mask, hx, hset⟩ ⟨mask', hy, hset'⟩ hlt
    exact h _ hx _ hy (overlap_iff.mpr ⟨i, hset, hset'⟩) hlt
  · intro h x hx y hy hover hlt
    obtain ⟨i, hset, hset'⟩ := overlap_iff.mp hover
    exact h i x.1 y.1 ⟨x.2, hx, hset⟩ ⟨y.2, hy, hset'⟩ hlt

end ControlState

open ControlState in
/-- **The shape of the pulses on a bit.**  Whatever pulses are asked for, and however the ticks fall
    between them: every bit is set for `pulseTicks` ticks at a time, with `pulseCooldownTicks` clear
    ones in between, exactly when no pulse starts while the shaper of an overlapping mask is on its
    way, but for one started in the same tick. -/
theorem pulse_shape (ops : List PulseOp) :
    (∀ i, Shaped (fun k => ¬ Clear (ControlState.default.wave ops k) (bit i)) pulseTicks
        pulseCooldownTicks) ↔
      ControlState.default.Clean ops := by
  have hclean := clean_iff ops .default fun e he => (by cases he)
  have hshape : ∀ T, Shaped (signal T pulseTicks) pulseTicks pulseCooldownTicks ↔
      Separated T (pulseTicks + pulseCooldownTicks) := fun T => shaped_iff (by decide) (by decide)
  rw [hclean, apart_iff]
  simp only [wave_signal, hshape]
  exact (and_iff_right fun e he => (by cases he)).symm

/-- A pulse on bits 0 and 1, and in the next tick one on bit 0: the bit is set for four ticks. -/
theorem pulses_overlap :
    ¬ ∀ i, Shaped (fun k => ¬ Clear (ControlState.default.wave
        [.trigger 0x03, .tick, .trigger 0x01, .tick, .tick, .tick] k) (bit i)) pulseTicks
        pulseCooldownTicks := by
  intro h
  have hrun : Run (fun k => ¬ Clear (ControlState.default.wave
      [.trigger 0x03, .tick, .trigger 0x01, .tick, .tick, .tick] k) (bit 0)) 0 4 := by
    refine ⟨by decide, fun k _ hk => ?_, fun k hk => (by cases hk), by decide⟩
    revert k
    decide
  have hfour := (h 0).width 0 4 hrun
  revert hfour
  decide

end Profinet
