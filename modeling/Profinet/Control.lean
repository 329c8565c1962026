/-
  CONTROL: the commands that drive the output control byte.

  Held level bits plus shaped edge pulses make the byte; `--allow-mask` bounds what a command may
  touch.  A pulse holds its mask for `pulseTicks` output cycles and then keeps its shaper from
  pulsing again for `pulseCooldownTicks`:

      (0, 0)  --trigger-->  (3, 0)  --tick-->  (2, 0)  (1, 0)  (0, 3)  (0, 2)  (0, 1)  (0, 0)

  Time reaches the shapers as a number of elapsed cycle periods, any number at once.
-/
import Profinet.Lib.Mask
import Profinet.Errors
import Profinet.ProcessImage

namespace Profinet

open Mask Errors

/-- For how many ticks a pulse is driven. -/
def pulseTicks : Nat := 3
/-- For how many ticks the bit must stay clear before it may pulse again. -/
def pulseCooldownTicks : Nat := 3

/-! ## The shaper of one mask

  A shaper is idle, driving or cooling down.  Only an idle one takes a trigger (`trigger_ok`), and
  ticks count the pulse down first and then the cooldown. -/

/-- Pulse shaper for one edge bit. -/
structure EdgePulse where
  remaining : Nat
  cooldown : Nat
  deriving DecidableEq, Repr

namespace EdgePulse

/-- `EdgePulse::default`: nothing in flight, nothing cooling down. -/
def idle : EdgePulse := ⟨0, 0⟩

/-- Queue a pulse; refused while one is active or cooling down. -/
def trigger (p : EdgePulse) : Except String EdgePulse :=
  if 0 < p.remaining then .error "pulse already active"
  else if 0 < p.cooldown then .error "pulse cooling down"
  else .ok { p with remaining := pulseTicks }

/-- Is the bit driven? -/
def active (p : EdgePulse) : Bool := 0 < p.remaining

/-- Advance by `periods` output cycles. -/
def tick (p : EdgePulse) : Nat → EdgePulse
  | 0 => p
  | n + 1 =>
    if 0 < p.remaining then
      if p.remaining = 1 then tick ⟨0, pulseCooldownTicks⟩ n
      else tick { p with remaining := p.remaining - 1 } n
    else if 0 < p.cooldown then tick { p with cooldown := p.cooldown - 1 } n
    else p

/-- A trigger is accepted by an idle shaper only. -/
theorem trigger_ok {p q : EdgePulse} (h : p.trigger = .ok q) : p = idle ∧ q = ⟨pulseTicks, 0⟩ := by
  unfold trigger at h
  split at h
  · cases h
  · split at h
    · cases h
    · obtain ⟨r, c⟩ := p
      simp only [Nat.not_lt, Nat.le_zero] at *
      subst r c
      cases h
      exact ⟨rfl, rfl⟩

/-- An idle shaper may be triggered. -/
theorem trigger_idle : idle.trigger = .ok ⟨pulseTicks, 0⟩ := rfl

/-- An idle shaper drives nothing. -/
@[simp] theorem idle_active : idle.active = false := rfl

/-- A pulse just started is driven. -/
@[simp] theorem started_active : (⟨pulseTicks, 0⟩ : EdgePulse).active = true := rfl

/-- Ticks never start a pulse. -/
theorem tick_inactive {p : EdgePulse} (h : p.active = false) (n : Nat) :
    (p.tick n).active = false := by
  induction n generalizing p with
  | zero => exact h
  | succ n ih =>
    have hr : ¬ 0 < p.remaining := by simpa [active] using h
    unfold tick
    rw [if_neg hr]
    split
    · exact ih (by simpa [active] using h)
    · exact h

/-- An active pulse ticked by fewer periods than it has left stays active. -/
theorem tick_active {p : EdgePulse} {n : Nat} (h : n < p.remaining) : (p.tick n).active = true := by
  induction n generalizing p with
  | zero => exact decide_eq_true h
  | succ n ih =>
    unfold tick
    rw [if_pos (by omega), if_neg (by omega)]
    exact ih (by simp only; omega)

end EdgePulse

/-! ## The driven byte

  The byte is the level bits and the masks of all shapers that drive.  `Quiet` says of a mask that
  no pulse of it is in flight. -/

/-- The driven output byte model: held level bits plus shaped edge pulses. -/
structure ControlState where
  level : UInt8
  /-- One shaper per mask that has ever been pulsed. -/
  pulses : List (UInt8 × EdgePulse)
  deriving DecidableEq, Repr

namespace ControlState

/-- `ControlState::default`: the all-zero image. -/
def default : ControlState := ⟨0, []⟩

/-- The masks of the pulses in flight. -/
def activeMasks (s : ControlState) : List UInt8 := (s.pulses.filter (·.2.active)).map (·.1)

/-- The byte to drive this cycle: the level bits OR every active pulse. -/
def effective (s : ControlState) : UInt8 := union s.level s.activeMasks

/-- The shaper list after a trigger of `mask`: its own shaper if there is one, a new one else. -/
def triggerIn (mask : UInt8) : List (UInt8 × EdgePulse) → Except String (List (UInt8 × EdgePulse))
  | [] =>
    match EdgePulse.idle.trigger with
    | .ok pulse => .ok [(mask, pulse)]
    | .error e => .error e
  | (m, pulse) :: rest =>
    if m = mask then
      match pulse.trigger with
      | .ok pulse' => .ok ((m, pulse') :: rest)
      | .error e => .error e
    else
      match triggerIn mask rest with
      | .ok rest' => .ok ((m, pulse) :: rest')
      | .error e => .error e

/-- Queue a shaped pulse on `mask`, reusing that mask's shaper. -/
def triggerPulse (s : ControlState) (mask : UInt8) : Except String ControlState :=
  match triggerIn mask s.pulses with
  | .ok pulses => .ok { s with pulses }
  | .error e => .error e

/-- Advance every pulse shaper by `periods` output cycles. -/
def tick (s : ControlState) (periods : Nat) : ControlState :=
  { s with pulses := s.pulses.map fun (m, pulse) => (m, pulse.tick periods) }

/-- The shaper of a mask, if the mask has ever been pulsed. -/
def shaper (s : ControlState) (mask : UInt8) : Option EdgePulse := s.pulses.lookup mask

/-- Bits are clear where neither the level nor a driven pulse has them. -/
theorem clear_effective {s : ControlState} {m : UInt8} :
    Clear s.effective m ↔
      Clear s.level m ∧ ∀ e ∈ s.pulses, e.2.active = true → Clear e.1 m := by
  unfold effective activeMasks
  rw [clear_union]
  simp

/-- The driven byte shows every pulse in flight. -/
theorem covers_effective {s : ControlState} {m : UInt8} {p : EdgePulse} (hp : (m, p) ∈ s.pulses)
    (hactive : p.active = true) : Covers s.effective m := by
  apply covers_union
  exact List.mem_map.mpr ⟨(m, p), List.mem_filter.mpr ⟨hp, hactive⟩, rfl⟩

/-- No pulse on `m` is in flight. -/
def Quiet (s : ControlState) (m : UInt8) : Prop := ∀ p, (m, p) ∈ s.pulses → p.active = false

/-- A byte that does not show a mask is driven while no pulse on it is in flight. -/
theorem quiet_of_clear {s : ControlState} {m : UInt8} (hm : m ≠ 0) (h : Clear s.effective m) :
    s.Quiet m := by
  intro p hp
  cases hactive : p.active with
  | false => rfl
  | true => exact absurd h ((covers_effective hp hactive).not_clear hm)

/-- A tick keeps bits quiet. -/
theorem Quiet.tick {s : ControlState} {m : UInt8} (h : s.Quiet m) (n : Nat) :
    (s.tick n).Quiet m := by
  intro p hp
  obtain ⟨e, he, heq⟩ := List.mem_map.mp hp
  cases heq
  exact EdgePulse.tick_inactive (h _ he) n

/-- A shaper that is found is one of the list. -/
theorem mem_of_shaper {s : ControlState} {m : UInt8} {p : EdgePulse} (h : s.shaper m = some p) :
    (m, p) ∈ s.pulses := by
  unfold shaper at h
  generalize s.pulses = l at h
  induction l with
  | nil => cases h
  | cons e rest ih =>
    obtain ⟨k, q⟩ := e
    rw [List.lookup_cons] at h
    by_cases hk : m = k
    · subst hk
      rw [BEq.rfl] at h
      cases h
      exact .head _
    · rw [beq_eq_false_iff_ne.mpr hk] at h
      exact .tail _ (ih h)

/-- What a trigger does to a shaper list: the mask had no shaper or an idle one, it has a started
    one now, and no other entry changed. -/
structure Triggered (mask : UInt8) (l l' : List (UInt8 × EdgePulse)) : Prop where
  free : l.lookup mask = none ∨ l.lookup mask = some .idle
  started : l'.lookup mask = some ⟨pulseTicks, 0⟩
  others : ∀ m, m ≠ mask → l'.lookup m = l.lookup m
  old : ∀ e ∈ l', e ∈ l ∨ e = (mask, ⟨pulseTicks, 0⟩)

/-- What a trigger that succeeds does to the shapers. -/
theorem triggerIn_ok {mask : UInt8} {l l' : List (UInt8 × EdgePulse)}
    (h : triggerIn mask l = .ok l') : Triggered mask l l' := by
  -- on the shapers: the first of the mask is triggered, and a new one is added where there is
  -- none
  induction l generalizing l' with
  | nil =>
    rw [triggerIn, EdgePulse.trigger_idle] at h
    cases h
    refine ⟨.inl rfl, by simp, fun m hm => ?_, by simp⟩
    rw [List.lookup_cons, beq_eq_false_iff_ne.mpr hm]
  | cons e rest ih =>
    obtain ⟨m, pulse⟩ := e
    unfold triggerIn at h
    split at h
    · rename_i hm
      subst hm
      split at h
      · rename_i pulse' hpulse
        cases h
        obtain ⟨rfl, rfl⟩ := EdgePulse.trigger_ok hpulse
        refine ⟨.inr (by simp), by simp, fun k hk => ?_, ?_⟩
        · simp [List.lookup_cons, beq_eq_false_iff_ne.mpr hk]
        · intro e he
          rcases List.mem_cons.mp he with rfl | hrest
          · exact .inr rfl
          · exact .inl (.tail _ hrest)
      · cases h
    · rename_i hm
      split at h
      · rename_i rest' hrest
        cases h
        have htail := ih hrest
        have hne : (mask == m) = false := beq_eq_false_iff_ne.mpr fun heq => hm heq.symm
        refine ⟨?_, ?_, fun k hk => ?_, ?_⟩
        · simpa [List.lookup_cons, hne] using htail.free
        · simpa [List.lookup_cons, hne] using htail.started
        · rw [List.lookup_cons, List.lookup_cons, htail.others k hk]
        · intro e he
          rcases List.mem_cons.mp he with rfl | hmem
          · exact .inl (.head _)
          · rcases htail.old e hmem with hold | hnew
            · exact .inl (.tail _ hold)
            · exact .inr hnew
      · cases h

/-- A trigger that succeeds touches the shapers only. -/
theorem triggerPulse_ok {s s' : ControlState} {mask : UInt8} (h : s.triggerPulse mask = .ok s') :
    s'.level = s.level ∧ Triggered mask s.pulses s'.pulses := by
  unfold triggerPulse at h
  split at h
  · rename_i pulses hpulses
    cases h
    exact ⟨rfl, triggerIn_ok hpulses⟩
  · cases h

/-- A mask with no shaper, or an idle one, can be pulsed. -/
theorem triggerPulse_free {s : ControlState} {mask : UInt8}
    (h : s.shaper mask = none ∨ s.shaper mask = some .idle) : ∃ s', s.triggerPulse mask = .ok s' := by
  have found : ∀ {l : List (UInt8 × EdgePulse)}, l.lookup mask = none ∨ l.lookup mask = some .idle →
      ∃ l', triggerIn mask l = .ok l' := by
    intro l
    induction l with
    | nil => exact fun _ => ⟨_, rfl⟩
    | cons e rest ih =>
      obtain ⟨m, pulse⟩ := e
      intro h
      unfold triggerIn
      by_cases hm : m = mask
      · subst hm
        rw [List.lookup_cons, BEq.rfl] at h
        rcases h with hnone | hidle
        · cases hnone
        · cases hidle
          rw [if_pos rfl, EdgePulse.trigger_idle]
          exact ⟨_, rfl⟩
      · have hne : (mask == m) = false := beq_eq_false_iff_ne.mpr fun heq => hm heq.symm
        rw [List.lookup_cons, hne] at h
        obtain ⟨rest', hrest⟩ := ih h
        rw [if_neg hm, hrest]
        exact ⟨_, rfl⟩
  -- an idle shaper, or none, can always be triggered
  obtain ⟨l', hl'⟩ := found h
  unfold triggerPulse
  rw [hl']
  exact ⟨_, rfl⟩

/-- No ticks, no change. -/
@[simp] theorem tick_zero (s : ControlState) : s.tick 0 = s := by
  simp [tick, EdgePulse.tick]

/-- The shaper of a mask after some ticks. -/
theorem shaper_tick (s : ControlState) (n : Nat) (m : UInt8) :
    (s.tick n).shaper m = (s.shaper m).map (·.tick n) := by
  unfold shaper tick
  generalize s.pulses = l
  induction l with
  | nil => rfl
  | cons e rest ih =>
    obtain ⟨k, q⟩ := e
    simp only [List.map_cons, List.lookup_cons]
    split
    · rfl
    · exact ih

end ControlState

/-! ## The commands

  Every command is checked against the allow mask before it changes anything, with the message of
  the source. -/

/-- A command from the application. -/
inductive ControlCmd where
  | setLevel (mask : UInt8) (on : Bool)
  | pulse (mask : UInt8)
  | keepalive
  | quit
  deriving DecidableEq, Repr

/-- The line a command is answered with. -/
inductive ControlReply where
  | ackSetLevel (mask : UInt8) (on : Bool) (level : UInt8)
  | ackPulse (mask : UInt8) (pulseTicks : Nat)
  | ackKeepalive
  | refusedCmd (cmd : String) (mask : UInt8) (reason : String)
  | refusedNeedsCyclic
  deriving DecidableEq, Repr

/-- The mask a command touches (`requested`). -/
def ControlCmd.requested : ControlCmd → Option UInt8
  | .setLevel mask _ | .pulse mask => some mask
  | .keepalive | .quit => none

/-- The command's name in replies; all but `pulse` share one. -/
def ControlCmd.name : ControlCmd → String
  | .pulse _ => "pulse"
  | _ => "set_level"

/-- A byte in lower-case hexadecimal, two digits: `02x` in a format string. -/
def hexLower (b : UInt8) : String := (hex 2 b.toNat).map Char.toLower

/-- The text of the refusal. -/
def outsideAllowMask (allowMask : UInt8) : String :=
  "mask has bits outside --allow-mask (0x" ++ hexLower allowMask ++ ")"

/-- The command asks for a bit the session may not drive. -/
def ControlCmd.outside (cmd : ControlCmd) (allowMask : UInt8) : Option UInt8 :=
  cmd.requested.filter fun mask => mask &&& ~~~allowMask ≠ 0

/-- What a command leaves: the state, the line it emits, and whether it was `quit`. -/
structure Applied where
  state : ControlState
  reply : Option ControlReply
  quit : Bool
  deriving DecidableEq, Repr

/-- Apply one parsed command to the control state. -/
def applyControlCmd (cmd : ControlCmd) (s : ControlState) (allowMask : UInt8) : Applied :=
  match cmd.outside allowMask with
  | some mask => ⟨s, some (.refusedCmd cmd.name mask (outsideAllowMask allowMask)), false⟩
  | none =>
    match cmd with
    | .setLevel mask on =>
      let level := if on then s.level ||| mask else s.level &&& ~~~mask
      ⟨{ s with level }, some (.ackSetLevel mask on level), false⟩
    | .pulse mask =>
      match s.triggerPulse mask with
      | .ok s' => ⟨s', some (.ackPulse mask pulseTicks), false⟩
      | .error r => ⟨s, some (.refusedCmd "pulse" mask r), false⟩
    | .keepalive => ⟨s, some .ackKeepalive, false⟩
    | .quit => ⟨s, none, true⟩

/-- An allowed pulse on a mask whose shaper is idle is acknowledged. -/
theorem applyControlCmd_pulse {s : ControlState} {mask allowMask : UInt8}
    (hin : Clear mask (~~~allowMask)) (hidle : s.shaper mask = some .idle) :
    (applyControlCmd (.pulse mask) s allowMask).reply = some (.ackPulse mask pulseTicks) ∧
      (applyControlCmd (.pulse mask) s allowMask).state.level = s.level := by
  obtain ⟨s', hs'⟩ := ControlState.triggerPulse_free (.inr hidle)
  have hinside : (ControlCmd.pulse mask).outside allowMask = none := by
    simpa [ControlCmd.outside, ControlCmd.requested, Option.filter, Clear] using hin
  unfold applyControlCmd
  rw [hinside]
  simp only [hs', true_and]
  exact (ControlState.triggerPulse_ok hs').1

/-- Everything a command can do: leave the state and acknowledge no pulse, set or clear allowed
    level bits, or trigger an allowed mask. -/
theorem applyControlCmd_cases (cmd : ControlCmd) (s : ControlState) (allowMask : UInt8) :
    (∃ reply quit, applyControlCmd cmd s allowMask = ⟨s, reply, quit⟩ ∧
        ∀ mask n, reply ≠ some (.ackPulse mask n)) ∨
      (∃ mask on, cmd = .setLevel mask on ∧ Clear mask (~~~allowMask) ∧
        let level := if on then s.level ||| mask else s.level &&& ~~~mask
        applyControlCmd cmd s allowMask =
          ⟨{ s with level }, some (.ackSetLevel mask on level), false⟩) ∨
      ∃ mask s', cmd = .pulse mask ∧ Clear mask (~~~allowMask) ∧ s.triggerPulse mask = .ok s' ∧
        applyControlCmd cmd s allowMask = ⟨s', some (.ackPulse mask pulseTicks), false⟩ := by
  unfold applyControlCmd
  -- what is outside the mask is refused before the command is looked at
  cases hout : cmd.outside allowMask with
  | some mask => exact .inl ⟨_, _, rfl, fun _ _ h => by cases h⟩
  | none =>
    cases cmd with
    | keepalive => exact .inl ⟨_, _, rfl, fun _ _ h => by cases h⟩
    | quit => exact .inl ⟨_, _, rfl, fun _ _ h => by cases h⟩
    | setLevel mask on =>
      have hin : Clear mask (~~~allowMask) := by
        simpa [ControlCmd.outside, ControlCmd.requested, Option.filter, Clear] using hout
      exact .inr (.inl ⟨mask, on, rfl, hin, rfl⟩)
    | pulse mask =>
      have hin : Clear mask (~~~allowMask) := by
        simpa [ControlCmd.outside, ControlCmd.requested, Option.filter, Clear] using hout
      cases htrig : s.triggerPulse mask with
      | error r =>
        refine .inl ⟨some (.refusedCmd "pulse" mask r), false, by simp only [htrig], ?_⟩
        intro _ _ h
        cases h
      | ok s' => exact .inr (.inr ⟨mask, s', rfl, hin, htrig, by simp only [htrig]⟩)

/-! ## Only allowed bits

  The invariant of the byte: each command and each tick keeps all bits within the mask. -/

namespace ControlState

/-- No bit outside the allow mask, neither in the level nor in any shaper. -/
structure Within (allowMask : UInt8) (s : ControlState) : Prop where
  level : Clear s.level (~~~allowMask)
  pulses : ∀ e ∈ s.pulses, Clear e.1 (~~~allowMask)

/-- The effective byte has only allowed bits. -/
theorem Within.effective {allowMask : UInt8} {s : ControlState} (h : s.Within allowMask) :
    Clear s.effective (~~~allowMask) :=
  clear_effective.mpr ⟨h.level, fun e he _ => h.pulses e he⟩

/-- Nothing driven is within any mask. -/
theorem default_within (allowMask : UInt8) : default.Within allowMask :=
  ⟨zero_clear _, fun e he => by cases he⟩

/-- A tick stays within the mask. -/
theorem Within.tick {allowMask : UInt8} {s : ControlState} (h : s.Within allowMask) (n : Nat) :
    (s.tick n).Within allowMask := by
  refine ⟨h.level, fun e he => ?_⟩
  obtain ⟨e', he', rfl⟩ := List.mem_map.mp he
  exact h.pulses e' he'

/-- A command stays within the mask: what is outside is refused. -/
theorem Within.apply {allowMask : UInt8} {s : ControlState} (h : s.Within allowMask)
    (cmd : ControlCmd) : (applyControlCmd cmd s allowMask).state.Within allowMask := by
  rcases applyControlCmd_cases cmd s allowMask with
    ⟨reply, quit, ha, -⟩ | ⟨mask, on, -, hmask, ha⟩ | ⟨mask, s', -, hmask, htrig, ha⟩
  · rw [ha]
    exact h
  · rw [ha]
    refine ⟨?_, h.pulses⟩
    cases on with
    | true => exact clear_or.mpr ⟨h.level, hmask⟩
    | false => exact h.level.and _
  · rw [ha]
    obtain ⟨hlevel, htriggered⟩ := triggerPulse_ok htrig
    refine ⟨hlevel ▸ h.level, fun e he => ?_⟩
    rcases htriggered.old e he with hold | rfl
    · exact h.pulses e hold
    · exact hmask

end ControlState

end Profinet
