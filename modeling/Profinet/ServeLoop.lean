/-
  SERVE LOOP: the loop of `cmd_serve` that drives the output byte.

  A pass takes one line of the caller or waits for one tick, writes the byte the control state
  asks for if it is not the driven one, and then hands the whole periods elapsed since the last
  such handing over to the pulse shapers:

      take a line  -->  write, sleep 2 * cycle + 25 ms, read back  -->  tick  -->  dead-man

  Every clock reading of a pass is the one before it and a delay; the delays are the pass's
  input, so that every choice of them is a clock that never goes back.  Times are nanoseconds.
-/
import Profinet.Control

namespace Profinet

open Mask

/-! ## The session -/

/-- `u16::is_power_of_two`. -/
def isPowerOfTwo (n : Nat) : Bool := (List.range 16).any fun i => n = 2 ^ i

/-- `validate_cycle_ms`: a power of two, from 1 to 512. -/
def validateCycleMs (cycleMs : UInt16) : Except String Unit :=
  if ¬ (1 ≤ cycleMs.toNat ∧ cycleMs.toNat ≤ 512) ∨ ¬ isPowerOfTwo cycleMs.toNat then
    .error ("cycle_ms must be a power of two in 1..=512 (RT_CLASS_1 reduction ratio), got "
      ++ toString cycleMs.toNat)
  else .ok ()

/-- What `--cyclic` arms. -/
structure ServeCyclic where
  allowMask : UInt8
  cycleMs : UInt16
  seconds : Nat
  /-- `start_cyclic_tier` refuses any other cycle. -/
  valid : validateCycleMs cycleMs = .ok ()

/-- What a serve session was started with. -/
structure ServeSession where
  readOnly : Bool
  cyclic : Option ServeCyclic

/-- Milliseconds in nanoseconds. -/
def millis (n : Nat) : Nat := n * 1000000

/-- Dead-man: a held level bit and this much silence end the session. -/
def controlDeadman : Nat := millis 5000

namespace ServeSession

/-- Read-only sessions and sessions without a cyclic tier may drive nothing. -/
def allowMask (cfg : ServeSession) : UInt8 :=
  match cfg.cyclic with
  | some c => if cfg.readOnly then 0 else c.allowMask
  | none => 0

/-- The cycle of the cyclic tier, 0 without one. -/
def cycleMs (cfg : ServeSession) : Nat := (cfg.cyclic.map (·.cycleMs.toNat)).getD 0

/-- How long the cyclic tier is to run, 0 without one. -/
def seconds (cfg : ServeSession) : Nat := (cfg.cyclic.map (·.seconds)).getD 0

/-- The output period, and how long a pass waits for a line. -/
def tick (cfg : ServeSession) : Nat :=
  match cfg.cycleMs with
  | 0 => millis 100
  | ms => millis ms

/-- How long a pass sleeps after a write: at least one output frame carries the new byte. -/
def settle (cfg : ServeSession) : Nat := millis (2 * cfg.cycleMs + 25)

/-- The whole output periods of an elapsed time, as a 32-bit count. -/
def periods (cfg : ServeSession) (elapsed : Nat) : Nat :=
  elapsed / 1000 / max (cfg.tick / 1000) 1 % 2 ^ 32

end ServeSession

/-! ## One pass -/

/-- Why the serve loop stopped. -/
inductive ServeStop where
  | reason (r : String)
  | arLost (msg : String)
  deriving DecidableEq, Repr

/-- What a pass takes from the caller.  Of an acyclic request, and of the keepalive an idle pass
    may make, only matters here whether it found the AR lost or was told to quit. -/
inductive Received where
  | bad (msg : String)
  | control (cmd : ControlCmd)
  | rpc (stop : Option ServeStop)
  | timeout (keepalive : Option ServeStop)
  | disconnected
  deriving DecidableEq, Repr

/-- What one pass meets: the caller, the answer to `set_output_data`, and the delays between its
    clock readings. -/
structure PassInput where
  /-- A signal, or the reason the cyclic tier gives up for. -/
  abort : Option String
  received : Received
  writeOk : Bool
  /-- Until the line is there, or beyond the timeout. -/
  wait : Nat
  /-- Until `set_output_data`: an acyclic request is answered here. -/
  serve : Nat
  /-- Beyond the sleep after a write: the readback. -/
  readback : Nat
  /-- Between reading the elapsed time and the new tick instant. -/
  restart : Nat
  /-- Until the dead-man is checked. -/
  rest : Nat
  deriving DecidableEq, Repr

/-- The variables of the loop, and the last clock reading. -/
structure Serve where
  now : Nat
  start : Nat
  control : ControlState
  drivenByte : UInt8
  lastTick : Nat
  lastActivity : Nat
  deriving DecidableEq, Repr

/-- Before the first pass, with the delays between the first three readings. -/
def Serve.initial (t d d' : Nat) : Serve :=
  ⟨t + d + d', t + d + d', .default, safeOutputByte, t + d, t⟩

/-- A byte handed to `set_output_data`, and when. -/
structure Write where
  time : Nat
  byte : UInt8
  deriving DecidableEq, Repr

/-- What one pass shows to the outside: the line that answers a control command, the level bits it
    held then, and the byte it wrote. -/
structure PassLog where
  reply : Option ControlReply
  level : UInt8
  write : Option Write
  deriving DecidableEq, Repr

/-- What a pass came to. -/
structure PassOutcome where
  serve : Serve
  log : PassLog
  stop : Option ServeStop
  deriving DecidableEq, Repr

namespace ServeSession

/-- What the line does to the control state, what it is answered, and whether it ends the loop. -/
def hear (cfg : ServeSession) (s : ControlState) :
    Received → ControlState × Option ControlReply × Option ServeStop
  | .bad _ => (s, none, none)
  | .control .quit => (s, none, some (.reason "quit"))
  | .control cmd =>
    match cfg.cyclic with
    | none => (s, some .refusedNeedsCyclic, none)
    | some _ =>
      let a := applyControlCmd cmd s cfg.allowMask
      (a.state, a.reply, if a.quit then some (.reason "quit") else none)
  | .rpc stop => (s, none, stop)
  | .timeout keepalive => (s, none, if cfg.cyclic.isNone then keepalive else none)
  | .disconnected => (s, none, some (.reason "stdin_eof"))

/-- When the line is there. -/
def heardAt (cfg : ServeSession) (s : Serve) (i : PassInput) : Nat :=
  match i.received with
  | .timeout _ => s.now + cfg.tick + i.wait
  | _ => s.now + i.wait

/-- When the caller was last heard of. -/
def activity (s : Serve) (i : PassInput) (heardAt : Nat) : Nat :=
  match i.received with
  | .timeout _ | .disconnected => s.lastActivity
  | _ => heardAt

/-- The checks at the head of a pass. -/
def headStop (cfg : ServeSession) (s : Serve) (i : PassInput) : Option ServeStop :=
  if 0 < cfg.seconds ∧ cfg.seconds ≤ (s.now - s.start) / millis 1000 then some (.reason "timer")
  else i.abort.map .reason

/-- The write: when it is made, and the byte, if the control state asks for another one. -/
def written (s : Serve) (i : PassInput) : Option Write :=
  if s.control.effective ≠ s.drivenByte then some ⟨s.now + i.serve, s.control.effective⟩ else none

/-- After the write, the sleep and the readback. -/
def drive (cfg : ServeSession) (s : Serve) (i : PassInput) : Serve :=
  match written s i with
  | some w => { s with drivenByte := w.byte, now := w.time + cfg.settle + i.readback }
  | none => { s with now := s.now + i.serve + i.readback }

/-- Advance the pulse shapers by the periods elapsed. -/
def advance (cfg : ServeSession) (s : Serve) (i : PassInput) : Serve :=
  let elapsed := s.now - s.lastTick
  if cfg.tick ≤ elapsed then
    { s with
      lastTick := s.now + i.restart
      control := s.control.tick (cfg.periods elapsed)
      now := s.now + i.restart }
  else s

/-- The clock at the dead-man check. -/
def rested (s : Serve) (i : PassInput) : Serve := { s with now := s.now + i.rest }

/-- A level bit held and a silent caller. -/
def deadman (s : Serve) : Option ServeStop :=
  if s.control.level ≠ 0 ∧ controlDeadman ≤ s.now - s.lastActivity then some (.reason "deadman")
  else none

/-- The loop's variables once the line is taken. -/
def heard (cfg : ServeSession) (s : Serve) (i : PassInput) : Serve :=
  let now := cfg.heardAt s i
  { s with now, control := (cfg.hear s.control i.received).1, lastActivity := activity s i now }

/-- What a pass that writes nothing shows. -/
def heardLog (cfg : ServeSession) (s : Serve) (i : PassInput) : PassLog :=
  ⟨(cfg.hear s.control i.received).2.1, (cfg.heard s i).control.level, none⟩

/-- The rest of a pass once the line is taken: the write, the tick and the last reading. -/
def settled (cfg : ServeSession) (s : Serve) (i : PassInput) : Serve :=
  rested (cfg.advance (cfg.drive s i) i) i

/-- One pass of the loop. -/
def pass (cfg : ServeSession) (s : Serve) (i : PassInput) : PassOutcome :=
  match cfg.headStop s i with
  | some stop => ⟨s, ⟨none, s.control.level, none⟩, some stop⟩
  | none =>
    let s' := cfg.heard s i
    match (cfg.hear s.control i.received).2.2 with
    | some stop => ⟨s', cfg.heardLog s i, some stop⟩
    | none =>
      if cfg.cyclic.isNone then ⟨{ s' with now := s'.now + i.serve }, cfg.heardLog s i, none⟩
      else if (written s' i).isSome ∧ ¬ i.writeOk then
        ⟨s', cfg.heardLog s i, some (.reason "io_error")⟩
      else
        ⟨cfg.settled s' i, { cfg.heardLog s i with write := written s' i },
          deadman (cfg.settled s' i)⟩

/-- Everything a pass can do. -/
inductive Does (cfg : ServeSession) (s : Serve) (i : PassInput) : PassOutcome → Prop where
  /-- The checks at its head stop it. -/
  | stops (r : ServeStop) : Does cfg s i ⟨s, ⟨none, s.control.level, none⟩, some r⟩
  /-- The line, or the write it asks for, stops it. -/
  | hears (r : ServeStop) : Does cfg s i ⟨cfg.heard s i, cfg.heardLog s i, some r⟩
  /-- Without a cyclic tier there is nothing to drive. -/
  | serves (h : cfg.cyclic = none) :
      Does cfg s i ⟨{ cfg.heard s i with now := (cfg.heard s i).now + i.serve },
        cfg.heardLog s i, none⟩
  /-- It drives the byte and ticks. -/
  | drives (h : cfg.cyclic.isSome) (stop : Option ServeStop) :
      Does cfg s i ⟨cfg.settled (cfg.heard s i) i,
        { cfg.heardLog s i with write := written (cfg.heard s i) i }, stop⟩

theorem pass_does (cfg : ServeSession) (s : Serve) (i : PassInput) :
    cfg.Does s i (cfg.pass s i) := by
  unfold pass
  split
  · exact .stops _
  · simp only
    split
    · exact .hears _
    · cases hcyc : cfg.cyclic with
      | none => exact .serves hcyc
      | some c =>
        rw [if_neg (by simp)]
        split
        · exact .hears _
        · exact .drives (by rw [hcyc]; rfl) _

/-! ## A run -/

/-- One pass made: the loop before it, and its input. -/
structure Pass where
  before : Serve
  input : PassInput

/-- The passes the loop makes of these inputs: it makes none after the one that stops it. -/
def passes (cfg : ServeSession) : Serve → List PassInput → List Pass
  | _, [] => []
  | s, i :: is =>
    ⟨s, i⟩ ::
      match (cfg.pass s i).stop with
      | some _ => []
      | none => cfg.passes (cfg.pass s i).serve is

/-- What a pass keeps, every pass of a run finds. -/
theorem passes_invariant {cfg : ServeSession} {I : Serve → Prop}
    (hpass : ∀ s i, I s → I (cfg.pass s i).serve) :
    ∀ {is : List PassInput} {s : Serve}, I s → ∀ p ∈ cfg.passes s is, I p.before
  | [], _, _, _, hp => by cases hp
  | i :: is, s, hs, p, hp => by
      unfold passes at hp
      rcases List.mem_cons.mp hp with rfl | hrest
      · exact hs
      · split at hrest
        · cases hrest
        · exact passes_invariant hpass (hpass s i hs) p hrest

/-! ## Only allowed bits are driven -/

/-- Nothing outside the allow mask is commanded, and nothing outside it is driven. -/
structure Within (cfg : ServeSession) (s : Serve) : Prop where
  control : s.control.Within cfg.allowMask
  driven : Clear s.drivenByte (~~~cfg.allowMask)

theorem initial_within (cfg : ServeSession) (t d d' : Nat) :
    cfg.Within (.initial t d d') :=
  ⟨ControlState.default_within _, zero_clear _⟩

theorem hear_within {cfg : ServeSession} {s : ControlState} (h : s.Within cfg.allowMask)
    (r : Received) : (cfg.hear s r).1.Within cfg.allowMask := by
  unfold hear
  split
  · exact h
  · exact h
  · split
    · exact h
    · exact h.apply _
  · exact h
  · exact h
  · exact h

theorem Within.heard {cfg : ServeSession} {s : Serve} (h : cfg.Within s) (i : PassInput) :
    cfg.Within (cfg.heard s i) :=
  ⟨hear_within h.control i.received, h.driven⟩

theorem Within.settled {cfg : ServeSession} {s : Serve} (h : cfg.Within s) (i : PassInput) :
    cfg.Within (cfg.settled s i) := by
  have hdrive : cfg.Within (cfg.drive s i) := by
    unfold drive written
    split
    · rename_i w hw
      split at hw
      · cases hw
        exact ⟨h.control, h.control.effective⟩
      · cases hw
    · exact ⟨h.control, h.driven⟩
  have hadvance : cfg.Within (cfg.advance (cfg.drive s i) i) := by
    unfold advance
    simp only
    split
    · exact ⟨hdrive.control.tick _, hdrive.driven⟩
    · exact hdrive
  exact ⟨hadvance.control, hadvance.driven⟩

theorem Within.pass {cfg : ServeSession} {s : Serve} (h : cfg.Within s) (i : PassInput) :
    cfg.Within (cfg.pass s i).serve := by
  cases hp : cfg.pass s i with
  | mk serve log stop =>
    have hdoes := cfg.pass_does s i
    rw [hp] at hdoes
    cases hdoes with
    | stops => exact h
    | hears => exact h.heard i
    | serves => exact ⟨(h.heard i).control, (h.heard i).driven⟩
    | drives => exact (h.heard i).settled i

/-- What a pass writes is what the control state asks for then, and not what it drove before. -/
theorem write_eq {cfg : ServeSession} {s : Serve} {i : PassInput} {w : Write}
    (h : (cfg.pass s i).log.write = some w) :
    cfg.cyclic.isSome ∧ w = ⟨(cfg.heard s i).now + i.serve, (cfg.heard s i).control.effective⟩ ∧
      w.byte ≠ s.drivenByte ∧ (cfg.pass s i).serve = cfg.settled (cfg.heard s i) i := by
  cases hp : cfg.pass s i with
  | mk serve log stop =>
    have hdoes := cfg.pass_does s i
    rw [hp] at hdoes h
    cases hdoes with
    | stops => cases h
    | hears => cases h
    | serves => cases h
    | drives hcyc =>
      simp only [written] at h
      split at h
      · rename_i hne
        cases h
        exact ⟨hcyc, rfl, hne, rfl⟩
      · cases h

/-- The byte a pass writes has no bit outside the allow mask. -/
theorem write_within {cfg : ServeSession} {s : Serve} (h : cfg.Within s) {i : PassInput} {w : Write}
    (hw : (cfg.pass s i).log.write = some w) : Clear w.byte (~~~cfg.allowMask) := by
  obtain ⟨-, rfl, -, -⟩ := write_eq hw
  exact (h.heard i).control.effective

end ServeSession

/-! ## A sequence of commands and ticks on the control state -/

/-- One call on a control state, with any command or any number of periods. -/
inductive ControlOp where
  | cmd (c : ControlCmd)
  | tick (periods : Nat)
  deriving DecidableEq, Repr

namespace ControlState

/-- One operation on the control state. -/
def apply (allowMask : UInt8) (s : ControlState) : ControlOp → ControlState
  | .cmd c => (applyControlCmd c s allowMask).state
  | .tick n => s.tick n

/-- Operations, one after the other. -/
def run (allowMask : UInt8) (s : ControlState) (ops : List ControlOp) : ControlState :=
  ops.foldl (apply allowMask) s

theorem run_within {allowMask : UInt8} {s : ControlState} (h : s.Within allowMask) :
    ∀ ops : List ControlOp, (s.run allowMask ops).Within allowMask := by
  intro ops
  induction ops generalizing s with
  | nil => exact h
  | cons op ops ih =>
    show ((s.apply allowMask op).run allowMask ops).Within allowMask
    cases op with
    | cmd c => exact ih (h.apply c)
    | tick n => exact ih (h.tick n)

end ControlState

/-- A command is answered with a refusal. -/
def ControlReply.refuses : ControlReply → Bool
  | .refusedCmd .. | .refusedNeedsCyclic => true
  | _ => false

/-- A refused command has changed nothing. -/
theorem applyControlCmd_refused {cmd : ControlCmd} {s : ControlState} {allowMask : UInt8}
    {r : ControlReply} (hr : (applyControlCmd cmd s allowMask).reply = some r)
    (hrefuses : r.refuses = true) : (applyControlCmd cmd s allowMask).state = s := by
  rcases applyControlCmd_cases cmd s allowMask with
    ⟨reply, quit, ha, -⟩ | ⟨mask, on, -, -, ha⟩ | ⟨mask, s', -, -, -, ha⟩
  · rw [ha]
  · rw [ha] at hr
    cases hr
    cases hrefuses
  · rw [ha] at hr
    cases hr
    cases hrefuses

/-- **Only allowed bits are ever driven.**  Whatever commands and ticks a control state has seen,
    its byte has no bit outside the allow mask, and a refused command might as well not have been
    sent; no session writes a bit outside its mask, and one that is read-only or has no cyclic
    tier writes nothing but the safe byte. -/
theorem only_allowed_bits :
    (∀ (allowMask : UInt8) (ops : List ControlOp),
      (ControlState.default.run allowMask ops).effective &&& ~~~allowMask = 0) ∧
    (∀ (allowMask : UInt8) (before after : List ControlOp) (cmd : ControlCmd) (r : ControlReply),
      (applyControlCmd cmd (ControlState.default.run allowMask before) allowMask).reply = some r →
      r.refuses = true →
      ∀ n, (ControlState.default.run allowMask (before ++ .cmd cmd :: after.take n)).effective =
        (ControlState.default.run allowMask (before ++ after.take n)).effective) ∧
    (∀ (cfg : ServeSession) (s : ControlState) (received : Received) (r : ControlReply),
      (cfg.hear s received).2.1 = some r → r.refuses = true → (cfg.hear s received).1 = s) ∧
    (∀ (cfg : ServeSession) (t d d' : Nat) (inputs : List PassInput),
      ∀ p ∈ cfg.passes (.initial t d d') inputs,
      ∀ w, (cfg.pass p.before p.input).log.write = some w → w.byte &&& ~~~cfg.allowMask = 0) ∧
    (∀ (cfg : ServeSession) (t d d' : Nat) (inputs : List PassInput),
      cfg.readOnly = true ∨ cfg.cyclic = none →
      cfg.allowMask = 0 ∧
      ∀ p ∈ cfg.passes (.initial t d d') inputs,
      ∀ w, (cfg.pass p.before p.input).log.write = some w → w.byte = safeOutputByte) := by
  have writes : ∀ (cfg : ServeSession) (t d d' : Nat) (inputs : List PassInput),
      ∀ p ∈ cfg.passes (.initial t d d') inputs,
      ∀ w, (cfg.pass p.before p.input).log.write = some w → w.byte &&& ~~~cfg.allowMask = 0 := by
    intro cfg t d d' inputs p hp w hw
    have hwithin : cfg.Within p.before :=
      ServeSession.passes_invariant (fun s i h => h.pass i) (cfg.initial_within t d d') p hp
    exact ServeSession.write_within hwithin hw
  refine ⟨?_, ?_, ?_, writes, ?_⟩
  · intro allowMask ops
    exact (ControlState.run_within (ControlState.default_within allowMask) ops).effective
  · intro allowMask before after cmd r hr hrefuses n
    have hsame := applyControlCmd_refused hr hrefuses
    unfold ControlState.run at hsame ⊢
    rw [List.foldl_append, List.foldl_cons, List.foldl_append]
    exact congrArg (fun s => (List.foldl (ControlState.apply allowMask) s (after.take n)).effective)
      hsame
  · intro cfg s received r hr hrefuses
    unfold ServeSession.hear at hr ⊢
    split
    · rfl
    · rfl
    · rename_i cmd hquit
      cases hcyc : cfg.cyclic with
      | none => rfl
      | some c =>
        simp only [hcyc] at hr
        exact applyControlCmd_refused hr hrefuses
    · rfl
    · rfl
    · rfl
  · intro cfg t d d' inputs hsafe
    have hmask : cfg.allowMask = 0 := by
      unfold ServeSession.allowMask
      rcases hsafe with hro | hcyc
      · cases cfg.cyclic with
        | none => rfl
        | some c => exact if_pos hro
      · rw [hcyc]
    refine ⟨hmask, fun p hp w hw => ?_⟩
    have hclear := writes cfg t d d' inputs p hp w hw
    rw [hmask] at hclear
    simpa [safeOutputByte] using hclear

end Profinet
