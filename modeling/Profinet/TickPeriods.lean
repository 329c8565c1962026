/-
  TICK PERIODS: how many output periods the serve loop counts.

  The tick step divides the time since the last tick by the period, hands the quotient to the pulse
  shapers and starts the next period at the instant it has reached by then.  The remainder of the
  division goes, and so does the time the step itself takes:

      loop start |---- counted * tick ----|---- forfeited ----| last tick

  So the count is behind the clock as soon as the forfeited parts, and the fraction at hand, make
  a period of their own.
-/
import Profinet.Lib.History
import Profinet.PulseWidth

namespace Profinet

open History

namespace ServeSession

/-! ## The tick step of a pass -/

/-- The pass reaches the tick step: it drives, and neither its head, nor the line, nor the write
    stops it. -/
def Ticks (cfg : ServeSession) (p : Pass) : Prop :=
  cfg.cyclic.isSome ∧ cfg.headStop p.before p.input = none ∧
    (cfg.hear p.before.control p.input.received).2.2 = none ∧
    ¬ ((written (cfg.heard p.before p.input) p.input).isSome ∧ ¬ p.input.writeOk)

instance (cfg : ServeSession) (p : Pass) : Decidable (cfg.Ticks p) := by
  unfold Ticks
  infer_instance

/-- What the tick step reads as elapsed. -/
def elapsed (cfg : ServeSession) (p : Pass) : Nat :=
  cfg.evaluatedAt p.before p.input - p.before.lastTick

/-- The periods the pass hands to the shapers. -/
def handedBy (cfg : ServeSession) (p : Pass) : Nat :=
  if cfg.Ticks p ∧ cfg.tick ≤ cfg.elapsed p then cfg.handed p.before p.input else 0

/-- The time the pass neither counts nor leaves to the next one. -/
def forfeitedBy (cfg : ServeSession) (p : Pass) : Nat :=
  if cfg.Ticks p ∧ cfg.tick ≤ cfg.elapsed p then cfg.elapsed p % cfg.tick + p.input.restart else 0

/-- The periods handed to the shaper over all passes. -/
def handedTotal (cfg : ServeSession) (ps : List Pass) : Nat := (ps.map cfg.handedBy).sum

/-- The periods lost over all passes. -/
def forfeitedTotal (cfg : ServeSession) (ps : List Pass) : Nat := (ps.map cfg.forfeitedBy).sum

/-- At every tick step, the periods handed over so far are those of the time since `origin`. -/
def NoPeriodLost (cfg : ServeSession) (origin : Nat) (ps : List Pass) : Prop :=
  ∀ before p after, ps = before ++ p :: after → cfg.Ticks p →
    cfg.handedTotal (before ++ [p]) = (cfg.evaluatedAt p.before p.input - origin) / cfg.tick

/-- At every tick step, what the earlier ones forfeited and the fraction at hand are less than a
    period, and the elapsed periods fit the count. -/
def InTime (cfg : ServeSession) (ps : List Pass) : Prop :=
  ∀ before p after, ps = before ++ p :: after → cfg.Ticks p →
    cfg.elapsed p / cfg.tick < 2 ^ 32 ∧
      cfg.forfeitedTotal before + cfg.elapsed p % cfg.tick < cfg.tick

/-- The count is the quotient: a period is a whole number of microseconds. -/
theorem periods_eq {cfg : ServeSession} (hcyc : cfg.cyclic.isSome) (elapsed : Nat) :
    cfg.periods elapsed = elapsed / cfg.tick % 2 ^ 32 := by
  obtain ⟨hpos, htick⟩ := cyclic_times hcyc
  have hmicros : max (cfg.tick / 1000) 1 = cfg.cycleMs * 1000 := by
    rw [htick]
    unfold millis
    omega
  have hnanos : cfg.tick = 1000 * (cfg.cycleMs * 1000) := by
    rw [htick]
    unfold millis
    omega
  unfold periods
  rw [hmicros, Nat.div_div_eq_div_mul, hnanos]

theorem tick_pos {cfg : ServeSession} (hcyc : cfg.cyclic.isSome) : 0 < cfg.tick := by
  obtain ⟨hpos, htick⟩ := cyclic_times hcyc
  rw [htick]
  unfold millis
  omega

theorem handedBy_eq {cfg : ServeSession} {p : Pass} (h : cfg.Ticks p) :
    cfg.handedBy p = cfg.elapsed p / cfg.tick % 2 ^ 32 := by
  unfold handedBy
  split
  · exact periods_eq h.1 _
  · rename_i hnot
    have hshort : cfg.elapsed p < cfg.tick := Nat.lt_of_not_le fun hdue => hnot ⟨h, hdue⟩
    rw [Nat.div_eq_of_lt hshort, Nat.zero_mod]

/-! ## The next pass -/

/-- A pass that goes on in a driving session has made its tick step. -/
theorem ticks_of_goes {cfg : ServeSession} {p : Pass} (hcyc : cfg.cyclic.isSome)
    (h : (cfg.pass p.before p.input).stop = none) : cfg.Ticks p := by
  unfold pass at h
  split at h
  · cases h
  · rename_i hhead
    simp only at h
    split at h
    · cases h
    · rename_i hheard
      rw [if_neg (by simpa using Option.isSome_iff_ne_none.mp hcyc)] at h
      split at h
      · cases h
      · rename_i hwrite
        exact ⟨hcyc, hhead, hheard, hwrite⟩

/-- The last tick after a pass that goes on. -/
theorem lastTick_pass {cfg : ServeSession} {p : Pass} (hcyc : cfg.cyclic.isSome)
    (hstop : (cfg.pass p.before p.input).stop = none) :
    (cfg.pass p.before p.input).serve.lastTick =
      if cfg.tick ≤ cfg.elapsed p then cfg.evaluatedAt p.before p.input + p.input.restart
      else p.before.lastTick := by
  have hlast : (cfg.drive (cfg.heard p.before p.input) p.input).lastTick = p.before.lastTick :=
    cfg.drive_lastTick (cfg.heard p.before p.input) p.input
  rcases cfg.goes_on p.before p.input hstop with ⟨hnone, -, -⟩ | hset
  · rw [hnone] at hcyc
    cases hcyc
  · rw [hset]
    unfold settled rested advance elapsed evaluatedAt
    simp only [hlast]
    split
    · rfl
    · exact hlast

/-- A tick step that does not wrap leaves the last tick as far from the loop start as what it
    counts and what it forfeits. -/
theorem lastTick_counted {cfg : ServeSession} {p : Pass} (hcyc : cfg.cyclic.isSome)
    (hticked : Ticked p.before) (hstop : (cfg.pass p.before p.input).stop = none)
    (hfits : cfg.elapsed p / cfg.tick < 2 ^ 32) :
    (cfg.pass p.before p.input).serve.lastTick =
      p.before.lastTick + cfg.handedBy p * cfg.tick + cfg.forfeitedBy p := by
  have hticks := ticks_of_goes hcyc hstop
  have hlate : p.before.lastTick ≤ cfg.evaluatedAt p.before p.input :=
    Nat.le_trans hticked (Nat.le_trans (cfg.now_le_heard _ _) (cfg.heard_le_evaluated _ _))
  rw [lastTick_pass hcyc hstop, handedBy_eq hticks, Nat.mod_eq_of_lt hfits]
  unfold forfeitedBy
  by_cases hdue : cfg.tick ≤ cfg.elapsed p
  · rw [if_pos hdue, if_pos ⟨hticks, hdue⟩]
    have hparts := Nat.div_add_mod (cfg.elapsed p) cfg.tick
    rw [Nat.mul_comm] at hparts
    unfold elapsed at *
    omega
  · rw [if_neg hdue, if_neg fun h => hdue h.2, Nat.div_eq_of_lt (Nat.lt_of_not_le hdue)]
    omega

/-! ## The count of a run -/

/-- A count of whole periods, taken in two parts, is exact when the two fractions make no period. -/
theorem count_exact {T h d x : Nat} (hT : 0 < T) :
    h + x / T % 2 ^ 32 = (h * T + d + x) / T ↔ x / T < 2 ^ 32 ∧ d + x % T < T := by
  have hsplit : h * T + d + x = (d + x % T) + T * (h + x / T) := by
    have hparts := Nat.div_add_mod x T
    rw [Nat.mul_add, Nat.mul_comm T h]
    omega
  rw [hsplit, Nat.add_mul_div_left _ _ hT]
  have hcarry : (d + x % T) / T = 0 ↔ d + x % T < T := by
    rw [Nat.div_eq_zero_iff]
    omega
  have hwrap : x / T % 2 ^ 32 = x / T ↔ x / T < 2 ^ 32 := Nat.mod_eq_iff_lt (by decide)
  have hle := Nat.mod_le (x / T) (2 ^ 32)
  rw [← hcarry, ← hwrap]
  generalize x / T = q at *
  generalize (d + x % T) / T = c at *
  omega

/-- The count of the passes from a state on, with `h` periods counted and `d` forfeited by then. -/
theorem counted_from {cfg : ServeSession} {origin : Nat} (hcyc : cfg.cyclic.isSome) :
    ∀ (is : List PassInput) (s : Serve) (h d : Nat), Ticked s →
      s.lastTick = origin + h * cfg.tick + d →
      ((∀ before p after, cfg.passes s is = before ++ p :: after → cfg.Ticks p →
          h + cfg.handedTotal (before ++ [p]) =
            (cfg.evaluatedAt p.before p.input - origin) / cfg.tick) ↔
        ∀ before p after, cfg.passes s is = before ++ p :: after → cfg.Ticks p →
          cfg.elapsed p / cfg.tick < 2 ^ 32 ∧
            d + cfg.forfeitedTotal before + cfg.elapsed p % cfg.tick < cfg.tick) := by
  intro is
  induction is with
  | nil =>
    intro s h d _ _
    exact ⟨fun _ => forall_split_nil, fun _ => forall_split_nil⟩
  | cons i is ih =>
    intro s h d hticked hlast
    -- the tick step of this pass, if it has one
    have hhead : cfg.Ticks ⟨s, i⟩ →
        (h + cfg.handedTotal ([] ++ [⟨s, i⟩]) = (cfg.evaluatedAt s i - origin) / cfg.tick ↔
          cfg.elapsed ⟨s, i⟩ / cfg.tick < 2 ^ 32 ∧
            d + cfg.forfeitedTotal [] + cfg.elapsed ⟨s, i⟩ % cfg.tick < cfg.tick) := by
      intro hticks
      have hlate : s.lastTick ≤ cfg.evaluatedAt s i :=
        Nat.le_trans hticked (Nat.le_trans (cfg.now_le_heard _ _) (cfg.heard_le_evaluated _ _))
      have htotal : cfg.handedTotal ([] ++ [⟨s, i⟩]) = cfg.elapsed ⟨s, i⟩ / cfg.tick % 2 ^ 32 := by
        show cfg.handedBy ⟨s, i⟩ + 0 = _
        rw [handedBy_eq hticks, Nat.add_zero]
      have hsince : cfg.evaluatedAt s i - origin = h * cfg.tick + d + cfg.elapsed ⟨s, i⟩ := by
        unfold elapsed
        simp only
        omega
      rw [htotal, hsince]
      exact count_exact (tick_pos hcyc)
    rw [passes, forall_split_cons, forall_split_cons]
    by_cases hstop : (cfg.pass s i).stop = none
    · have hticks : cfg.Ticks ⟨s, i⟩ := ticks_of_goes hcyc hstop
      rw [hstop]
      simp only [hticks, true_imp_iff]
      rw [hhead hticks]
      apply and_congr_right
      rintro ⟨hfits, -⟩
      -- the next pass finds one more tick step behind it
      have hnext := ih (cfg.pass s i).serve (h + cfg.handedBy ⟨s, i⟩) (d + cfg.forfeitedBy ⟨s, i⟩)
        (cfg.pass_clock i hticked).2.2
        (by
          rw [lastTick_counted (p := ⟨s, i⟩) hcyc hticked hstop hfits, Nat.add_mul]
          show s.lastTick + _ + _ = _
          omega)
      simpa only [handedTotal, forfeitedTotal, List.cons_append, List.map_cons, List.sum_cons,
        ← Nat.add_assoc] using hnext
    · -- the last pass of the run
      obtain ⟨r, hr⟩ := Option.ne_none_iff_exists'.mp hstop
      rw [hr]
      constructor
      · intro hall
        exact ⟨fun hticks => (hhead hticks).mp (hall.1 hticks), forall_split_nil⟩
      · intro hall
        exact ⟨fun hticks => (hhead hticks).mpr (hall.1 hticks), forall_split_nil⟩

end ServeSession

/-- **When no output period is lost.**  In every run of the loop, the periods handed to the shapers
    by any tick step are those of the time since the loop started exactly as long as the fractions
    of a period that its steps drop stay under one period in all. -/
theorem no_period_lost (cfg : ServeSession) (t d d' : Nat) (inputs : List PassInput) :
    cfg.NoPeriodLost (t + d) (cfg.passes (.initial t d d') inputs) ↔
      cfg.InTime (cfg.passes (.initial t d d') inputs) := by
  by_cases hcyc : cfg.cyclic.isSome
  · have hstart : (Serve.initial t d d').lastTick = t + d + 0 * cfg.tick + 0 := by
      rw [Nat.zero_mul]
      rfl
    have hcounted := ServeSession.counted_from hcyc inputs (.initial t d d') 0 0
      (ServeSession.initial_ticked t d d') hstart
    simpa only [ServeSession.NoPeriodLost, ServeSession.InTime, Nat.zero_add] using hcounted
  · -- without a cyclic tier no pass has a tick step
    have hnever : ∀ p, ¬ cfg.Ticks p := fun p h => hcyc h.1
    exact ⟨fun _ _ p _ _ hticks => absurd hticks (hnever p),
      fun _ _ p _ _ hticks => absurd hticks (hnever p)⟩

namespace ServeSession

/-- A line that is no command, 3 ms after the pass began. -/
def badLine : PassInput := ⟨none, .bad "", true, millis 3, 0, 0, 0, 0⟩

/-- No line for a whole period. -/
def quietTick : PassInput := ⟨none, .timeout none, true, 0, 0, 0, 0, 0⟩

end ServeSession

open ServeSession in
/-- A period of 4 ms, and tick steps at 3, 7, 10 and 14 ms: the second and the fourth count one
    period each, of the three that are over. -/
theorem period_lost :
    ¬ benchServe.NoPeriodLost 0
      (benchServe.passes (.initial 0 0 0) [badLine, quietTick, badLine, quietTick]) := by
  intro h
  have hfourth := h
    ((benchServe.passes (.initial 0 0 0) [badLine, quietTick, badLine, quietTick]).take 3)
    ⟨⟨millis 10, 0, .default, safeOutputByte, millis 7, millis 10⟩, quietTick⟩ [] (by rfl)
    (by decide)
  revert hfourth
  decide

end Profinet
