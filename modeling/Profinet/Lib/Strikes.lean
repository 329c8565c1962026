/-
  STRIKES: a watchdog that counts how often a deadline was missed.

  The timer is armed at an instant.  A sign of life arms it anew and clears the strikes; a check
  that finds more than `w` elapsed since it was armed counts a strike and arms it again, a
  little later.  A loop makes one pass after another: at most one sign of life, then one check.

  Two bounds tie the number of strikes to the time since the last sign of life, whatever the
  passes are:

      no_early    the `k`-th strike comes after more than `k * w`
      no_late     `k` strikes last for at most `(k + 1) * (w + 2 * D)`, when checks are at most
                  `D` apart

  The second costs `2 * D` a strike: a deadline is noticed up to `D` late, and the timer is armed
  again up to `D` after the check.  Times are natural numbers in any unit.
-/
import Mathlib.Data.List.Basic

namespace Strikes

/-- When the timer was armed, and the strikes since the last sign of life. -/
structure Timer where
  armedAt : Nat
  strikes : Nat
  deriving DecidableEq, Repr

/-- One pass: a sign of life if there was one, the check, and when a strike arms the timer
    again. -/
structure Pass where
  alive : Option Nat
  check : Nat
  later : Nat
  deriving DecidableEq, Repr

namespace Timer

/-- A sign of life, if there is one: the timer begins anew. -/
def sign (t : Timer) : Option Nat → Timer
  | none => t
  | some now => ⟨now, 0⟩

/-- A timeout: one more strike, and the timer is armed again. -/
def strike (t : Timer) (later : Nat) : Timer := ⟨later, t.strikes + 1⟩

/-- A poll. -/
def check (w : Nat) (t : Timer) (now later : Nat) : Timer :=
  if now - t.armedAt > w then t.strike later else t

/-- A pass: the sign of life, then the poll. -/
def pass (w : Nat) (t : Timer) (p : Pass) : Timer := (t.sign p.alive).check w p.check p.later

/-- Passes, one after the other. -/
def run (w : Nat) (t : Timer) (ps : List Pass) : Timer := ps.foldl (pass w) t

end Timer

/-- The last sign of life of the passes, or the one before them. -/
def lastAlive (a : Nat) (ps : List Pass) : Nat := ps.foldl (fun a p => p.alive.getD a) a

/-- The clock never goes back: no reading is below the one before it. -/
def Clock : Nat → List Pass → Prop
  | _, [] => True
  | last, p :: ps =>
    (∀ x ∈ p.alive, last ≤ x ∧ x ≤ p.check) ∧ last ≤ p.check ∧ p.check ≤ p.later
      ∧ Clock p.later ps

/-- Every check comes at most `D` after the one before it. -/
def Gaps (D : Nat) : Nat → List Pass → Prop
  | _, [] => True
  | last, p :: ps => p.check ≤ last + D ∧ Gaps D p.check ps

/-! ## No early strike -/

/-- Every strike so far has cost more than `w`. -/
structure Early (w : Nat) (t : Timer) (a last : Nat) : Prop where
  cost : a + t.strikes * w ≤ t.armedAt
  past : t.armedAt ≤ last

theorem Early.sign {w : Nat} {t : Timer} {a last now : Nat} (h : Early w t a last)
    {alive : Option Nat} (halive : ∀ x ∈ alive, last ≤ x ∧ x ≤ now) (hnow : last ≤ now) :
    Early w (t.sign alive) (alive.getD a) now := by
  cases alive with
  | none => exact ⟨h.cost, Nat.le_trans h.past hnow⟩
  | some x =>
    refine ⟨?_, (halive x rfl).2⟩
    show x + 0 * w ≤ x
    omega

theorem Early.check {w : Nat} {t : Timer} {a now later : Nat} (h : Early w t a now)
    (hlater : now ≤ later) : Early w (t.check w now later) a later := by
  unfold Timer.check
  by_cases hexp : now - t.armedAt > w
  · rw [if_pos hexp]
    have hcost := h.cost
    refine ⟨?_, Nat.le_refl _⟩
    show a + (t.strikes + 1) * w ≤ later
    rw [Nat.succ_mul]
    omega
  · rw [if_neg hexp]
    exact ⟨h.cost, Nat.le_trans h.past hlater⟩

theorem Early.run {w : Nat} {t : Timer} {a last : Nat} (h : Early w t a last) {ps rest : List Pass}
    (hclock : Clock last (ps ++ rest)) :
    ∃ last', Early w (t.run w ps) (lastAlive a ps) last' ∧ Clock last' rest := by
  induction ps generalizing t a last with
  | nil => exact ⟨last, h, hclock⟩
  | cons p ps ih =>
    obtain ⟨halive, hcheck, hlater, hrest⟩ := hclock
    exact ih ((h.sign halive hcheck).check hlater) hrest

/-- **No early strike.**  A check that counts the `k`-th strike finds more than `k * w` elapsed
    since the last sign of life. -/
theorem no_early {w start : Nat} {before : List Pass} {p : Pass}
    (hclock : Clock start (before ++ [p]))
    (hstrike : p.check - (((⟨start, 0⟩ : Timer).run w before).sign p.alive).armedAt > w) :
    lastAlive start (before ++ [p])
        + ((((⟨start, 0⟩ : Timer).run w before).sign p.alive).strikes + 1) * w < p.check := by
  have hstart : Early w ⟨start, 0⟩ start start := ⟨by simp, Nat.le_refl _⟩
  obtain ⟨last, hrun, halive, hcheck, -⟩ := hstart.run hclock
  have hcost := (hrun.sign halive hcheck).cost
  have hlast : lastAlive start (before ++ [p]) = p.alive.getD (lastAlive start before) := by
    rw [lastAlive, List.foldl_append]
    rfl
  rw [hlast, Nat.succ_mul]
  omega

/-! ## No late strike -/

/-- Since the last check, at `c`, the timer is either within its deadline or freshly armed; and
    the strikes so far have cost at most `w + 2 * D` each. -/
structure Late (w D : Nat) (t : Timer) (a last c : Nat) : Prop where
  past : t.armedAt ≤ last
  cost : (t.armedAt ≤ c ∧ c ≤ t.armedAt + w ∧ t.armedAt ≤ a + t.strikes * (w + 2 * D))
    ∨ (c ≤ t.armedAt ∧ c + D ≤ a + t.strikes * (w + 2 * D))

/-- Between two checks at most `D` apart: the timer was armed before the check to come, which is
    at most `D` past the deadline. -/
structure Due (w D : Nat) (t : Timer) (a now : Nat) : Prop where
  past : t.armedAt ≤ now
  due : now ≤ t.armedAt + w + D
  cost : t.armedAt ≤ a + t.strikes * (w + 2 * D)

theorem Late.sign {w D : Nat} {t : Timer} {a last c now : Nat} (h : Late w D t a last c)
    (hc : c ≤ last) {alive : Option Nat} (halive : ∀ x ∈ alive, last ≤ x ∧ x ≤ now)
    (hnow : last ≤ now) (hgap : now ≤ c + D) :
    Due w D (t.sign alive) (alive.getD a) now := by
  have hpast := h.past
  cases alive with
  | none =>
    rcases h.cost with ⟨h1, h2, h3⟩ | ⟨h1, h2⟩
    · exact ⟨Nat.le_trans hpast hnow, by show now ≤ t.armedAt + w + D; omega, h3⟩
    · exact ⟨Nat.le_trans hpast hnow, by show now ≤ t.armedAt + w + D; omega,
        by show t.armedAt ≤ a + t.strikes * (w + 2 * D); omega⟩
  | some x =>
    obtain ⟨h1, h2⟩ := halive x rfl
    refine ⟨h2, ?_, ?_⟩
    · show now ≤ x + w + D
      omega
    · show x ≤ x + 0 * (w + 2 * D)
      omega

theorem Due.check {w D : Nat} {t : Timer} {a now later : Nat} (h : Due w D t a now)
    (hlater : now ≤ later) : Late w D (t.check w now later) a later now := by
  obtain ⟨hpast, hdue, hcost⟩ := h
  unfold Timer.check
  by_cases hexp : now - t.armedAt > w
  · rw [if_pos hexp]
    refine ⟨Nat.le_refl _, .inr ⟨hlater, ?_⟩⟩
    show now + D ≤ a + (t.strikes + 1) * (w + 2 * D)
    rw [Nat.succ_mul]
    omega
  · rw [if_neg hexp]
    exact ⟨Nat.le_trans hpast hlater, .inl ⟨hpast, by omega, hcost⟩⟩

theorem Late.run {w D : Nat} {t : Timer} {a last c : Nat} (h : Late w D t a last c)
    (hc : c ≤ last) {ps : List Pass} (hclock : Clock last ps) (hgaps : Gaps D c ps) :
    ∃ last' c', Late w D (t.run w ps) (lastAlive a ps) last' c'
      ∧ c' = (ps.map Pass.check).getLast?.getD c := by
  induction ps generalizing t a last c with
  | nil => exact ⟨last, c, h, rfl⟩
  | cons p ps ih =>
    obtain ⟨halive, hcheck, hlater, hrest⟩ := hclock
    obtain ⟨last', c', hrun, hc'⟩ :=
      ih ((h.sign hc halive hcheck hgaps.1).check hlater) hlater hrest hgaps.2
    refine ⟨last', c', hrun, ?_⟩
    rw [hc', List.map_cons, List.getLast?_cons]
    rfl

/-- **No late strike.**  With the loop's start counted as its first check and every check at
    most `D` after the one before, a check after which there are `k` strikes comes at most
    `(k + 1) * (w + 2 * D)` after the last sign of life. -/
theorem no_late {w D start : Nat} {before : List Pass} {p : Pass}
    (hclock : Clock start (before ++ [p])) (hgaps : Gaps D start (before ++ [p])) :
    p.check ≤ lastAlive start (before ++ [p])
      + (((⟨start, 0⟩ : Timer).run w (before ++ [p])).strikes + 1) * (w + 2 * D) := by
  have hstart : Late w D ⟨start, 0⟩ start start start :=
    ⟨Nat.le_refl _, .inl ⟨Nat.le_refl _, Nat.le_add_right _ _, Nat.le_add_right _ _⟩⟩
  obtain ⟨last, c, hrun, hc⟩ := hstart.run (Nat.le_refl _) hclock hgaps
  have hcheck : c = p.check := by
    rw [hc, List.map_append, List.map_cons, List.map_nil, List.getLast?_append]
    rfl
  have hcost := hrun.cost
  rw [hcheck] at hcost
  rw [Nat.succ_mul]
  omega

end Strikes
