/-
  COUNTER TRACKING: what a received cycle counter is counted as.

  A sender advances its 16-bit counter by a step for each frame, and the receiver knows no more of a
  frame than the counter.  Frame `n` of a sender carries `senderCounter first step n`; of two frames
  received one after the other the receiver takes the distance modulo `2 ^ 16`, and divides it by the
  step.  While the frames are no further than half the counter range apart (`InReach`), that distance
  is the true one, whatever the step and wherever the counter wraps:

      the same frame again      a duplicate
      the next frame            nothing
      a later frame             the frames between the two are missed

  Larger steps, up to the product of two 16-bit factors, are tracked as long as no frame is lost: the
  counter of the next frame is what is expected, unless the step is a multiple of `2 ^ 16`.
-/
import Mathlib.Data.List.Chain
import Profinet.VlanTags

namespace Profinet.Cyclic

open Util Rt

/-! ## The counters of a sender -/

/-- The counter of frame `n`. -/
def senderCounter (first : UInt16) (step n : Nat) : UInt16 := first + UInt16.ofNat (n * step)

/-- The counter after `prev`, as the sender advances it and the receiver expects it. -/
def nextCounter (prev : UInt16) (step : UInt32) : UInt16 :=
  ((prev.toUInt32 + step) &&& 0xFFFF).toUInt16

theorem toNat_nextCounter (prev : UInt16) (step : UInt32) :
    (nextCounter prev step).toNat = (prev.toNat + step.toNat) % 65536 := by
  have hmask : ∀ x : UInt32, (x &&& 0xFFFF).toUInt16.toNat = x.toNat % 65536 := by
    intro x
    rw [UInt32.toNat_toUInt16, UInt32.toNat_and]
    show (x.toNat &&& (2 ^ 16 - 1)) % 2 ^ 16 = _
    rw [Nat.and_two_pow_sub_one_eq_mod]
    omega
  unfold nextCounter
  rw [hmask, UInt32.toNat_add, UInt16.toNat_toUInt32]
  omega

theorem toNat_senderCounter (first : UInt16) (step n : Nat) :
    (senderCounter first step n).toNat = (first.toNat + n * step) % 65536 := by
  unfold senderCounter
  rw [UInt16.toNat_add, UInt16.toNat_ofNat']
  omega

/-- The sender's next counter. -/
theorem nextCounter_sender (first : UInt16) (step : UInt32) (n : Nat) :
    nextCounter (senderCounter first step.toNat n) step = senderCounter first step.toNat (n + 1) := by
  apply UInt16.toNat_inj.mp
  rw [toNat_nextCounter, toNat_senderCounter, toNat_senderCounter, Nat.add_mul, Nat.one_mul]
  omega

/-- The distance of two counters, as the receiver takes it. -/
theorem distance_senderCounter (first : UInt16) {step m n : Nat} (hmn : m ≤ n)
    (hreach : (n - m) * step < 65536) :
    (senderCounter first step n - senderCounter first step m).toNat = (n - m) * step := by
  have hsplit : n * step = m * step + (n - m) * step := by
    rw [← Nat.add_mul, Nat.add_sub_cancel' hmn]
  rw [UInt16.toNat_sub, toNat_senderCounter, toNat_senderCounter, hsplit]
  omega

/-! ## Frames received one after the other -/

/-- Frame `n` received right after frame `m`: the same one, or one no more than half the counter
    range later. -/
def InReach (step m n : Nat) : Prop := m ≤ n ∧ (n - m) * step ≤ 0x8000

/-- The frames that a sequence of received ones leaves out. -/
def skipped : List Nat → Nat
  | m :: n :: rest => (n - m - 1) + skipped (n :: rest)
  | _ => 0

/-- The frames that are received a further time. -/
def duplicates : List Nat → Nat
  | m :: n :: rest => (if n = m then 1 else 0) + duplicates (n :: rest)
  | _ => 0

/-- **One frame after another.** -/
theorem trackCounter_inReach (st : CyclicStats) (first : UInt16) {step : UInt32} {m n : Nat}
    (hpos : 0 < step.toNat) (h : InReach step.toNat m n) :
    st.trackCounter (senderCounter first step.toNat m) (senderCounter first step.toNat n) step
      = { st with
          framesMissed := st.framesMissed + (n - m - 1)
          framesDuplicate := st.framesDuplicate + if n = m then 1 else 0 } := by
  obtain ⟨hmn, hreach⟩ := h
  have hlt : (n - m) * step.toNat < 65536 := by omega
  have hdist := distance_senderCounter first hmn hlt
  have hexpected := nextCounter_sender first step m
  unfold nextCounter at hexpected
  unfold CyclicStats.trackCounter
  simp only
  rw [hexpected]
  rcases Nat.lt_trichotomy n (m + 1) with hsame | hnext | hlater
  · -- a duplicate
    obtain rfl : n = m := by omega
    rw [if_pos rfl, if_pos rfl, Nat.sub_self]
    rfl
  · subst hnext
    have hne : senderCounter first step.toNat (m + 1) ≠ senderCounter first step.toNat m := by
      intro heq
      rw [heq, UInt16.sub_self, Nat.add_sub_cancel_left, Nat.one_mul] at hdist
      exact absurd hdist.symm (Nat.ne_of_gt hpos)
    rw [if_neg hne, if_neg (fun h => h rfl), if_neg (by omega), Nat.add_sub_cancel_left]
    rfl
  · -- frames are missing in between
    have hfar : step.toNat < (n - m) * step.toNat := by
      have hmul : 2 * step.toNat ≤ (n - m) * step.toNat := Nat.mul_le_mul_right _ (by omega)
      omega
    have hne : senderCounter first step.toNat n ≠ senderCounter first step.toNat m := by
      intro heq
      rw [heq, UInt16.sub_self] at hdist
      exact absurd hdist.symm (by show ¬ _ = 0; omega)
    have hunexpected : senderCounter first step.toNat n
        ≠ senderCounter first step.toNat (m + 1) := by
      intro heq
      have hlt' : (m + 1 - m) * step.toNat < 65536 := by
        rw [Nat.add_sub_cancel_left]
        omega
      have hone := distance_senderCounter first (Nat.le_succ m) hlt'
      rw [Nat.succ_eq_add_one, ← heq, hdist, Nat.add_sub_cancel_left, Nat.one_mul] at hone
      omega
    have hstep : step ≠ 0 := by
      rintro rfl
      exact absurd hpos (by decide)
    have hdiv : (n - m) * step.toNat / step.toNat = n - m := Nat.mul_div_cancel _ hpos
    rw [if_neg hne, if_pos hunexpected, hdist, if_neg (by omega), if_neg hstep, if_neg (by omega),
      hdiv]
    rfl

namespace Shared

/-- Track one counter after the other. -/
def trackCounters (s : Shared) (counters : List UInt16) : Shared :=
  counters.foldl trackCycleCounter s

end Shared

/-- The next counter is tracked with the same step, against the last one. -/
theorem trackCycleCounter_facts (s : Shared) (rxCounter : UInt16) :
    (s.trackCycleCounter rxCounter).rxCounterStep = s.rxCounterStep
      ∧ (s.trackCycleCounter rxCounter).lastRxCycleCounter = some rxCounter := by
  obtain ⟨st, heq, -⟩ := s.trackCycleCounter_eq rxCounter
  rw [heq]
  exact ⟨rfl, rfl⟩

/-- A run of received frames behind frame `m`. -/
theorem trackCounters_inReach {step : UInt32} (hpos : 0 < step.toNat) (first : UInt16)
    {m : Nat} {frames : List Nat} (h : List.IsChain (InReach step.toNat) (m :: frames))
    {s : Shared} (hstep : s.rxCounterStep = step)
    (hlast : s.lastRxCycleCounter = some (senderCounter first step.toNat m)) :
    (s.trackCounters (frames.map (senderCounter first step.toNat))).stats
      = { s.stats with
          framesMissed := s.stats.framesMissed + skipped (m :: frames)
          framesDuplicate := s.stats.framesDuplicate + duplicates (m :: frames) } := by
  induction frames generalizing m s with
  | nil => rfl
  | cons n rest ih =>
    obtain ⟨hmn, hrest⟩ := List.isChain_cons_cons.mp h
    have htrack : s.trackCycleCounter (senderCounter first step.toNat n) =
        { s with
          stats := { s.stats with
            framesMissed := s.stats.framesMissed + (n - m - 1)
            framesDuplicate := s.stats.framesDuplicate + if n = m then 1 else 0 }
          lastRxCycleCounter := some (senderCounter first step.toNat n) } := by
      unfold Shared.trackCycleCounter
      rw [hlast]
      simp only
      rw [hstep, trackCounter_inReach s.stats first hpos hmn]
    obtain ⟨hstep', hlast'⟩ := trackCycleCounter_facts s (senderCounter first step.toNat n)
    show ((s.trackCycleCounter _).trackCounters (rest.map _)).stats = _
    rw [ih hrest (hstep'.trans hstep) hlast', htrack]
    simp only [skipped, duplicates, Nat.add_assoc]

/-- The first frame is only recorded. -/
theorem trackCounters_first {step : UInt32} (hpos : 0 < step.toNat) (first : UInt16)
    {frames : List Nat} (h : List.IsChain (InReach step.toNat) frames) {s : Shared}
    (hstep : s.rxCounterStep = step) (hlast : s.lastRxCycleCounter = none) :
    (s.trackCounters (frames.map (senderCounter first step.toNat))).stats
      = { s.stats with
          framesMissed := s.stats.framesMissed + skipped frames
          framesDuplicate := s.stats.framesDuplicate + duplicates frames } := by
  cases frames with
  | nil => rfl
  | cons m rest =>
    have htrack : s.trackCycleCounter (senderCounter first step.toNat m)
        = { s with lastRxCycleCounter := some (senderCounter first step.toNat m) } := by
      unfold Shared.trackCycleCounter
      rw [hlast]
    obtain ⟨hstep', hlast'⟩ := trackCycleCounter_facts s (senderCounter first step.toNat m)
    show ((s.trackCycleCounter _).trackCounters (rest.map _)).stats = _
    rw [trackCounters_inReach hpos first h (hstep'.trans hstep) hlast', htrack]

/-! ## The counters of our own frames -/

namespace Shared

/-- The output frames a controller builds one after the other. -/
def outputFrames (s : Shared) : List (Option UInt8) → List (List UInt8)
  | [] => []
  | dataStatus :: rest =>
    (s.nextOutputFrame dataStatus).1 :: (s.nextOutputFrame dataStatus).2.outputFrames rest

end Shared

/-- The counters of the RT frames among these. -/
def countersOf (frames : List (List UInt8)) : List UInt16 :=
  frames.filterMap fun frame => (parseEthernetFrame frame).map RtFrame.cycleCounter

/-- `n` counters, each the next of the one before. -/
def counterRun (prev : UInt16) (step : UInt32) : Nat → List UInt16
  | 0 => []
  | n + 1 => nextCounter prev step :: counterRun (nextCounter prev step) step n

theorem countersOf_outputFrames (s : Shared) (statuses : List (Option UInt8)) :
    countersOf (s.outputFrames statuses)
      = counterRun s.cycleCounter s.txCounterStep statuses.length := by
  induction statuses generalizing s with
  | nil => rfl
  | cons dataStatus rest ih =>
    have hparse : parseEthernetFrame (s.nextOutputFrame dataStatus).1
        = some (s.nextRtFrame dataStatus) := by
      rw [nextOutputFrame_eq, parse_built]
    unfold countersOf at ih ⊢
    rw [Shared.outputFrames, List.filterMap_cons, hparse]
    show s.advanceCounter.cycleCounter :: _ = _
    rw [ih]
    rfl

/-- The expected counter, which is another one, changes nothing. -/
theorem trackCounter_next (st : CyclicStats) (prev : UInt16) {step : UInt32}
    (h : step.toNat % 65536 ≠ 0) : st.trackCounter prev (nextCounter prev step) step = st := by
  have hne : nextCounter prev step ≠ prev := by
    intro heq
    have hnat := congrArg UInt16.toNat heq
    rw [toNat_nextCounter] at hnat
    have hprev := prev.toNat_lt
    omega
  unfold CyclicStats.trackCounter
  simp only
  rw [if_neg hne]
  exact if_neg fun hunexpected => hunexpected rfl

theorem trackCounters_run {step : UInt32} (h : step.toNat % 65536 ≠ 0) (n : Nat) (prev : UInt16)
    {s : Shared} (hstep : s.rxCounterStep = step)
    (hlast : s.lastRxCycleCounter = none ∨ s.lastRxCycleCounter = some prev) :
    (s.trackCounters (counterRun prev step n)).stats = s.stats := by
  induction n generalizing prev s with
  | zero => rfl
  | succ n ih =>
    have htrack : s.trackCycleCounter (nextCounter prev step)
        = { s with lastRxCycleCounter := some (nextCounter prev step) } := by
      unfold Shared.trackCycleCounter
      rcases hlast with hnone | hsome
      · rw [hnone]
      · rw [hsome]
        simp only
        rw [hstep, trackCounter_next s.stats prev h]
    obtain ⟨hstep', hlast'⟩ := trackCycleCounter_facts s (nextCounter prev step)
    show ((s.trackCycleCounter _).trackCounters (counterRun (nextCounter prev step) step n)).stats
      = _
    rw [ih (nextCounter prev step) (hstep'.trans hstep) (.inr hlast'), htrack]

/-! ## Both together -/

/-- The counter step of an IOCR does not overflow, and no counter does when it is advanced. -/
theorem toNat_step (sendClockFactor reductionRatio : UInt16) :
    (sendClockFactor.toUInt32 * reductionRatio.toUInt32).toNat
        = sendClockFactor.toNat * reductionRatio.toNat
      ∧ ∀ counter : UInt16,
        counter.toNat + sendClockFactor.toNat * reductionRatio.toNat < 2 ^ 32 := by
  have hmul : sendClockFactor.toNat * reductionRatio.toNat ≤ 65535 * 65535 :=
    Nat.mul_le_mul (Nat.le_of_lt_succ sendClockFactor.toNat_lt)
      (Nat.le_of_lt_succ reductionRatio.toNat_lt)
  constructor
  · rw [UInt32.toNat_mul, UInt16.toNat_toUInt32, UInt16.toNat_toUInt32]
    omega
  · intro counter
    have hcounter := counter.toNat_lt
    omega

/-- **Counter accounting.**  While received frames are in reach of one another, the frames left out
    are counted as missed, the repeated ones as duplicates, and none as out of order; and the frames
    of a controller with the same step are all as expected, whatever the step, unless it is a
    multiple of `2 ^ 16`.  No sum overflows. -/
theorem counter_accounting (sendClockFactor reductionRatio : UInt16) :
    let step := sendClockFactor.toNat * reductionRatio.toNat
    (0 < step →
      ∀ (rx : Shared) (first : UInt16) (frames : List Nat),
        rx.rxCounterStep = sendClockFactor.toUInt32 * reductionRatio.toUInt32 →
        rx.lastRxCycleCounter = none → List.IsChain (InReach step) frames →
        let stats := (rx.trackCounters (frames.map (senderCounter first step))).stats
        stats.framesMissed = rx.stats.framesMissed + skipped frames
        ∧ stats.framesDuplicate = rx.stats.framesDuplicate + duplicates frames
        ∧ stats.framesOutOfOrder = rx.stats.framesOutOfOrder)
    ∧ (step % 65536 ≠ 0 →
      (∀ (rx tx : Shared) (statuses : List (Option UInt8)),
        rx.rxCounterStep = sendClockFactor.toUInt32 * reductionRatio.toUInt32 →
        tx.txCounterStep = sendClockFactor.toUInt32 * reductionRatio.toUInt32 →
        rx.lastRxCycleCounter = none →
        let stats := (rx.trackCounters (countersOf (tx.outputFrames statuses))).stats
        stats.framesMissed = rx.stats.framesMissed
        ∧ stats.framesDuplicate = rx.stats.framesDuplicate
        ∧ stats.framesOutOfOrder = rx.stats.framesOutOfOrder)
      ∧ step < 2 ^ 32 ∧ ∀ counter : UInt16, counter.toNat + step < 2 ^ 32) := by
  intro step
  obtain ⟨hstep, hsum⟩ := toNat_step sendClockFactor reductionRatio
  constructor
  · intro hpos rx first frames hrx hlast hchain
    have hpos' : 0 < (sendClockFactor.toUInt32 * reductionRatio.toUInt32).toNat := by
      rw [hstep]
      exact hpos
    have hchain' : List.IsChain
        (InReach (sendClockFactor.toUInt32 * reductionRatio.toUInt32).toNat) frames := by
      rw [hstep]
      exact hchain
    have htrack := trackCounters_first hpos' first hchain' hrx hlast
    rw [hstep] at htrack
    show (Shared.stats _).framesMissed = _ ∧ (Shared.stats _).framesDuplicate = _
      ∧ (Shared.stats _).framesOutOfOrder = _
    rw [htrack]
    exact ⟨rfl, rfl, rfl⟩
  · intro hmod
    refine ⟨?_, Nat.lt_of_le_of_lt (Nat.le_add_left _ _) (hsum 0), hsum⟩
    intro rx tx statuses hrx htx hlast
    have hmod' : (sendClockFactor.toUInt32 * reductionRatio.toUInt32).toNat % 65536 ≠ 0 := by
      rw [hstep]
      exact hmod
    have hrun := trackCounters_run hmod' statuses.length tx.cycleCounter hrx (.inl hlast)
    show (Shared.stats _).framesMissed = _ ∧ (Shared.stats _).framesDuplicate = _
      ∧ (Shared.stats _).framesOutOfOrder = _
    rw [countersOf_outputFrames, htx, hrun]
    exact ⟨rfl, rfl, rfl⟩

/-- Frames 0, 1, 1 again and 4 of a device at a step of 32, whose counter wraps in between. -/
theorem counter_accounting_bench :
    (bench.trackCounters ([0, 1, 1, 4].map (senderCounter 65500 32))).stats.framesMissed = 2 := by
  have h := (counter_accounting 32 1).1 (by decide) bench 65500 [0, 1, 1, 4] rfl rfl
    (by simp [InReach])
  exact h.1

end Profinet.Cyclic
