/-
  STOP FRAMES: from `apply_safe_output` on, every frame carries the safe image.

  Three parties touch the output builder after a stop has applied the safe output: an RX thread
  sets the IOCS bytes, a TX thread and the STOP burst swap and build.  The first stays out of
  every window and IOPS byte because the layout is isolated; the others copy the write buffer
  into the frame.  So the invariant is about the write buffer alone (`Safe`), and nobody but a
  later write can break it:

      secured_apply        the application of the safe output establishes it
      secured_step         any step but a write keeps it
      step_frames          a frame is a copy of the write buffer
      stop_frames          so every frame built from there on is safe
-/
import Profinet.FrameIsolation
import Profinet.OutputImage
import Profinet.OwnerEffects

namespace Profinet.Cyclic

open Buffer Pack Wire Gsdml Util Rt CyclicDataBuilder

/-! ## The image under a step -/

/-- **Every step keeps the layout**, and every step but a write, or the application of the safe
    output, keeps the data bytes. -/
theorem step_image {y y' : Sys} {a : Act} (h : step y a = some y') :
    y'.sh.outputBuilder.1.config = y.sh.outputBuilder.1.config
      ∧ (y.owner.edits = false → (y.owner.applies = false ∨ ∀ now ok, a ≠ .owner now ok) →
          KeepsData y.sh.outputBuilder y'.sh.outputBuilder) := by
  -- loops and calls write no data: they stamp or commit
  cases a with
  | call c =>
    obtain ⟨-, rfl⟩ := step_call h
    exact ⟨rfl, fun _ _ => .refl _⟩
  | owner now ok =>
    have he := ownerStep_effect h
    refine ⟨he.config, fun hedits hor => he.data hedits ?_⟩
    rcases hor with happlies | hne
    · exact happlies
    · exact absurd rfl (hne now ok)
  | rx i now r =>
    obtain ⟨pc, sh, pc', -, hstep, rfl⟩ := step_rx h
    rcases (rxStep_effect hstep).builder with hb | ⟨x, hb⟩
    · exact ⟨congrArg (fun b => b.1.config) hb, fun _ _ => hb ▸ .refl _⟩
    · have hk := keepsData_setAllIocs y.sh.outputBuilder x
      rw [← hb] at hk
      exact ⟨hk.config, fun _ _ => hk⟩
  | tx i now sendError =>
    obtain ⟨t, sh, t', frame, hstep, rfl⟩ := step_tx h
    rcases txStep_effect hstep with ⟨hq, -⟩ | ⟨rfl, -⟩
    · exact ⟨congrArg (fun b => b.1.config) hq.builder, fun _ _ => hq.builder ▸ .refl _⟩
    · have hk := keepsData_swap y.sh.outputBuilder
      exact ⟨hk.config, fun _ _ => hk⟩

/-- A step builds at most one frame, and that carries the write buffer it leaves. -/
theorem step_frames {y y' : Sys} {a : Act} (h : step y a = some y') :
    y'.frames = y.frames ∨ ∃ counter dataStatus,
      y'.frames = y.frames
        ++ [y'.sh.outputFrame counter dataStatus y'.sh.outputBuilder.1.writeBuffer] := by
  cases a with
  | call c =>
    obtain ⟨-, rfl⟩ := step_call h
    exact .inl rfl
  | owner now ok => exact (ownerStep_effect h).frames
  | rx i now r =>
    obtain ⟨pc, sh, pc', -, -, rfl⟩ := step_rx h
    exact .inl rfl
  | tx i now sendError =>
    obtain ⟨t, sh, t', frame, hstep, rfl⟩ := step_tx h
    rcases txStep_effect hstep with ⟨-, rfl⟩ | ⟨rfl, counter, dataStatus, rfl⟩
    · exact .inl (List.append_nil _)
    · obtain ⟨-, hbuf, hsend, -⟩ := y.sh.outputBuilder.swap_facts
      refine .inr ⟨counter, dataStatus, ?_⟩
      show y.frames ++ [Shared.outputFrame _ _ _ y.sh.outputBuilder.swap.1.sendBuffer]
        = y.frames ++ [Shared.outputFrame _ _ _ y.sh.outputBuilder.swap.1.writeBuffer]
      rw [hsend, hbuf]

/-! ## The safe image -/

/-- No output write and no other safe output is begun. -/
def Act.writes : Act → Bool
  | .call (.setOutputData ..) | .call (.setSafeOutput ..) => true
  | _ => false

/-- A sequence of steps of the threads and of `start` and `stop`. -/
def NoWrites (as : List Act) : Prop := ∀ a ∈ as, a.writes = false

/-- The controller is between writes, and its safe output is `safe`, also where a stop is about to
    apply one. -/
structure Armed (safe : UInt16 × UInt16 × List UInt8) (y : Sys) : Prop where
  calm : y.owner.edits = false
  safeOutput : y.sh.safeOutput = some safe
  applied : ∀ r, y.owner = .safeApply r → r = some safe

theorem armed_step {safe : UInt16 × UInt16 × List UInt8} {y y' : Sys} {a : Act}
    (ha : a.writes = false) (hy : Armed safe y) (h : step y a = some y') : Armed safe y' := by
  cases a with
  | call c =>
    obtain ⟨-, rfl⟩ := step_call h
    cases c with
    | start => exact ⟨rfl, hy.safeOutput, nofun⟩
    | stop => exact ⟨rfl, hy.safeOutput, nofun⟩
    | setOutputData _ _ _ => nomatch ha
    | setSafeOutput _ _ _ => nomatch ha
  | owner now ok =>
    have he := ownerStep_effect h
    exact ⟨he.calm hy.calm, (he.safeOutput hy.calm).trans hy.safeOutput,
      fun r hr => (he.applied r hr).trans hy.safeOutput⟩
  | rx i now r =>
    obtain ⟨pc, sh, pc', -, hstep, rfl⟩ := step_rx h
    exact ⟨hy.calm, (rxStep_effect hstep).safeOutput.trans hy.safeOutput, hy.applied⟩
  | tx i now sendError =>
    obtain ⟨t, sh, t', frame, hstep, rfl⟩ := step_tx h
    rcases txStep_effect hstep with ⟨hq, -⟩ | ⟨rfl, -⟩
    · exact ⟨hy.calm, hq.safeOutput.trans hy.safeOutput, hy.applied⟩
    · exact ⟨hy.calm, hy.safeOutput, hy.applied⟩

/-- The write buffer holds the safe bytes of an object, marked good. -/
structure Safe (o : IoDataObject) (data : List UInt8) (buf : List UInt8) : Prop where
  window : ∀ i, i < o.dataLength → buf[o.frameOffset + i]? = data[i]?
  iops : 0 < o.dataLength → buf[o.iopsOffset]? = some ioxsGood

/-- What keeps the data bytes keeps the safe image. -/
theorem keepsData_safe {b b' : OutputBuilder} (h : KeepsData b b') (hiso : b.1.config.Isolated)
    {o : IoDataObject} (ho : o ∈ b.1.config.objects) {data : List UInt8}
    (hsafe : Safe o data b.1.writeBuffer) : Safe o data b'.1.writeBuffer where
  window := fun i hi => (h.bytes _ fun hp => hiso.window_iocs ho hp
    ⟨Nat.le_add_right _ _, Nat.add_lt_add_left hi _⟩).trans (hsafe.window i hi)
  iops := fun hpos => (h.bytes _ fun hp => hiso.iops_iocs ho hpos hp rfl).trans (hsafe.iops hpos)

/-- The section that applies a safe output of an object's full length. -/
theorem safeApply_safe {now : Instant} {ok : Bool} {y y' : Sys}
    (hiso : y.sh.outputBuilder.1.config.Isolated)
    (hkeys : (y.sh.outputBuilder.1.config.objects.map IoDataObject.key).Nodup)
    {o : IoDataObject} (ho : o ∈ y.sh.outputBuilder.1.config.objects) {data : List UInt8}
    (hfull : data.length = o.dataLength) (hpc : y.owner = .safeApply (some (o.slot, o.subslot, data)))
    (h : ownerStep now ok y = some y') : Safe o data y'.sh.outputBuilder.1.writeBuffer := by
  -- the safe output names the object, so it is found and fills its window
  have hfind := IocrConfig.find_eq hkeys ho
  have hput := setData_put y.sh.outputBuilder o.slot o.subslot data
  cases hp : put y.sh.outputBuilder.1.config y.sh.outputBuilder.1.writeBuffer o.slot o.subslot
      data with
  | none =>
    unfold put at hp
    rw [hfind] at hp
    nomatch hp
  | some image =>
    rw [hp] at hput
    obtain ⟨b, hset, -, himage, -⟩ := hput
    obtain ⟨hwin, hiops⟩ := put_inside y.sh.outputBuilder.2.fits hiso
      y.sh.outputBuilder.2.writeLength hfind hp
    simp only [ownerStep, hpc, hset] at h
    obtain rfl := Option.some.inj h
    have hbuf : (b.setIops o.slot o.subslot ioxsGood).swap.1.writeBuffer = image :=
      ((b.setIops o.slot o.subslot ioxsGood).swap_facts.2.1).trans himage
    exact ⟨fun i hi => by rw [← hwin i (by omega) hi]; exact congrArg (·[o.frameOffset + i]?) hbuf,
      fun hpos => by rw [← hiops hpos]; exact congrArg (·[o.iopsOffset]?) hbuf⟩

/-- The invariant: the layout, the registered safe output, and the safe image. -/
structure Secured (c : IocrConfig) (o : IoDataObject) (data : List UInt8) (y : Sys) : Prop where
  armed : Armed (o.slot, o.subslot, data) y
  config : y.sh.outputBuilder.1.config = c
  safe : Safe o data y.sh.outputBuilder.1.writeBuffer

section Secured

variable {c : IocrConfig} (hiso : c.Isolated) (hkeys : (c.objects.map IoDataObject.key).Nodup)
  {o : IoDataObject} (ho : o ∈ c.objects) {data : List UInt8}
  (hfull : data.length = o.dataLength)
include hiso hkeys ho hfull

/-- The application of the safe output establishes it. -/
theorem secured_apply {now : Instant} {ok : Bool} {y y' : Sys}
    (harmed : Armed (o.slot, o.subslot, data) y) (hconfig : y.sh.outputBuilder.1.config = c)
    {r : Option (UInt16 × UInt16 × List UInt8)} (hpc : y.owner = .safeApply r)
    (h : step y (.owner now ok) = some y') : Secured c o data y' := by
  obtain rfl := harmed.applied r hpc
  refine ⟨armed_step rfl harmed h, (step_image h).1.trans hconfig, ?_⟩
  exact safeApply_safe (by rw [hconfig]; exact hiso) (by rw [hconfig]; exact hkeys)
    (by rw [hconfig]; exact ho) hfull hpc h

/-- **No step but a write breaks it**; a later stop applies the same safe output again. -/
theorem secured_step {y y' : Sys} {a : Act} (ha : a.writes = false) (hy : Secured c o data y)
    (h : step y a = some y') : Secured c o data y' := by
  by_cases happly : y.owner.applies = false ∨ ∀ now ok, a ≠ .owner now ok
  · have hk := (step_image h).2 hy.armed.calm happly
    exact ⟨armed_step ha hy.armed h, hk.config.trans hy.config,
      keepsData_safe hk (by rw [hy.config]; exact hiso) (by rw [hy.config]; exact ho) hy.safe⟩
  · -- the owner is about to apply the safe output, and it is the owner's step
    cases a with
    | owner now ok =>
      cases howner : y.owner with
      | safeApply r => exact secured_apply hiso hkeys ho hfull hy.armed hy.config howner h
      | _ => exact absurd (.inl (by rw [howner]; rfl)) happly
    | _ => exact absurd (.inr nofun) happly

end Secured

/-- A frame carries the safe bytes of an object and GOOD in its IOPS byte. -/
def Carries (o : IoDataObject) (data frame : List UInt8) : Prop :=
  (∀ i, i < o.dataLength → frame[20 + (o.frameOffset + i)]? = data[i]?)
    ∧ (0 < o.dataLength → frame[20 + o.iopsOffset]? = some ioxsGood)

/-- The frame around a safe image. -/
theorem Safe.carries {sh : Shared} {o : IoDataObject}
    (ho : o ∈ sh.outputBuilder.1.config.objects) {data : List UInt8}
    (h : Safe o data sh.outputBuilder.1.writeBuffer) (counter : UInt16)
    (dataStatus : Option UInt8) :
    Carries o data (sh.outputFrame counter dataStatus sh.outputBuilder.1.writeBuffer) := by
  have hwf := sh.outputBuilder.2
  have hwin := hwf.fits.window o ho
  constructor
  · intro i hi
    rw [outputFrame_byte _ _ _ (by rw [hwf.writeLength]; omega)]
    exact h.window i hi
  · intro hpos
    rw [outputFrame_byte _ _ _ (by rw [hwf.writeLength]; exact hwf.fits.iops o ho hpos)]
    exact h.iops hpos

/-- Every frame a run of secured steps builds carries the safe image. -/
theorem secured_run {c : IocrConfig} (hiso : c.Isolated)
    (hkeys : (c.objects.map IoDataObject.key).Nodup) {o : IoDataObject} (ho : o ∈ c.objects)
    {data : List UInt8} (hfull : data.length = o.dataLength) {y z : Sys} {as : List Act}
    (has : NoWrites as) (hy : Secured c o data y) (h : runSys y as = some z) :
    ∃ built, z.frames = y.frames ++ built ∧ ∀ frame ∈ built, Carries o data frame := by
  induction as generalizing y with
  | nil =>
    obtain rfl : y = z := Option.some.inj h
    exact ⟨[], (List.append_nil _).symm, nofun⟩
  | cons a as ih =>
    obtain ⟨m, hm, hrest⟩ := runSys_cons.mp h
    have hsec := secured_step hiso hkeys ho hfull (has a List.mem_cons_self) hy hm
    obtain ⟨built, hbuilt, hcarry⟩ :=
      ih (fun b hb => has b (List.mem_cons_of_mem a hb)) hsec hrest
    rcases step_frames hm with hf | ⟨counter, dataStatus, hf⟩
    · exact ⟨built, by rw [hbuilt, hf], hcarry⟩
    · refine ⟨_ :: built, by rw [hbuilt, hf, List.append_assoc]; rfl, fun frame hmem => ?_⟩
      rcases List.mem_cons.mp hmem with rfl | hmem
      · exact hsec.safe.carries (by rw [hsec.config]; exact ho) counter dataStatus
      · exact hcarry frame hmem

/-- A run keeps the layout. -/
theorem config_run {y z : Sys} {as : List Act} (h : runSys y as = some z) :
    z.sh.outputBuilder.1.config = y.sh.outputBuilder.1.config := by
  have hall : ∀ a ∈ as, True := fun _ _ => trivial
  exact runSys_invariant (P := fun m => m.sh.outputBuilder.1.config = y.sh.outputBuilder.1.config)
    (fun m m' a _ hm hs => (step_image hs).1.trans hm) hall rfl h

/-- **STOP frames carry the safe image.**  On every output layout built from submodules with
    distinct slot/subslot: a reachable controller has a safe output of an object's full length
    registered when `stop` is called.  However the threads interleave before (`as`) and after
    (`bs`) the section that applies it, every frame built after that section carries the safe
    bytes, until a write is called. -/
theorem stop_frames (slots : List IoSlot) (inputFrameId outputFrameId sendClockFactor
    reductionRatio watchdogFactor : UInt16) (hkeys : (slots.map IoSlot.key).Nodup)
    (srcMac dstMac : Mac) (maxConsecutiveTimeouts : UInt32) (now : Instant) {sh : Shared}
    (hnew : Shared.new srcMac dstMac
      (inputConfig slots inputFrameId outputFrameId sendClockFactor reductionRatio watchdogFactor)
      (outputConfig slots inputFrameId outputFrameId sendClockFactor reductionRatio watchdogFactor)
      (output_fits slots inputFrameId outputFrameId sendClockFactor reductionRatio watchdogFactor)
      maxConsecutiveTimeouts now = some sh)
    {o : IoDataObject}
    (ho : o ∈ (outputConfig slots inputFrameId outputFrameId sendClockFactor reductionRatio
      watchdogFactor).objects)
    {data : List UInt8} (hfull : data.length = o.dataLength) {y0 y y' z : Sys}
    (hreach : Reachable sh y0) (hcall : y0.owner = .safeRead)
    (hsafe : y0.sh.safeOutput = some (o.slot, o.subslot, data))
    {as bs : List Act} (has : NoWrites as) (hy : runSys y0 as = some y)
    {r : Option (UInt16 × UInt16 × List UInt8)} (hpc : y.owner = .safeApply r)
    {at' : Instant} {ok : Bool} (hy' : step y (.owner at' ok) = some y')
    (hbs : NoWrites bs) (hz : runSys y' bs = some z) :
    ∃ built, z.frames = y'.frames ++ built ∧ ∀ frame ∈ built,
      (∀ i, i < o.dataLength → frame[20 + (o.frameOffset + i)]? = data[i]?)
        ∧ (0 < o.dataLength → frame[20 + o.iopsOffset]? = some ioxsGood) := by
  have hiso := output_isolated slots inputFrameId outputFrameId sendClockFactor reductionRatio
    watchdogFactor
  have hkeys' := output_keys_nodup slots inputFrameId outputFrameId sendClockFactor
    reductionRatio watchdogFactor hkeys
  obtain ⟨as0, hreach⟩ := hreach
  have hconfig := (config_run hy).trans ((config_run hreach).trans (new_facts hnew hiso).1)
  -- up to the application nothing takes the safe output back
  have harmed : Armed (o.slot, o.subslot, data) y :=
    runSys_invariant (fun _ _ _ ha hm hs => armed_step ha hm hs) has
      ⟨by rw [hcall]; rfl, hsafe, fun r hr => by rw [hcall] at hr; nomatch hr⟩ hy
  exact secured_run hiso hkeys' ho hfull hbs
    (secured_apply hiso hkeys' ho hfull harmed hconfig hpc hy') hz

/-! ## A stop on the bench -/

/-- The submodule of three output bytes. -/
def benchOutput : IoDataObject := ⟨1, 2, 2, 3, 5, none⟩

/-- Started, with 7s commanded and 0s registered as the safe output, and a stop called. -/
def benchArmed : List Act :=
  benchStart ++ [.call (.setOutputData 1 2 [7, 7, 7]), .owner 0 true, .owner 0 true,
    .call (.setSafeOutput 1 2 [0, 0, 0]), .owner 0 true, .call .stop]

/-- The rest of the stop: Stopping, a TX thread that ends, and a burst of three. -/
def benchBurst : List Act :=
  List.replicate 3 (.owner 0 true) ++ [.tx 0 0 none, .tx 0 0 none]
    ++ List.replicate 17 (.owner 0 true)

/-- The stop of the bench. -/
theorem benchBurst_run :
    ∃ y0 y y' z, runSys (Sys.init bench) benchArmed = some y0 ∧ y0.owner = .safeRead
      ∧ y0.sh.safeOutput = some (1, 2, [0, 0, 0]) ∧ runSys y0 [.owner 0 true] = some y
      ∧ y.owner = .safeApply (some (1, 2, [0, 0, 0])) ∧ step y (.owner 0 true) = some y'
      ∧ runSys y' benchBurst = some z ∧ z.frames.length = 3 :=
  ⟨_, _, _, _, rfl, rfl, rfl, rfl, rfl, rfl, rfl, rfl⟩

/-- Its three STOP frames carry the 0s and GOOD. -/
theorem stop_frames_bench :
    ∃ y z, runSys (Sys.init bench) (benchArmed ++ List.replicate 2 (.owner 0 true)) = some y
      ∧ runSys y benchBurst = some z ∧ z.frames.length = 3
      ∧ ∃ built, z.frames = y.frames ++ built ∧ ∀ frame ∈ built,
        (∀ i, i < 3 → frame[22 + i]? = some 0) ∧ frame[25]? = some ioxsGood := by
  obtain ⟨y0, y, y', z, hy0, hcall, hsafe, hy, hpc, hy', hz, hlen⟩ := benchBurst_run
  have hnew : Shared.new benchController benchDevice (inputConfig benchSlots 0xC001 0xC002 32 1 3)
      (outputConfig benchSlots 0xC001 0xC002 32 1 3)
      (output_fits benchSlots 0xC001 0xC002 32 1 3) 3 0 = some bench := if_neg (by decide)
  have hthreads : NoWrites [.owner 0 true] := by
    intro a ha
    rw [List.mem_singleton.mp ha]
    rfl
  have hburst : NoWrites benchBurst := by
    intro a ha
    rcases List.mem_append.mp ha with ha | ha
    · rcases List.mem_append.mp ha with ha | ha
      · rw [List.eq_of_mem_replicate ha]
        rfl
      · rw [List.eq_of_mem_replicate (n := 2) ha]
        rfl
    · rw [List.eq_of_mem_replicate ha]
      rfl
  have hfull : ([0, 0, 0] : List UInt8).length = benchOutput.dataLength := rfl
  obtain ⟨built, hbuilt, hcarry⟩ := stop_frames benchSlots 0xC001 0xC002 32 1 3 (by decide)
    benchController benchDevice 3 0 hnew (o := benchOutput) (by decide) hfull
    ⟨benchArmed, hy0⟩ hcall hsafe hthreads hy hpc hy' hburst hz
  -- the burst of the example is three frames
  refine ⟨y', z, ?_, hz, hlen, built, hbuilt, ?_⟩
  · have htwo : runSys y0 (List.replicate 2 (.owner 0 true)) = some y' := by
      obtain ⟨m, hm, hym⟩ := runSys_cons.mp hy
      obtain rfl : m = y := Option.some.inj hym
      exact runSys_cons.mpr ⟨m, hm, runSys_cons.mpr ⟨y', hy', rfl⟩⟩
    exact runSys_append.mpr ⟨y0, hy0, htwo⟩
  · intro frame hmem
    obtain ⟨hwin, hiops⟩ := hcarry frame hmem
    refine ⟨fun i hi => ?_, hiops (by decide)⟩
    have hbyte := hwin i hi
    rw [← Nat.add_assoc] at hbyte
    rw [show (22 + i) = 20 + benchOutput.frameOffset + i from rfl, hbyte]
    match i, hi with
    | 0, _ => rfl
    | 1, _ => rfl
    | 2, _ => rfl

end Profinet.Cyclic
