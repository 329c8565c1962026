/-
  OWNER EFFECTS: what a section of the owner can do.

  `ownerStep_effect` goes through the sections of `Threads` once and says what each of them does
  to what the other modules are about: the threads, the fault latch, the registered safe output,
  the image and the frames.  A section outside `start` spawns no thread and leaves the latch; one
  outside a write leaves the registered output; one that neither writes nor applies the safe
  output leaves the data of the image; and a frame is built from the image.
-/
import Profinet.ThreadEffects

namespace Profinet.Cyclic

open Util Rt CyclicDataBuilder

/-! ## Kinds of sections -/

/-- The sections of `start`. -/
def OwnerPc.starts : OwnerPc → Bool
  | .startRead | .starting | .startRunning | .startStats | .startFault | .startCounter | .openTx
  | .openRx | .startSwap | .spawnTx | .spawnRx | .started => true
  | _ => false

/-- The sections of the calls that write the image or register a safe one. -/
def OwnerPc.edits : OwnerPc → Bool
  | .setSafe .. | .writeRead .. | .writeData .. => true
  | _ => false

/-- The section that applies the safe output. -/
def OwnerPc.applies : OwnerPc → Bool
  | .safeApply _ => true
  | _ => false

/-! ## The effect -/

/-- What a section of the owner does. -/
structure OwnerEffect (y y' : Sys) : Prop where
  /-- Only a call gets the owner into `start`. -/
  stays : y.owner.starts = false → y'.owner.starts = false
  rx : y.owner.starts = false → y'.rx = y.rx
  everFaulted : y.owner.starts = false → y'.sh.everFaulted = y.sh.everFaulted
  /-- Only a call gets the owner into a write. -/
  calm : y.owner.edits = false → y'.owner.edits = false
  safeOutput : y.owner.edits = false → y'.sh.safeOutput = y.sh.safeOutput
  /-- What is about to be applied is what is registered. -/
  applied : ∀ safe, y'.owner = .safeApply safe → safe = y.sh.safeOutput
  config : y'.sh.outputBuilder.1.config = y.sh.outputBuilder.1.config
  data : y.owner.edits = false → y.owner.applies = false →
    KeepsData y.sh.outputBuilder y'.sh.outputBuilder
  frames : y'.frames = y.frames ∨ ∃ counter dataStatus,
    y'.frames = y.frames ++ [y'.sh.outputFrame counter dataStatus y'.sh.outputBuilder.1.writeBuffer]

/-- A section between calls, writes and applications aside, that builds no frame. -/
theorem OwnerEffect.plain {y y' : Sys} (hstarts : y'.owner.starts = false)
    (hedits : y'.owner.edits = false) (happlies : y'.owner.applies = false) (hrx : y'.rx = y.rx)
    (hev : y'.sh.everFaulted = y.sh.everFaulted) (hsafe : y'.sh.safeOutput = y.sh.safeOutput)
    (hdata : KeepsData y.sh.outputBuilder y'.sh.outputBuilder) (hframes : y'.frames = y.frames) :
    OwnerEffect y y' where
  stays := fun _ => hstarts
  rx := fun _ => hrx
  everFaulted := fun _ => hev
  calm := fun _ => hedits
  safeOutput := fun _ => hsafe
  applied := by
    intro safe h
    rw [h] at happlies
    nomatch happlies
  config := hdata.config
  data := fun _ _ => hdata
  frames := .inl hframes

/-- A section of `start`. -/
theorem OwnerEffect.start {y y' : Sys} (hpc : y.owner.starts = true)
    (hedits : y'.owner.edits = false) (happlies : y'.owner.applies = false)
    (hsafe : y'.sh.safeOutput = y.sh.safeOutput)
    (hdata : KeepsData y.sh.outputBuilder y'.sh.outputBuilder) (hframes : y'.frames = y.frames) :
    OwnerEffect y y' where
  stays := fun h => nomatch hpc.symm.trans h
  rx := fun h => nomatch hpc.symm.trans h
  everFaulted := fun h => nomatch hpc.symm.trans h
  calm := fun _ => hedits
  safeOutput := fun _ => hsafe
  applied := by
    intro safe h
    rw [h] at happlies
    nomatch happlies
  config := hdata.config
  data := fun _ _ => hdata
  frames := .inl hframes

/-- A transition of the owner outside `start`. -/
theorem moveTo_plain (y : Sys) (newState : CyclicState) {next : OwnerPc}
    (hstarts : next.starts = false) (hedits : next.edits = false) (happlies : next.applies = false) :
    OwnerEffect y (y.moveTo newState next) := by
  obtain ⟨h1, -, -, h4, h5, h6, h7, h8⟩ := moveTo_effect y newState next
  refine .plain ?_ ?_ ?_ h7 h4 h5 ?_ h8
  · rw [h1]
    exact hstarts
  · rw [h1]
    exact hedits
  · rw [h1]
    exact happlies
  · rw [h6]
    exact .refl _

/-- A transition of `start`. -/
theorem moveTo_start (y : Sys) (newState : CyclicState) {next : OwnerPc}
    (hpc : y.owner.starts = true) (hedits : next.edits = false) (happlies : next.applies = false) :
    OwnerEffect y (y.moveTo newState next) := by
  obtain ⟨h1, -, -, -, h5, h6, -, h8⟩ := moveTo_effect y newState next
  refine .start hpc ?_ ?_ h5 ?_ h8
  · rw [h1]
    exact hedits
  · rw [h1]
    exact happlies
  · rw [h6]
    exact .refl _

/-- **Every section of the owner.** -/
theorem ownerStep_effect {now : Instant} {ok : Bool} {y y' : Sys}
    (h : ownerStep now ok y = some y') : OwnerEffect y y' := by
  unfold ownerStep at h
  generalize howner : y.owner = pc at h
  have hstarts (hs : pc.starts = true) : y.owner.starts = true := by
    rw [howner]
    exact hs
  cases pc with
  | idle =>
    nomatch h
  | setSafe slot subslot data =>
    cases h
    have hedits : y.owner.edits = true := by rw [howner]; rfl
    exact ⟨fun _ => rfl, fun _ => rfl, fun _ => rfl, fun _ => rfl,
      fun he => (nomatch hedits.symm.trans he), nofun, rfl, fun _ _ => .refl _, .inl rfl⟩
  | writeRead slot subslot data =>
    cases h
    have hedits : y.owner.edits = true := by rw [howner]; rfl
    cases hlocked : outputWritesLocked y.sh.state with
    | true => exact .plain rfl rfl rfl rfl rfl rfl (.refl _) rfl
    | false =>
      exact ⟨fun _ => rfl, fun _ => rfl, fun _ => rfl, fun he => (nomatch hedits.symm.trans he),
        fun _ => rfl, nofun, rfl, fun _ _ => .refl _, .inl rfl⟩
  | writeData slot subslot data =>
    have hedits : y.owner.edits = true := by rw [howner]; rfl
    dsimp only at h
    split at h
    · cases h
      exact .plain rfl rfl rfl rfl rfl rfl (.refl _) rfl
    · rename_i b hset
      cases h
      have hconfig := (b.setIops_facts slot subslot ioxsGood).1.config.trans
        (OutputBuilder.setData_kept hset).config
      exact ⟨fun _ => rfl, fun _ => rfl, fun _ => rfl, fun _ => rfl, fun _ => rfl, nofun, hconfig,
        fun he => (nomatch hedits.symm.trans he), .inl rfl⟩
  | safeRead =>
    cases h
    refine ⟨fun _ => rfl, fun _ => rfl, fun _ => rfl, fun _ => rfl, fun _ => rfl, ?_, rfl,
      fun _ _ => .refl _, .inl rfl⟩
    intro safe hs
    exact (OwnerPc.safeApply.inj hs).symm
  | safeApply safe =>
    have happlies : y.owner.applies = true := by rw [howner]; rfl
    cases safe with
    | none =>
      cases h
      exact .plain rfl rfl rfl rfl rfl rfl (.refl _) rfl
    | some entry =>
      obtain ⟨slot, subslot, data⟩ := entry
      dsimp only at h
      split at h
      · rename_i e hset
        cases h
        have hq := quiet_emit y.sh (.error s!"safe output not applied: {e}")
        exact .plain rfl rfl rfl rfl hq.everFaulted hq.safeOutput (hq.builder.symm ▸ .refl _) rfl
      · rename_i b hset
        cases h
        have hconfig := (b.setIops_facts slot subslot ioxsGood).1.config.trans
          (OutputBuilder.setData_kept hset).config
        exact ⟨fun _ => rfl, fun _ => rfl, fun _ => rfl, fun _ => rfl, fun _ => rfl, nofun,
          (b.setIops slot subslot ioxsGood).swap_facts.1.trans hconfig,
          fun _ ha => (nomatch happlies.symm.trans ha), .inl rfl⟩
  | stopLoad =>
    cases h
    cases hrun : y.sh.running with
    | true => exact .plain rfl rfl rfl rfl rfl rfl (.refl _) rfl
    | false => exact .plain rfl rfl rfl rfl rfl rfl (.refl _) rfl
  | stopping =>
    cases h
    exact moveTo_plain y .stopping rfl rfl rfl
  | stopClear | burstCounter i | burstCount i =>
    cases h
    exact .plain rfl rfl rfl rfl rfl rfl (.refl _) rfl
  | joinTx | joinRx =>
    dsimp only at h
    split at h
    · cases h
      exact .plain rfl rfl rfl rfl rfl rfl (.refl _) rfl
    · split at h
      · cases h
        exact .plain rfl rfl rfl rfl rfl rfl (.refl _) rfl
      · nomatch h
  | burstSwap i =>
    dsimp only at h
    split at h
    · cases h
      exact .plain rfl rfl rfl rfl rfl rfl (keepsData_swap _) rfl
    · cases h
      exact .plain rfl rfl rfl rfl rfl rfl (.refl _) rfl
  | burstCommit i cycleCounter =>
    cases h
    obtain ⟨hconfig, hbuf, hsend, -⟩ := y.sh.outputBuilder.swap_facts
    refine ⟨fun _ => rfl, fun _ => rfl, fun _ => rfl, fun _ => rfl, fun _ => rfl, nofun, hconfig,
      fun _ _ => keepsData_swap _, .inr ⟨cycleCounter, some Shared.stopStatus, ?_⟩⟩
    show y.frames ++ [Shared.outputFrame _ _ _ y.sh.outputBuilder.swap.1.sendBuffer]
      = y.frames ++ [Shared.outputFrame _ _ _ y.sh.outputBuilder.swap.1.writeBuffer]
    rw [hsend, hbuf]
  | burstSend i =>
    cases h
    cases ok with
    | true => exact .plain rfl rfl rfl rfl rfl rfl (.refl _) rfl
    | false => exact .plain rfl rfl rfl rfl rfl rfl (.refl _) rfl
  | stopped =>
    cases h
    exact moveTo_plain y .stopped rfl rfl rfl
  | startRead =>
    cases h
    cases hst : y.sh.state.startable with
    | true => exact .start (hstarts rfl) rfl rfl rfl (.refl _) rfl
    | false => exact .start (hstarts rfl) rfl rfl rfl (.refl _) rfl
  | starting =>
    cases h
    exact moveTo_start y .starting (hstarts rfl) rfl rfl
  | startRunning | startStats | startFault | startCounter =>
    cases h
    exact .start (hstarts rfl) rfl rfl rfl (.refl _) rfl
  | startSwap =>
    cases h
    exact .start (hstarts rfl) rfl rfl rfl (keepsData_swap _) rfl
  | openTx | openRx | spawnTx | spawnRx =>
    -- a socket or a spawn that fails ends the call
    cases ok with
    | true =>
      cases h
      exact .start (hstarts rfl) rfl rfl rfl (.refl _) rfl
    | false =>
      cases h
      exact .start (hstarts rfl) rfl rfl rfl (.refl _) rfl
  | started =>
    cases h
    exact moveTo_start y .running (hstarts rfl) rfl rfl

end Profinet.Cyclic
