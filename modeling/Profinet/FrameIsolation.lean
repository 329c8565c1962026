/-
  FRAME ISOLATION: no builder operation reaches into another submodule's bytes.

  The layout side is `RtLayout`: the cells of a configuration built from a slot list are
  pairwise disjoint and tile the frame.  Here it meets the operations.  `BuilderOp.run` is one
  operation of the source with its panics, `Names c op p` says that byte `p` belongs to what
  `op` names.  From the spec lemma of each operation:

      runOps_wellFormed    no sequence of operations on a fitting configuration panics
      run_only             an operation changes only the bytes it names
      setData_getData      data written in full reads back, and nobody else's data moves

  The headline `frame_isolation` puts both sides together.
-/
import Profinet.RtBuilder

namespace Profinet.Rt

open Buffer Pack Gsdml CyclicDataBuilder

/-! ## Sequences of operations -/

/-- The operations of `CyclicDataBuilder` that change it. -/
inductive BuilderOp
  | setData (slot subslot : UInt16) (data : List UInt8)
  | setIops (slot subslot : UInt16) (status : UInt8)
  | setIocs (slot subslot : UInt16) (status : UInt8)
  | setAllIops (status : UInt8)
  | setAllIocs (status : UInt8)
  | clear
  | load (payload : List UInt8)
  | swap

namespace BuilderOp

/-- Run one operation; a refused `set_data` leaves the builder as it is. -/
def run (b : CyclicDataBuilder) : BuilderOp → Option CyclicDataBuilder
  | .setData slot subslot data => (b.setData slot subslot data).map fun r => r.toOption.getD b
  | .setIops slot subslot status => b.setIops slot subslot status
  | .setIocs slot subslot status => b.setIocs slot subslot status
  | .setAllIops status => b.setAllIops status
  | .setAllIocs status => b.setAllIocs status
  | .clear => some b.clear
  | .load payload => some (b.load payload)
  | .swap => b.swap

/-- Byte `p` belongs to what the operation names: the window, IOPS or IOCS byte of a submodule
    with that slot/subslot, or of every submodule.  `clear` and `load` are about the whole
    buffer. -/
def Names (c : IocrConfig) : BuilderOp → Nat → Prop
  | .setData slot subslot _, p => ∃ o ∈ c.objects, o.key = (slot, subslot)
      ∧ o.frameOffset ≤ p ∧ p < o.frameOffset + o.dataLength
  | .setIops slot subslot _, p => ∃ o ∈ c.objects, o.key = (slot, subslot)
      ∧ 0 < o.dataLength ∧ p = o.iopsOffset
  | .setIocs slot subslot _, p => ∃ o ∈ c.objects, o.key = (slot, subslot)
      ∧ o.iocsOffset = some p
  | .setAllIops _, p => p ∈ c.iopsOffsets
  | .setAllIocs _, p => p ∈ c.iocsOffsets
  | .clear, _ => True
  | .load _, _ => True
  | .swap, _ => False

end BuilderOp

/-- A sequence of operations. -/
def runOps (ops : List BuilderOp) (b : CyclicDataBuilder) : Option CyclicDataBuilder :=
  ops.foldlM BuilderOp.run b

theorem find_key {c : IocrConfig} {slot subslot : UInt16} {o : IoDataObject}
    (h : c.find slot subslot = some o) : o ∈ c.objects ∧ o.key = (slot, subslot) := by
  obtain ⟨hm, h1, h2⟩ := IocrConfig.find_mem h
  exact ⟨hm, by rw [IoDataObject.key, h1, h2]⟩

/-- **One operation**: it does not panic, keeps the builder well formed and its configuration,
    and changes only the bytes it names. -/
theorem run_spec {b : CyclicDataBuilder} (hb : b.WellFormed) (op : BuilderOp) :
    ∃ b', op.run b = some b' ∧ b'.WellFormed ∧ b'.config = b.config
      ∧ ∀ p, ¬ op.Names b.config p → b'.writeBuffer[p]? = b.writeBuffer[p]? := by
  cases op with
  | setData slot subslot data =>
    cases ho : b.config.find slot subslot with
    | none =>
      refine ⟨b, ?_, hb, rfl, fun p _ => rfl⟩
      simp only [BuilderOp.run, CyclicDataBuilder.setData_unknown ho, Option.map_some]
      rfl
    | some o =>
      obtain ⟨b', hset, hkept, -, hbuf⟩ := setData_spec hb ho data
      obtain ⟨hm, hkey⟩ := find_key ho
      have hwin := hb.fits.window o hm
      have hfit : o.frameOffset + (data.take o.dataLength).length ≤ b.writeBuffer.length := by
        rw [hb.writeLength, List.length_take]
        omega
      refine ⟨b', by simp only [BuilderOp.run, hset, Option.map_some]; rfl, hkept.wellFormed,
        hkept.config, ?_⟩
      intro p hp
      rw [hbuf]
      apply written_getElem?_outside hfit
      by_contra hin
      rw [List.length_take] at hin
      exact hp ⟨o, hm, hkey, by omega, by omega⟩
  | setIops slot subslot status =>
    obtain ⟨b', hset, hkept, hst⟩ := setIops_spec hb slot subslot status
    refine ⟨b', hset, hkept.wellFormed, hkept.config, fun p hp => hst.getElem?_of_notMem ?_⟩
    intro hmem
    unfold iopsPlaces at hmem
    split at hmem
    · rename_i o ho
      split at hmem
      · rename_i hpos
        exact hp ⟨o, (find_key ho).1, (find_key ho).2, hpos, List.mem_singleton.mp hmem⟩
      · exact List.not_mem_nil hmem
    · exact List.not_mem_nil hmem
  | setIocs slot subslot status =>
    obtain ⟨b', hset, hkept, hst⟩ := setIocs_spec hb slot subslot status
    refine ⟨b', hset, hkept.wellFormed, hkept.config, fun p hp => hst.getElem?_of_notMem ?_⟩
    intro hmem
    unfold iocsPlaces at hmem
    split at hmem
    · rename_i o ho
      exact hp ⟨o, (find_key ho).1, (find_key ho).2, Option.mem_toList.mp hmem⟩
    · exact List.not_mem_nil hmem
  | setAllIops status =>
    obtain ⟨b', hset, hkept, hst⟩ := setAllIops_spec hb status
    exact ⟨b', hset, hkept.wellFormed, hkept.config, fun p hp => hst.getElem?_of_notMem hp⟩
  | setAllIocs status =>
    obtain ⟨b', hset, hkept, hst⟩ := setAllIocs_spec hb status
    exact ⟨b', hset, hkept.wellFormed, hkept.config, fun p hp => hst.getElem?_of_notMem hp⟩
  | clear =>
    exact ⟨_, rfl, (clear_spec hb).wellFormed, rfl, fun p hp => absurd trivial hp⟩
  | load payload =>
    exact ⟨_, rfl, (load_spec hb payload).wellFormed, rfl, fun p hp => absurd trivial hp⟩
  | swap =>
    obtain ⟨b', hset, hwf, hconfig, hbuf, -⟩ := swap_spec hb
    exact ⟨b', hset, hwf, hconfig, fun p _ => by rw [hbuf]⟩

/-- **No sequence of operations panics**, and all of them keep the configuration. -/
theorem runOps_wellFormed {b : CyclicDataBuilder} (hb : b.WellFormed) (ops : List BuilderOp) :
    ∃ b', runOps ops b = some b' ∧ b'.WellFormed ∧ b'.config = b.config := by
  induction ops generalizing b with
  | nil => exact ⟨b, rfl, hb, rfl⟩
  | cons op ops ih =>
    obtain ⟨b₁, hrun, hwf, hconfig, -⟩ := run_spec hb op
    obtain ⟨b', hrest, hwf', hconfig'⟩ := ih hwf
    refine ⟨b', ?_, hwf', hconfig'.trans hconfig⟩
    show (op.run b).bind (fun c => ops.foldlM BuilderOp.run c) = some b'
    rw [hrun]
    exact hrest

/-! ## Reading back -/

/-- Two objects of an isolated layout share no byte of their data windows. -/
theorem windows_apart {c : IocrConfig} (hiso : c.Isolated) {o o' : IoDataObject}
    (ho : o ∈ c.objects) (ho' : o' ∈ c.objects) (hne : o ≠ o') {p : Nat}
    (hp : o.frameOffset ≤ p ∧ p < o.frameOffset + o.dataLength)
    (hp' : o'.frameOffset ≤ p ∧ p < o'.frameOffset + o'.dataLength) : False :=
  hiso.apart o ho o' ho' hne _ (window_mem_cells (by omega)) _ (window_mem_cells (by omega)) p hp
    hp'

/-- **Data written in full reads back**, and every other submodule's data stays. -/
theorem setData_getData {b : CyclicDataBuilder} (hb : b.WellFormed) (hiso : b.config.Isolated)
    (hkeys : (b.config.objects.map IoDataObject.key).Nodup) {o : IoDataObject}
    (ho : o ∈ b.config.objects) {data : List UInt8} (hlen : data.length = o.dataLength) :
    ∃ b', b.setData o.slot o.subslot data = some (.ok b')
      ∧ b'.getData o.slot o.subslot = some (.ok data)
      ∧ ∀ o' ∈ b.config.objects, o'.key ≠ o.key →
          ∃ bytes, b.getData o'.slot o'.subslot = some (.ok bytes)
            ∧ b'.getData o'.slot o'.subslot = some (.ok bytes) := by
  have hfind := IocrConfig.find_eq hkeys ho
  obtain ⟨b', hset, hkept, -, hbuf⟩ := setData_spec hb hfind data
  have hwin := hb.fits.window o ho
  rw [List.take_of_length_le (Nat.le_of_eq hlen)] at hbuf
  have hfit : o.frameOffset + data.length ≤ b.writeBuffer.length := by
    rw [hb.writeLength, hlen]
    exact hwin
  refine ⟨b', hset, ?_, ?_⟩
  · rw [getData_spec hkept.wellFormed (by rw [hkept.config]; exact hfind), hbuf, ← hlen,
      window_eq fun i hi => written_getElem?_inside hfit hi]
  · intro o' ho' hne
    have hfind' := IocrConfig.find_eq hkeys ho'
    refine ⟨_, getData_spec hb hfind', ?_⟩
    rw [getData_spec hkept.wellFormed (by rw [hkept.config]; exact hfind'), hbuf]
    congr 2
    apply window_congr
    intro i hi
    apply written_getElem?_outside hfit
    -- a byte of both windows would make the two objects one
    by_contra hin
    exact windows_apart hiso ho ho' (fun h => hne (h ▸ rfl)) (p := o'.frameOffset + i)
      ⟨by omega, by omega⟩ ⟨by omega, by omega⟩

/-- What a layout guarantees about every sequence of builder operations on it. -/
structure OpsIsolated (c : IocrConfig) : Prop where
  /-- No operation ever indexes out of bounds. -/
  runs : ∀ ops, ∃ b, runOps ops (new c) = some b
  /-- An operation changes only the bytes of the submodules it names. -/
  only : ∀ ops b, runOps ops (new c) = some b → ∀ (op : BuilderOp) (b' : CyclicDataBuilder),
    op.run b = some b' → ∀ p, ¬ op.Names c p → b'.writeBuffer[p]? = b.writeBuffer[p]?
  /-- Full-length data reads back, and every other submodule's data is unchanged. -/
  reads : ∀ ops b, runOps ops (new c) = some b → ∀ o ∈ c.objects, ∀ data : List UInt8,
    data.length = o.dataLength →
    ∃ b', b.setData o.slot o.subslot data = some (.ok b')
      ∧ b'.getData o.slot o.subslot = some (.ok data)
      ∧ ∀ o' ∈ c.objects, o'.key ≠ o.key →
          ∃ bytes, b.getData o'.slot o'.subslot = some (.ok bytes)
            ∧ b'.getData o'.slot o'.subslot = some (.ok bytes)

theorem opsIsolated {c : IocrConfig} (hfits : c.Fits) (hiso : c.Isolated)
    (hkeys : (c.objects.map IoDataObject.key).Nodup) : OpsIsolated c := by
  have hreach : ∀ ops b, runOps ops (new c) = some b → b.WellFormed ∧ b.config = c := by
    intro ops b hrun
    obtain ⟨b', hrun', hwf, hconfig⟩ := runOps_wellFormed (new_wellFormed hfits) ops
    obtain rfl : b' = b := Option.some.inj (hrun'.symm.trans hrun)
    exact ⟨hwf, hconfig⟩
  constructor
  · intro ops
    obtain ⟨b, hrun, -⟩ := runOps_wellFormed (new_wellFormed hfits) ops
    exact ⟨b, hrun⟩
  · intro ops b hrun op b' hop p hp
    obtain ⟨hwf, hconfig⟩ := hreach ops b hrun
    obtain ⟨b'', hop', -, -, honly⟩ := run_spec hwf op
    obtain rfl : b'' = b' := Option.some.inj (hop'.symm.trans hop)
    exact honly p (by rw [hconfig]; exact hp)
  · intro ops b hrun o ho data hlen
    obtain ⟨hwf, rfl⟩ := hreach ops b hrun
    exact setData_getData hwf hiso hkeys ho hlen

/-! ## The submodules of a layout -/

section Configs

variable (slots : List IoSlot) (inputFrameId outputFrameId sendClockFactor reductionRatio
  watchdogFactor : UInt16)

/-- The output layout has exactly one object per submodule, of the submodule's length. -/
theorem output_objects_perm :
    ((outputConfig slots inputFrameId outputFrameId sendClockFactor reductionRatio
      watchdogFactor).objects.map fun o => (o.key, o.dataLength)).Perm
      (slots.map fun s => (s.key, s.outputLength)) := by
  rw [output_objects, List.map_append, List.map_map, List.map_map]
  have hdata : (placedData IoSlot.outputLength slots).map
      ((fun o => (o.key, o.dataLength)) ∘ fun e => dataObject IoSlot.outputLength e.1 e.2)
      = (slots.filter fun s => s.outputLength > 0).map fun s => (s.key, s.outputLength) :=
    placedData_keys IoSlot.outputLength slots
  -- an object without data is its consumer status alone
  have hiocs : (placedIocs IoSlot.outputLength slots).map
      ((fun o => (o.key, o.dataLength)) ∘ fun e => iocsObject e.1 e.2)
      = (slots.filter fun s => s.outputLength = 0).map fun s => (s.key, s.outputLength) := by
    have hzero : (slots.filter fun s => s.outputLength = 0).map (fun s => (s.key, s.outputLength))
        = (slots.filter fun s => s.outputLength = 0).map (fun s => (s.key, 0)) := by
      apply List.map_congr_left
      intro s hs
      have h0 : s.outputLength = 0 := by simpa using (List.mem_filter.mp hs).2
      rw [h0]
    rw [hzero, ← pack_map_snd (fun _ => 1) (dataEnd IoSlot.outputLength slots)
      (slots.filter fun s => s.outputLength = 0), List.map_map]
    rfl
  rw [hdata, hiocs, ← List.map_append]
  -- objects with data come first, so the order is that of the slots up to a permutation
  refine List.Perm.map _ ?_
  have hneg : (slots.filter fun s => s.outputLength = 0)
      = slots.filter fun s => !decide (s.outputLength > 0) := by
    apply List.filter_congr
    intro s _
    by_cases h : s.outputLength = 0 <;> simp [h, Nat.pos_iff_ne_zero]
  rw [hneg]
  exact List.filter_append_perm _ slots

/-- The input layout has exactly one object per submodule with input data. -/
theorem input_objects_eq :
    (inputConfig slots inputFrameId outputFrameId sendClockFactor reductionRatio
      watchdogFactor).objects.map (fun o => (o.key, o.dataLength))
      = (slots.filter fun s => s.inputLength > 0).map fun s => (s.key, s.inputLength) := by
  rw [input_objects, List.map_map]
  exact placedData_keys IoSlot.inputLength slots

theorem output_keys_nodup (hkeys : (slots.map IoSlot.key).Nodup) :
    ((outputConfig slots inputFrameId outputFrameId sendClockFactor reductionRatio
      watchdogFactor).objects.map IoDataObject.key).Nodup := by
  have hperm := (output_objects_perm slots inputFrameId outputFrameId sendClockFactor
    reductionRatio watchdogFactor).map Prod.fst
  rw [List.map_map, List.map_map] at hperm
  exact hperm.nodup_iff.mpr hkeys

theorem input_keys_nodup (hkeys : (slots.map IoSlot.key).Nodup) :
    ((inputConfig slots inputFrameId outputFrameId sendClockFactor reductionRatio
      watchdogFactor).objects.map IoDataObject.key).Nodup := by
  have heq := congrArg (List.map Prod.fst) (input_objects_eq slots inputFrameId outputFrameId
    sendClockFactor reductionRatio watchdogFactor)
  rw [List.map_map, List.map_map] at heq
  have hsub := (List.filter_sublist (p := fun s : IoSlot => s.inputLength > 0)
    (l := slots)).map IoSlot.key
  show ((inputConfig slots inputFrameId outputFrameId sendClockFactor reductionRatio
      watchdogFactor).objects.map (Prod.fst ∘ fun o => (o.key, o.dataLength))).Nodup
  rw [heq]
  exact hkeys.sublist hsub

/-- **Frame isolation.**  On a layout built from submodules with distinct slot/subslot the
    output cells are pairwise disjoint and tile `[0, total)`, the input cells are pairwise
    disjoint and tile a prefix that is followed by one byte per input-less submodule, and every
    sequence of builder operations stays inside the submodules it names. -/
theorem frame_isolation (hkeys : (slots.map IoSlot.key).Nodup) :
    let inC := inputConfig slots inputFrameId outputFrameId sendClockFactor reductionRatio
      watchdogFactor
    let outC := outputConfig slots inputFrameId outputFrameId sendClockFactor reductionRatio
      watchdogFactor
    ((outC.objects.map fun o => (o.key, o.dataLength)).Perm
        (slots.map fun s => (s.key, s.outputLength))
      ∧ outC.cells.Pairwise Extent.Disjoint
      ∧ (∀ p, (∃ c ∈ outC.cells, c.Has p) ↔ p < frameTotal IoSlot.outputLength slots)
      ∧ outC.dataLength = max (frameTotal IoSlot.outputLength slots) 40)
    ∧ (inC.objects.map (fun o => (o.key, o.dataLength))
          = (slots.filter fun s => s.inputLength > 0).map (fun s => (s.key, s.inputLength))
      ∧ inC.cells.Pairwise Extent.Disjoint
      ∧ (∀ p, (∃ c ∈ inC.cells, c.Has p) ↔ p < dataEnd IoSlot.inputLength slots)
      ∧ inC.dataLength = max (dataEnd IoSlot.inputLength slots
          + (slots.filter fun s => s.inputLength = 0).length) 40)
    ∧ OpsIsolated outC ∧ OpsIsolated inC := by
  intro inC outC
  have hout := output_tiles slots inputFrameId outputFrameId sendClockFactor reductionRatio
    watchdogFactor
  have hin := input_tiles slots inputFrameId outputFrameId sendClockFactor reductionRatio
    watchdogFactor
  refine ⟨⟨?_, hout.pairwise_disjoint, ?_, ?_⟩, ⟨?_, hin.pairwise_disjoint, ?_, ?_⟩, ?_, ?_⟩
  · exact output_objects_perm slots inputFrameId outputFrameId sendClockFactor reductionRatio
      watchdogFactor
  · intro p
    rw [hout.covers p]
    exact and_iff_right (Nat.zero_le p)
  · exact output_dataLength slots inputFrameId outputFrameId sendClockFactor reductionRatio
      watchdogFactor
  · exact input_objects_eq slots inputFrameId outputFrameId sendClockFactor reductionRatio
      watchdogFactor
  · intro p
    rw [hin.covers p]
    exact and_iff_right (Nat.zero_le p)
  · exact input_dataLength slots inputFrameId outputFrameId sendClockFactor reductionRatio
      watchdogFactor
  · exact opsIsolated (output_fits slots inputFrameId outputFrameId sendClockFactor
      reductionRatio watchdogFactor) (output_isolated slots inputFrameId outputFrameId
      sendClockFactor reductionRatio watchdogFactor) (output_keys_nodup slots inputFrameId
      outputFrameId sendClockFactor reductionRatio watchdogFactor hkeys)
  · exact opsIsolated (input_fits slots inputFrameId outputFrameId sendClockFactor
      reductionRatio watchdogFactor) (input_isolated slots inputFrameId outputFrameId
      sendClockFactor reductionRatio watchdogFactor) (input_keys_nodup slots inputFrameId
      outputFrameId sendClockFactor reductionRatio watchdogFactor hkeys)

end Configs

/-- A mixed, an input-only and an output-only submodule. -/
theorem frame_isolation_mixed :
    OpsIsolated (outputConfig [⟨1, 1, 0x10, 0x11, 2, 1⟩, ⟨2, 1, 0x20, 0x21, 4, 0⟩,
      ⟨2, 2, 0x20, 0x22, 0, 3⟩] 0xC001 0x8000 32 1 3) :=
  (frame_isolation _ 0xC001 0x8000 32 1 3 (by decide)).2.2.1

end Profinet.Rt
