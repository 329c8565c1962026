/-
  RT BUILDER: the double-buffered C_SDU payload (`CyclicDataBuilder`).

  The application writes into the write buffer, the TX path promotes it with `swap` and reads
  the send buffer with `build`.  The operations below are the source's, with its slice checks:
  `none` stands for the panic of an index or a slice out of range.

  A builder is `WellFormed` when its configuration fits its buffers and a clean dirty flag means
  that both buffers are equal.  One spec lemma per operation says that on a well-formed builder
  it does not panic, stays well formed, keeps the configuration, and which bytes it changes.
  `OutputBuilder` is the subtype; its operations are total, and they are what the controller
  uses from here on.
-/
import Mathlib.Data.List.Nodup
import Profinet.Lib.Buffer
import Profinet.RtLayout

namespace Profinet.Rt

open Buffer Pack Gsdml

/-! ## The operations of the source

  Each operation as the source writes it, an index into the buffer checked where the source
  indexes. -/

/-- Builds the C_SDU payload from IO data objects with double-buffering
    (`CyclicDataBuilder`). -/
structure CyclicDataBuilder where
  config : IocrConfig
  writeBuffer : List UInt8
  sendBuffer : List UInt8
  dirty : Bool
  deriving DecidableEq, Repr

/-- The first object of the configuration for a slot/subslot. -/
def IocrConfig.find (c : IocrConfig) (slot subslot : UInt16) : Option IoDataObject :=
  c.objects.find? fun o => o.slot = slot && o.subslot = subslot

namespace CyclicDataBuilder

/-- New builder with zeroed buffers of `config.data_length` bytes. -/
def new (config : IocrConfig) : CyclicDataBuilder :=
  { config := config
    writeBuffer := List.replicate config.dataLength 0
    sendBuffer := List.replicate config.dataLength 0
    dirty := false }

/-- Set process data in the write buffer: longer data is truncated, shorter data writes a
    prefix.  An unknown slot/subslot is an error and changes nothing. -/
def setData (b : CyclicDataBuilder) (slot subslot : UInt16) (data : List UInt8) :
    Option (Except String CyclicDataBuilder) :=
  match b.config.find slot subslot with
  | some obj =>
    let n := min data.length obj.dataLength
    (write b.writeBuffer obj.frameOffset (data.take n)).map fun buf =>
      .ok { b with writeBuffer := buf, dirty := true }
  | none => some (.error s!"Unknown slot/subslot: {slot}/{subslot}")

/-- Get process data from the write buffer. -/
def getData (b : CyclicDataBuilder) (slot subslot : UInt16) :
    Option (Except String (List UInt8)) :=
  match b.config.find slot subslot with
  | some obj => (read b.writeBuffer obj.frameOffset obj.dataLength).map .ok
  | none => some (.error s!"Unknown slot/subslot: {slot}/{subslot}")

/-- Set Provider Status.  IOCS-only objects have no IOPS byte; an unknown slot/subslot is
    silently ignored. -/
def setIops (b : CyclicDataBuilder) (slot subslot : UInt16) (status : UInt8) :
    Option CyclicDataBuilder :=
  match b.config.find slot subslot with
  | some obj =>
    if obj.dataLength > 0 then
      (write b.writeBuffer obj.iopsOffset [status]).map fun buf =>
        { b with writeBuffer := buf, dirty := true }
    else some b
  | none => some b

/-- Set Consumer Status of an object that carries one. -/
def setIocs (b : CyclicDataBuilder) (slot subslot : UInt16) (status : UInt8) :
    Option CyclicDataBuilder :=
  match b.config.find slot subslot with
  | some obj =>
    match obj.iocsOffset with
    | some off =>
      (write b.writeBuffer off [status]).map fun buf =>
        { b with writeBuffer := buf, dirty := true }
    | none => some b
  | none => some b

/-- One round of `set_all_iops`. -/
def iopsStep (status : UInt8) (buf : List UInt8) (obj : IoDataObject) : Option (List UInt8) :=
  if obj.dataLength > 0 then write buf obj.iopsOffset [status] else some buf

/-- Set IOPS for all objects that carry process data. -/
def setAllIops (b : CyclicDataBuilder) (status : UInt8) : Option CyclicDataBuilder :=
  (b.config.objects.foldlM (iopsStep status) b.writeBuffer).map fun buf =>
    { b with writeBuffer := buf, dirty := true }

/-- One round of `set_all_iocs`: the byte is compared first, and only a real change is written
    and marks the buffer dirty. -/
def iocsStep (status : UInt8) (st : List UInt8 × Bool) (obj : IoDataObject) :
    Option (List UInt8 × Bool) :=
  match obj.iocsOffset with
  | none => some st
  | some off =>
    match st.1[off]? with
    | none => none
    | some x => if x ≠ status then (write st.1 off [status]).map (·, true) else some st

/-- Set IOCS for all objects that have an iocs_offset. -/
def setAllIocs (b : CyclicDataBuilder) (status : UInt8) : Option CyclicDataBuilder :=
  (b.config.objects.foldlM (iocsStep status) (b.writeBuffer, b.dirty)).map fun st =>
    { b with writeBuffer := st.1, dirty := st.2 }

/-- Clear all data to zeros. -/
def clear (b : CyclicDataBuilder) : CyclicDataBuilder :=
  { b with writeBuffer := List.replicate b.writeBuffer.length 0, dirty := true }

/-- Copy the write buffer into the send buffer if it changed since the last swap.
    `copy_from_slice` panics on buffers of different lengths. -/
def swap (b : CyclicDataBuilder) : Option CyclicDataBuilder :=
  if b.dirty then
    if b.writeBuffer.length = b.sendBuffer.length then
      some { b with sendBuffer := b.writeBuffer, dirty := false }
    else none
  else some b

/-- The C_SDU payload. -/
def build (b : CyclicDataBuilder) : List UInt8 := b.sendBuffer

/-- Load payload data into the write buffer, truncating to the buffer size. -/
def load (b : CyclicDataBuilder) (payload : List UInt8) : CyclicDataBuilder :=
  let n := min payload.length b.writeBuffer.length
  { b with writeBuffer := written b.writeBuffer 0 (payload.take n), dirty := true }

end CyclicDataBuilder

/-! ## Well-formed builders

  A builder that was made by `new` has buffers of the C_SDU's length, and objects that lie within
  it.  Every operation keeps that, so that no index is out of range. -/

open CyclicDataBuilder

/-- The configuration fits the buffers, and a clean flag means that nothing is left to swap. -/
structure CyclicDataBuilder.WellFormed (b : CyclicDataBuilder) : Prop where
  fits : b.config.Fits
  writeLength : b.writeBuffer.length = b.config.dataLength
  sendLength : b.sendBuffer.length = b.config.dataLength
  clean : b.dirty = false → b.sendBuffer = b.writeBuffer

/-- What is found in a layout is an object of it, at the place asked for. -/
theorem IocrConfig.find_mem {c : IocrConfig} {slot subslot : UInt16} {o : IoDataObject}
    (h : c.find slot subslot = some o) : o ∈ c.objects ∧ o.slot = slot ∧ o.subslot = subslot := by
  have hp := List.find?_some h
  simp only [Bool.and_eq_true, decide_eq_true_eq] at hp
  exact ⟨List.mem_of_find?_eq_some h, hp.1, hp.2⟩

/-- `find` gives the object itself when no two objects share a slot/subslot. -/
theorem IocrConfig.find_eq {c : IocrConfig} (hkeys : (c.objects.map IoDataObject.key).Nodup)
    {o : IoDataObject} (ho : o ∈ c.objects) : c.find o.slot o.subslot = some o := by
  have hsome : (c.find o.slot o.subslot).isSome := by
    rw [find, List.find?_isSome]
    exact ⟨o, ho, by simp⟩
  obtain ⟨o', ho'⟩ := Option.isSome_iff_exists.mp hsome
  obtain ⟨hmem, h1, h2⟩ := find_mem ho'
  have hkey : o'.key = o.key := by rw [IoDataObject.key, IoDataObject.key, h1, h2]
  rw [ho', List.inj_on_of_nodup_map hkeys hmem ho hkey]

namespace CyclicDataBuilder

variable {b : CyclicDataBuilder}

/-- A new builder has buffers of the frame's length. -/
theorem new_wellFormed {config : IocrConfig} (h : config.Fits) : (new config).WellFormed where
  fits := h
  writeLength := List.length_replicate
  sendLength := List.length_replicate
  clean := fun _ => rfl

/-- Writing into the write buffer and marking it dirty keeps a builder well formed. -/
theorem WellFormed.dirtied (hb : b.WellFormed) {buf : List UInt8}
    (hlen : buf.length = b.writeBuffer.length) :
    WellFormed { b with writeBuffer := buf, dirty := true } where
  fits := hb.fits
  writeLength := hlen.trans hb.writeLength
  sendLength := hb.sendLength
  clean := fun h => nomatch h

/-- What every operation on the write buffer leaves alone. -/
structure Kept (b b' : CyclicDataBuilder) : Prop where
  wellFormed : b'.WellFormed
  config : b'.config = b.config
  send : b'.sendBuffer = b.sendBuffer

/-- Doing nothing keeps the layout. -/
theorem Kept.refl (hb : b.WellFormed) : Kept b b := ⟨hb, rfl, rfl⟩

/-- The data of a known submodule is written into its window. -/
theorem setData_spec (hb : b.WellFormed) {slot subslot : UInt16} {o : IoDataObject}
    (ho : b.config.find slot subslot = some o) (data : List UInt8) :
    ∃ b', b.setData slot subslot data = some (.ok b') ∧ Kept b b' ∧ b'.dirty = true
      ∧ b'.writeBuffer = written b.writeBuffer o.frameOffset (data.take o.dataLength) := by
  have hwin := hb.fits.window o (IocrConfig.find_mem ho).1
  have htake : data.take (min data.length o.dataLength) = data.take o.dataLength := by
    rw [Nat.min_comm, ← List.take_take, List.take_length]
  have hfit : o.frameOffset + (data.take o.dataLength).length ≤ b.writeBuffer.length := by
    rw [hb.writeLength, List.length_take]
    omega
  refine ⟨_, ?_, ⟨hb.dirtied (written_length hfit), rfl, rfl⟩, rfl, rfl⟩
  simp only [setData, ho, htake, write_eq hfit, Option.map_some]

/-- The data of an unknown one is refused. -/
theorem setData_unknown {slot subslot : UInt16} (ho : b.config.find slot subslot = none)
    (data : List UInt8) :
    b.setData slot subslot data = some (.error s!"Unknown slot/subslot: {slot}/{subslot}") := by
  simp only [setData, ho]

/-- The data of a known submodule is read from its window. -/
theorem getData_spec (hb : b.WellFormed) {slot subslot : UInt16} {o : IoDataObject}
    (ho : b.config.find slot subslot = some o) :
    b.getData slot subslot
      = some (.ok ((b.writeBuffer.drop o.frameOffset).take o.dataLength)) := by
  have hwin := hb.fits.window o (IocrConfig.find_mem ho).1
  simp only [getData, ho, read_eq (by rw [hb.writeLength]; exact hwin), Option.map_some]

/-- The places `set_iops` writes: the IOPS byte of the object it finds. -/
def iopsPlaces (c : IocrConfig) (slot subslot : UInt16) : List Nat :=
  match c.find slot subslot with
  | some o => if o.dataLength > 0 then [o.iopsOffset] else []
  | none => []

/-- The places `set_iocs` writes. -/
def iocsPlaces (c : IocrConfig) (slot subslot : UInt16) : List Nat :=
  match c.find slot subslot with
  | some o => o.iocsOffset.toList
  | none => []

/-- The provider status is stamped where the submodule has one. -/
theorem setIops_spec (hb : b.WellFormed) (slot subslot : UInt16) (status : UInt8) :
    ∃ b', b.setIops slot subslot status = some b' ∧ Kept b b'
      ∧ Stamped b.writeBuffer (iopsPlaces b.config slot subslot) status b'.writeBuffer := by
  unfold setIops iopsPlaces
  cases ho : b.config.find slot subslot with
  | none => exact ⟨b, rfl, Kept.refl hb, stamped_nil _ _⟩
  | some o =>
    simp only
    by_cases hpos : o.dataLength > 0
    · have hlt : o.iopsOffset < b.writeBuffer.length := by
        rw [hb.writeLength]
        exact hb.fits.iops o (IocrConfig.find_mem ho).1 hpos
      have hst := stamped_written hlt status
      rw [if_pos hpos, if_pos hpos]
      exact ⟨_, by rw [write_eq (show _ + [status].length ≤ _ from hlt)]; rfl,
        ⟨hb.dirtied hst.1, rfl, rfl⟩, hst⟩
    · rw [if_neg hpos, if_neg hpos]
      exact ⟨b, rfl, Kept.refl hb, stamped_nil _ _⟩

/-- The consumer status is stamped where the submodule has one. -/
theorem setIocs_spec (hb : b.WellFormed) (slot subslot : UInt16) (status : UInt8) :
    ∃ b', b.setIocs slot subslot status = some b' ∧ Kept b b'
      ∧ Stamped b.writeBuffer (iocsPlaces b.config slot subslot) status b'.writeBuffer := by
  unfold setIocs iocsPlaces
  cases ho : b.config.find slot subslot with
  | none => exact ⟨b, rfl, Kept.refl hb, stamped_nil _ _⟩
  | some o =>
    simp only
    cases hoff : o.iocsOffset with
    | none => exact ⟨b, rfl, Kept.refl hb, stamped_nil _ _⟩
    | some off =>
      have hlt : off < b.writeBuffer.length := by
        rw [hb.writeLength]
        exact hb.fits.iocs off
          (IocrConfig.mem_iocsOffsets.mpr ⟨o, (IocrConfig.find_mem ho).1, hoff⟩)
      have hst := stamped_written hlt status
      exact ⟨_, by simp only; rw [write_eq (show _ + [status].length ≤ _ from hlt)]; rfl,
        ⟨hb.dirtied hst.1, rfl, rfl⟩, hst⟩

/-- The loop of `set_all_iops` over objects whose IOPS bytes lie in the buffer. -/
theorem foldlM_iopsStep (status : UInt8) (objs : List IoDataObject) (buf : List UInt8)
    (h : ∀ o ∈ objs, 0 < o.dataLength → o.iopsOffset < buf.length) :
    ∃ buf', objs.foldlM (iopsStep status) buf = some buf'
      ∧ Stamped buf ((objs.filter fun o => 0 < o.dataLength).map IoDataObject.iopsOffset)
          status buf' := by
  induction objs generalizing buf with
  | nil => exact ⟨buf, rfl, stamped_nil _ _⟩
  | cons o l ih =>
    rw [List.foldlM_cons]
    by_cases hpos : 0 < o.dataLength
    · have hlt := h o List.mem_cons_self hpos
      have hst := stamped_written hlt status
      obtain ⟨buf', hfold, hbuf'⟩ := ih (written buf o.iopsOffset [status])
        (fun q hq hqpos => by rw [hst.1]; exact h q (List.mem_cons_of_mem o hq) hqpos)
      refine ⟨buf', ?_, ?_⟩
      · rw [iopsStep, if_pos hpos, write_eq (show _ + [status].length ≤ _ from hlt)]
        exact hfold
      · rw [List.filter_cons_of_pos (by simpa using hpos), List.map_cons]
        exact hst.trans hbuf'
    · obtain ⟨buf', hfold, hbuf'⟩ := ih buf
        (fun q hq hqpos => h q (List.mem_cons_of_mem o hq) hqpos)
      refine ⟨buf', ?_, ?_⟩
      · rw [iopsStep, if_neg hpos]
        exact hfold
      · rwa [List.filter_cons_of_neg (by simpa using hpos)]

/-- The provider status is stamped on every object of the frame. -/
theorem setAllIops_spec (hb : b.WellFormed) (status : UInt8) :
    ∃ b', b.setAllIops status = some b' ∧ Kept b b'
      ∧ Stamped b.writeBuffer b.config.iopsOffsets status b'.writeBuffer := by
  obtain ⟨buf', hfold, hst⟩ := foldlM_iopsStep status b.config.objects b.writeBuffer
    (fun o ho hpos => by rw [hb.writeLength]; exact hb.fits.iops o ho hpos)
  exact ⟨_, by rw [setAllIops, hfold]; rfl, ⟨hb.dirtied hst.1, rfl, rfl⟩, hst⟩

/-- The loop of `set_all_iocs`.  The flag it leaves is clean only if it was and no byte
    changed: that is what the comparison in front of the write buys. -/
theorem foldlM_iocsStep (status : UInt8) (objs : List IoDataObject) (buf : List UInt8)
    (dirty : Bool)
    (h : ∀ o ∈ objs, ∀ off, o.iocsOffset = some off → off < buf.length) :
    ∃ buf' dirty', objs.foldlM (iocsStep status) (buf, dirty) = some (buf', dirty')
      ∧ Stamped buf (objs.filterMap IoDataObject.iocsOffset) status buf'
      ∧ (dirty' = false → dirty = false ∧ buf' = buf) := by
  induction objs generalizing buf dirty with
  | nil => exact ⟨buf, dirty, rfl, stamped_nil _ _, fun hd => ⟨hd, rfl⟩⟩
  | cons o l ih =>
    rw [List.foldlM_cons]
    cases hoff : o.iocsOffset with
    | none =>
      obtain ⟨buf', dirty', hfold, hst, hclean⟩ := ih buf dirty
        (fun q hq => h q (List.mem_cons_of_mem o hq))
      refine ⟨buf', dirty', ?_, ?_, hclean⟩
      · simp only [iocsStep, hoff]
        exact hfold
      · rwa [List.filterMap_cons_none hoff]
    | some off =>
      have hlt := h o List.mem_cons_self off hoff
      have hget : buf[off]? = some buf[off] := List.getElem?_eq_getElem hlt
      rw [List.filterMap_cons_some hoff]
      by_cases hx : buf[off] ≠ status
      · have hst0 := stamped_written hlt status
        obtain ⟨buf', dirty', hfold, hst, hclean⟩ := ih (written buf off [status]) true
          (fun q hq p hp => by rw [hst0.1]; exact h q (List.mem_cons_of_mem o hq) p hp)
        refine ⟨buf', dirty', ?_, hst0.trans hst, fun hd => nomatch (hclean hd).1⟩
        simp only [iocsStep, hoff, hget, if_pos hx]
        rw [write_eq (show _ + [status].length ≤ _ from hlt)]
        exact hfold
      · obtain ⟨buf', dirty', hfold, hst, hclean⟩ := ih buf dirty
          (fun q hq => h q (List.mem_cons_of_mem o hq))
        have heq : buf[off]? = some status := by rw [hget, Decidable.not_not.mp hx]
        refine ⟨buf', dirty', ?_, (stamped_same heq).trans hst, hclean⟩
        simp only [iocsStep, hoff, hget, if_neg hx]
        exact hfold

/-- The consumer status is stamped on every status object of the frame. -/
theorem setAllIocs_spec (hb : b.WellFormed) (status : UInt8) :
    ∃ b', b.setAllIocs status = some b' ∧ Kept b b'
      ∧ Stamped b.writeBuffer b.config.iocsOffsets status b'.writeBuffer := by
  obtain ⟨buf', dirty', hfold, hst, hclean⟩ :=
    foldlM_iocsStep status b.config.objects b.writeBuffer b.dirty
      (fun o ho p hp => by
        rw [hb.writeLength]
        exact hb.fits.iocs p (IocrConfig.mem_iocsOffsets.mpr ⟨o, ho, hp⟩))
  refine ⟨{ b with writeBuffer := buf', dirty := dirty' }, by rw [setAllIocs, hfold]; rfl,
    ⟨⟨hb.fits, hst.1.trans hb.writeLength, hb.sendLength, ?_⟩, rfl, rfl⟩, hst⟩
  intro hd
  obtain ⟨hdirty, hbuf⟩ := hclean hd
  show b.sendBuffer = buf'
  rw [hbuf]
  exact hb.clean hdirty

/-- `swap` always leaves the send buffer equal to the write buffer. -/
theorem swap_spec (hb : b.WellFormed) :
    ∃ b', b.swap = some b' ∧ b'.WellFormed ∧ b'.config = b.config
      ∧ b'.writeBuffer = b.writeBuffer ∧ b'.sendBuffer = b.writeBuffer ∧ b'.dirty = false := by
  unfold swap
  cases hd : b.dirty with
  | true =>
    have hlen : b.writeBuffer.length = b.sendBuffer.length :=
      hb.writeLength.trans hb.sendLength.symm
    rw [if_pos rfl, if_pos hlen]
    exact ⟨_, rfl, ⟨hb.fits, hb.writeLength, hb.writeLength, fun _ => rfl⟩, rfl, rfl, rfl, rfl⟩
  | false =>
    rw [if_neg Bool.false_ne_true]
    exact ⟨b, rfl, hb, rfl, rfl, hb.clean hd, hd⟩

/-- Clearing keeps the layout. -/
theorem clear_spec (hb : b.WellFormed) : Kept b b.clear :=
  ⟨hb.dirtied List.length_replicate, rfl, rfl⟩

/-- So does loading a received payload. -/
theorem load_spec (hb : b.WellFormed) (payload : List UInt8) : Kept b (b.load payload) := by
  refine ⟨hb.dirtied (written_length ?_), rfl, rfl⟩
  rw [List.length_take]
  omega

end CyclicDataBuilder

/-! ## Total operations on well-formed builders

  The same operations on builders that carry the invariant: they cannot panic, and later proofs
  need no case for it. -/

/-- A builder whose configuration fits its buffers. -/
abbrev OutputBuilder := { b : CyclicDataBuilder // b.WellFormed }

namespace OutputBuilder

/-- The builder of a controller: zeroed buffers, and all IOPS good. -/
def new (config : IocrConfig) (fits : config.Fits) : OutputBuilder :=
  let r := settle ((CyclicDataBuilder.new config).setAllIops ioxsGood)
    (setAllIops_spec (new_wellFormed fits) ioxsGood)
  ⟨r.1, r.2.1.wellFormed⟩

/-- The consumer status of all submodules is set. -/
def setAllIocs (b : OutputBuilder) (status : UInt8) : OutputBuilder :=
  let r := settle (b.1.setAllIocs status) (setAllIocs_spec b.2 status)
  ⟨r.1, r.2.1.wellFormed⟩

/-- The provider status of one submodule is set. -/
def setIops (b : OutputBuilder) (slot subslot : UInt16) (status : UInt8) : OutputBuilder :=
  let r := settle (b.1.setIops slot subslot status) (setIops_spec b.2 slot subslot status)
  ⟨r.1, r.2.1.wellFormed⟩

/-- What was written becomes what is sent. -/
def swap (b : OutputBuilder) : OutputBuilder :=
  let r := settle b.1.swap (swap_spec b.2)
  ⟨r.1, r.2.1⟩

/-- Setting data succeeds or is refused, in every well-formed builder. -/
theorem setData_total (b : OutputBuilder) (slot subslot : UInt16) (data : List UInt8) :
    ∃ r, b.1.setData slot subslot data = some r ∧ ∀ b', r = .ok b' → Kept b.1 b' := by
  cases ho : b.1.config.find slot subslot with
  | none => exact ⟨_, setData_unknown ho data, fun b' h => nomatch h⟩
  | some o =>
    obtain ⟨b', hset, hkept, -⟩ := setData_spec b.2 ho data
    exact ⟨_, hset, fun b'' h => by cases h; exact hkept⟩

/-- The data of a submodule is set, or the submodule is unknown. -/
def setData (b : OutputBuilder) (slot subslot : UInt16) (data : List UInt8) :
    Except String OutputBuilder :=
  match settle (b.1.setData slot subslot data) (setData_total b slot subslot data) with
  | ⟨.ok b', h⟩ => .ok ⟨b', (h b' rfl).wellFormed⟩
  | ⟨.error e, _⟩ => .error e

/-- The bytes of the next frame. -/
def build (b : OutputBuilder) : List UInt8 := b.1.build

/-! ## What the total operations do

  What an operation writes and what it leaves alone, for both buffers. -/

/-- A new builder has its provider status good, and zeros elsewhere. -/
theorem new_facts (config : IocrConfig) (fits : config.Fits) :
    (new config fits).1.config = config
      ∧ Stamped (List.replicate config.dataLength 0) config.iopsOffsets ioxsGood
          (new config fits).1.writeBuffer := by
  have h := (settle ((CyclicDataBuilder.new config).setAllIops ioxsGood)
    (setAllIops_spec (new_wellFormed fits) ioxsGood)).2
  exact ⟨h.1.config, h.2⟩

/-- Setting all consumer status touches nothing but those bytes. -/
theorem setAllIocs_facts (b : OutputBuilder) (status : UInt8) :
    Kept b.1 (b.setAllIocs status).1
      ∧ Stamped b.1.writeBuffer b.1.config.iocsOffsets status (b.setAllIocs status).1.writeBuffer :=
  (settle (b.1.setAllIocs status) (setAllIocs_spec b.2 status)).2

/-- Setting a provider status touches nothing but its bytes. -/
theorem setIops_facts (b : OutputBuilder) (slot subslot : UInt16) (status : UInt8) :
    Kept b.1 (b.setIops slot subslot status).1
      ∧ Stamped b.1.writeBuffer (iopsPlaces b.1.config slot subslot) status
          (b.setIops slot subslot status).1.writeBuffer :=
  (settle (b.1.setIops slot subslot status) (setIops_spec b.2 slot subslot status)).2

/-- Swapping copies what was written, and leaves it written. -/
theorem swap_facts (b : OutputBuilder) :
    b.swap.1.config = b.1.config ∧ b.swap.1.writeBuffer = b.1.writeBuffer
      ∧ b.swap.1.sendBuffer = b.1.writeBuffer ∧ b.swap.1.dirty = false :=
  (settle b.1.swap (swap_spec b.2)).2.2

/-- The total operations are the source's: none of them panics. -/
theorem setAllIocs_eq (b : OutputBuilder) (status : UInt8) :
    b.1.setAllIocs status = some (b.setAllIocs status).1 :=
  settle_eq (setAllIocs_spec b.2 status)

/-- Swapping never fails. -/
theorem swap_eq (b : OutputBuilder) : b.1.swap = some b.swap.1 :=
  settle_eq (swap_spec b.2)

/-- Setting data on the builder of a controller is setting data on the builder inside. -/
theorem setData_eq (b : OutputBuilder) (slot subslot : UInt16) (data : List UInt8) :
    b.1.setData slot subslot data = some ((b.setData slot subslot data).map Subtype.val) := by
  unfold setData
  have h := settle_eq (setData_total b slot subslot data)
  generalize settle (b.1.setData slot subslot data) (setData_total b slot subslot data) = r at h ⊢
  obtain ⟨r, hr⟩ := r
  rw [h]
  cases r with
  | ok b' => rfl
  | error e => rfl

/-- Data of a known submodule is set. -/
theorem setData_known (b : OutputBuilder) {slot subslot : UInt16} {o : IoDataObject}
    (ho : b.1.config.find slot subslot = some o) (data : List UInt8) :
    ∃ b' : OutputBuilder, b.setData slot subslot data = .ok b' ∧ Kept b.1 b'.1
      ∧ b'.1.writeBuffer = written b.1.writeBuffer o.frameOffset (data.take o.dataLength) := by
  obtain ⟨b', hset, hkept, -, hbuf⟩ := setData_spec b.2 ho data
  have heq := setData_eq b slot subslot data
  rw [hset] at heq
  cases hr : b.setData slot subslot data with
  | error e =>
    rw [hr] at heq
    nomatch Option.some.inj heq
  | ok b'' =>
    rw [hr] at heq
    obtain rfl : b' = b''.1 := Except.ok.inj (Option.some.inj heq)
    exact ⟨b'', rfl, hkept, hbuf⟩

/-- Data of an unknown one is refused with its place. -/
theorem setData_unknown (b : OutputBuilder) {slot subslot : UInt16}
    (ho : b.1.config.find slot subslot = none) (data : List UInt8) :
    b.setData slot subslot data = .error s!"Unknown slot/subslot: {slot}/{subslot}" := by
  have heq := setData_eq b slot subslot data
  rw [CyclicDataBuilder.setData_unknown ho] at heq
  cases hr : b.setData slot subslot data with
  | error e =>
    rw [hr] at heq
    exact congrArg Except.error (Except.error.inj (Option.some.inj heq)).symm
  | ok b' =>
    rw [hr] at heq
    nomatch Option.some.inj heq

/-- An accepted `set_data` keeps the layout. -/
theorem setData_kept {b b' : OutputBuilder} {slot subslot : UInt16} {data : List UInt8}
    (h : b.setData slot subslot data = .ok b') : Kept b.1 b'.1 := by
  cases ho : b.1.config.find slot subslot with
  | none => nomatch h.symm.trans (b.setData_unknown ho data)
  | some o =>
    obtain ⟨b'', hset, hkept, -⟩ := b.setData_known ho data
    obtain rfl := Except.ok.inj (h.symm.trans hset)
    exact hkept

end OutputBuilder

/-! ## What leaves the data alone -/

/-- The layout and every byte that is not an IOCS byte are as before. -/
structure KeepsData (b b' : OutputBuilder) : Prop where
  config : b'.1.config = b.1.config
  bytes : ∀ p, p ∉ b.1.config.iocsOffsets → b'.1.writeBuffer[p]? = b.1.writeBuffer[p]?

/-- Doing nothing keeps the data. -/
theorem KeepsData.refl (b : OutputBuilder) : KeepsData b b := ⟨rfl, fun _ _ => rfl⟩

/-- One step that keeps the data after another. -/
theorem KeepsData.trans {a b b' : OutputBuilder} (h : KeepsData a b) (h' : KeepsData b b') :
    KeepsData a b' := by
  refine ⟨h'.config.trans h.config, ?_⟩
  intro p hp
  rw [h'.bytes p (by rw [h.config]; exact hp), h.bytes p hp]

/-- Swapping keeps the data. -/
theorem keepsData_swap (b : OutputBuilder) : KeepsData b b.swap := by
  obtain ⟨hconfig, hbuf, -⟩ := b.swap_facts
  refine ⟨hconfig, ?_⟩
  intro p _
  rw [hbuf]

/-- Setting consumer status keeps it. -/
theorem keepsData_setAllIocs (b : OutputBuilder) (x : UInt8) : KeepsData b (b.setAllIocs x) := by
  obtain ⟨hkept, hst⟩ := b.setAllIocs_facts x
  refine ⟨hkept.config, ?_⟩
  intro p hp
  exact hst.getElem?_of_notMem hp

end Profinet.Rt
