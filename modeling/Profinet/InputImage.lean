/-
  INPUT IMAGE: what a controller answers about its inputs, and what its handlers hear of them.

  `reading o payload` is what a payload says about a submodule, if it covers the submodule's window
  and its IOPS byte.  The readings of the accepted frames, oldest first, are the submodule's history,
  and everything else is read off it:

      the input map            the last reading
      the status handler       the edges: the readings at which GOOD turns to BAD or back
      the data handler         the GOOD readings, one call each

  `Pictures` says so of a state, submodule by submodule.  An accepted frame extends the histories of
  the submodules that it covers (`storeInputs_pictures`); any other event, whatever it does to the
  outputs and to the state machine, leaves the input side alone (`InputsKept`).
-/
import Mathlib.Data.Nat.Bitwise
import Profinet.FrameIsolation
import Profinet.Lib.History
import Profinet.OutputImage

namespace Profinet.Cyclic

open Wire Gsdml Util Rt History Shared

/-! ## Reading the input map

  A reading is data and status, as the frame has them. -/

namespace Shared

variable (s : Shared) (slot subslot : UInt16)

/-- Latest input data of a submodule, unless the device marked it BAD (`get_input_data`). -/
def getInputData : Option (List UInt8) :=
  ((s.inputData (slot, subslot)).filter InputEntry.isGood).map InputEntry.data

/-- Latest input data regardless of the provider status (`get_input_data_allow_bad`). -/
def getInputDataAllowBad : Option (List UInt8) :=
  (s.inputData (slot, subslot)).map InputEntry.data

/-- Raw provider status (IOPS) of a submodule (`get_input_status`). -/
def getInputStatus : Option UInt8 := (s.inputData (slot, subslot)).map InputEntry.iops

/-- Whether the device currently reports GOOD provider status (`is_input_good`). -/
def isInputGood : Bool := ((s.inputData (slot, subslot)).map InputEntry.isGood).getD false

end Shared

/-! ## The history of a submodule

  The readings of a run of payloads; the callbacks are read off it. -/

/-- What a payload says about a submodule, if it covers its window and its IOPS byte. -/
def reading (o : IoDataObject) (payload : List UInt8) : Option InputEntry :=
  if o.iopsOffset < payload.length ∧ o.frameOffset + o.dataLength ≤ payload.length then
    some ⟨(payload.drop o.frameOffset).take o.dataLength, payload.getD o.iopsOffset 0⟩
  else none

/-- GOOD is bit 7 of the IOPS. -/
def InputEntry.bit7 (e : InputEntry) : Bool := e.iops.toNat.testBit 7

/-- The payload of an event, if it is a frame that is accepted. -/
def CtlEvent.payload (base : Shared) : CtlEvent → Option (List UInt8)
  | .link (.frame _ data) => (base.accepted data).map RtFrame.payload
  | _ => none

/-- The payloads of the frames accepted among the events. -/
def acceptedPayloads (base : Shared) (es : List CtlEvent) : List (List UInt8) :=
  es.filterMap (CtlEvent.payload base)

/-- The readings of a submodule. -/
def readings (o : IoDataObject) (payloads : List (List UInt8)) : List InputEntry :=
  payloads.filterMap (reading o)

/-- The IOPS of a call to the status handler about a submodule. -/
def statusOf (k : UInt16 × UInt16) : CallbackEvent → Option UInt8
  | .inputStatus slot subslot iops => if (slot, subslot) = k then some iops else none
  | _ => none

/-- The bytes of a call to the data handler about a submodule. -/
def dataOf (k : UInt16 × UInt16) : CallbackEvent → Option (List UInt8)
  | .inputData slot subslot data => if (slot, subslot) = k then some data else none
  | _ => none

/-- The calls to the status handler about a submodule. -/
def statusCalls (k : UInt16 × UInt16) (log : List CallbackEvent) : List UInt8 :=
  log.filterMap (statusOf k)

/-- The calls to the data handler about a submodule. -/
def dataCalls (k : UInt16 × UInt16) (log : List CallbackEvent) : List (List UInt8) :=
  log.filterMap (dataOf k)

/-- The status is GOOD where its top bit is set. -/
theorem iopsGood_eq (iops : UInt8) : iopsGood iops = iops.toNat.testBit 7 := by
  have hand : (iops &&& ioxsDataStateGood).toNat = (iops.toNat.testBit 7).toNat * 128 := by
    rw [UInt8.toNat_and]
    exact Nat.and_two_pow iops.toNat 7
  have hzero : (iops &&& ioxsDataStateGood = 0) ↔ (iops.toNat.testBit 7).toNat * 128 = 0 := by
    rw [← UInt8.toNat_inj, hand]
    rfl
  unfold iopsGood
  rw [bne, Bool.eq_iff_iff, Bool.not_eq_true', beq_eq_false_iff_ne, ne_eq, hzero]
  cases iops.toNat.testBit 7 with
  | false => simp
  | true => simp

/-- Both readings of GOOD in the code, the mask and the bit, agree. -/
theorem isGood_eq_bit7 : InputEntry.isGood = InputEntry.bit7 :=
  funext fun e => iopsGood_eq e.iops

/-- The status callbacks of two runs, one after the other. -/
theorem statusCalls_append (k : UInt16 × UInt16) (l l' : List CallbackEvent) :
    statusCalls k (l ++ l') = statusCalls k l ++ statusCalls k l' := List.filterMap_append

/-- The data callbacks of two runs, one after the other. -/
theorem dataCalls_append (k : UInt16 × UInt16) (l l' : List CallbackEvent) :
    dataCalls k (l ++ l') = dataCalls k l ++ dataCalls k l' := List.filterMap_append

/-! ## One payload, object by object

  `Extracts` says what the loop over the objects does for one key: with distinct keys, exactly one
  object speaks of it. -/

/-- What a payload says about the submodule `k`, among the objects of a frame. -/
def readingOf (objects : List IoDataObject) (k : UInt16 × UInt16) (payload : List UInt8) :
    Option InputEntry :=
  (objects.find? fun o => o.key = k).bind fun o => reading o payload

/-- A key is read through the first object that has it. -/
theorem readingOf_cons (o : IoDataObject) (rest : List IoDataObject) (k : UInt16 × UInt16)
    (payload : List UInt8) :
    readingOf (o :: rest) k payload
      = if o.key = k then reading o payload else readingOf rest k payload := by
  unfold readingOf
  rw [List.find?_cons]
  by_cases h : o.key = k
  · rw [if_pos h, decide_eq_true h]
    rfl
  · rw [if_neg h, decide_eq_false h]

/-- A key without an object is read as nothing. -/
theorem readingOf_unknown {objects : List IoDataObject} {k : UInt16 × UInt16}
    (h : k ∉ objects.map IoDataObject.key) (payload : List UInt8) :
    readingOf objects k payload = none := by
  have hnone : (objects.find? fun o => o.key = k) = none := by
    rw [List.find?_eq_none]
    intro o ho hkey
    exact h (List.mem_map.mpr ⟨o, ho, of_decide_eq_true hkey⟩)
  unfold readingOf
  rw [hnone]
  rfl

/-- With distinct keys every object is read through itself. -/
theorem readingOf_key {objects : List IoDataObject} (hkeys : (objects.map IoDataObject.key).Nodup)
    {o : IoDataObject} (ho : o ∈ objects) : readingOf objects o.key = reading o := by
  induction objects with
  | nil => exact absurd ho List.not_mem_nil
  | cons o' rest ih =>
    obtain ⟨hnotin, hrest⟩ := List.nodup_cons.mp hkeys
    funext payload
    rw [readingOf_cons]
    rcases List.mem_cons.mp ho with rfl | hin
    · rw [if_pos rfl]
    · have hne : o'.key ≠ o.key := fun h => hnotin (h ▸ List.mem_map_of_mem hin)
      rw [if_neg hne, ih hrest hin]

/-- What is extracted for the submodule `k` from a payload that says `r` about it. -/
structure Extracts (k : UInt16 × UInt16) (r : Option InputEntry) (x x' : Extraction) : Prop where
  stored : x'.inputData k = r.or (x.inputData k)
  status : statusCalls k x'.statusChanges = statusCalls k x.statusChanges
    ++ (r.toList.filter fun e =>
        e.isGood != ((x.inputData k).map InputEntry.isGood).getD false).map InputEntry.iops
  data : dataCalls k x'.updates = dataCalls k x.updates
    ++ (r.toList.filter InputEntry.isGood).map InputEntry.data
  /-- The two lists keep to their handlers. -/
  kinds : statusCalls k x'.updates = statusCalls k x.updates
    ∧ dataCalls k x'.statusChanges = dataCalls k x.statusChanges

/-- An extraction step that does not touch the key. -/
theorem Extracts.nothing (k : UInt16 × UInt16) (x : Extraction) : Extracts k none x x where
  stored := rfl
  status := (List.append_nil _).symm
  data := (List.append_nil _).symm
  kinds := ⟨rfl, rfl⟩

/-- An object whose bytes the payload does not reach leaves the extraction as it is. -/
theorem extractStep_skips {o : IoDataObject} {payload : List UInt8} (h : reading o payload = none)
    (x : Extraction) : extractStep payload x o = x := by
  unfold reading at h
  by_cases hc : o.iopsOffset < payload.length ∧ o.frameOffset + o.dataLength ≤ payload.length
  · rw [if_pos hc] at h
    cases h
  · unfold extractStep
    rw [if_pos (by omega)]

/-- An object within the payload sets its own entry and queues its own callbacks. -/
theorem extractStep_reads {o : IoDataObject} {payload : List UInt8} {e : InputEntry}
    (h : reading o payload = some e) (x : Extraction) :
    extractStep payload x o =
      { inputData := fun k => if k = o.key then some e else x.inputData k
        statusChanges :=
          if e.isGood ≠ ((x.inputData o.key).map InputEntry.isGood).getD false then
            x.statusChanges ++ [.inputStatus o.slot o.subslot e.iops]
          else x.statusChanges
        updates :=
          if e.isGood then x.updates ++ [.inputData o.slot o.subslot e.data] else x.updates } := by
  unfold reading at h
  by_cases hc : o.iopsOffset < payload.length ∧ o.frameOffset + o.dataLength ≤ payload.length
  · rw [if_pos hc] at h
    cases h
    unfold extractStep
    rw [if_neg (by omega)]
    rfl
  · rw [if_neg hc] at h
    cases h

/-- The two lists keep to their handlers. -/
theorem extractStep_kinds (o : IoDataObject) (k : UInt16 × UInt16) (payload : List UInt8)
    (x : Extraction) :
    statusCalls k (extractStep payload x o).updates = statusCalls k x.updates
      ∧ dataCalls k (extractStep payload x o).statusChanges = dataCalls k x.statusChanges := by
  cases hr : reading o payload with
  | none =>
    rw [extractStep_skips hr]
    exact ⟨rfl, rfl⟩
  | some e =>
    rw [extractStep_reads hr]
    constructor
    · by_cases hgood : e.isGood
      · simp [hgood, statusCalls, statusOf]
      · simp [hgood]
    · by_cases hflip : e.isGood = ((x.inputData o.key).map InputEntry.isGood).getD false
      · simp [hflip]
      · simp [hflip, dataCalls, dataOf]

/-- An object's round extracts for its own submodule. -/
theorem extractStep_own (o : IoDataObject) (payload : List UInt8) (x : Extraction) :
    Extracts o.key (reading o payload) x (extractStep payload x o) := by
  cases hr : reading o payload with
  | none =>
    rw [extractStep_skips hr]
    exact Extracts.nothing o.key x
  | some e =>
    have hkinds := extractStep_kinds o o.key payload x
    rw [extractStep_reads hr] at hkinds ⊢
    have hkey : (o.slot, o.subslot) = o.key := rfl
    refine ⟨if_pos rfl, ?_, ?_, hkinds⟩
    · by_cases hflip : e.isGood = ((x.inputData o.key).map InputEntry.isGood).getD false
      · simp [hflip]
      · simp [hflip, statusCalls, statusOf, hkey]
    · by_cases hgood : e.isGood
      · simp [hgood, dataCalls, dataOf, hkey]
      · simp [hgood]

/-- It extracts nothing for any other. -/
theorem extractStep_other {o : IoDataObject} {k : UInt16 × UInt16} (hne : o.key ≠ k)
    (payload : List UInt8) (x : Extraction) :
    Extracts k none x (extractStep payload x o) := by
  cases hr : reading o payload with
  | none =>
    rw [extractStep_skips hr]
    exact Extracts.nothing k x
  | some e =>
    have hkinds := extractStep_kinds o k payload x
    rw [extractStep_reads hr] at hkinds ⊢
    have hkey : (o.slot, o.subslot) ≠ k := hne
    refine ⟨if_neg fun h => hne h.symm, ?_, ?_, hkinds⟩
    · by_cases hflip : e.isGood = ((x.inputData o.key).map InputEntry.isGood).getD false
      · simp [hflip]
      · simp [hflip, statusCalls, statusOf, hkey]
    · by_cases hgood : e.isGood
      · simp [hgood, dataCalls, dataOf, hkey]
      · simp [hgood]

/-- Rounds that extract nothing for `k`, before or after the one that does. -/
theorem Extracts.trans_nothing {k : UInt16 × UInt16} {r : Option InputEntry}
    {x y z : Extraction} (h : Extracts k r x y) (h' : Extracts k none y z) : Extracts k r x z where
  stored := h'.stored.trans h.stored
  status := h'.status.trans ((List.append_nil _).trans h.status)
  data := h'.data.trans ((List.append_nil _).trans h.data)
  kinds := ⟨h'.kinds.1.trans h.kinds.1, h'.kinds.2.trans h.kinds.2⟩

/-- A step that leaves the key alone, followed by one that reads it. -/
theorem Extracts.nothing_trans {k : UInt16 × UInt16} {r : Option InputEntry}
    {x y z : Extraction} (h : Extracts k none x y) (h' : Extracts k r y z) :
    Extracts k r x z := by
  have hstored : y.inputData k = x.inputData k := h.stored
  have hstatus : statusCalls k y.statusChanges = statusCalls k x.statusChanges :=
    h.status.trans (List.append_nil _)
  have hdata : dataCalls k y.updates = dataCalls k x.updates := h.data.trans (List.append_nil _)
  constructor
  · rw [h'.stored, hstored]
  · rw [h'.status, hstatus, hstored]
  · rw [h'.data, hdata]
  · exact ⟨h'.kinds.1.trans h.kinds.1, h'.kinds.2.trans h.kinds.2⟩

/-- **One payload.**  With distinct slot/subslot, the loop over the objects extracts for each
    submodule what the payload says about it. -/
theorem extractStep_foldl {objects : List IoDataObject}
    (hkeys : (objects.map IoDataObject.key).Nodup) (k : UInt16 × UInt16) (payload : List UInt8)
    (x : Extraction) :
    Extracts k (readingOf objects k payload) x (objects.foldl (extractStep payload) x) := by
  induction objects generalizing x with
  | nil => exact Extracts.nothing k x
  | cons o rest ih =>
    obtain ⟨hnotin, hrest⟩ := List.nodup_cons.mp hkeys
    have hih := ih hrest (extractStep payload x o)
    rw [List.foldl_cons, readingOf_cons]
    by_cases hkey : o.key = k
    · -- no later object has the key
      subst hkey
      rw [readingOf_unknown hnotin] at hih
      rw [if_pos rfl]
      exact (extractStep_own o payload x).trans_nothing hih
    · rw [if_neg hkey]
      exact (extractStep_other hkey payload x).nothing_trans hih

/-! ## The calls of one payload

  Callbacks are queued in the order of the objects and fired after the section. -/

/-- Emitting a list fires the events the application listens to, in order. -/
theorem foldl_emit_fired (s : Shared) (es : List CallbackEvent) :
    es.foldl emit s = { s with fired := s.fired ++ es.filter s.callbacks.handles } := by
  induction es generalizing s with
  | nil =>
    rw [List.filter_nil, List.append_nil]
    rfl
  | cons e rest ih =>
    rw [List.foldl_cons, ih]
    unfold emit
    by_cases h : s.callbacks.handles e
    · rw [if_pos h, List.filter_cons_of_pos h]
      simp only [List.append_assoc, List.singleton_append]
    · rw [if_neg h, List.filter_cons_of_neg h]

/-- Of the calls that `f` is about, all are made or none. -/
theorem filterMap_handled {β : Type} (c : Callbacks) {f : CallbackEvent → Option β}
    {registered : Bool} (h : ∀ e, f e ≠ none → c.handles e = registered)
    (es : List CallbackEvent) :
    (es.filter c.handles).filterMap f = if registered then es.filterMap f else [] := by
  rw [List.filterMap_filter]
  cases registered with
  | false =>
    rw [if_neg Bool.false_ne_true, List.filterMap_eq_nil_iff]
    intro e _
    by_cases hf : f e = none
    · rw [hf, ite_self]
    · rw [h e hf, if_neg Bool.false_ne_true]
  | true =>
    rw [if_pos rfl]
    congr 1
    funext e
    by_cases hf : f e = none
    · rw [hf, ite_self]
    · rw [h e hf, if_pos rfl]

/-- The status callbacks that fire are all of them, where the application listens, and none
    otherwise. -/
theorem statusCalls_handled (c : Callbacks) (k : UInt16 × UInt16) (es : List CallbackEvent) :
    statusCalls k (es.filter c.handles) = if c.onInputStatus then statusCalls k es else [] := by
  refine filterMap_handled c (fun e he => ?_) es
  cases e with
  | inputStatus slot subslot iops => rfl
  | _ => exact absurd rfl he

/-- The same for the data callbacks. -/
theorem dataCalls_handled (c : Callbacks) (k : UInt16 × UInt16) (es : List CallbackEvent) :
    dataCalls k (es.filter c.handles) = if c.onInputData then dataCalls k es else [] := by
  refine filterMap_handled c (fun e he => ?_) es
  cases e with
  | inputData slot subslot data => rfl
  | _ => exact absurd rfl he

/-! ## Events that leave the inputs alone

  One lemma for each section that does not receive. -/

/-- The input side, and who is told about it, is as it was. -/
structure InputsKept (s s' : Shared) : Prop where
  dstMac : s'.dstMac = s.dstMac
  inputIocr : s'.inputIocr = s.inputIocr
  callbacks : s'.callbacks = s.callbacks
  inputData : s'.inputData = s.inputData
  calls : ∀ k, statusCalls k s'.fired = statusCalls k s.fired
    ∧ dataCalls k s'.fired = dataCalls k s.fired

namespace InputsKept

/-- Doing nothing keeps the inputs. -/
theorem refl (s : Shared) : InputsKept s s := ⟨rfl, rfl, rfl, rfl, fun _ => ⟨rfl, rfl⟩⟩

/-- Two steps that keep the inputs keep them together. -/
theorem trans {s t u : Shared} (h : InputsKept s t) (h' : InputsKept t u) : InputsKept s u where
  dstMac := h'.dstMac.trans h.dstMac
  inputIocr := h'.inputIocr.trans h.inputIocr
  callbacks := h'.callbacks.trans h.callbacks
  inputData := h'.inputData.trans h.inputData
  calls := fun k => ⟨(h'.calls k).1.trans (h.calls k).1, (h'.calls k).2.trans (h.calls k).2⟩

/-- A call to another handler. -/
theorem emit (s : Shared) {e : CallbackEvent}
    (h : ∀ k, statusOf k e = none ∧ dataOf k e = none) : InputsKept s (s.emit e) := by
  unfold Shared.emit
  by_cases hreg : s.callbacks.handles e
  · rw [if_pos hreg]
    refine ⟨rfl, rfl, rfl, rfl, fun k => ?_⟩
    show statusCalls k (s.fired ++ [e]) = _ ∧ dataCalls k (s.fired ++ [e]) = _
    rw [statusCalls_append, dataCalls_append]
    simp [statusCalls, dataCalls, h k]
  · rw [if_neg hreg]
    exact refl s

/-- A change of the state keeps the inputs. -/
theorem transition (s : Shared) (newState : CyclicState) :
    InputsKept s (s.transition newState) := by
  unfold Shared.transition moveState
  by_cases h : s.state = newState
  · rw [if_pos h]
    exact refl s
  · rw [if_neg h]
    have hlatch : InputsKept s (latchFault { s with state := newState } newState) := by
      unfold latchFault
      by_cases hf : newState = .fault
      · rw [if_pos hf]
        exact ⟨rfl, rfl, rfl, rfl, fun _ => ⟨rfl, rfl⟩⟩
      · rw [if_neg hf]
        exact ⟨rfl, rfl, rfl, rfl, fun _ => ⟨rfl, rfl⟩⟩
    exact hlatch.trans (emit _ fun _ => ⟨rfl, rfl⟩)

/-- Cycle accounting keeps the inputs. -/
theorem trackCycleCounter (s : Shared) (rxCounter : UInt16) :
    InputsKept s (s.trackCycleCounter rxCounter) := by
  obtain ⟨st, hst, -⟩ := s.trackCycleCounter_eq rxCounter
  rw [hst]
  exact ⟨rfl, rfl, rfl, rfl, fun _ => ⟨rfl, rfl⟩⟩

/-- A watchdog timeout keeps the inputs: the image stays as the last accepted frame left it. -/
theorem handleWatchdogTimeout (s : Shared) : InputsKept s s.handleWatchdogTimeout := by
  have hcount : InputsKept s s.countTimeout := ⟨rfl, rfl, rfl, rfl, fun _ => ⟨rfl, rfl⟩⟩
  have hdisown : InputsKept s.countTimeout s.countTimeout.disown := by
    unfold disown
    by_cases h : s.countTimeout.maxConsecutiveTimeouts > 0
    · rw [if_pos h]
      exact ⟨rfl, rfl, rfl, rfl, fun _ => ⟨rfl, rfl⟩⟩
    · rw [if_neg h]
      exact refl _
  have hcalled : InputsKept s (s.countTimeout.disown.emit .timeout) :=
    (hcount.trans hdisown).trans (emit _ fun _ => ⟨rfl, rfl⟩)
  unfold Shared.handleWatchdogTimeout
  dsimp only
  split
  · exact (hcalled.trans (transition _ .fault)).trans (emit _ fun _ => ⟨rfl, rfl⟩)
  · exact hcalled

/-- Moving the deadline keeps the inputs. -/
theorem rearm (s : Shared) (later : Instant) : InputsKept s (s.rearm later) :=
  ⟨rfl, rfl, rfl, rfl, fun _ => ⟨rfl, rfl⟩⟩

/-- Writing the safe output keeps the inputs. -/
theorem applySafeOutput (sw : Swap) (s : Shared) : InputsKept s (s.applySafeOutputBy sw) := by
  unfold applySafeOutputBy
  cases s.safeOutput with
  | none => exact refl s
  | some safe =>
    obtain ⟨slot, subslot, data⟩ := safe
    dsimp only
    cases s.outputBuilder.setData slot subslot data with
    | error message => exact emit s fun _ => ⟨rfl, rfl⟩
    | ok b => exact ⟨rfl, rfl, rfl, rfl, fun _ => ⟨rfl, rfl⟩⟩

/-- A write of the outputs keeps the inputs, accepted or refused. -/
theorem setOutputData (s : Shared) (slot subslot : UInt16) (data : List UInt8) :
    InputsKept s ((s.setOutputData slot subslot data).toOption.getD s) := by
  unfold Shared.setOutputData
  by_cases h : outputWritesLocked s.state
  · rw [if_pos h]
    exact refl s
  · rw [if_neg h]
    cases s.outputBuilder.setData slot subslot data with
    | error message => exact refl s
    | ok b => exact ⟨rfl, rfl, rfl, rfl, fun _ => ⟨rfl, rfl⟩⟩

/-- A start keeps the inputs. -/
theorem started (sw : Swap) (s : Shared) (now : Instant) : InputsKept s (s.startedBy sw now) := by
  have hprepare : InputsKept (s.transition .starting) (s.prepareStart now) :=
    ⟨rfl, rfl, rfl, rfl, fun _ => ⟨rfl, rfl⟩⟩
  have hswap : InputsKept (s.prepareStart now) ((s.prepareStart now).modifyBuilder sw) :=
    ⟨rfl, rfl, rfl, rfl, fun _ => ⟨rfl, rfl⟩⟩
  exact (((transition s .starting).trans hprepare).trans hswap).trans (transition _ .running)

end InputsKept

/-! ## A received frame

  The frame is accepted or it is not; if it is, its payload goes through the extraction. -/

/-- A frame that is not accepted. -/
theorem processInputFrame_inputsKept (s : Shared) (now : Instant) {data : List UInt8}
    (h : s.accepted data = none) : InputsKept s (s.processInputFrame now data) := by
  cases hframe : s.inputFrame data with
  | none =>
    rw [s.processInputFrame_ignored hframe]
    exact InputsKept.refl s
  | some frame =>
    have hdead : frameIsAlive frame = false := by
      simpa [accepted, hframe, Option.filter] using h
    obtain ⟨st, heq, -⟩ := s.processInputFrame_disowned hframe hdead now
    rw [heq]
    exact ⟨rfl, rfl, rfl, rfl, fun _ => ⟨rfl, rfl⟩⟩

/-- An accepted frame: everything before the extraction leaves the inputs alone. -/
theorem processInputFrame_stores (s : Shared) (now : Instant) {data : List UInt8}
    {frame : RtFrame} (h : s.accepted data = some frame) :
    ∃ t, InputsKept s t ∧ s.processInputFrame now data = t.storeInputs frame.payload := by
  obtain ⟨hframe, halive⟩ := Option.filter_eq_some_iff.mp h
  -- the sections in front of the extraction: statistics, recovery, counter, consumer status
  have hreceive : InputsKept s (s.receiveStats now true) :=
    ⟨rfl, rfl, rfl, rfl, fun _ => ⟨rfl, rfl⟩⟩
  have hrecover : InputsKept s
      (if s.state = .fault then (s.receiveStats now true).transition .running
        else s.receiveStats now true) := by
    by_cases hf : s.state = .fault
    · rw [if_pos hf]
      exact hreceive.trans (InputsKept.transition _ .running)
    · rw [if_neg hf]
      exact hreceive
  have hack : ∀ t : Shared, InputsKept t t.acknowledge := fun t =>
    ⟨rfl, rfl, rfl, rfl, fun _ => ⟨rfl, rfl⟩⟩
  have htrack := hrecover.trans (InputsKept.trackCycleCounter _ frame.cycleCounter)
  refine ⟨_, htrack.trans (hack _), ?_⟩
  have hstate : (s.receiveStats now true).state = s.state := rfl
  simp only [processInputFrame, hframe, halive, if_true, true_and, hstate]

/-! ## The histories behind a state

  By induction over the events, from a state in which nothing has been received. -/

/-- The readings of the submodule `k`, among the objects of a frame. -/
def history (objects : List IoDataObject) (k : UInt16 × UInt16) (payloads : List (List UInt8)) :
    List InputEntry :=
  payloads.filterMap (readingOf objects k)

/-- The input side after the payloads have been accepted, and the calls made since `base`. -/
structure Pictures (base : Shared) (payloads : List (List UInt8)) (s : Shared) : Prop where
  dstMac : s.dstMac = base.dstMac
  inputIocr : s.inputIocr = base.inputIocr
  callbacks : s.callbacks = base.callbacks
  stored : ∀ k, s.inputData k = (history base.inputIocr.objects k payloads).getLast?
  status : ∀ k, statusCalls k s.fired = statusCalls k base.fired
    ++ if base.callbacks.onInputStatus then
        (edges InputEntry.isGood false (history base.inputIocr.objects k payloads)).map
          InputEntry.iops
      else []
  data : ∀ k, dataCalls k s.fired = dataCalls k base.fired
    ++ if base.callbacks.onInputData then
        ((history base.inputIocr.objects k payloads).filter InputEntry.isGood).map InputEntry.data
      else []

/-- Before the first frame. -/
theorem Pictures.start {s : Shared} (hempty : ∀ k, s.inputData k = none) : Pictures s [] s where
  dstMac := rfl
  inputIocr := rfl
  callbacks := rfl
  stored := hempty
  status := fun k => by
    show _ = _ ++ if _ then [] else []
    rw [ite_self, List.append_nil]
  data := fun k => by
    show _ = _ ++ if _ then [] else []
    rw [ite_self, List.append_nil]

/-- A section that keeps the inputs keeps the picture of the frames accepted so far. -/
theorem Pictures.kept {base s s' : Shared} {payloads : List (List UInt8)}
    (h : Pictures base payloads s) (hkept : InputsKept s s') : Pictures base payloads s' where
  dstMac := hkept.dstMac.trans h.dstMac
  inputIocr := hkept.inputIocr.trans h.inputIocr
  callbacks := hkept.callbacks.trans h.callbacks
  stored := fun k => by rw [hkept.inputData, h.stored]
  status := fun k => (hkept.calls k).1.trans (h.status k)
  data := fun k => (hkept.calls k).2.trans (h.data k)

/-- One more payload appends what it reads to the history of a key. -/
theorem history_snoc (objects : List IoDataObject) (k : UInt16 × UInt16)
    (payloads : List (List UInt8)) (payload : List UInt8) :
    history objects k (payloads ++ [payload])
      = history objects k payloads ++ (readingOf objects k payload).toList := by
  unfold history
  rw [List.filterMap_append]
  cases h : readingOf objects k payload with
  | none => simp [h]
  | some e => simp [h]

/-- What an accepted payload calls about a submodule. -/
theorem storeInputs_spec {s : Shared} (hkeys : (s.inputIocr.objects.map IoDataObject.key).Nodup)
    (payload : List UInt8) (k : UInt16 × UInt16) :
    let r := readingOf s.inputIocr.objects k payload
    (s.storeInputs payload).inputData k = r.or (s.inputData k)
    ∧ statusCalls k (s.storeInputs payload).fired = statusCalls k s.fired
      ++ (if s.callbacks.onInputStatus then
          (r.toList.filter fun e =>
            e.isGood != ((s.inputData k).map InputEntry.isGood).getD false).map InputEntry.iops
        else [])
    ∧ dataCalls k (s.storeInputs payload).fired = dataCalls k s.fired
      ++ (if s.callbacks.onInputData then (r.toList.filter InputEntry.isGood).map InputEntry.data
        else []) := by
  intro r
  have hx := extractStep_foldl hkeys k payload ⟨s.inputData, [], []⟩
  unfold storeInputs
  dsimp only
  rw [foldl_emit_fired]
  refine ⟨hx.stored, ?_, ?_⟩
  · show statusCalls k (s.fired ++ _) = _
    rw [statusCalls_append, statusCalls_handled, statusCalls_append, hx.status, hx.kinds.1]
    simp [statusCalls, r]
  · show dataCalls k (s.fired ++ _) = _
    rw [dataCalls_append, dataCalls_handled, dataCalls_append, hx.data, hx.kinds.2]
    simp [dataCalls, r]

/-- The histories grow by what an accepted payload says. -/
theorem storeInputs_pictures {base s : Shared} {payloads : List (List UInt8)}
    (hkeys : (base.inputIocr.objects.map IoDataObject.key).Nodup) (h : Pictures base payloads s)
    (payload : List UInt8) : Pictures base (payloads ++ [payload]) (s.storeInputs payload) := by
  obtain ⟨inputs, log, hstore⟩ := s.storeInputs_eq payload
  have hspec := storeInputs_spec (h.inputIocr ▸ hkeys) payload
  rw [h.inputIocr, h.callbacks] at hspec
  constructor
  · rw [hstore]
    exact h.dstMac
  · rw [hstore]
    exact h.inputIocr
  · rw [hstore]
    exact h.callbacks
  · intro k
    rw [(hspec k).1, h.stored, history_snoc, List.getLast?_append]
    cases readingOf base.inputIocr.objects k payload with
    | none => rfl
    | some e => rfl
  · -- the handler hears of a reading that is not at the level of the history
    intro k
    rw [(hspec k).2.1, h.status, h.stored, history_snoc, List.append_assoc]
    congr 1
    cases base.callbacks.onInputStatus with
    | false => rfl
    | true =>
      simp only [if_true]
      rw [← List.map_append]
      congr 1
      cases readingOf base.inputIocr.objects k payload with
      | none => simp
      | some e =>
        show _ ++ List.filter (fun e => e.isGood != level InputEntry.isGood false
          (history base.inputIocr.objects k payloads)) [e] = edges _ _ (_ ++ [e])
        rw [edges_snoc]
        by_cases hflip : e.isGood = level InputEntry.isGood false
          (history base.inputIocr.objects k payloads)
        · simp [hflip]
        · simp [hflip]
  · intro k
    rw [(hspec k).2.2, h.data, history_snoc, List.append_assoc]
    congr 1
    cases base.callbacks.onInputData with
    | false => rfl
    | true =>
      simp only [if_true]
      rw [← List.map_append, ← List.filter_append]

/-- **One event.** -/
theorem pictures_step {base s : Shared} {payloads : List (List UInt8)}
    (hkeys : (base.inputIocr.objects.map IoDataObject.key).Nodup) (h : Pictures base payloads s)
    (e : CtlEvent) :
    Pictures base (payloads ++ (e.payload base).toList) (e.step OutputBuilder.swap s).1 := by
  -- all but an accepted frame
  have hquiet : e.payload base = none → InputsKept s (e.step OutputBuilder.swap s).1 →
      Pictures base (payloads ++ (e.payload base).toList) (e.step OutputBuilder.swap s).1 := by
    intro hnone hkept
    rw [hnone, Option.toList_none, List.append_nil]
    exact h.kept hkept
  cases e with
  | link e =>
    cases e with
    | frame now data =>
      have hcongr := accepted_congr h.dstMac h.inputIocr data
      have hpayload : (CtlEvent.link (.frame now data)).payload base
          = (base.accepted data).map RtFrame.payload := rfl
      cases hacc : base.accepted data with
      | none =>
        have hnone : (CtlEvent.link (.frame now data)).payload base = none := by
          rw [hpayload, hacc, Option.map_none]
        exact hquiet hnone (processInputFrame_inputsKept s now (hcongr.trans hacc))
      | some frame =>
        obtain ⟨t, hkept, heq⟩ := processInputFrame_stores s now (hcongr.trans hacc)
        have hsome : (CtlEvent.link (.frame now data)).payload base = some frame.payload := by
          rw [hpayload, hacc, Option.map_some]
        have hstep : (CtlEvent.step OutputBuilder.swap s (.link (.frame now data))).1
            = s.processInputFrame now data := rfl
        rw [hsome, hstep, heq]
        exact storeInputs_pictures hkeys (h.kept hkept) frame.payload
    | timeout rearmAt =>
      cases rearmAt with
      | none => exact hquiet rfl (InputsKept.handleWatchdogTimeout s)
      | some later =>
        exact hquiet rfl ((InputsKept.handleWatchdogTimeout s).trans (InputsKept.rearm _ later))
  | write slot subslot data => exact hquiet rfl (InputsKept.setOutputData s slot subslot data)
  | setSafe slot subslot data => exact hquiet rfl ⟨rfl, rfl, rfl, rfl, fun _ => ⟨rfl, rfl⟩⟩
  | applySafe => exact hquiet rfl (InputsKept.applySafeOutput OutputBuilder.swap s)
  | move newState => exact hquiet rfl (InputsKept.transition s newState)
  | start now =>
    apply hquiet rfl
    show InputsKept s (if s.state.startable then s.startedBy OutputBuilder.swap now else s)
    by_cases hstart : s.state.startable
    · rw [if_pos hstart]
      exact InputsKept.started OutputBuilder.swap s now
    · rw [if_neg hstart]
      exact InputsKept.refl s
  | build dataStatus => exact hquiet rfl ⟨rfl, rfl, rfl, rfl, fun _ => ⟨rfl, rfl⟩⟩

/-- Every run. -/
theorem pictures_run {base s : Shared} {before : List (List UInt8)}
    (hkeys : (base.inputIocr.objects.map IoDataObject.key).Nodup) (h : Pictures base before s)
    (es : List CtlEvent) :
    Pictures base (before ++ acceptedPayloads base es) (runCtl OutputBuilder.swap s es).1 := by
  induction es generalizing s before with
  | nil =>
    show Pictures base (before ++ []) s
    rw [List.append_nil]
    exact h
  | cons e es ih =>
    have hstep := ih (pictures_step hkeys h e)
    have hpayloads : acceptedPayloads base (e :: es)
        = (e.payload base).toList ++ acceptedPayloads base es := by
      unfold acceptedPayloads
      rw [List.filterMap_cons]
      cases e.payload base with
      | none => rfl
      | some payload => rfl
    rw [hpayloads, ← List.append_assoc]
    exact hstep

/-! ## The input image

  Every entry of the map is the last reading of its key. -/

section Image

variable (slots : List IoSlot) (inputFrameId outputFrameId sendClockFactor reductionRatio
  watchdogFactor : UInt16)

/-- **The input image.**  On an input layout built from submodules with distinct slot/subslot, and
    whatever else happens in between: what a controller answers about a submodule is of the last
    accepted frame that covers it, the status handler is called when GOOD turns to BAD or back, and
    the data handler with every GOOD reading. -/
theorem input_image (hkeys : (slots.map IoSlot.key).Nodup) {s : Shared}
    (hiocr : s.inputIocr = inputConfig slots inputFrameId outputFrameId sendClockFactor
      reductionRatio watchdogFactor)
    (hempty : ∀ k, s.inputData k = none) (es : List CtlEvent) :
    let s' := (runCtl OutputBuilder.swap s es).1
    (∀ o ∈ s.inputIocr.objects,
      let seen := readings o (acceptedPayloads s es)
      s'.getInputData o.slot o.subslot
          = (seen.getLast?.filter InputEntry.bit7).map InputEntry.data
      ∧ s'.getInputDataAllowBad o.slot o.subslot = seen.getLast?.map InputEntry.data
      ∧ s'.getInputStatus o.slot o.subslot = seen.getLast?.map InputEntry.iops
      ∧ s'.isInputGood o.slot o.subslot = (seen.getLast?.map InputEntry.bit7).getD false
      ∧ statusCalls o.key s'.fired = statusCalls o.key s.fired
        ++ (if s.callbacks.onInputStatus then (edges InputEntry.bit7 false seen).map InputEntry.iops
          else [])
      ∧ dataCalls o.key s'.fired = dataCalls o.key s.fired
        ++ (if s.callbacks.onInputData then (seen.filter InputEntry.bit7).map InputEntry.data
          else []))
    ∧ ∀ slot subslot, (slot, subslot) ∉ s.inputIocr.objects.map IoDataObject.key →
      s'.getInputData slot subslot = none
      ∧ s'.getInputDataAllowBad slot subslot = none
      ∧ s'.getInputStatus slot subslot = none
      ∧ s'.isInputGood slot subslot = false
      ∧ statusCalls (slot, subslot) s'.fired = statusCalls (slot, subslot) s.fired
      ∧ dataCalls (slot, subslot) s'.fired = dataCalls (slot, subslot) s.fired := by
  intro s'
  have hnodup : (s.inputIocr.objects.map IoDataObject.key).Nodup := by
    rw [hiocr]
    exact input_keys_nodup slots inputFrameId outputFrameId sendClockFactor reductionRatio
      watchdogFactor hkeys
  have hrun : Pictures s (acceptedPayloads s es) s' :=
    pictures_run hnodup (Pictures.start hempty) es
  constructor
  · intro o ho seen
    have hseen : history s.inputIocr.objects o.key (acceptedPayloads s es) = seen := by
      unfold history
      rw [readingOf_key hnodup ho]
      rfl
    have hstored : s'.inputData (o.slot, o.subslot) = seen.getLast? := by
      rw [← hseen]
      exact hrun.stored o.key
    have hstatus := hrun.status o.key
    have hdata := hrun.data o.key
    rw [hseen, isGood_eq_bit7] at hstatus hdata
    unfold getInputData getInputDataAllowBad getInputStatus isInputGood
    rw [hstored, isGood_eq_bit7]
    exact ⟨rfl, rfl, rfl, rfl, hstatus, hdata⟩
  · intro slot subslot hunknown
    have hnothing : history s.inputIocr.objects (slot, subslot) (acceptedPayloads s es) = [] := by
      unfold history
      rw [List.filterMap_eq_nil_iff]
      intro payload _
      exact readingOf_unknown hunknown payload
    have hstored := hrun.stored (slot, subslot)
    have hstatus := hrun.status (slot, subslot)
    have hdata := hrun.data (slot, subslot)
    rw [hnothing] at hstored hstatus hdata
    unfold getInputData getInputDataAllowBad getInputStatus isInputGood
    rw [hstored]
    refine ⟨rfl, rfl, rfl, rfl, hstatus.trans ?_, hdata.trans ?_⟩
    · show _ ++ (if _ then [] else []) = _
      rw [ite_self, List.append_nil]
    · show _ ++ (if _ then [] else []) = _
      rw [ite_self, List.append_nil]

end Image

/-- `bench` with both input handlers registered. -/
def benchListening : Shared := { bench with callbacks := ⟨true, true, false, false, false⟩ }

/-- A short frame of the device: slot 1, subslot 1 is BAD, and slot 2 is not covered. -/
def benchShortFrame : List UInt8 :=
  buildEthernetFrame benchController benchDevice ⟨0xC001, 2, 0x35, 0x00, [1, 2, 0x00]⟩

/-- A frame that covers both submodules, then a short one. -/
def benchReception : List CtlEvent :=
  [.link (.frame 0 benchFrame), .link (.frame 1000 benchShortFrame)]

/-- Two frames received in a run: the image is the second one's, and the callbacks fire for what
    changed. -/
theorem input_image_bench :
    let s' := (runCtl OutputBuilder.swap benchListening benchReception).1
    s'.getInputData 1 1 = none ∧ s'.getInputDataAllowBad 1 1 = some [1, 2]
      ∧ statusCalls (1, 1) s'.fired = [0x80, 0x00]
      ∧ dataCalls (1, 1) s'.fired = [[0x80, 0x80]]
      ∧ s'.getInputData 2 1 = some [0x80, 0x80, 0x80, 0x80] := by
  intro s'
  obtain ⟨himage, -⟩ := input_image benchSlots 0xC001 0xC002 32 1 3 (by decide)
    (s := benchListening) rfl (fun _ => rfl) benchReception
  obtain ⟨hdata, hbad, -, -, hstatus, hcalls⟩ := himage ⟨1, 1, 0, 2, 2, none⟩ (by decide)
  obtain ⟨hother, -⟩ := himage ⟨2, 1, 3, 4, 7, none⟩ (by decide)
  have hseen : readings ⟨1, 1, 0, 2, 2, none⟩ (acceptedPayloads benchListening benchReception)
      = [⟨[0x80, 0x80], 0x80⟩, ⟨[1, 2], 0x00⟩] := by decide
  have hseen' : readings ⟨2, 1, 3, 4, 7, none⟩ (acceptedPayloads benchListening benchReception)
      = [⟨[0x80, 0x80, 0x80, 0x80], 0x80⟩] := by decide
  rw [hseen] at hdata hbad hstatus hcalls
  rw [hseen'] at hother
  exact ⟨hdata, hbad, hstatus, hcalls, hother⟩

end Profinet.Cyclic
