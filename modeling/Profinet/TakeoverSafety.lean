/-
  TAKEOVER SAFETY: what a takeover leaves, wherever it ends.

  On the first connection nothing is left: whatever ends the preflight, the AR is released.  Only a
  preflight that came to its end, with the gates it had to pass, opens a second one (`Gated`).  On
  that one the controller starts behind a granted connect and with the safe output registered
  (`Rebinds`), and where the takeover fails both are taken back (`TakenBack`).
-/
import Profinet.DeviceSession
import Profinet.Takeover

namespace Profinet

open Transport RpcTransport Device Checked Gsdml Util

section
variable {T : Type} [RpcTransport T]

/-! ## What was read

  What a read showed stays true in what follows: `Showed` counts the steps since. -/

/-- A read of the connection came back with this record, and this happened since. -/
def Device.Opened.Showed (o : Opened T) (idx slot subslot : UInt16) (length : UInt32)
    (record : List UInt8) (since : List (Step T)) : Prop :=
  ∃ before, o.steps = before ++ .op (.readRaw idx slot subslot length) :: since ∧
    ((o.start.run before).readRaw idx slot subslot length).1 = .ok record

section
variable {o o' : Opened T} {idx slot subslot : UInt16} {length : UInt32} {record : List UInt8}

/-- A read that succeeds shows the record. -/
theorem showed_of_read (h : o.readRaw idx slot subslot length = (.ok record, o')) :
    o'.Showed idx slot subslot length record [] := by
  obtain ⟨hresult, rfl⟩ := Prod.mk.inj h
  exact ⟨o.steps, rfl, hresult⟩

/-- What is shown stays shown: later steps are only counted. -/
theorem Device.Opened.Showed.after {since : List (Step T)}
    (h : o.Showed idx slot subslot length record since) (s : Step T) :
    (o.after s).Showed idx slot subslot length record (since ++ [s]) := by
  obtain ⟨before, hsteps, hresult⟩ := h
  refine ⟨before, ?_, hresult⟩
  show o.steps ++ [s] = _
  rw [hsteps, List.append_assoc]
  rfl

end

/-! ## The gates

  A plan is `Gated` if the three tests before the second connection have passed: the cycle time,
  the lengths of the input image, and for a process that means to command the safe output. -/

/-- The gates of a plan were passed on this connection, and then it was released. -/
structure Gated (cfg : TierConfig) (plan : Plan) (o : Opened T) : Prop where
  cycle : validateCycleMs cfg.cycleMs = .ok ()
  /-- The device provides as many input bytes as the GSDML declares. -/
  agrees : ∃ record since, o.Showed 0x8028 plan.inSlot plan.inSubslot 128 record since ∧
    parseInputDataLength record = some plan.actual ∧
    ∃ s ∈ plan.ioSlots, (s.slot = plan.inSlot ∧ s.subslot = plan.inSubslot) ∧
      s.inputLength = plan.actual
  /-- Who means to command found the output at the safe image, in the last thing it did. -/
  safe : cfg.requireSafeOutput = true → ∃ record since,
    o.Showed 0x8029 plan.outSlot plan.outSubslot 128 record since ∧
    (∀ s ∈ since, s = .op .release) ∧ parseOutputControlByte record = some safeOutputByte

/-- Dropping the connection leaves the gates passed. -/
theorem Gated.drop {cfg : TierConfig} {plan : Plan} {o : Opened T} (h : Gated cfg plan o) :
    Gated cfg plan o.drop := by
  refine ⟨h.cycle, ?_, ?_⟩
  · obtain ⟨record, since, hshowed, hagrees⟩ := h.agrees
    exact ⟨record, _, hshowed.after _, hagrees⟩
  · intro hrequire
    obtain ⟨record, since, hshowed, hsince, hsafe⟩ := h.safe hrequire
    refine ⟨record, _, hshowed.after _, ?_, hsafe⟩
    intro s hs
    rcases List.mem_append.mp hs with hs | hs
    · exact hsince s hs
    · exact List.mem_singleton.mp hs

/-! ## The first connection

  Each part of the preflight asks for no AR but the one for record access, and a plan that comes
  out of it is gated; the parts are put together in the order of the source. -/

/-- What a part of the preflight does: it asks for no other AR, and a plan has its gates behind it. -/
structure Preflown (cfg : TierConfig) (result : Except TierError Plan) (o : Opened T) : Prop where
  access : o.DeviceAccess
  gated : ∀ plan, result = .ok plan → Gated cfg plan o

/-- A preflight that fails need only have asked for no other AR. -/
theorem preflown_error {cfg : TierConfig} {e : TierError} {o : Opened T} (h : o.DeviceAccess) :
    Preflown cfg (.error e) o := ⟨h, nofun⟩

section
variable {o : Opened T}

/-- A read asks for no AR. -/
theorem readRaw_access (h : o.DeviceAccess) (idx slot subslot : UInt16) (length : UInt32) :
    (o.readRaw idx slot subslot length).2.DeviceAccess := h.after nofun

/-- A release asks for no AR. -/
theorem release_access (h : o.DeviceAccess) : o.release.DeviceAccess := h.after nofun

/-- The paced read asks for no AR, and a record it returns was shown by its last read. -/
theorem pacedReadFrom_spec (idx slot subslot : UInt16) (length : UInt32) (left : Nat)
    (last : String) (h : o.DeviceAccess) :
    (pacedReadFrom idx slot subslot length left last o).2.DeviceAccess ∧
      ∀ record, (pacedReadFrom idx slot subslot length left last o).1 = .ok record →
        (pacedReadFrom idx slot subslot length left last o).2.Showed idx slot subslot length
          record [] := by
  -- on the attempts left: each begins with a read, and only the first that succeeds is kept
  induction left generalizing last o with
  | zero => exact ⟨h, nofun⟩
  | succ left ih =>
    have haccess := readRaw_access h idx slot subslot length
    unfold pacedReadFrom
    cases hread : o.readRaw idx slot subslot length with
    | mk r o' =>
      rw [hread] at haccess
      cases r with
      | ok d =>
        refine ⟨haccess, ?_⟩
        intro record hrecord
        cases hrecord
        exact showed_of_read hread
      | error e =>
        simp only
        split
        -- BUSY: the next attempt; any other error ends the loop
        · exact ih e haccess
        · exact ⟨haccess, nofun⟩

/-- A plan that passes the safe-output gate has read the safe image back last. -/
theorem gate_spec {cfg : TierConfig} {plan : Plan} (h : o.DeviceAccess)
    (hcycle : validateCycleMs cfg.cycleMs = .ok ())
    (hagrees : ∃ record since, o.Showed 0x8028 plan.inSlot plan.inSubslot 128 record since ∧
      parseInputDataLength record = some plan.actual ∧
      ∃ s ∈ plan.ioSlots, (s.slot = plan.inSlot ∧ s.subslot = plan.inSubslot) ∧
        s.inputLength = plan.actual) :
    Preflown cfg (gate cfg plan o).1 (gate cfg plan o).2 := by
  obtain ⟨record, since, hshowed, hlength⟩ := hagrees
  unfold gate
  -- the read-back is made only for a process that means to command
  by_cases hrequire : cfg.requireSafeOutput = true
  · rw [if_pos hrequire]
    have haccess := readRaw_access h 0x8029 plan.outSlot plan.outSubslot 128
    have hlater := hshowed.after (.op (.readRaw 0x8029 plan.outSlot plan.outSubslot 128))
    cases hread : o.readRaw 0x8029 plan.outSlot plan.outSubslot 128 with
    | mk probe o' =>
      have ho' : o.after (.op (.readRaw 0x8029 plan.outSlot plan.outSubslot 128)) = o' :=
        (Prod.mk.inj hread).2
      rw [hread] at haccess
      rw [ho'] at hlater
      simp only
      split
      · rename_i hsafe
        refine ⟨release_access haccess, ?_⟩
        intro plan' hplan
        obtain rfl := Except.ok.inj hplan
        refine ⟨hcycle, ⟨record, _, hlater.after _, hlength⟩, fun _ => ?_⟩
        · cases probe with
          | error e => cases hsafe
          | ok d =>
            -- behind the read of the safe image only the RELEASE follows
            refine ⟨d, _, (showed_of_read hread).after _, ?_, ?_⟩
            · intro s hs
              exact List.mem_singleton.mp hs
            · exact beq_iff_eq.mp hsafe
      · exact preflown_error (release_access haccess)
  · rw [if_neg hrequire]
    refine ⟨release_access h, ?_⟩
    intro plan' hplan
    obtain rfl := Except.ok.inj hplan
    exact ⟨hcycle, ⟨record, _, hshowed.after _, hlength⟩, fun hr => absurd hr hrequire⟩

/-- The length the GSDML gives the submodule is that of one of the slots. -/
theorem declaredInput_ok {cfg : TierConfig} {ioSlots : List IoSlot} {input : UInt16 × UInt16}
    {declared : Nat} (h : declaredInput cfg ioSlots = .ok (input, declared)) :
    ∃ s ∈ ioSlots, (s.slot = input.1 ∧ s.subslot = input.2) ∧ s.inputLength = declared := by
  have hfound {slot subslot : UInt16} {s : IoSlot}
      (hs : (ioSlots.find? fun s => s.slot = slot && s.subslot = subslot) = some s)
      (hpair : (Except.ok ((slot, subslot), s.inputLength) : Except String _)
        = .ok (input, declared)) :
      ∃ s ∈ ioSlots, (s.slot = input.1 ∧ s.subslot = input.2) ∧ s.inputLength = declared := by
    obtain ⟨rfl, rfl⟩ := Prod.mk.inj (Except.ok.inj hpair)
    have hkey := List.find?_some hs
    rw [Bool.and_eq_true, decide_eq_true_iff, decide_eq_true_iff] at hkey
    exact ⟨s, List.mem_of_find?_eq_some hs, hkey, rfl⟩
  -- a submodule that is named, or else the first one with inputs
  unfold declaredInput at h
  split at h
  · simp only [Checked.ok_bind] at h
    split at h
    · rename_i hs
      exact hfound hs h
    · cases h
  · split at h
    · simp only [Checked.ok_bind] at h
      split at h
      · rename_i hs
        exact hfound hs h
      · cases h
    · cases h

/-- The agreement of the lengths, and behind it the gate. -/
theorem agreement_spec {cfg : TierConfig} (cmMac : Mac) (ioSlots : List IoSlot)
    (h : o.DeviceAccess) (hcycle : validateCycleMs cfg.cycleMs = .ok ()) :
    Preflown cfg (agreement cfg cmMac ioSlots o).1 (agreement cfg cmMac ioSlots o).2 := by
  unfold agreement
  split
  · exact preflown_error h
  · rename_i input declared hdeclared
    obtain ⟨haccess, hshowed⟩ :=
      pacedReadFrom_spec 0x8028 input.1 input.2 128 pacedReadRetries "" h
    unfold pacedRead
    cases hread : pacedReadFrom 0x8028 input.1 input.2 128 pacedReadRetries "" o with
    | mk r o' =>
      rw [hread] at haccess hshowed
      cases r with
      | error e => exact preflown_error haccess
      | ok record =>
        simp only
        split
        · exact preflown_error haccess
        · rename_i actual hactual
          split
          · exact preflown_error (release_access haccess)
          · rename_i hsame
            -- the lengths agree: the submodule that declared its length has the one that was
            -- shown
            obtain ⟨s, hs, hkey, hlength⟩ := declaredInput_ok hdeclared
            refine gate_spec haccess hcycle ⟨record, [], hshowed record rfl, hactual, s, hs, hkey, ?_⟩
            rw [hlength]
            exact not_not.mp hsame

/-- The whole preflight. -/
theorem preflight_spec (cfg : TierConfig) (cmMac : Except String Mac)
    (gsdml : Except String GsdmlDevice) (h : o.DeviceAccess) :
    Preflown cfg (preflight cfg cmMac gsdml o).1 (preflight cfg cmMac gsdml o).2 := by
  unfold preflight
  split
  · exact preflown_error h
  · rename_i hcycle
    split
    · exact preflown_error h
    · have haccess := readRaw_access h realIdApi 0 1 Diagnosis.readLength
      cases hread : o.readRaw realIdApi 0 1 Diagnosis.readLength with
      | mk r o' =>
        rw [hread] at haccess
        cases r with
        | error e => exact preflown_error haccess
        | ok record =>
          simp only
          split
          · exact preflown_error haccess
          · exact agreement_spec _ _ haccess hcycle

end

/-! ## The second connection

  On this connection the trace has calls of the controller as well.  Every way out takes back what
  was begun, in both: the AR is released and the controller stopped. -/

/-- The controller's threads run. -/
def running (calls : List ControllerCall) : Bool :=
  calls.foldl
    (fun live c =>
      match c with
      | .setSafeOutput .. => live
      | .start result => result.isOk
      | .stop => false)
    false

/-- Behind a stop nothing runs. -/
theorem running_stop (calls : List ControllerCall) : running (calls ++ [.stop]) = false := by
  unfold running
  rw [List.foldl_append]
  rfl

namespace Rebound

variable (r : Rebound T)

/-- An operation is one more step of the connection. -/
@[simp] theorem opened_op (o : Op) : (r.op o).opened = r.opened.after (.op o) := by
  unfold opened op Opened.after
  rw [List.filterMap_append]
  rfl

/-- Telling the controller leaves the connection as it is. -/
@[simp] theorem opened_tell (c : ControllerCall) : (r.tell c).opened = r.opened := by
  unfold opened tell
  rw [List.filterMap_append]
  exact congrArg (fun steps => (⟨r.start, steps⟩ : Opened T)) (List.append_nil _)

/-- An operation tells the controller nothing. -/
@[simp] theorem calls_op (o : Op) : (r.op o).calls = r.calls := by
  unfold calls op
  rw [List.filterMap_append]
  exact List.append_nil _

/-- Telling the controller is one more call of it. -/
@[simp] theorem calls_tell (c : ControllerCall) : (r.tell c).calls = r.calls ++ [c] := by
  unfold calls tell
  rw [List.filterMap_append]
  rfl

/-- What is taken back: the AR is released and the controller is stopped. -/
structure TakenBack : Prop where
  connected : r.opened.conn.connected = false
  stopped : running r.calls = false

/-- Releasing the AR takes everything back, where the controller does not run. -/
theorem takenBack_release (h : running r.calls = false) : (r.op .release).TakenBack := by
  refine ⟨?_, ?_⟩
  · rw [opened_op]
    exact r.opened.drop_connected
  · rw [calls_op]
    exact h

/-- Dropping the handle stops the controller and releases the AR. -/
theorem takenBack_dropAll : r.dropAll.TakenBack := by
  refine takenBack_release _ ?_
  rw [calls_tell]
  exact running_stop r.calls

end Rebound

/-- What the second part came to, beginning with `r`: all is taken back, or the device is ready. -/
structure Ends (r : Rebound T) (ready : List (TierStep T)) (result : Except TierError Unit)
    (r' : Rebound T) : Prop where
  start : r'.start = r.start
  failed : ∀ e, result = .error e → r'.TakenBack
  done : result = .ok () → r'.trace = r.trace ++ ready ∧ r'.opened.conn.connected = true

/-- Ending parameterisation: both control steps, or the AR is taken back. -/
theorem endParameters_spec {r : Rebound T} (hconnected : r.opened.conn.connected = true) :
    (∃ rest, (endParameters r).2.trace = r.trace ++ rest) ∧
      Ends r [.conn (.op .prmEnd), .conn (.op (.applicationReady appReadyTimeout))]
        (endParameters r).1 (endParameters r).2 := by
  have hprm : (r.op .prmEnd).opened.conn.connected = true := by
    rw [Rebound.opened_op]
    exact Opened.connected_after rfl hconnected
  have hready : ((r.op .prmEnd).op (.applicationReady appReadyTimeout)).opened.conn.connected =
      true := by
    rw [Rebound.opened_op]
    exact Opened.connected_after rfl hprm
  unfold endParameters
  simp only
  -- PrmEnd or the wait may fail: then the handle is dropped, and both sides are taken back
  split
  · refine ⟨⟨_, by simp only [Rebound.dropAll, Rebound.op, Rebound.tell, List.append_assoc]; rfl⟩,
      rfl, fun e _ => ?_, nofun⟩
    exact Rebound.takenBack_dropAll _
  · split
    · refine ⟨⟨_, by simp only [Rebound.dropAll, Rebound.op, Rebound.tell, List.append_assoc]; rfl⟩,
        rfl, fun e _ => ?_, nofun⟩
      exact Rebound.takenBack_dropAll _
    · have htrace : ((r.op .prmEnd).op (.applicationReady appReadyTimeout)).trace = r.trace ++
          [.conn (.op .prmEnd), .conn (.op (.applicationReady appReadyTimeout))] :=
        List.append_assoc _ _ _
      exact ⟨⟨_, htrace⟩, rfl, nofun, fun _ => ⟨htrace, hready⟩⟩

/-- What the controller is told before the device is. -/
def startSteps (plan : Plan) (started : Except String Unit) : List (TierStep T) :=
  [.controller (.setSafeOutput plan.outSlot plan.outSubslot [safeOutputByte]),
    .controller (.start started)]

/-- What makes the device ready: the end of parameterisation and the ApplicationReady. -/
def readySteps : List (TierStep T) :=
  [.conn (.op .prmEnd), .conn (.op (.applicationReady appReadyTimeout))]

/-- Starting the controller: safe output and start before the device is told, or everything is taken
    back. -/
theorem startController_spec {cfg : TierConfig} {plan : Plan} {started : Except String Unit}
    (result : ConnectResult) {r : Rebound T} (hconnected : r.opened.conn.connected = true)
    (hidle : running r.calls = false) :
    ((startController cfg plan started result r).2.trace = r.trace ++ [.conn (.op .release)] ∨
        ∃ rest, (startController cfg plan started result r).2.trace =
          r.trace ++ startSteps plan started ++ rest) ∧
      ((startController cfg plan started result r).1 = .ok () → started = .ok ()) ∧
      Ends r (startSteps plan started ++ readySteps) (startController cfg plan started result r).1
        (startController cfg plan started result r).2 := by
  unfold startController
  simp only
  -- a frame id outside RT class 1, and then a start that fails
  split
  · exact ⟨.inl rfl, nofun, rfl, fun _ _ => r.takenBack_release hidle, nofun⟩
  · have htold : ((r.tell (.setSafeOutput plan.outSlot plan.outSubslot [safeOutputByte])).tell
        (.start started)).trace = r.trace ++ startSteps plan started := List.append_assoc _ _ _
    split
    · refine ⟨.inr ⟨[.controller .stop, .conn (.op .release)], ?_⟩, nofun, rfl, fun _ _ => ?_, nofun⟩
      · rw [← htold]
        exact List.append_assoc _ _ _
      · exact Rebound.takenBack_dropAll _
    · rename_i u
      have hsame : ((r.tell (.setSafeOutput plan.outSlot plan.outSubslot [safeOutputByte])).tell
          (.start (.ok u))).opened.conn.connected = true := by
        rw [Rebound.opened_tell, Rebound.opened_tell]
        exact hconnected
      obtain ⟨⟨rest, hrest⟩, hends⟩ := endParameters_spec hsame
      refine ⟨.inr ⟨rest, by rw [← htold]; exact hrest⟩, fun _ => rfl, hends.start, hends.failed, ?_⟩
      intro hok
      obtain ⟨htrace, hready⟩ := hends.done hok
      refine ⟨?_, hready⟩
      rw [htrace, htold, List.append_assoc]
      rfl

/-- A connect for the IO AR that succeeds leaves the connection connected, on its frame IDs. -/
theorem connect_connected {c : RpcConn T} {m : Mac} {n : List UInt8} {setup : Connect.IocrSetup}
    {result : ConnectResult} (h : (c.connect m n setup).1 = .ok result) :
    (c.perform (.connect m n setup)).connected = true ∧
      (c.perform (.connect m n setup)).outputFrameId = result.outputFrameId := by
  show (c.connect m n setup).2.connected = true ∧ (c.connect m n setup).2.outputFrameId = _
  unfold RpcConn.connect at h ⊢
  rw [RpcConn.call_eq] at h ⊢
  split at h
  · cases h
  · split at h
    · cases h
    · cases h
      exact ⟨rfl, rfl⟩

/-- The second connection asks for the IO AR, and the controller starts, if at all, behind a connect
    that was granted with a frame ID to send on, and with the safe image registered. -/
structure Rebinds (cfg : TierConfig) (plan : Plan) (started : Except String Unit) (r : Rebound T) :
    Prop where
  order : ∃ rest, r.trace = .conn (.op (.connect plan.cmMac cmStationName (tierSetup cfg plan))) ::
    rest ∧ ((∀ s ∈ rest, s = .conn (.op .release)) ∨
      (r.start.perform (.connect plan.cmMac cmStationName (tierSetup cfg plan))).connected = true ∧
      rtClass1 (r.start.perform
        (.connect plan.cmMac cmStationName (tierSetup cfg plan))).outputFrameId = true ∧
      ∃ rest', rest = startSteps plan started ++ rest')

/-- The second connection, whole: it ends ready or with everything taken back. -/
theorem rebind_spec {cfg : TierConfig} {plan : Plan} {started : Except String Unit} (c : RpcConn T) :
    Rebinds cfg plan started (rebind cfg plan started ⟨c, []⟩).2 ∧
      ((rebind cfg plan started ⟨c, []⟩).1 = .ok () → started = .ok ()) ∧
      Ends ⟨c, []⟩ (.conn (.op (.connect plan.cmMac cmStationName (tierSetup cfg plan))) ::
        (startSteps plan started ++ readySteps))
        (rebind cfg plan started ⟨c, []⟩).1 (rebind cfg plan started ⟨c, []⟩).2 := by
  -- neither the connection nor its releases tell the controller anything
  have hnone : ∀ o : Op, running ((⟨c, []⟩ : Rebound T).op o).calls = false := by
    intro o
    rw [Rebound.calls_op]
    rfl
  have hsingle (s : TierStep T) (hs : s ∈ [TierStep.conn (.op .release)]) :
      s = .conn (.op .release) := List.mem_singleton.mp hs
  have htwice (s : TierStep T)
      (hs : s ∈ [TierStep.conn (.op .release), .conn (.op .release)]) :
      s = .conn (.op .release) := by
    rcases List.mem_cons.mp hs with rfl | hs
    · rfl
    · exact hsingle s hs
  unfold rebind
  simp only
  -- refused, then accepted without a frame id or with one of another class, then accepted
  split
  · refine ⟨⟨_, rfl, .inl hsingle⟩, nofun, rfl, fun _ _ => ?_, nofun⟩
    exact Rebound.takenBack_release _ (hnone _)
  · rename_i result hresult
    have hback : ((((⟨c, []⟩ : Rebound T).op
        (.connect plan.cmMac cmStationName (tierSetup cfg plan))).op .release).op
          .release).TakenBack := by
      refine Rebound.takenBack_release _ ?_
      rw [Rebound.calls_op]
      exact hnone _
    split
    · exact ⟨⟨_, rfl, .inl htwice⟩, nofun, rfl, fun _ _ => hback, nofun⟩
    · split
      · exact ⟨⟨_, rfl, .inl htwice⟩, nofun, rfl, fun _ _ => hback, nofun⟩
      · rename_i hframe
        obtain ⟨hconnected, hid⟩ := connect_connected hresult
        have hopened : ((⟨c, []⟩ : Rebound T).op (.connect plan.cmMac cmStationName
            (tierSetup cfg plan))).opened.conn.connected = true := by
          rw [Rebound.opened_op, Opened.conn_after]
          exact hconnected
        obtain ⟨hshape, hstarted, hends⟩ :=
          @startController_spec _ _ cfg plan started result _ hopened (hnone _)
        -- from here on the controller is told before the device is
        refine ⟨?_, hstarted, hends.start, hends.failed, ?_⟩
        · rcases hshape with hshape | ⟨rest, hshape⟩
          · exact ⟨_, hshape, .inl hsingle⟩
          · refine ⟨startSteps plan started ++ rest, ?_, .inr ⟨?_, ?_, rest, rfl⟩⟩
            · rw [hshape, List.append_assoc]
              rfl
            · rw [hends.start]
              exact hconnected
            · rw [hends.start]
              have hid' : (c.perform (.connect plan.cmMac cmStationName
                (tierSetup cfg plan))).outputFrameId = result.outputFrameId := hid
              show rtClass1 (c.perform _).outputFrameId = true
              rw [hid']
              exact not_not.mp hframe
        · intro hok
          obtain ⟨htrace, hready⟩ := hends.done hok
          exact ⟨htrace, hready⟩

end

/-! ## Both

  The first connection is released before the second is opened, so at no time two ARs are held. -/

variable {T T' : Type} [RpcTransport T] [RpcTransport T']

/-- The connection that a takeover is given: a fresh one, behind its connect for record access. -/
def recordAccess (t : T) (deviceId vendorId : UInt16) (activityUuid arUuid : Uuid)
    (sessionKey : UInt16) (cmMac : Mac) : Opened T :=
  (⟨withTransport t deviceId vendorId activityUuid arUuid sessionKey, []⟩ : Opened T).after
    (.op (.connectDeviceAccess cmMac cmStationName))

omit [RpcTransport T'] in
/-- A transport is opened again without an AR. -/
theorem reopen_connected {out : TierOutside T'} {c : RpcConn T'} (h : reopen out = .ok c) :
    c.connected = false := by
  unfold reopen at h
  cases hresolved : out.resolved with
  | error e =>
    rw [hresolved] at h
    cases h
  | ok ids =>
    cases hsource : out.source with
    | error e =>
      rw [hresolved, hsource] at h
      cases h
    | ok u =>
      cases hopening : out.opening with
      | error e =>
        rw [hresolved, hsource, hopening] at h
        cases h
      | ok o =>
        rw [hresolved, hsource, hopening] at h
        cases h
        rfl

/-- A rebind that fails takes back what it began, on a transport that was opened without an AR. -/
theorem rebind_failed {cfg : TierConfig} {plan : Plan} {started : Except String Unit} {c : RpcConn T}
    (hc : c.connected = false) {e : TierError}
    (h : (rebind cfg plan started ⟨c, []⟩).1 = .error e) :
    grantedHeld (rebind cfg plan started ⟨c, []⟩).2.start
        (rebind cfg plan started ⟨c, []⟩).2.opened.steps = false ∧
      running (rebind cfg plan started ⟨c, []⟩).2.calls = false := by
  obtain ⟨-, -, hends⟩ := @rebind_spec _ _ cfg plan started c
  have hback := hends.failed e h
  have hgranted := connected_eq_granted (rebind cfg plan started ⟨c, []⟩).2.start
    (rebind cfg plan started ⟨c, []⟩).2.opened.steps
  have hfresh : (rebind cfg plan started ⟨c, []⟩).2.start.connected = false := by
    rw [hends.start]
    exact hc
  rw [hfresh] at hgranted
  exact ⟨hgranted.symm.trans hback.connected, hback.stopped⟩

/-- **A takeover goes from one AR to the next, through its gates, or takes everything back.**
    Wherever it ends, the AR for record access is released.  A second connection is opened only when
    the device's input image agrees with the GSDML and, for a process that means to command, when
    the last thing read before the RELEASE shows the safe output.  On that connection the
    controller starts behind a granted connect, with the safe image registered.  If the takeover
    fails, no granted AR is left and the controller does not run; if it succeeds, it went through
    all of its steps in this order, and the connection is the controller's. -/
theorem takeover_ordered (cfg : TierConfig) (out : TierOutside T') (t : T)
    (deviceId vendorId : UInt16) (activityUuid arUuid : Uuid) (sessionKey : UInt16) (cmMac : Mac) :
    let run := startCyclicTier cfg out
      (recordAccess t deviceId vendorId activityUuid arUuid sessionKey cmMac)
    run.first.holds = false ∧
      (∀ r, run.second = some r → ∃ plan, Gated cfg plan run.first ∧
        Rebinds cfg plan out.started r) ∧
      (∀ e, run.result = .error e → ∀ r, run.second = some r →
        grantedHeld r.start r.opened.steps = false ∧ running r.calls = false) ∧
      ∀ plan, run.result = .ok plan → ∃ r, run.second = some r ∧ out.started = .ok () ∧
        r.trace = .conn (.op (.connect plan.cmMac cmStationName (tierSetup cfg plan))) ::
          (startSteps plan out.started ++ readySteps) ∧
        r.opened.conn.connected = true := by
  intro run
  have haccess : (recordAccess t deviceId vendorId activityUuid arUuid sessionKey
      cmMac).DeviceAccess := by
    have hfresh : (⟨withTransport t deviceId vendorId activityUuid arUuid sessionKey, []⟩ :
        Opened T).DeviceAccess := ⟨rfl, nofun⟩
    exact hfresh.after nofun
  have hpreflight := preflight_spec cfg out.cmMac out.gsdml haccess
  have hreleased (o : Opened T) (ho : o.DeviceAccess) : o.drop.holds = false := by
    rw [ho.drop.holds_eq]
    exact o.drop_connected
  simp only [run, startCyclicTier]
  -- the preflight and the reopening end the takeover early, with the first connection released
  cases hpre : preflight cfg out.cmMac out.gsdml
      (recordAccess t deviceId vendorId activityUuid arUuid sessionKey cmMac) with
  | mk result o =>
    rw [hpre] at hpreflight
    cases result with
    | error e => exact ⟨hreleased o hpreflight.access, nofun, nofun, nofun⟩
    | ok plan =>
      simp only
      cases hreopen : reopen out with
      | error e => exact ⟨hreleased o hpreflight.access, nofun, nofun, nofun⟩
      | ok c =>
        obtain ⟨hrebinds, hstarted, hends⟩ := @rebind_spec _ _ cfg plan out.started c
        simp only
        refine ⟨hreleased o hpreflight.access, ?_, ?_, ?_⟩
        · rintro r ⟨rfl⟩
          exact ⟨plan, (hpreflight.gated plan rfl).drop, hrebinds⟩
        · rintro e he r ⟨rfl⟩
          have herror : (rebind cfg plan out.started ⟨c, []⟩).1 = .error e := by
            cases hresult : (rebind cfg plan out.started ⟨c, []⟩).1 with
            | error e' =>
              rw [hresult] at he
              rw [Except.error.inj he]
            | ok u =>
              rw [hresult] at he
              cases he
          exact rebind_failed (reopen_connected hreopen) herror
        · intro plan' hplan
          have hok : (rebind cfg plan out.started ⟨c, []⟩).1 = .ok () ∧ plan = plan' := by
            cases hresult : (rebind cfg plan out.started ⟨c, []⟩).1 with
            | error e =>
              rw [hresult] at hplan
              cases hplan
            | ok u =>
              rw [hresult] at hplan
              exact ⟨rfl, Except.ok.inj hplan⟩
          obtain ⟨hok, rfl⟩ := hok
          obtain ⟨htrace, hconnected⟩ := hends.done hok
          exact ⟨_, rfl, hstarted hok, htrace, hconnected⟩

end Profinet
