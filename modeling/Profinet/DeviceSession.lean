/-
  DEVICE SESSION: what the device holds of a handle, over any calls and arrivals.

  An AR is held from the device's positive answer to a connect to the RELEASE (`held`).  The handle
  asks for ARs for record access only, whose answers withhold nothing, so what it takes for
  connected is what is held (`DeviceAccess.holds_eq`); what it drops it has released.
-/
import Profinet.Device

namespace Profinet.Device

open Transport RpcTransport Im Diagnosis Checked Util

variable {T : Type} [RpcTransport T]

/-! ## One connection

  What one operation does to a connection for record access is said once (`Quiet`): most neither
  ask for an AR nor give one up, so what the connection takes for connected is what the device
  holds. -/

/-- A connection of the handle: it is opened without an AR, and asks for no other than the AR for
    record access. -/
structure Opened.DeviceAccess (o : Opened T) : Prop where
  start : o.start.connected = false
  steps : ∀ m n s, .op (.connect m n s) ∉ o.steps

/-- An answer to the connect of record access withholds nothing, so what is granted is accepted. -/
theorem account_deviceAccess (c : RpcConn T) (h : Bool) {steps : List (Step T)}
    (hsteps : ∀ m n s, Step.op (.connect m n s) ∉ steps) :
    account RpcConn.accepted c h steps = account RpcConn.granted c h steps := by
  induction steps generalizing c h with
  | nil => rfl
  | cons s steps ih =>
    have hrest : ∀ m n s', Step.op (.connect m n s') ∉ steps := by
      intro m n s' hmem
      exact hsteps m n s' (List.mem_cons_of_mem _ hmem)
    have hsame : c.accepted s = c.granted s := by
      cases s with
      | arrive a => rfl
      | op o =>
        cases o with
        | connect m n s => exact absurd List.mem_cons_self (hsteps m n s)
        | _ =>
          simp only [RpcConn.accepted, RpcConn.granted, Op.withholdsNothing, Bool.and_true]
    show account _ _ (!c.releases s && (h || c.accepted s)) steps = _
    rw [hsame]
    exact ih _ _ hrest

namespace Opened

variable {o : Opened T}

/-- The device holds an AR of it exactly while it is connected. -/
theorem DeviceAccess.holds_eq (h : o.DeviceAccess) : o.holds = o.conn.connected := by
  unfold holds held conn
  rw [connected_eq_granted, h.start]
  exact account_deviceAccess _ _ h.steps

theorem DeviceAccess.after (h : o.DeviceAccess) {s : Step T}
    (hs : ∀ m n t, s ≠ .op (.connect m n t)) :
    (o.after s).DeviceAccess := by
  refine ⟨h.start, ?_⟩
  intro m n t hmem
  rcases List.mem_append.mp hmem with hmem | hmem
  · exact h.steps m n t hmem
  · exact hs m n t (List.mem_singleton.mp hmem).symm

theorem DeviceAccess.drop (h : o.DeviceAccess) : o.drop.DeviceAccess := h.after nofun

/-- What is dropped is not connected. -/
theorem drop_connected (o : Opened T) : o.drop.conn.connected = false := by
  unfold drop
  rw [conn_after]
  exact (perform_accounts o.conn .release).2

/-- An operation that releases nothing leaves it connected. -/
theorem connected_after {op : Op} (hop : op.isRelease = false) (h : o.conn.connected = true) :
    (o.after (.op op)).conn.connected = true := by
  rw [conn_after]
  show (o.conn.perform op).connected = true
  rw [(perform_accounts o.conn op).2, hop, h]
  rfl

end Opened

/-! ## The handle keeps account

  `Kept` is the account: every transport that was opened has become a connection, in order; those
  dropped have released their AR, and the one in use is connected.  Each call of the handle keeps
  it (`perform_kept`). -/

namespace ProfinetDevice

section
variable (openings : Nat → Except String (Opening T))

/-- The connection that the `k`-th transport is opened as, if it opens. -/
def opens (d : ProfinetDevice T) (k : Nat) : Option (RpcConn T) :=
  (openings k).toOption.map fun o =>
    withTransport o.transport d.deviceId d.vendorId o.activityUuid o.arUuid o.sessionKey

/-- The connection it holds is connected, the others are not, and no connection is left out. -/
structure Kept (d : ProfinetDevice T) : Prop where
  rpc : ∀ o, d.rpc = some o → o.DeviceAccess ∧ o.conn.connected = true
  dropped : ∀ o ∈ d.dropped, o.DeviceAccess ∧ o.conn.connected = false
  all : d.connections.map Opened.start = (List.range d.opened).filterMap (d.opens openings)

end

section
variable {openings : Nat → Except String (Opening T)} {d : ProfinetDevice T}

theorem kept_new (name : String) (deviceId vendorId : UInt16) (srcMac : Mac) :
    Kept openings (new name deviceId vendorId srcMac : ProfinetDevice T) :=
  ⟨nofun, nofun, rfl⟩

/-- A transport was opened, or it was not. -/
theorem newTransport_kept (h : Kept openings d) (hnone : d.rpc = none) :
    (∃ e, d.newTransport openings = (.error e, { d with opened := d.opened + 1 }) ∧
        Kept openings { d with opened := d.opened + 1 }) ∨
      ∃ o, d.newTransport openings = (.ok o, { d with opened := d.opened + 1 }) ∧
        o.DeviceAccess ∧ (d.dropped.map Opened.start) ++ [o.start] =
          (List.range (d.opened + 1)).filterMap (d.opens openings) := by
  have hall : d.dropped.map Opened.start = (List.range d.opened).filterMap (d.opens openings) := by
    have hsame : d.connections = d.dropped := by
      unfold connections
      rw [hnone]
      exact List.append_nil _
    rw [← h.all, hsame]
  have hrange : (List.range (d.opened + 1)).filterMap (d.opens openings) =
      (List.range d.opened).filterMap (d.opens openings) ++ (d.opens openings d.opened).toList := by
    rw [List.range_succ, List.filterMap_append]
    cases hlast : d.opens openings d.opened with
    | none => simp [hlast]
    | some c => simp [hlast]
  -- a connection that could not be opened leaves no trace but its count
  cases hopen : openings d.opened with
  | error e =>
    refine .inl ⟨e, ?_, ?_⟩
    · unfold newTransport
      rw [hopen]
      rfl
    · refine ⟨fun o ho => h.rpc o ho, h.dropped, ?_⟩
      show d.connections.map Opened.start = (List.range (d.opened + 1)).filterMap (d.opens openings)
      have hlast : d.opens openings d.opened = none := by
        unfold opens
        rw [hopen]
        rfl
      rw [hrange, hlast, h.all]
      exact (List.append_nil _).symm
  | ok o =>
    refine .inr ⟨⟨withTransport o.transport d.deviceId d.vendorId o.activityUuid o.arUuid
      o.sessionKey, []⟩, ?_, ⟨rfl, nofun⟩, ?_⟩
    · unfold newTransport
      rw [hopen]
      rfl
    · have hlast : d.opens openings d.opened = some (withTransport o.transport d.deviceId d.vendorId
          o.activityUuid o.arUuid o.sessionKey) := by
        unfold opens
        rw [hopen]
        rfl
      rw [hrange, hlast, hall]
      rfl

/-- A connection that was opened and is done with. -/
theorem Kept.drops (h : Kept openings d) (hnone : d.rpc = none) {o : Opened T} (ho : o.DeviceAccess)
    (hall : (d.dropped.map Opened.start) ++ [o.start] =
      (List.range (d.opened + 1)).filterMap (d.opens openings)) :
    Kept openings
      { d with opened := d.opened + 1, dropped := d.dropped ++ [o.drop] } := by
  refine ⟨fun o' ho' => h.rpc o' ho', ?_, ?_⟩
  · intro o' ho'
    rcases List.mem_append.mp ho' with ho' | ho'
    · exact h.dropped o' ho'
    · rw [List.mem_singleton.mp ho']
      exact ⟨ho.drop, o.drop_connected⟩
  · unfold connections
    rw [hnone]
    simp only [Option.toList_none, List.append_nil, List.map_append]
    exact hall

/-- Something happened to the connection it holds. -/
theorem Kept.goes (h : Kept openings d) {o o' : Opened T} (ho : d.rpc = some o)
    (hstart : o'.start = o.start) (ho' : o'.DeviceAccess ∧ o'.conn.connected = true) :
    Kept openings { d with rpc := some o' } := by
  refine ⟨?_, h.dropped, ?_⟩
  · intro o'' ho''
    obtain rfl := Option.some.inj ho''
    exact ho'
  · have hall := h.all
    unfold connections at hall ⊢
    rw [ho] at hall
    simp only [Option.toList_some, List.map_append, List.map_cons, List.map_nil] at hall ⊢
    rw [hstart]
    exact hall

/-- A connect for record access that succeeds leaves the connection connected. -/
theorem connectDeviceAccess_connected {c : RpcConn T} {m : Mac} {n : List UInt8}
    (h : (c.connectDeviceAccess m n).1 = .ok ()) :
    (c.perform (.connectDeviceAccess m n)).connected = true := by
  show (c.connectDeviceAccess m n).2.connected = true
  unfold RpcConn.connectDeviceAccess at h ⊢
  rw [RpcConn.call_eq] at h ⊢
  split at h
  · cases h
  · split at h
    · cases h
    · rfl

theorem connect_kept (h : Kept openings d) :
    Kept openings (d.connect openings).2 ∧
      ((d.connect openings).1 = .ok () → ∃ o, (d.connect openings).2.rpc = some o) ∧
      ∀ e, (d.connect openings).1 = .error e → (d.connect openings).2.rpc = none := by
  cases hrpc : d.rpc with
  -- a device that is connected answers at once and opens nothing
  | some o =>
    have heq : d.connect openings = (.ok (), d) := by
      unfold connect
      rw [hrpc]
    rw [heq]
    exact ⟨h, fun _ => ⟨o, hrpc⟩, nofun⟩
  | none =>
    unfold connect
    rw [hrpc]
    simp only
    rcases newTransport_kept h hrpc with ⟨e, heq, hkept⟩ | ⟨o, heq, ho, hall⟩
    · rw [heq]
      exact ⟨hkept, nofun, fun _ _ => hrpc⟩
    · rw [heq]
      simp only
      have hafter : (o.after (.op (.connectDeviceAccess d.srcMac cmStationName))).DeviceAccess :=
        ho.after nofun
      cases hresult : (o.conn.connectDeviceAccess d.srcMac cmStationName).1 with
      | error e => exact ⟨h.drops hrpc hafter hall, nofun, fun _ _ => hrpc⟩
      | ok u =>
        refine ⟨⟨?_, h.dropped, ?_⟩, fun _ => ⟨_, rfl⟩, nofun⟩
        · intro o' ho'
          obtain rfl := Option.some.inj ho'
          refine ⟨hafter, ?_⟩
          rw [Opened.conn_after]
          exact connectDeviceAccess_connected hresult
        · show (d.dropped ++ [_]).map Opened.start = _
          rw [List.map_append]
          exact hall

theorem ensureConnected_kept (h : Kept openings d) :
    Kept openings (d.ensureConnected openings).2 ∧
      (∀ o, (d.ensureConnected openings).1 = .ok o →
        (d.ensureConnected openings).2.rpc = some o) ∧
      ∀ e, (d.ensureConnected openings).1 = .error e →
        (d.ensureConnected openings).2.rpc = none := by
  obtain ⟨hkept, hok, herror⟩ := connect_kept h
  unfold ensureConnected
  cases hconnect : d.connect openings with
  | mk result d' =>
    rw [hconnect] at hkept hok herror
    cases result with
    | error e => exact ⟨hkept, nofun, fun _ _ => herror e rfl⟩
    | ok u =>
      obtain ⟨o, ho⟩ := hok rfl
      simp only at ho
      simp only [ho]
      refine ⟨hkept, ?_, nofun⟩
      intro o' ho'
      rw [Except.ok.inj ho']

/-- An operation of a handle is no connect and no release of its own. -/
def Quiet (op : Op) : Prop := op.isRelease = false ∧ op.isConnect = false

theorem performs_kept {o : Opened T} {ops : List Op} (hops : ∀ op ∈ ops, Quiet op)
    (ho : o.DeviceAccess ∧ o.conn.connected = true) :
    (o.performs ops).start = o.start ∧ (o.performs ops).DeviceAccess ∧
      (o.performs ops).conn.connected = true := by
  induction ops generalizing o with
  | nil => exact ⟨rfl, ho⟩
  | cons op ops ih =>
    obtain ⟨hquiet, hrest⟩ := List.forall_mem_cons.mp hops
    have hnext : (o.after (.op op)).DeviceAccess ∧ (o.after (.op op)).conn.connected = true := by
      refine ⟨ho.1.after ?_, Opened.connected_after hquiet.1 ho.2⟩
      intro m n s heq
      have hconnect := hquiet.2
      rw [Step.op.inj heq] at hconnect
      cases hconnect
    exact ih hrest hnext

theorem onAr_kept {α : Type} {ops : List Op} (hops : ∀ op ∈ ops, Quiet op)
    (result : RpcConn T → α) (h : Kept openings d) :
    Kept openings (d.onAr openings ops result).2 := by
  obtain ⟨hkept, hok, -⟩ := ensureConnected_kept h
  unfold onAr
  cases hensure : d.ensureConnected openings with
  | mk r d' =>
    rw [hensure] at hkept hok
    cases r with
    | error e => exact hkept
    | ok o =>
      obtain ⟨hstart, hafter⟩ := performs_kept hops (hkept.rpc o (hok o rfl))
      exact hkept.goes (hok o rfl) hstart hafter

theorem quiet_readRaw (index slot subslot : UInt16) (length : UInt32) :
    Quiet (.readRaw index slot subslot length) := ⟨rfl, rfl⟩

theorem quiet_one {op : Op} (h : Quiet op) : ∀ op' ∈ [op], Quiet op' := by
  intro op' hop'
  rw [List.mem_singleton.mp hop']
  exact h

theorem readRecordImplicitLen_kept (h : Kept openings d) (slot subslot index : UInt16)
    (length : UInt32) :
    Kept openings (d.readRecordImplicitLen openings slot subslot index length).2 := by
  have hquiet : Quiet (.readRawImplicit index slot subslot length) := ⟨rfl, rfl⟩
  unfold readRecordImplicitLen
  cases hrpc : d.rpc with
  | some o =>
    obtain ⟨hstart, hafter⟩ := performs_kept (quiet_one hquiet) (h.rpc o hrpc)
    exact h.goes hrpc hstart hafter
  | none =>
    simp only
    rcases newTransport_kept h hrpc with ⟨e, heq, hkept⟩ | ⟨o, heq, ho, hall⟩
    · rw [heq]
      exact hkept
    · rw [heq]
      have hafter : (o.after (.op (.readRawImplicit index slot subslot length))).DeviceAccess :=
        ho.after nofun
      exact h.drops hrpc hafter hall

theorem readRecordLen_kept (h : Kept openings d) (slot subslot index : UInt16) (length : UInt32) :
    Kept openings (d.readRecordLen openings slot subslot index length).2 := by
  have hquiet := quiet_readRaw index slot subslot length
  obtain ⟨hkept, hok, -⟩ := ensureConnected_kept h
  unfold readRecordLen
  cases hensure : d.ensureConnected openings with
  | mk r d' =>
    rw [hensure] at hkept hok
    cases r with
    | error e => exact readRecordImplicitLen_kept hkept slot subslot index length
    | ok o =>
      obtain ⟨hstart, hafter⟩ := performs_kept (quiet_one hquiet) (hkept.rpc o (hok o rfl))
      exact hkept.goes (hok o rfl) hstart hafter

theorem readParsed_kept {α : Type} (parse : List UInt8 → Comp (Except String α)) (index : UInt16)
    (h : Kept openings d) (slot subslot : UInt16) :
    Kept openings (readParsed openings parse index d slot subslot).2 := by
  have hread := readRecordLen_kept h slot subslot index readLength
  unfold readParsed
  split
  · rename_i heq
    rw [heq] at hread
    exact hread
  · rename_i heq
    rw [heq] at hread
    exact hread

theorem disconnect_kept (h : Kept openings d) : Kept openings d.disconnect := by
  unfold disconnect
  split
  · exact h
  · rename_i o hrpc
    have hafter : (o.after (.op .release)).DeviceAccess := (h.rpc o hrpc).1.after nofun
    refine ⟨nofun, ?_, ?_⟩
    · intro o' ho'
      rcases List.mem_append.mp ho' with ho' | ho'
      · exact h.dropped o' ho'
      · rw [List.mem_singleton.mp ho']
        exact ⟨hafter.drop, Opened.drop_connected _⟩
    · have hall := h.all
      unfold connections at hall ⊢
      rw [hrpc] at hall
      simp only [Option.toList_some, Option.toList_none, List.append_nil, List.map_append] at hall ⊢
      exact hall

theorem writeRecord_kept (h : Kept openings d) (slot subslot index : UInt16) (data : List UInt8) :
    Kept openings (d.writeRecord openings slot subslot index data).2 := by
  have hquiet : Quiet (.write index slot subslot data) := ⟨rfl, rfl⟩
  exact onAr_kept (quiet_one hquiet) (fun c => (c.write index slot subslot data).1) h

/-- Every call keeps account. -/
theorem perform_kept (h : Kept openings d) (c : Call) : Kept openings (d.perform openings c) := by
  -- one case per call: what it asks of the AR is no release and no connect
  cases c with
  | connect => exact (connect_kept h).1
  | disconnect => exact disconnect_kept h
  | close => exact disconnect_kept h
  | readRecordLen slot subslot index length => exact readRecordLen_kept h slot subslot index length
  | readRecordImplicitLen slot subslot index length =>
    exact readRecordImplicitLen_kept h slot subslot index length
  | readAllIm slot subslot =>
    have h0 := readParsed_kept parseIm0 im0 h slot subslot
    have h1 := readParsed_kept parseIm1 im1 h0 slot subslot
    have h2 := readParsed_kept parseIm2 im2 h1 slot subslot
    exact readParsed_kept parseIm3 im3 h2 slot subslot
  | writeRecord slot subslot index data => exact writeRecord_kept h slot subslot index data
  | writeMultiple writes =>
    have hquiet : Quiet (.writeMultiple (writes.map fun w => (w.index, w.slot, w.subslot, w.data))) :=
      ⟨rfl, rfl⟩
    exact onAr_kept (quiet_one hquiet) (fun c => (c.writeMultiple _).1) h
  | writeIm index record =>
    show Kept openings (writeIm openings index record d).2
    unfold writeIm
    split
    · exact h
    · exact writeRecord_kept h 0 1 index _
  | readDiagnosis slot subslot index =>
    exact onAr_kept (quiet_one (quiet_readRaw index slot subslot readLength)) _ h
  | readAllDiagnosis =>
    refine onAr_kept ?_ _ h
    intro op hop
    obtain ⟨⟨idx, slot, subslot⟩, -, rfl⟩ := List.mem_map.mp hop
    exact quiet_readRaw idx slot subslot readLength
  | discoverSlots =>
    exact onAr_kept (quiet_one (quiet_readRaw realIdApi 0 1 readLength))
      (fun c => (c.readRaw _ _ _ _).1) h
  | readTopology =>
    exact onAr_kept (quiet_one (quiet_readRaw pdRealData 0 1 readLength))
      (fun c => (c.readRaw _ _ _ _).1) h

theorem act_kept (h : Kept openings d) (a : Act T) : Kept openings (d.act openings a) := by
  cases a with
  | call c => exact perform_kept h c
  | arrive a =>
    show Kept openings (d.arrive a)
    cases hrpc : d.rpc with
    | none =>
      have hsame : d.arrive a = d := by
        unfold arrive
        rw [hrpc]
        exact congrArg (fun r => { d with rpc := r }) hrpc.symm
      rw [hsame]
      exact h
    | some o =>
      have hconnected : (o.after (.arrive a)).conn.connected = true := by
        rw [Opened.conn_after]
        exact (h.rpc o hrpc).2
      have hgoes : Kept openings { d with rpc := some (o.after (.arrive a)) } :=
        h.goes hrpc rfl ⟨(h.rpc o hrpc).1.after nofun, hconnected⟩
      unfold arrive
      rw [hrpc]
      exact hgoes

theorem run_kept (h : Kept openings d) (acts : List (Act T)) :
    Kept openings (d.run openings acts) := by
  induction acts generalizing d with
  | nil => exact h
  | cons a acts ih => exact ih (act_kept h a)

end

/-- **The handle tells what the device holds.**  Over any calls and arrivals, every transport that
    was opened is one of its connections, in order; the device holds an AR of the one the handle
    says it has, and of no other; and once the handle is dropped the device holds none. -/
theorem device_holds (openings : Nat → Except String (Opening T)) (name : String)
    (deviceId vendorId : UInt16) (srcMac : Mac) (acts : List (Act T)) :
    let d := (new name deviceId vendorId srcMac).run openings acts
    d.connections.map Opened.start = (List.range d.opened).filterMap (d.opens openings) ∧
      (d.isConnected = true ↔ ∃ o ∈ d.connections, o.holds = true) ∧
      (d.connections.filter Opened.holds).length ≤ 1 ∧
      d.drop.isConnected = false ∧ ∀ o ∈ d.drop.connections, o.holds = false := by
  intro d
  have hkept : Kept openings d := run_kept (kept_new name deviceId vendorId srcMac) acts
  have hdropped : ∀ d : ProfinetDevice T, Kept openings d → ∀ o ∈ d.dropped, o.holds = false := by
    intro d h o ho
    rw [(h.dropped o ho).1.holds_eq]
    exact (h.dropped o ho).2
  have hnone : d.drop.rpc = none := by
    show d.disconnect.rpc = none
    unfold disconnect
    split
    · assumption
    · rfl
  -- only the connection in use may hold an AR: those dropped before it have released theirs
  refine ⟨hkept.all, ?_, ?_, ?_, ?_⟩
  · constructor
    · intro h
      obtain ⟨o, ho⟩ := Option.isSome_iff_exists.mp h
      refine ⟨o, List.mem_append_right _ (Option.mem_toList.mpr ho), ?_⟩
      rw [(hkept.rpc o ho).1.holds_eq]
      exact (hkept.rpc o ho).2
    · rintro ⟨o, ho, hholds⟩
      rcases List.mem_append.mp ho with ho | ho
      · rw [hdropped d hkept o ho] at hholds
        cases hholds
      · exact Option.isSome_iff_exists.mpr ⟨o, Option.mem_toList.mp ho⟩
  · unfold connections
    rw [List.filter_append, List.filter_eq_nil_iff.mpr fun o ho => by simp [hdropped d hkept o ho],
      List.nil_append]
    refine (List.length_filter_le _ _).trans ?_
    cases d.rpc with
    | none => exact Nat.zero_le _
    | some o => exact Nat.le_refl _
  · unfold isConnected
    rw [hnone]
    rfl
  · intro o ho
    unfold connections at ho
    rw [hnone] at ho
    simp only [Option.toList_none, List.append_nil] at ho
    exact hdropped d.drop (disconnect_kept hkept) o ho

end ProfinetDevice

end Profinet.Device
