/-
  DEVICE: the high-level handle of a device.

  The handle connects on the first operation that needs an AR, and keeps the connection until it is
  disconnected, closed or dropped.  Connections come and go: one is thrown away when its connect
  fails, or when it was opened for a single implicit read.  So the handle is modelled with every
  connection it ever opened, each with the steps it went through:

      rpc        the connection it holds, if it holds one
      dropped    the connections it is done with; no code reads them

  A call that only reads a record, or only writes one, is a function of the record's bytes behind
  the call that moves them.
-/
import Profinet.ArRelease
import Profinet.Catalog
import Profinet.Identification
import Profinet.ImRecords
import Profinet.PdReal
import Profinet.PolledAlarms
import Profinet.ReadDiagnosis

namespace Profinet.Device

open Transport RpcTransport Diagnosis Im Checked Util Wire

/-! ## Connections -/

/-- A connection with what happened to it: how it was opened, and the steps since. -/
structure Opened (T : Type) [RpcTransport T] where
  start : RpcConn T
  steps : List (Step T)

/-- What opening a transport comes back with: the port, and the random identifiers. -/
structure Opening (T : Type) where
  transport : T
  activityUuid : Uuid
  arUuid : Uuid
  sessionKey : UInt16

variable {T : Type} [RpcTransport T]

namespace Opened

/-- The connection, once the calls made on it are over. -/
def conn (o : Opened T) : RpcConn T := o.start.run o.steps

/-- One more call on it. -/
def after (o : Opened T) (s : Step T) : Opened T := { o with steps := o.steps ++ [s] }

/-- Behind some operations. -/
def performs (o : Opened T) (ops : List Op) : Opened T := ops.foldl (fun o op => o.after (.op op)) o

/-- The connection is done with: `Drop` releases it. -/
def drop (o : Opened T) : Opened T := o.after (.op .release)

/-- The device holds an AR of this connection. -/
def holds (o : Opened T) : Bool := held o.start o.steps

/-- A call on an open connection is a step of it. -/
@[simp] theorem conn_after (o : Opened T) (s : Step T) : (o.after s).conn = o.conn.step s := by
  unfold conn after RpcConn.run
  rw [List.foldl_append]
  rfl

end Opened

/-! ## The handle -/

/-- CMInitiatorStationName, `"tp"`. -/
def cmStationName : List UInt8 := [0x74, 0x70]

/-- High-level device interface, with the number of transports it has opened. -/
structure ProfinetDevice (T : Type) [RpcTransport T] where
  name : String
  deviceId : UInt16
  vendorId : UInt16
  srcMac : Mac
  rpc : Option (Opened T)
  dropped : List (Opened T)
  opened : Nat

/-- Index of the identification record, I&M0. -/
def im0 : UInt16 := 0xAFF0
/-- Index of the tags, I&M1. -/
def im1 : UInt16 := 0xAFF1
/-- Index of the installation date, I&M2. -/
def im2 : UInt16 := 0xAFF2
/-- Index of the descriptor, I&M3. -/
def im3 : UInt16 := 0xAFF3
/-- Index of the real identification of an API. -/
def realIdApi : UInt16 := 0xF000
/-- Index of the port and interface data. -/
def pdRealData : UInt16 := 0xF841

/-- I&M0 identification data. -/
structure InM0 where
  blockHeader : BlockHeader
  vendorIdHigh : UInt8
  vendorIdLow : UInt8
  orderId : Bytes 20
  imSerialNumber : Bytes 16
  imHardwareRevision : UInt16
  swRevisionPrefix : UInt8
  imSwRevisionFunctionalEnhancement : UInt8
  imSwRevisionBugFix : UInt8
  imSwRevisionInternalChange : UInt8
  imRevisionCounter : UInt16
  imProfileId : UInt16
  imProfileSpecificType : UInt16
  imVersion : UInt16
  imSupported : UInt16
  deriving DecidableEq, Repr

/-- The identification record, field by field. -/
def parseIm0 (data : List UInt8) : Comp (Except String InM0) := do
  match ← imHeader "PNInM0" data 60 with
  | .error e => return .error e
  | .ok header =>
    return .ok
      { blockHeader := header
        vendorIdHigh := ← index data 6
        vendorIdLow := ← index data 7
        orderId := ← arrayAt 20 data 8
        imSerialNumber := ← arrayAt 16 data 28
        imHardwareRevision := ← u16At data 44 false
        swRevisionPrefix := ← index data 46
        imSwRevisionFunctionalEnhancement := ← index data 47
        imSwRevisionBugFix := ← index data 48
        imSwRevisionInternalChange := ← index data 49
        imRevisionCounter := ← u16At data 50 false
        imProfileId := ← u16At data 52 false
        imProfileSpecificType := ← u16At data 54 false
        imVersion := ← u16At data 56 false
        imSupported := ← u16At data 58 false }

/-- All I&M records a device turned out to support. -/
structure AllIm where
  im0 : Option InM0
  im1 : Option InM1
  im2 : Option InM2
  im3 : Option InM3

/-- Indices, slots and subslots. -/
def diagnosisIndices : List (UInt16 × UInt16 × UInt16) :=
  [ (0x800A, 0, 0), -- channel diagnosis for slot 0
    (0x800B, 0, 0), -- all diagnosis for slot 0
    (0x800C, 0, 1), -- channel diagnosis for subslot 1
    (0xF000, 0, 0), -- all diagnosis data
    (0xF00A, 0, 0), -- channel diagnosis, API level
    (0xF00B, 0, 0) ] -- all diagnosis, API level

/-- The diagnosis of these indices, in their order, which is that of the result's keys. -/
def readAllDiagnosis (c : RpcConn T) : Comp (List (UInt16 × DiagnosisData)) × RpcConn T :=
  diagnosisIndices.foldl
    (fun (results, c) (idx, slot, subslot) =>
      let (diag, c) := readDiagnosis c slot subslot idx
      (do
        let results ← results
        let diag ← diag
        return if diag.entries.isEmpty then results else results ++ [(idx, diag)], c))
    (.ok [], c)

/-- A slot of the device, as the slot builder wants it. -/
def toDeviceSlot (s : SlotInfo) : Gsdml.DeviceSlot :=
  ⟨s.slot, s.subslot, s.moduleIdent, s.submoduleIdent⟩

/-- Single write operation. -/
structure WriteItem where
  slot : UInt16
  subslot : UInt16
  index : UInt16
  data : List UInt8

namespace ProfinetDevice

/-- A handle is opened without a connection. -/
def new (name : String) (deviceId vendorId : UInt16) (srcMac : Mac) : ProfinetDevice T :=
  ⟨name, deviceId, vendorId, srcMac, none, [], 0⟩

/-- A device is connected if it holds a connection. -/
def isConnected (d : ProfinetDevice T) : Bool := d.rpc.isSome

/-- Send the Release terminating the AR and drop the connection. -/
def disconnect (d : ProfinetDevice T) : ProfinetDevice T :=
  match d.rpc with
  | none => d
  | some o => { d with rpc := none, dropped := d.dropped ++ [(o.after (.op .release)).drop] }

/-- Closing is disconnecting. -/
def close (d : ProfinetDevice T) : ProfinetDevice T := d.disconnect

/-- Dropping the handle closes it. -/
def drop (d : ProfinetDevice T) : ProfinetDevice T := d.close

section
variable (openings : Nat → Except String (Opening T))

/-- Open a transport to the device without establishing an AR. -/
def newTransport (d : ProfinetDevice T) : Except String (Opened T) × ProfinetDevice T :=
  ((openings d.opened).map fun o =>
      ⟨withTransport o.transport d.deviceId d.vendorId o.activityUuid o.arUuid o.sessionKey, []⟩,
    { d with opened := d.opened + 1 })

/-- Establish the AR with the device: a Device-Access AR. -/
def connect (d : ProfinetDevice T) : Except String Unit × ProfinetDevice T :=
  match d.rpc with
  | some _ => (.ok (), d)
  | none =>
    match d.newTransport openings with
    | (.error e, d) => (.error e, d)
    | (.ok o, d) =>
      let result := (o.conn.connectDeviceAccess d.srcMac cmStationName).1
      let o := o.after (.op (.connectDeviceAccess d.srcMac cmStationName))
      match result with
      | .error e =>
        (.error ("Failed to connect to " ++ d.name ++ ": " ++ e),
          { d with dropped := d.dropped ++ [o.drop] })
      | .ok _ => (.ok (), { d with rpc := some o })

/-- The connection there is, or a new one. -/
def ensureConnected (d : ProfinetDevice T) : Except String (Opened T) × ProfinetDevice T :=
  let (result, d) := d.connect openings
  match result, d.rpc with
  | .error e, _ => (.error e, d)
  | .ok _, some o => (.ok o, d)
  | .ok _, none => (.error "connected above", d)

/-- Operations of the connection, on the AR that the handle ensures. -/
def onAr {α : Type} (ops : List Op) (result : RpcConn T → α) (d : ProfinetDevice T) :
    Except String α × ProfinetDevice T :=
  match d.ensureConnected openings with
  | (.error e, d) => (.error e, d)
  | (.ok o, d) => (.ok (result o.conn), { d with rpc := some (o.performs ops) })

/-- Read Implicit with an explicit requested length. -/
def readRecordImplicitLen (d : ProfinetDevice T) (slot subslot index : UInt16) (length : UInt32) :
    Except String (List UInt8) × ProfinetDevice T :=
  match d.rpc with
  | some o =>
    ((o.conn.readRawImplicit index slot subslot length).1,
      { d with rpc := some (o.after (.op (.readRawImplicit index slot subslot length))) })
  | none =>
    -- an unconnected transport is enough
    match d.newTransport openings with
    | (.error e, d) => (.error e, d)
    | (.ok o, d) =>
      ((o.conn.readRawImplicit index slot subslot length).1,
        { d with dropped := d.dropped ++
          [(o.after (.op (.readRawImplicit index slot subslot length))).drop] })

/-- A record is read without a connection of our own. -/
def readRecordImplicit (d : ProfinetDevice T) (slot subslot index : UInt16) :
    Except String (List UInt8) × ProfinetDevice T :=
  d.readRecordImplicitLen openings slot subslot index readLength

/-- Read a record with an explicit requested length; a failed connect falls back to the service
    that needs no AR. -/
def readRecordLen (d : ProfinetDevice T) (slot subslot index : UInt16) (length : UInt32) :
    Except String (List UInt8) × ProfinetDevice T :=
  match d.ensureConnected openings with
  | (.error _, d) => d.readRecordImplicitLen openings slot subslot index length
  | (.ok o, d) =>
    ((o.conn.readRaw index slot subslot length).1,
      { d with rpc := some (o.after (.op (.readRaw index slot subslot length))) })

/-- A record of the usual length is read. -/
def readRecord (d : ProfinetDevice T) (slot subslot index : UInt16) :
    Except String (List UInt8) × ProfinetDevice T :=
  d.readRecordLen openings slot subslot index readLength

/-- A record is written. -/
def writeRecord (d : ProfinetDevice T) (slot subslot index : UInt16) (data : List UInt8) :
    Except String Unit × ProfinetDevice T :=
  let (result, d) := d.onAr openings [.write index slot subslot data] fun c =>
    (c.write index slot subslot data).1
  (result.bind id, d)

/-- And several at once. -/
def writeMultiple (d : ProfinetDevice T) (writes : List WriteItem) :
    Except String (List Blocks.WriteMultipleResult) × ProfinetDevice T :=
  let entries := writes.map fun w => (w.index, w.slot, w.subslot, w.data)
  let (result, d) := d.onAr openings [.writeMultiple entries] fun c => (c.writeMultiple entries).1
  (result.bind id, d)

/-! ### I&M records -/

/-- Read a record and parse it. -/
def readParsed {α : Type} (parse : List UInt8 → Comp (Except String α)) (index : UInt16)
    (d : ProfinetDevice T) (slot subslot : UInt16) : Comp (Except String α) × ProfinetDevice T :=
  match d.readRecordLen openings slot subslot index readLength with
  | (.error e, d) => (.ok (.error e), d)
  | (.ok payload, d) => (parse payload, d)

/-- I&M0 of a submodule. -/
def readIm0At (d : ProfinetDevice T) (slot subslot : UInt16) :
    Comp (Except String InM0) × ProfinetDevice T :=
  readParsed openings parseIm0 im0 d slot subslot

/-- I&M1. -/
def readIm1At (d : ProfinetDevice T) (slot subslot : UInt16) :
    Comp (Except String InM1) × ProfinetDevice T :=
  readParsed openings parseIm1 im1 d slot subslot

/-- I&M2. -/
def readIm2At (d : ProfinetDevice T) (slot subslot : UInt16) :
    Comp (Except String InM2) × ProfinetDevice T :=
  readParsed openings parseIm2 im2 d slot subslot

/-- And I&M3. -/
def readIm3At (d : ProfinetDevice T) (slot subslot : UInt16) :
    Comp (Except String InM3) × ProfinetDevice T :=
  readParsed openings parseIm3 im3 d slot subslot

/-- Probe I&M0..3, keeping only the ones the device supports. -/
def readAllIm (d : ProfinetDevice T) (slot subslot : UInt16) : Comp AllIm × ProfinetDevice T :=
  let (r0, d) := d.readIm0At openings slot subslot
  let (r1, d) := d.readIm1At openings slot subslot
  let (r2, d) := d.readIm2At openings slot subslot
  let (r3, d) := d.readIm3At openings slot subslot
  (do
    let im0 ← r0
    let im1 ← r1
    let im2 ← r2
    let im3 ← r3
    return ⟨im0.toOption, im1.toOption, im2.toOption, im3.toOption⟩, d)

/-- Write a record that is built first; what cannot be built is not written. -/
def writeIm (index : UInt16) (record : Except FieldError (List UInt8)) (d : ProfinetDevice T) :
    Except (FieldError ⊕ String) Unit × ProfinetDevice T :=
  match record with
  | .error e => (.error (.inl e), d)
  | .ok data =>
    let (result, d) := d.writeRecord openings 0 1 index data
    (result.mapError .inr, d)

/-- The tags are written, if they can be encoded. -/
def writeIm1 (d : ProfinetDevice T) (tagFunction tagLocation : String) :
    Except (FieldError ⊕ String) Unit × ProfinetDevice T :=
  writeIm openings im1 (im1Record tagFunction tagLocation) d

/-- So is the date. -/
def writeIm2 (d : ProfinetDevice T) (date : String) :
    Except (FieldError ⊕ String) Unit × ProfinetDevice T :=
  writeIm openings im2 (im2Record date) d

/-- And the descriptor. -/
def writeIm3 (d : ProfinetDevice T) (descriptor : String) :
    Except (FieldError ⊕ String) Unit × ProfinetDevice T :=
  writeIm openings im3 (im3Record descriptor) d

/-! ### Configuration and diagnosis -/

/-- Read diagnosis data; a read that fails yields an empty one. -/
def readDiagnosis (d : ProfinetDevice T) (slot subslot index : UInt16) :
    Except String (Comp DiagnosisData) × ProfinetDevice T :=
  d.onAr openings [.readRaw index slot subslot readLength] fun c =>
    (Diagnosis.readDiagnosis c slot subslot index).1

/-- Read diagnosis from all standard indices, keeping only the ones with entries. -/
def readAllDiagnosis (d : ProfinetDevice T) :
    Except String (Comp (List (UInt16 × DiagnosisData))) × ProfinetDevice T :=
  d.onAr openings (diagnosisIndices.map fun (idx, slot, subslot) =>
      .readRaw idx slot subslot readLength)
    fun c => (Device.readAllDiagnosis c).1

/-- A record at slot 0, subslot 1, parsed. -/
def readRecordOnAr {α : Type} (parse : List UInt8 → Comp α) (index : UInt16)
    (d : ProfinetDevice T) : Except String (Comp α) × ProfinetDevice T :=
  let (result, d) := d.onAr openings [.readRaw index 0 1 readLength] fun c =>
    (c.readRaw index 0 1 readLength).1
  ((result.bind id).map parse, d)

/-- Discover all slots and subslots. -/
def discoverSlots (d : ProfinetDevice T) :
    Except String (Comp (List Gsdml.DeviceSlot)) × ProfinetDevice T :=
  readRecordOnAr openings
    (fun data => (parseRealIdentificationData data).map fun r => r.slots.map toDeviceSlot)
    realIdApi d

/-- Read the physical topology. -/
def readTopology (d : ProfinetDevice T) : Except String (Comp PdRealData) × ProfinetDevice T :=
  readRecordOnAr openings parsePdRealData pdRealData d

/-- Read alarm data: none when no alarm is present or the read fails. -/
def readAlarm (d : ProfinetDevice T) (slot subslot index : UInt16) :
    Comp (Option Alarms.AlarmNotification) × ProfinetDevice T :=
  match d.readRecord openings slot subslot index with
  | (.error _, d) => (.ok none, d)
  | (.ok data, d) => (Alarms.alarmFromRecord data, d)

end

/-! ## Calls and arrivals -/

/-- What is done with a handle; the operations that differ only in the record they read, or in what
    they make of it, are one. -/
inductive Call where
  | connect
  | disconnect
  | close
  | readRecordLen (slot subslot index : UInt16) (length : UInt32)
  | readRecordImplicitLen (slot subslot index : UInt16) (length : UInt32)
  | readAllIm (slot subslot : UInt16)
  | writeRecord (slot subslot index : UInt16) (data : List UInt8)
  | writeMultiple (writes : List WriteItem)
  | writeIm (index : UInt16) (record : Except FieldError (List UInt8))
  | readDiagnosis (slot subslot index : UInt16)
  | readAllDiagnosis
  | discoverSlots
  | readTopology

section
variable (openings : Nat → Except String (Opening T))

/-- The device after a call. -/
def perform (d : ProfinetDevice T) : Call → ProfinetDevice T
  | .connect => (d.connect openings).2
  | .disconnect => d.disconnect
  | .close => d.close
  | .readRecordLen slot subslot index length => (d.readRecordLen openings slot subslot index length).2
  | .readRecordImplicitLen slot subslot index length =>
    (d.readRecordImplicitLen openings slot subslot index length).2
  | .readAllIm slot subslot => (d.readAllIm openings slot subslot).2
  | .writeRecord slot subslot index data => (d.writeRecord openings slot subslot index data).2
  | .writeMultiple writes => (d.writeMultiple openings writes).2
  | .writeIm index record => (writeIm openings index record d).2
  | .readDiagnosis slot subslot index => (d.readDiagnosis openings slot subslot index).2
  | .readAllDiagnosis => (d.readAllDiagnosis openings).2
  | .discoverSlots => (d.discoverSlots openings).2
  | .readTopology => (d.readTopology openings).2

/-- Something arrives at the transport of the connection it holds. -/
def arrive (d : ProfinetDevice T) (a : Arrival T) : ProfinetDevice T :=
  { d with rpc := d.rpc.map fun o => o.after (.arrive a) }

/-- A call of the owner, or an arrival. -/
inductive Act (T : Type) [RpcTransport T] where
  | call (c : Call)
  | arrive (a : Arrival T)

/-- A call, or something that arrives on the network. -/
def act (d : ProfinetDevice T) : Act T → ProfinetDevice T
  | .call c => d.perform openings c
  | .arrive a => d.arrive a

/-- The device after a session. -/
def run (d : ProfinetDevice T) (acts : List (Act T)) : ProfinetDevice T :=
  acts.foldl (act openings) d

/-- Every connection that was opened, in order. -/
def connections (d : ProfinetDevice T) : List (Opened T) := d.dropped ++ d.rpc.toList

end

end ProfinetDevice

end Profinet.Device
