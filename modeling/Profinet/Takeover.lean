/-
  TAKEOVER: from the AR for record access to the IO AR.

  `startCyclicTier` takes over the outputs of a device.  It works on two connections, one after the
  other, and on the cyclic controller:

      preflight   on the first: what is plugged, whether the GSDML agrees with it, whether the
                  output is safe; then the RELEASE
      rebind      on the second: the connect, the start of the controller, PrmEnd and the device's
                  ApplicationReady

  What happened on a connection stands in its steps, and on the second one also what the controller
  was told in between.  Whatever returns early drops what it holds.
-/
import Profinet.Device
import Profinet.ProcessImage
import Profinet.StatusText
import Profinet.ServeLoop

namespace Profinet

open Transport RpcTransport Device Checked Gsdml Util

/-! ## What it is given, and what can go wrong -/

/-- What stops a takeover. -/
inductive TierError where
  | text (e : String)
  /-- `Cycle time {}ms is below 1ms — not reliably achievable with thread-sleep pacing`. -/
  | cycleTime (us : Nat)
  | panic (p : Panic)

/-- What the takeover is asked for. -/
structure TierConfig where
  /-- The submodule whose input image is verified; none picks the first one with inputs. -/
  inputSubmodule : Option (UInt16 × UInt16)
  gsdmlPath : String
  cycleMs : UInt16
  watchdogFactor : UInt16
  excludeZeroIoSubmodules : Bool
  requireSafeOutput : Bool

/-- What the surroundings come back with: the interface, the GSDML file, the discovery of the
    device, the raw transport, and the start of the controller's threads. -/
structure TierOutside (T : Type) where
  cmMac : Except String Mac
  gsdml : Except String GsdmlDevice
  resolved : Except String (UInt16 × UInt16)
  source : Except String Unit
  opening : Except String (Opening T)
  started : Except String Unit

/-- What the first connection establishes. -/
structure Plan where
  cmMac : Mac
  ioSlots : List IoSlot
  inSlot : UInt16
  inSubslot : UInt16
  outSlot : UInt16
  outSubslot : UInt16
  actual : Nat

section
variable {T : Type} [RpcTransport T]

/-- Read a record. -/
def Device.Opened.readRaw (o : Opened T) (idx slot subslot : UInt16) (length : UInt32) :
    Except String (List UInt8) × Opened T :=
  ((o.conn.readRaw idx slot subslot length).1, o.after (.op (.readRaw idx slot subslot length)))

/-- RELEASE. -/
def Device.Opened.release (o : Opened T) : Opened T := o.after (.op .release)

/-! ## The first connection -/

/-- How often the paced read is repeated. -/
def pacedReadRetries : Nat := 4

/-- The attempts of a paced read; the pauses before them do nothing. -/
def pacedReadFrom (idx slot subslot : UInt16) (length : UInt32) :
    Nat → String → Opened T → Except String (List UInt8) × Opened T
  | 0, last, o =>
    (.error ("index " ++ toString idx.toNat ++ ": " ++ last ++ " (after "
      ++ toString pacedReadRetries ++ " attempts)"), o)
  | left + 1, _, o =>
    match o.readRaw idx slot subslot length with
    | (.ok d, o) => (.ok d, o)
    | (.error e, o) =>
      if isBusy e then pacedReadFrom idx slot subslot length left e o else (.error e, o)

/-- One paced acyclic read, retrying BUSY. -/
def pacedRead (o : Opened T) (idx slot subslot : UInt16) (length : UInt32) :
    Except String (List UInt8) × Opened T :=
  pacedReadFrom idx slot subslot length pacedReadRetries "" o

/-- The submodule whose input image is verified, and the length the GSDML gives it. -/
def declaredInput (cfg : TierConfig) (ioSlots : List IoSlot) :
    Except String ((UInt16 × UInt16) × Nat) := do
  let (inSlot, inSubslot) ←
    match cfg.inputSubmodule with
    | some pair => .ok pair
    | none =>
      match ioSlots.find? fun s => s.inputLength > 0 with
      | some s => .ok (s.slot, s.subslot)
      | none =>
        .error ("GSDML " ++ cfg.gsdmlPath ++ " describes no submodule with inputs")
  match ioSlots.find? fun s => s.slot = inSlot && s.subslot = inSubslot with
  | some s => .ok ((inSlot, inSubslot), s.inputLength)
  | none =>
    .error ("GSDML " ++ cfg.gsdmlPath ++ " describes no submodule at slot "
      ++ toString inSlot.toNat ++ " subslot " ++ toString inSubslot.toNat)

/-- The submodule that carries the output image. -/
def outputSubmodule (ioSlots : List IoSlot) (input : UInt16 × UInt16) : UInt16 × UInt16 :=
  match ioSlots.find? fun s => s.outputLength > 0 with
  | some s => (s.slot, s.subslot)
  | none => input

/-- The slots of the AR, from what the device reports and the GSDML says. -/
def tierSlots (cfg : TierConfig) (gsdml : Except String GsdmlDevice) (record : List UInt8) :
    Except TierError (List IoSlot) := do
  let real ← (Im.parseRealIdentificationData record).mapError .panic
  let gsdml ← gsdml.mapError .text
  let slots ← (gsdml.buildIoSlotsFromDevice (real.slots.map toDeviceSlot) none).mapError fun e =>
    .text e.message
  return Connect.applyZeroIoExclusion slots cfg.excludeZeroIoSubmodules

/-- The probe shows the safe image. -/
def outputIsSafe : Except String (List UInt8) → Bool
  | .ok d => parseOutputControlByte d == some safeOutputByte
  | .error _ => false

/-- The text of the mismatch. -/
def gsdmlMismatch (cfg : TierConfig) (declared actual : Nat) (input : UInt16 × UInt16) : String :=
  "GSDML mismatch: " ++ cfg.gsdmlPath ++ " declares a " ++ toString declared
    ++ "-byte input image for slot " ++ toString input.1.toNat ++ " subslot "
    ++ toString input.2.toNat ++ ", but the device provides " ++ toString actual
    ++ " bytes. Cyclic reads would silently return zeros. Use the GSDML matching this firmware."

/-- The text of the refused takeover. -/
def probeFailed : String :=
  "ownership probe failed: output is not at the safe image or state unknown; "
    ++ "refusing to take over the cyclic AR"

/-- The gate of a process that means to command, and the RELEASE. -/
def gate (cfg : TierConfig) (plan : Plan) (o : Opened T) : Except TierError Plan × Opened T :=
  if cfg.requireSafeOutput then
    let (probe, o) := o.readRaw 0x8029 plan.outSlot plan.outSubslot 128
    if outputIsSafe probe then (.ok plan, o.release)
    else (.error (.text probeFailed), o.release)
  else (.ok plan, o.release)

/-- The check of the GSDML against the input image of the device, and what follows it. -/
def agreement (cfg : TierConfig) (cmMac : Mac) (ioSlots : List IoSlot) (o : Opened T) :
    Except TierError Plan × Opened T :=
  match declaredInput cfg ioSlots with
  | .error e => (.error (.text e), o)
  | .ok (input, declared) =>
    match pacedRead o 0x8028 input.1 input.2 128 with
    | (.error e, o) =>
      (.error (.text ("could not read the input image (0x8028) to verify the GSDML: " ++ e)), o)
    | (.ok record, o) =>
      match parseInputDataLength record with
      | none => (.error (.text "could not parse the input image record (0x8028)"), o)
      | some actual =>
        if declared ≠ actual then
          (.error (.text (gsdmlMismatch cfg declared actual input)), o.release)
        else
          let output := outputSubmodule ioSlots input
          gate cfg ⟨cmMac, ioSlots, input.1, input.2, output.1, output.2, actual⟩ o

/-- Everything up to the RELEASE of the AR for record access. -/
def preflight (cfg : TierConfig) (cmMac : Except String Mac) (gsdml : Except String GsdmlDevice)
    (o : Opened T) : Except TierError Plan × Opened T :=
  match validateCycleMs cfg.cycleMs with
  | .error e => (.error (.text e), o)
  | .ok _ =>
    match cmMac with
    | .error e => (.error (.text e), o)
    | .ok cmMac =>
      match o.readRaw realIdApi 0 1 Diagnosis.readLength with
      | (.error e, o) => (.error (.text e), o)
      | (.ok record, o) =>
        match tierSlots cfg gsdml record with
        | .error e => (.error e, o)
        | .ok ioSlots => agreement cfg cmMac ioSlots o

/-! ## The second connection -/

/-- What the cyclic controller is told, and what its start comes back with. -/
inductive ControllerCall where
  | setSafeOutput (slot subslot : UInt16) (data : List UInt8)
  | start (result : Except String Unit)
  | stop

/-- What happens in the second part. -/
inductive TierStep (T : Type) [RpcTransport T] where
  | conn (s : Step T)
  | controller (c : ControllerCall)

/-- The step of the connection, if it is one. -/
def TierStep.step : TierStep T → Option (Step T)
  | .conn s => some s
  | .controller _ => none

/-- The call of the controller, if it is one. -/
def TierStep.call : TierStep T → Option ControllerCall
  | .conn _ => none
  | .controller c => some c

/-- The second connection, and the controller beside it. -/
structure Rebound (T : Type) [RpcTransport T] where
  start : RpcConn T
  trace : List (TierStep T)

namespace Rebound

/-- The connection of the trace. -/
def opened (r : Rebound T) : Opened T := ⟨r.start, r.trace.filterMap TierStep.step⟩

/-- The controller's calls of the trace. -/
def calls (r : Rebound T) : List ControllerCall := r.trace.filterMap TierStep.call

/-- One more operation on the connection. -/
def op (r : Rebound T) (o : Op) : Rebound T := { r with trace := r.trace ++ [.conn (.op o)] }

/-- One more call of the controller. -/
def tell (r : Rebound T) (c : ControllerCall) : Rebound T :=
  { r with trace := r.trace ++ [.controller c] }

/-- Both are dropped, the controller first. -/
def dropAll (r : Rebound T) : Rebound T := (r.tell .stop).op .release

end Rebound

/-- Is it a frame id of RT class 1? -/
def rtClass1 (frameId : UInt16) : Bool := 0x8000 ≤ frameId.toNat && frameId.toNat ≤ 0xFBFF

/-- The IOCRs of the second connection. -/
def tierSetup (cfg : TierConfig) (plan : Plan) : Connect.IocrSetup where
  ioSlots := plan.ioSlots
  sendClockFactor := 32
  reductionRatio := cfg.cycleMs
  watchdogFactor := cfg.watchdogFactor
  dataHoldFactor := cfg.watchdogFactor

/-- How long the device may take to become ready, in seconds. -/
def appReadyTimeout : Nat := 15

/-- PrmEnd once the output is flowing, and the wait for the device. -/
def endParameters (r : Rebound T) : Except TierError Unit × Rebound T :=
  let prmEnd := r.opened.conn.prmEnd.1
  let r := r.op .prmEnd
  match prmEnd with
  | .error e => (.error (.text e), ((r.tell .stop).op .release).dropAll)
  | .ok _ =>
    let ready := (r.opened.conn.applicationReady appReadyTimeout).1
    let r := r.op (.applicationReady appReadyTimeout)
    match ready with
    | .error e => (.error (.text e), ((r.tell .stop).op .release).dropAll)
    | .ok _ => (.ok (), r)

/-- The controller: what it is built from, its safe output, and its start. -/
def startController (cfg : TierConfig) (plan : Plan) (started : Except String Unit)
    (result : ConnectResult) (r : Rebound T) : Except TierError Unit × Rebound T :=
  let output := (Rt.buildIocrConfigs plan.ioSlots result.inputFrameId result.outputFrameId 32
    cfg.cycleMs cfg.watchdogFactor).2
  if output.cycleTimeUs < 1000 then (.error (.cycleTime output.cycleTimeUs), r.op .release)
  else
    let r := r.tell (.setSafeOutput plan.outSlot plan.outSubslot [safeOutputByte])
    let r := r.tell (.start started)
    match started with
    | .error e => (.error (.text e), r.dropAll)
    | .ok _ => endParameters r

/-- Everything on the connection that the IO AR is asked for. -/
def rebind (cfg : TierConfig) (plan : Plan) (started : Except String Unit) (r : Rebound T) :
    Except TierError Unit × Rebound T :=
  let connected := (r.opened.conn.connect plan.cmMac cmStationName (tierSetup cfg plan)).1
  let r := r.op (.connect plan.cmMac cmStationName (tierSetup cfg plan))
  match connected with
  | .error e => (.error (.text e), r.op .release)
  | .ok result =>
    if ¬ result.hasCyclic then
      (.error (.text "cyclic IO not established by device"), (r.op .release).op .release)
    else if ¬ rtClass1 result.outputFrameId then
      (.error (.text ("device assigned no usable output frame ID (0x"
          ++ Errors.hex 4 result.outputFrameId.toNat
          ++ "); transmitting on it would be silently discarded")),
        (r.op .release).op .release)
    else startController cfg plan started result r

end

/-! ## Both -/

/-- What a takeover comes to, and what became of the two connections. -/
structure TierRun (T T' : Type) [RpcTransport T] [RpcTransport T'] where
  result : Except TierError Plan
  first : Opened T
  second : Option (Rebound T')

variable {T T' : Type} [RpcTransport T] [RpcTransport T']

/-- The raw transport to the device, once it is found again. -/
def reopen (out : TierOutside T') : Except String (RpcConn T') := do
  let (deviceId, vendorId) ← out.resolved
  let _ ← out.source
  let o ← out.opening
  return withTransport o.transport deviceId vendorId o.activityUuid o.arUuid o.sessionKey

/-- Swap the AR for record access for a full IO AR and start the cyclic controller. -/
def startCyclicTier (cfg : TierConfig) (out : TierOutside T') (o : Opened T) : TierRun T T' :=
  match preflight cfg out.cmMac out.gsdml o with
  | (.error e, o) => ⟨.error e, o.drop, none⟩
  | (.ok plan, o) =>
    match reopen out with
    | .error e => ⟨.error (.text e), o.drop, none⟩
    | .ok c =>
      let (result, r) := rebind cfg plan out.started ⟨c, []⟩
      ⟨result.map fun _ => plan, o.drop, some r⟩

end Profinet
