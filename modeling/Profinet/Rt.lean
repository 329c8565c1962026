/-
  RT: PROFINET RT_CLASS_1 framing and the runtime IOCR layout.

  1. **Frames** — `RtFrame` is frame id, C_SDU payload and the four-byte APDU status trailer;
     `buildEthernetFrame` puts the tagged Ethernet header in front of it and
     `parseEthernetFrame` takes it off again.
  2. **Layout** — `buildIocrConfigs` walks the slot list twice per direction with a running
     frame offset: first one data object (data, then its IOPS byte) per submodule with data in
     that direction, then one IOCS byte per submodule without.  The input configuration only
     reserves the IOCS bytes; the output configuration keeps an IOCS-only object for each, so
     that the controller can acknowledge the device's input.

  `usize` is `Nat`; the fixed-width fields are the machine words of the source.
-/
import Profinet.Lib.Pack
import Profinet.Gsdml
import Profinet.Util

namespace Profinet.Rt

open Wire Pack Gsdml Util

/-! ## Constants -/

/-- EtherType for PROFINET RT frames. -/
def ethertypeProfinet : UInt16 := 0x8892

/-- Device -> Controller. -/
def iocrTypeInput : UInt16 := 1
/-- Controller -> Device. -/
def iocrTypeOutput : UInt16 := 2

/-- 0=Backup, 1=Primary. -/
def dataStatusState : UInt8 := 0x01
/-- 0=Invalid, 1=Valid. -/
def dataStatusValid : UInt8 := 0x04
/-- 0=Stop, 1=Run. -/
def dataStatusProviderRun : UInt8 := 0x10
/-- 0=Problem, 1=OK. -/
def dataStatusStationOk : UInt8 := 0x20
/-- 1=Ignore frame. -/
def dataStatusIgnore : UInt8 := 0x80

/-- Good data, subslot level. -/
def ioxsGood : UInt8 := 0x80
/-- DataState is bit 7 of a received IOxS byte. -/
def ioxsDataStateGood : UInt8 := 0x80
/-- Bad data. -/
def ioxsBad : UInt8 := 0x00

/-! ## RT frames -/

/-- PROFINET real-time cyclic frame (`RtFrame`). -/
structure RtFrame where
  frameId : UInt16
  cycleCounter : UInt16
  dataStatus : UInt8
  transferStatus : UInt8
  /-- C_SDU payload containing process data and IOxS. -/
  payload : List UInt8
  deriving DecidableEq, Repr

namespace RtFrame

/-- `RtFrame::from_bytes`: frame_id, payload, then the 4-byte trailer. -/
def fromBytes (data : List UInt8) : Except String RtFrame :=
  if data.length < 6 then .error s!"RT frame too short: {data.length} bytes"
  else
    let trailer := data.drop (data.length - 4)
    .ok
      { frameId := ofBe16 (data.getD 0 0) (data.getD 1 0)
        cycleCounter := ofBe16 (trailer.getD 0 0) (trailer.getD 1 0)
        dataStatus := trailer.getD 2 0
        transferStatus := trailer.getD 3 0
        payload := (data.take (data.length - 4)).drop 2 }

/-- `RtFrame::to_bytes`.  Does not include the Ethernet header. -/
def toBytes (f : RtFrame) : List UInt8 :=
  be16 f.frameId ++ (f.payload ++ (be16 f.cycleCounter ++ [f.dataStatus, f.transferStatus]))

/-- DataStatus bit 2. -/
def isValid (f : RtFrame) : Bool := f.dataStatus &&& dataStatusValid != 0
/-- DataStatus bit 4. -/
def isRunning (f : RtFrame) : Bool := f.dataStatus &&& dataStatusProviderRun != 0
/-- DataStatus bit 7. -/
def isIgnored (f : RtFrame) : Bool := f.dataStatus &&& dataStatusIgnore != 0

end RtFrame

/-- TPID 0x8100, PCP 6, VID 0. -/
def vlanTagRt : List UInt8 := [0x81, 0x00, 0xC0, 0x00]

/-- `build_ethernet_frame`: dst_mac ++ src_mac ++ VLAN tag ++ ethertype 0x8892 ++ frame. -/
def buildEthernetFrame (dstMac srcMac : Mac) (f : RtFrame) : List UInt8 :=
  dstMac.1 ++ (srcMac.1 ++ (vlanTagRt ++ (be16 ethertypeProfinet ++ f.toBytes)))

/-- The payload of a built frame starts at byte 20. -/
theorem buildEthernetFrame_payload (dstMac srcMac : Mac) (f : RtFrame) {p : Nat}
    (hp : p < f.payload.length) :
    (buildEthernetFrame dstMac srcMac f)[20 + p]? = f.payload[p]? := by
  have hsplit : buildEthernetFrame dstMac srcMac f
      = (dstMac.1 ++ srcMac.1 ++ vlanTagRt ++ be16 ethertypeProfinet ++ be16 f.frameId)
        ++ (f.payload ++ (be16 f.cycleCounter ++ [f.dataStatus, f.transferStatus])) := by
    simp only [buildEthernetFrame, RtFrame.toBytes, List.append_assoc]
  have hhead : (dstMac.1 ++ srcMac.1 ++ vlanTagRt ++ be16 ethertypeProfinet
      ++ be16 f.frameId).length = 20 := by
    simp only [List.length_append, dstMac.2, srcMac.2, be16_length]
    rfl
  rw [hsplit, List.getElem?_append_right (by omega), hhead, Nat.add_sub_cancel_left,
    List.getElem?_append_left hp]

/-- `parse_ethernet_frame`: none unless the EtherType is 0x8892 and the RT part parses. -/
def parseEthernetFrame (data : List UInt8) : Option RtFrame :=
  let ethOffset := skipVlanTags data
  if data.length < 18 then none
  else if data.length < ethOffset + 2 then none
  else if ofBe16 (data.getD ethOffset 0) (data.getD (ethOffset + 1) 0) ≠ ethertypeProfinet then none
  else (RtFrame.fromBytes (data.drop (ethOffset + 2))).toOption

/-! ## IOCR configuration -/

/-- One piece of process data mapped to a slot/subslot (`IoDataObject`). -/
structure IoDataObject where
  slot : UInt16
  subslot : UInt16
  /-- Offset within the C_SDU payload for the data. -/
  frameOffset : Nat
  dataLength : Nat
  /-- Offset of the IOPS (Provider Status) byte. -/
  iopsOffset : Nat
  /-- Offset of the IOCS (Consumer Status) byte, for the objects that carry one. -/
  iocsOffset : Option Nat
  deriving DecidableEq, Repr

/-- What identifies an object: its slot and subslot. -/
def IoDataObject.key (o : IoDataObject) : UInt16 × UInt16 := (o.slot, o.subslot)

/-- Timing parameters and IO object mappings of one IOCR (`IocrConfig`). -/
structure IocrConfig where
  iocrType : UInt16
  iocrReference : UInt16
  frameId : UInt16
  sendClockFactor : UInt16
  reductionRatio : UInt16
  phase : UInt16
  watchdogFactor : UInt16
  /-- Total C_SDU length (minimum 40 bytes). -/
  dataLength : Nat
  objects : List IoDataObject
  deriving DecidableEq, Repr

namespace IocrConfig

/-- Cycle time in microseconds: 31.25 = 125/4. -/
def cycleTimeUs (c : IocrConfig) : Nat := c.reductionRatio.toNat * c.sendClockFactor.toNat * 125 / 4

/-- Watchdog timeout in microseconds. -/
def watchdogTimeUs (c : IocrConfig) : Nat := c.watchdogFactor.toNat * c.cycleTimeUs

end IocrConfig

/-- The object a submodule with `len` bytes of data gets when the running offset is at `off`. -/
def dataObject (len : IoSlot → Nat) (off : Nat) (s : IoSlot) : IoDataObject :=
  { slot := s.slot
    subslot := s.subslot
    frameOffset := off
    dataLength := len s
    iopsOffset := off + len s
    iocsOffset := none }

/-- The IOCS-only object of a submodule without output data. -/
def iocsObject (off : Nat) (s : IoSlot) : IoDataObject :=
  { slot := s.slot
    subslot := s.subslot
    frameOffset := off
    dataLength := 0
    iopsOffset := 0
    iocsOffset := some off }

/-- First pass of a direction: data objects, each followed by its IOPS byte. -/
def dataObjects (len : IoSlot → Nat) (slots : List IoSlot) : List IoDataObject × Nat :=
  slots.foldl (place (fun s => len s > 0) (fun s => len s + 1) (dataObject len)) ([], 0)

/-- Second pass of the input direction: one byte is reserved per slot with no input data. -/
def inputIocs (slots : List IoSlot) (frameOffset : Nat) : Nat :=
  slots.foldl (fun off s => if s.inputLength = 0 then off + 1 else off) frameOffset

/-- Second pass of the output direction: an IOCS-only object per slot with no output data. -/
def outputIocs (slots : List IoSlot) (st : List IoDataObject × Nat) : List IoDataObject × Nat :=
  slots.foldl (place (fun s => s.outputLength = 0) (fun _ => 1) iocsObject) st

/-- The (input, output) configuration pair of the cyclic controller (`build_iocr_configs`). -/
def buildIocrConfigs (slots : List IoSlot) (inputFrameId outputFrameId sendClockFactor
    reductionRatio watchdogFactor : UInt16) : IocrConfig × IocrConfig :=
  let (inputObjects, inputEnd) := dataObjects IoSlot.inputLength slots
  let inputTotal := inputIocs slots inputEnd
  let (outputObjects, outputTotal) := outputIocs slots (dataObjects IoSlot.outputLength slots)
  ({ iocrType := iocrTypeInput
     iocrReference := 1
     frameId := inputFrameId
     sendClockFactor := sendClockFactor
     reductionRatio := reductionRatio
     phase := 0
     watchdogFactor := watchdogFactor
     dataLength := max inputTotal 40
     objects := inputObjects },
   { iocrType := iocrTypeOutput
     iocrReference := 2
     frameId := outputFrameId
     sendClockFactor := sendClockFactor
     reductionRatio := reductionRatio
     phase := 0
     watchdogFactor := watchdogFactor
     dataLength := max outputTotal 40
     objects := outputObjects })

end Profinet.Rt
