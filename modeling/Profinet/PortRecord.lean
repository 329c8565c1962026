/-
  PORT RECORDS: every port of a PDRealData record.

  A record of MultipleBlockHeader blocks with port blocks in them.  Every block is a multiple of four
  bytes long, so every body begins two bytes behind a multiple of four, whatever stands before it:
  the parser reads each port as it would alone, with the rest of the record behind it
  (`nestedFound_ports_iff`).  So a record is read back exactly where every port in it is (`RecordMet`).
-/
import Mathlib.Data.List.Basic
import Profinet.PortShift

namespace Profinet.Im

open Wire Checked

/-- One port: its fields and the versions of its block. -/
structure PortBlock where
  versionHigh : UInt8
  versionLow : UInt8
  fields : PortFields
  fits : 2 + fields.body.length < 65536

namespace PortBlock

/-- The port as a nested block. -/
def nested (b : PortBlock) : NestedBlock where
  blockType := blockPdPortDataReal
  versionHigh := b.versionHigh
  versionLow := b.versionLow
  body := b.fields.body
  fits := b.fits

/-- The port's block, as bytes. -/
def bytes (b : PortBlock) : List UInt8 := b.nested.bytes

/-- What the parser should report of the port. -/
def info (b : PortBlock) : PortInfo := b.fields.info

/-- A port block is written aligned. -/
theorem bytes_length_mod (b : PortBlock) : b.bytes.length % 4 = 0 := by
  have hlen := b.nested.bytes_length
  have hlead := b.fields.lead_length
  have hregion : b.fields.region.length = b.fields.peersLength + 16 := b.fields.region_length
  have hpeers := b.fields.peersLength_mod
  have hbody : b.nested.body.length = b.fields.lead.length + (b.fields.region.length + 4) := by
    show b.fields.body.length = _
    rw [PortFields.body, List.length_append, List.length_append, be32_length]
  have hmod := up4_mod (14 + b.fields.portId.length)
  show b.nested.bytes.length % 4 = 0
  omega

end PortBlock

/-- A MultipleBlockHeader block of a subslot, with its ports. -/
structure SubslotPorts where
  versionHigh : UInt8
  versionLow : UInt8
  api : UInt32
  slot : UInt16
  subslot : UInt16
  ports : List PortBlock
  fits : 12 + (ports.flatMap PortBlock.bytes).length < 65536

namespace SubslotPorts

/-- The ports of one submodule, as a block of the record. -/
def block (s : SubslotPorts) : SubslotBlock where
  versionHigh := s.versionHigh
  versionLow := s.versionLow
  padding := noPadding
  api := s.api
  slot := s.slot
  subslot := s.subslot
  nested := s.ports.map PortBlock.nested
  fits := by
    rw [List.flatMap_map]
    exact s.fits

/-- The submodule's block, as bytes. -/
def bytes (s : SubslotPorts) : List UInt8 := (RecordBlock.subslot s.block).bytes

end SubslotPorts

/-- What a device sends. -/
def recordBytes (record : List SubslotPorts) : List UInt8 := record.flatMap SubslotPorts.bytes

/-- What it says. -/
def recordPorts (record : List SubslotPorts) : List PortInfo :=
  record.flatMap fun s => s.ports.map PortBlock.info

/-- Every port is read back, with what stands behind it. -/
def PortsMet : List PortBlock → List UInt8 → Prop
  | [], _ => True
  | b :: bs, after => b.fields.Met (bs.flatMap PortBlock.bytes ++ after) ∧ PortsMet bs after

/-- Every port of every submodule is read back, with what stands behind it. -/
def RecordMet : List SubslotPorts → Prop
  | [] => True
  | s :: record => PortsMet s.ports (recordBytes record) ∧ RecordMet record

/-! ## What is found -/

/-- The ports of two results. -/
theorem ports_append (found more : PdRealData) :
    (found.append more).ports = found.ports ++ more.ports := rfl

/-- A block header leaves two bytes to the next multiple of four. -/
theorem toAligned_body {off : Nat} (h : off % 4 = 0) : toAligned (off + 6) = 2 := by
  have hsum := add_toAligned (off + 6)
  have hup : up4 (off + 6) = off + 8 := up4_eq (by omega) (by omega) (by omega)
  omega

/-- A port block adds the port that is read of it. -/
theorem nestedFound_cons (slot subslot : UInt16) (b : PortBlock) (bs : List PortBlock) {off : Nat}
    (hoff : off % 4 = 0) (after : List UInt8) :
    (nestedFound slot subslot off ((b :: bs).map PortBlock.nested) after).ports
      = readPort (b.fields.rest (bs.flatMap PortBlock.bytes ++ after)) 2 slot subslot
        :: (nestedFound slot subslot (off + b.bytes.length) (bs.map PortBlock.nested) after).ports := by
  rw [List.map_cons, nestedFound, ports_append, toAligned_body hoff, List.flatMap_map]
  rfl

/-- As many ports are reported as there are blocks. -/
theorem nestedFound_ports_length (slot subslot : UInt16) (bs : List PortBlock) {off : Nat}
    (hoff : off % 4 = 0) (after : List UInt8) :
    (nestedFound slot subslot off (bs.map PortBlock.nested) after).ports.length = bs.length := by
  induction bs generalizing off with
  | nil => rfl
  | cons b bs ih =>
    have hb := b.bytes_length_mod
    rw [nestedFound_cons slot subslot b bs hoff, List.length_cons, ih (by omega), List.length_cons]

/-- The ports are reported as they are exactly where they are met. -/
theorem nestedFound_ports_iff (slot subslot : UInt16) (bs : List PortBlock) {off : Nat}
    (hoff : off % 4 = 0) (after : List UInt8) :
    (nestedFound slot subslot off (bs.map PortBlock.nested) after).ports = bs.map PortBlock.info
      ↔ PortsMet bs after := by
  induction bs generalizing off with
  | nil => exact ⟨fun _ => trivial, fun _ => rfl⟩
  | cons b bs ih =>
    have hb := b.bytes_length_mod
    rw [nestedFound_cons slot subslot b bs hoff, List.map_cons, List.cons.injEq, ih (by omega)]
    exact and_congr (b.fields.readPort_iff _ slot subslot) Iff.rfl

/-- The ports of a submodule's block are those found in it. -/
theorem found_ports (b : SubslotBlock) (off : Nat) (after : List UInt8) :
    (b.found off after).ports
      = (nestedFound b.slot b.subslot (off + 16) b.nested after).ports := List.append_nil _

/-- The ports of a record: those of the first submodule, then the others. -/
theorem recordFound_cons (s : SubslotPorts) (record : List SubslotPorts) (off : Nat) :
    (recordFound off ((s :: record).map fun s => .subslot s.block) []).ports
      = (nestedFound s.slot s.subslot (off + 16) (s.ports.map PortBlock.nested)
          (recordBytes record)).ports
        ++ (recordFound (off + s.bytes.length) (record.map fun s => .subslot s.block) []).ports := by
  rw [List.map_cons, recordFound, ports_append, List.flatMap_map, List.append_nil]
  show ((SubslotBlock.found s.block off (recordBytes record)).ports ++ _) = _
  rw [found_ports]
  rfl

/-- A submodule's block is written aligned. -/
theorem SubslotPorts.bytes_length_mod (s : SubslotPorts) : s.bytes.length % 4 = 0 := by
  have hports : ∀ bs : List PortBlock, (bs.flatMap PortBlock.bytes).length % 4 = 0 := by
    intro bs
    induction bs with
    | nil => rfl
    | cons b bs ih =>
      have hb := b.bytes_length_mod
      rw [List.flatMap_cons, List.length_append]
      omega
  have hlen := (RecordBlock.subslot s.block).bytes_length
  have hbody : (RecordBlock.subslot s.block).body.length
      = 10 + ((s.ports.map PortBlock.nested).flatMap NestedBlock.bytes).length :=
    s.block.body_length
  have hmod : (s.ports.flatMap PortBlock.bytes).length % 4 = 0 := hports s.ports
  rw [List.flatMap_map] at hbody
  have hbody : (RecordBlock.subslot s.block).body.length
      = 10 + (s.ports.flatMap PortBlock.bytes).length := hbody
  show (RecordBlock.subslot s.block).bytes.length % 4 = 0
  omega

/-- The ports of a record are reported as they are exactly where all of them are met. -/
theorem recordFound_ports_iff (record : List SubslotPorts) {off : Nat} (hoff : off % 4 = 0) :
    (recordFound off (record.map fun s => .subslot s.block) []).ports = recordPorts record
      ↔ RecordMet record := by
  induction record generalizing off with
  | nil => exact ⟨fun _ => trivial, fun _ => rfl⟩
  | cons s record ih =>
    have hs := s.bytes_length_mod
    have hoff' : (off + 16) % 4 = 0 := by omega
    have hports := nestedFound_ports_iff s.slot s.subslot s.ports hoff' (recordBytes record)
    have hlen : (nestedFound s.slot s.subslot (off + 16) (s.ports.map PortBlock.nested)
        (recordBytes record)).ports.length = (s.ports.map PortBlock.info).length := by
      rw [nestedFound_ports_length s.slot s.subslot s.ports hoff', List.length_map]
    have hnext : (off + s.bytes.length) % 4 = 0 := by omega
    have hmore := ih hnext
    rw [recordFound_cons]
    show _ = s.ports.map PortBlock.info ++ recordPorts record ↔ _
    constructor
    · intro h
      obtain ⟨hfound, hrest⟩ := List.append_inj h hlen
      exact ⟨hports.mp hfound, hmore.mp hrest⟩
    · rintro ⟨hfound, hrest⟩
      rw [hports.mpr hfound, hmore.mpr hrest]

/-! ## The record -/

/-- The record is its blocks. -/
theorem recordBytes_blocks (record : List SubslotPorts) :
    (record.map fun s => RecordBlock.subslot s.block).flatMap RecordBlock.bytes
      = recordBytes record := by
  rw [List.flatMap_map]
  rfl

/-- The record is read as what is found in its blocks. -/
theorem parsePdRealData_ports {record : List SubslotPorts}
    (hlen : (recordBytes record).length < 2 ^ 63) :
    parsePdRealData (recordBytes record)
      = .ok (recordFound 0 (record.map fun s => .subslot s.block) []) := by
  rw [← recordBytes_blocks] at hlen ⊢
  exact parsePdRealData_blocks hlen

/-- The ports of the record are those that were written. -/
def PortsRead (record : List SubslotPorts) : Prop :=
  ∃ r, parsePdRealData (recordBytes record) = .ok r ∧ r.ports = recordPorts record

/-- **The ports of a record are read back exactly where none of them has anything to say.** -/
theorem ports_read_iff (record : List SubslotPorts)
    (hlen : (recordBytes record).length < 2 ^ 63) : PortsRead record ↔ RecordMet record := by
  have hfirst : 0 % 4 = 0 := rfl
  rw [← recordFound_ports_iff record hfirst]
  constructor
  · rintro ⟨r, hparse, hports⟩
    rw [parsePdRealData_ports hlen] at hparse
    cases hparse
    exact hports
  · intro h
    exact ⟨_, parsePdRealData_ports hlen, h⟩

/-- A port with one peer, on a link of 100 Mbit/s. -/
def benchPort : PortFields where
  slot := 0
  subslot := 0x8001
  portId := [0x70, 0x31]
  peers := [⟨[0x70, 0x32], [0x64], ⟨[2, 0, 0, 0, 0, 7], rfl⟩, by decide, by decide⟩]
  mauType := 16
  domainBoundary := 0
  multicastBoundary := 0
  linkStatePort := 1
  linkStateLink := 1
  mediaType := 2
  idLen := by decide
  peerCount := by decide

/-- A record with that port in it. -/
def benchPorts : List SubslotPorts :=
  [⟨1, 0, 0, 0, 0x8001, [⟨1, 0, benchPort, by decide⟩], by decide⟩]

/-- The equivalence at the example's ports. -/
theorem ports_read_iff_bench : PortsRead benchPorts ↔ RecordMet benchPorts :=
  ports_read_iff benchPorts (by decide)

/-- The parser is late at the port of the bench, and finds another MAU type. -/
theorem bench_port_misread : ¬ PortsRead benchPorts := by
  rintro ⟨r, hparse, hports⟩
  rw [parsePdRealData_ports (by decide)] at hparse
  cases hparse
  have hmau := congrArg (List.map PortInfo.mauType) hports
  revert hmau
  decide

end Profinet.Im
