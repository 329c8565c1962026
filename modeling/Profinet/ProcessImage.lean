/-
  PROCESS IMAGE: the record in which a device reports the output it applies (index 0x8029).

      0  block header, type 0x0016    6  SubstituteActiveFlag    8  LengthIOCS   9  LengthIOPS
     10  LengthDataItem              12  IOCS, data, IOPS

  The control byte is the first data byte.
-/
import Profinet.Lib.Checked
import Profinet.Lib.Wire

namespace Profinet

open Wire Checked

/-- The output image without a level and without an edge (`SAFE_OUTPUT_BYTE`). -/
def safeOutputByte : UInt8 := 0x00

/-- Two bytes of a record as a big-endian word (`be_u16`). -/
def beU16 (d : List UInt8) (off : Nat) : UInt16 := ofBe16 (d.getD off 0) (d.getD (off + 1) 0)

/-- The 1-byte output of a RecordOutputDataObjectElement (`parse_output_control_byte`). -/
def parseOutputControlByte (record : List UInt8) : Option UInt8 :=
  if record.length < 12 ∨ record.getD 0 0 ≠ 0x00 ∨ record.getD 1 0 ≠ 0x16 then none
  else
    let lenIocs := (record.getD 8 0).toNat
    if beU16 record 10 = 0 then none else record[12 + lenIocs]?

/-- Where the status bytes at `pos` end: a one-byte count, then that many. -/
def statusBytesEnd (record : List UInt8) (pos : Nat) : Option Nat := do
  let count ← record[pos]?
  let pos ← checkedAdd pos 1
  checkedAdd pos count.toNat

/-- The length of the input data a record of it (index 0x8028) declares, if the data is there:
    behind the block header stand the IOCS bytes, the IOPS bytes and the length
    (`parse_input_data_length`). -/
def parseInputDataLength (record : List UInt8) : Option Nat := do
  let pos ← statusBytesEnd record 6
  let pos ← statusBytesEnd record pos
  let high ← record[pos]?
  let low ← record[← checkedAdd pos 1]?
  let len := (ofBe16 high low).toNat
  let stop ← checkedAdd (← checkedAdd pos 2) len
  if record.length < stop then none else some len

/-- The device is applying substitute values (`output_substitute_active`). -/
def outputSubstituteActive (record : List UInt8) : Bool :=
  8 ≤ record.length && beU16 record 6 ≠ 0

/-- A record of our output in effect whose control byte is `x`: type 0x0016,
    SubstituteActiveFlag 0, and `x` the first data byte behind the IOCS bytes. -/
structure Applies (record : List UInt8) (x : UInt8) : Prop where
  complete : 12 ≤ record.length
  type : record.getD 0 0 = 0x00 ∧ record.getD 1 0 = 0x16
  substitute : beU16 record 6 = 0
  byte : record[12 + (record.getD 8 0).toNat]? = some x

/-- What the two parsers check together. -/
theorem applies_of_parsed {record : List UInt8} {x : UInt8}
    (hsub : outputSubstituteActive record = false) (hbyte : parseOutputControlByte record = some x) :
    Applies record x := by
  unfold parseOutputControlByte at hbyte
  split at hbyte
  · nomatch hbyte
  · rename_i hhead
    split at hbyte
    · nomatch hbyte
    · have hlen : 12 ≤ record.length := by omega
      refine ⟨hlen, ⟨?_, ?_⟩, ?_, hbyte⟩
      · by_contra hne
        exact hhead (.inr (.inl hne))
      · by_contra hne
        exact hhead (.inr (.inr hne))
      · have height : 8 ≤ record.length := by omega
        simpa [outputSubstituteActive, height] using hsub

end Profinet
