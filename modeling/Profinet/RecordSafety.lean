/-
  RECORD SAFETY: every byte string a device answers with goes through the parsers.

  These functions read what comes behind the headers of a call: the call itself, the blocks of a
  connect response, the records of a read.  The device chooses the block lengths and the counts of
  the loops, the byte order of the call is in its fifth byte; each of them returns all the same.
-/
import Profinet.Alarms
import Profinet.CheckedRecords
import Profinet.Diagnosis
import Profinet.Identification
import Profinet.PdReal

namespace Profinet

open Wire Checked Transport

/-- **Every record parser returns**, for every record, both byte orders and every place in the
    device it is read from.  `parse_input_data_length` adds with a check of its own; it returns what
    it would with sums that abort, so no check of it ever fails. -/
theorem record_parsers_return (record : Slice) (littleEndian : Bool) (iocrType : UInt16)
    (api : UInt32) (slot subslot : UInt16) :
    Safe (parseRpcHeaderChecked record)
      ∧ Safe (parseNrdChecked record littleEndian)
      ∧ Safe (parseIodHeaderChecked record)
      ∧ Safe (parseIocrBlockResChecked record iocrType)
      ∧ Safe (parseModuleDiffBlockChecked record)
      ∧ Safe (parseConnectResponseChecked record littleEndian)
      ∧ Safe (Blocks.parseWriteMultipleResponseChecked record)
      ∧ Safe (Alarms.parseAlarmNotification record)
      ∧ Safe (Alarms.parseAlarmCrRes record)
      ∧ Safe (Diagnosis.parseDiagnosisBlock record api slot subslot)
      ∧ Safe (Diagnosis.parseDiagnosisSimple record api slot subslot)
      ∧ Safe (Im.parsePdRealData record)
      ∧ Safe (Im.parseRealIdentificationData record)
      ∧ Safe (Im.parseInm0Filter record)
      ∧ parseInputDataLengthChecked record = .ok (parseInputDataLength record)
      ∧ Safe (parseOutputControlByteChecked record) := by
  have hrecord := record.2
  refine ⟨?rpc, ?nrd, ?iod, ?iocr, ?diff, ?connect, ?writes, ?alarm, ?alarmCr, ?diagnosis,
    ?simple, ?pdReal, ?realId, ?filter, ?input, ?output⟩
  case rpc => exact ⟨_, parseRpcHeaderChecked_ok hrecord, trivial⟩
  case nrd => exact ⟨_, parseNrdChecked_ok hrecord littleEndian, trivial⟩
  case iod => exact ⟨_, parseIodHeaderChecked_ok hrecord, trivial⟩
  case iocr => exact ⟨_, parseIocrBlockResChecked_ok hrecord iocrType, trivial⟩
  case diff => exact ⟨_, parseModuleDiffBlockChecked_ok hrecord, trivial⟩
  case connect => exact ⟨_, parseConnectResponseChecked_ok hrecord littleEndian, trivial⟩
  case writes => exact ⟨_, Blocks.parseWriteMultipleResponseChecked_ok hrecord, trivial⟩
  case alarm => exact Alarms.parseAlarmNotification_safe hrecord
  case alarmCr => exact Alarms.alarmCrResFrom_safe hrecord (by omega)
  case diagnosis => exact Diagnosis.parseDiagnosisBlock_safe hrecord api slot subslot
  case simple => exact Diagnosis.parseDiagnosisSimple_safe hrecord api slot subslot
  case pdReal => exact Im.parsePdRealData_safe hrecord
  case realId => exact Im.parseRealIdentificationData_safe hrecord
  case filter => exact Im.parseInm0Filter_safe hrecord
  case input => exact parseInputDataLengthChecked_ok hrecord
  case output => exact ⟨_, parseOutputControlByteChecked_ok hrecord, trivial⟩

end Profinet
