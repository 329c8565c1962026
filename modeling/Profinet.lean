import Profinet.Address
import Profinet.AlarmAck
import Profinet.AlarmChannel
import Profinet.AlarmDelivery
import Profinet.AlarmFrames
import Profinet.AlarmItems
import Profinet.AlarmListener
import Profinet.AlarmQueue
import Profinet.AlarmSequence
import Profinet.Alarms
import Profinet.ApplicationReady
import Profinet.ArRelease
import Profinet.Capture
import Profinet.Catalog
import Profinet.CheckedRecords
import Profinet.Confirmation
import Profinet.ConnectVerdict
import Profinet.ConsumerStatus
import Profinet.Control
import Profinet.CounterTracking
import Profinet.Dcp
import Profinet.DcpCommands
import Profinet.DcpGet
import Profinet.DcpIdentify
import Profinet.DcpMessage
import Profinet.DcpRequests
import Profinet.DcpSet
import Profinet.Device
import Profinet.DeviceSession
import Profinet.Diagnosis
import Profinet.DiagnosisBlocks
import Profinet.DiagnosisRecord
import Profinet.Discovery
import Profinet.Epm
import Profinet.EpmDecode
import Profinet.EpmLayout
import Profinet.EpmLookup
import Profinet.EpmUuid
import Profinet.Errors
import Profinet.FrameIsolation
import Profinet.FrameSafety
import Profinet.GsdmlParser
import Profinet.HexText
import Profinet.Identification
import Profinet.Im
import Profinet.ImRecords
import Profinet.InputImage
import Profinet.Interference
import Profinet.Lib.Alike
import Profinet.Lib.Await
import Profinet.Lib.Checked
import Profinet.Lib.Counted
import Profinet.Lib.CountedLoop
import Profinet.Lib.Cut
import Profinet.Lib.Fields
import Profinet.Lib.History
import Profinet.Lib.LastWrite
import Profinet.Lib.Machine
import Profinet.Lib.OnesComplement
import Profinet.Lib.Runs
import Profinet.Lib.Scan
import Profinet.Lib.Shadow
import Profinet.Lib.Spaced
import Profinet.Lib.Spelling
import Profinet.Lib.Stands
import Profinet.Lib.Str
import Profinet.Lib.Stretches
import Profinet.Lib.Text
import Profinet.Lib.Train
import Profinet.Lib.Utf8
import Profinet.Lib.Utf8Text
import Profinet.Lib.Yields
import Profinet.ListenerAcks
import Profinet.ListenerTiming
import Profinet.Pacing
import Profinet.PdConcat
import Profinet.PdEnds
import Profinet.PdLocality
import Profinet.PdRead
import Profinet.PdReal
import Profinet.PdRecord
import Profinet.PdVisits
import Profinet.PolledAlarms
import Profinet.PortBytes
import Profinet.PortLayout
import Profinet.PortRecord
import Profinet.PortShift
import Profinet.ProcessRecords
import Profinet.PulseEdge
import Profinet.PulseShape
import Profinet.PulseWidth
import Profinet.RawPort
import Profinet.ReadDiagnosis
import Profinet.ReadRecord
import Profinet.RealIdentification
import Profinet.Receiver
import Profinet.RecordSafety
import Profinet.RequestLengths
import Profinet.Resolve
import Profinet.Rta
import Profinet.RtaReceive
import Profinet.RxStatistics
import Profinet.SafeCommand
import Profinet.ServeLoop
import Profinet.ServeRequests
import Profinet.ServeRoundTrip
import Profinet.ServeRpc
import Profinet.ServeSettled
import Profinet.ServeVocabulary
import Profinet.Shutdown
import Profinet.SlotBuilders
import Profinet.SlotSpec
import Profinet.SourceAddress
import Profinet.StartFailure
import Profinet.StatusText
import Profinet.StdinLines
import Profinet.StopFrames
import Profinet.Takeover
import Profinet.TakeoverSafety
import Profinet.ThreadPair
import Profinet.TickPeriods
import Profinet.Topology
import Profinet.UdpDatagram
import Profinet.UdpFrame
import Profinet.VlanTags
import Profinet.WireFields
import Profinet.WriteMultiple
import Profinet.WriteResults
