/-
  CONNECT REQUEST: the whole request that establishes an AR.

  An AR with cyclic IO is asked for with five blocks: the AR, its two IOCRs, the alarm CR and the
  expected submodules.  A Device-Access AR is asked for with the first of them alone.  The blocks
  stand one behind the other without padding.
-/
import Profinet.Connect
import Profinet.Rpc
import Profinet.Util

namespace Profinet.Connect

open Wire Util

/-- AR type: IO Controller AR, cyclic IO. -/
def arTypeIocarSingle : UInt16 := 0x0001
/-- AR type: IO Supervisor AR / DeviceAccess. -/
def arTypeIosar : UInt16 := 0x0006

/-- The properties of a cyclic AR. -/
def arPropertiesIocar : UInt32 := 0x00000011
/-- The properties of a DeviceAccess AR. -/
def arPropertiesDeviceAccess : UInt32 := 0x00000111

/-- CMInitiatorObjectUUID, the fixed local object UUID. -/
def cmInitiatorObjectUuid : Uuid :=
  ⟨[0xDE, 0xA0, 0x00, 0x00, 0x6C, 0x97, 0x11, 0xD1, 0x82, 0x71, 0x00, 0x01, 0x76, 0x54, 0x32, 0x10],
    rfl⟩

-- AlarmCRBlockReq defaults.
/-- The alarm timeout, in units of 100 ms. -/
def defaultRtaTimeoutFactor : UInt16 := 1
/-- How often an alarm is repeated. -/
def defaultRtaRetries : UInt16 := 3
/-- The longest alarm, in bytes. -/
def defaultMaxAlarmDataLength : UInt16 := 200
/-- The VLAN tag of high-priority alarms. -/
def defaultTagHeaderHigh : UInt16 := 0xC000
/-- The VLAN tag of low-priority alarms. -/
def defaultTagHeaderLow : UInt16 := 0xA000

/-- ARBlockReq (0x0101). -/
def arBlockReq (arType : UInt16) (arUuid : Uuid) (sessionKey : UInt16) (cmMac : Mac)
    (arProperties : UInt32) (cmStationName : List UInt8) : List UInt8 :=
  blockHeader 0x0101 (UInt16.ofNat (54 + cmStationName.length)) ++
  (be16 arType ++
  (arUuid.val ++
  (be16 sessionKey ++
  (cmMac.val ++ -- CMInitiatorMacAdd
  (cmInitiatorObjectUuid.val ++
  (be32 arProperties ++
  (be16 100 ++ -- CMInitiatorActivityTimeoutFactor
  (be16 0x8892 ++ -- InitiatorUDPRTPort
  (be16 (UInt16.ofNat cmStationName.length) ++
  cmStationName)))))))))

/-- AlarmCRBlockReq (0x0103): `transport` 0=Layer2 / 1=UDP, `priority` 0=low / 1=high. -/
def alarmCrBlock (localAlarmReference transport priority : UInt16) : List UInt8 :=
  let lt : UInt16 := if transport = 0 then 0x8892 else 0x0800
  blockHeader 0x0103 22 ++
  (be16 0x0001 ++ -- AlarmCRType: standard
  (be16 lt ++
  (be32 (transport.toUInt32 <<< 1 ||| priority.toUInt32) ++
  (be16 defaultRtaTimeoutFactor ++
  (be16 defaultRtaRetries ++
  (be16 localAlarmReference ++
  (be16 defaultMaxAlarmDataLength ++
  (be16 defaultTagHeaderHigh ++
  be16 defaultTagHeaderLow))))))))

/-- The Connect request of an AR with cyclic IO. -/
def buildConnectRequest (objectUuid ifaceUuid activityUuid arUuid : Uuid) (sessionKey : UInt16)
    (cmMac : Mac) (cmStationName : List UInt8) (setup : IocrSetup) (seq : UInt32) : List UInt8 :=
  let body :=
    arBlockReq arTypeIocarSingle arUuid sessionKey cmMac arPropertiesIocar cmStationName ++
    (iocrBlockReq 1 1 setup ++ -- input IOCR
    (iocrBlockReq 2 2 setup ++ -- output IOCR
    (alarmCrBlock 1 0 0 ++
    expectedSubmoduleBlock setup)))
  Rpc.rpcRequest objectUuid ifaceUuid activityUuid seq Rpc.connect (Rpc.nrd body)

/-- The Connect request of a Device-Access AR. -/
def buildDeviceAccessConnectRequest (objectUuid ifaceUuid activityUuid arUuid : Uuid)
    (sessionKey : UInt16) (cmMac : Mac) (cmStationName : List UInt8) (seq : UInt32) :
    List UInt8 :=
  let body :=
    arBlockReq arTypeIosar arUuid sessionKey cmMac arPropertiesDeviceAccess cmStationName
  Rpc.rpcRequest objectUuid ifaceUuid activityUuid seq Rpc.connect (Rpc.nrd body)

end Profinet.Connect
