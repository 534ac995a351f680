import Gptp.Message.Types

/-!
# The state of the daemon

`Daemon F` is what one daemon process holds: the clock (`IEEE1588Clock`), its one Ethernet port
(`CommonPort` with `EtherPort`), the pending entries of the timer queue, and the effects of the
event or message being handled. Port and clock are split into the values fixed at construction
(`PortConfig`, `ClockConfig`) and the variables, and the variables of the port are grouped by what
they serve: the measured link (`LinkState`), the peer delay exchange (`PdelayState`), the sequence
numbers (`SequenceIds`) and the automotive profile (`AutomotiveState`).

Statistics counters, log lines, lock objects and link-layer addresses are not part of the state: no
decision of the modelled code reads them.
-/

namespace Gptp

/-! ### Enumerations -/

/-- `PortState`. -/
inductive PortState where
  | ptpMaster
  | ptpPreMaster
  | ptpSlave
  | ptpUncalibrated
  | ptpDisabled
  | ptpFaulty
  | ptpInitializing
  | ptpListening
  deriving DecidableEq, Repr

/-- `Event`. -/
inductive Event where
  | nullEvent
  | powerup
  | initializeEvent
  | linkup
  | linkdown
  | stateChangeEvent
  | syncIntervalTimeoutExpires
  | pdelayIntervalTimeoutExpires
  | syncReceiptTimeoutExpires
  | qualificationTimeoutExpires
  | announceReceiptTimeoutExpires
  | announceIntervalTimeoutExpires
  | faultDetected
  | pdelayDeferredProcessing
  | pdelayRespReceiptTimeoutExpires
  | pdelayRespPeerMisbehavingTimeoutExpires
  | syncRateIntervalTimeoutExpired
  deriving DecidableEq, Repr

/-- `StationState_t`. -/
inductive StationState where
  | reserved
  | ethernetReady
  | avbSync
  | avbMediaReady
  deriving DecidableEq, Repr

/-- A pending entry of the timer queue: the event it delivers, the index of the port it delivers it
to, and the delay it was armed with. -/
structure Timer where
  event : Event
  port : ℕ
  micros : UInt32
  deriving DecidableEq

/-! ### The port -/

/-- What `PortInit_t` and the constructors fix for the lifetime of a port. -/
structure PortConfig where
  ifindex : ℕ
  portIdentity : PortIdentity
  isGM : Bool
  automotiveProfile : Bool
  testMode : Bool
  allowNegativeCorrectionField : Bool
  syncReceiptThresh : UInt32
  neighborPropDelayThresh : Int64
  initialLogSyncInterval : Int8
  initialLogPdelayReqInterval : Int8
  operLogSyncInterval : Int8
  operLogPdelayReqInterval : Int8
  /-- `phy_delay`: the transmit and receive delays in nanoseconds of a link speed. -/
  phyDelay : UInt32 → Option (UInt16 × UInt16)

/-- What the port knows about its link. -/
structure LinkState (F : Type) where
  asCapable : Bool
  oneWayDelay : Int64
  peerRateOffset : F
  peerOffsetInit : Bool
  peerOffsetTsMine : Timestamp
  peerOffsetTsTheirs : Timestamp

/-- The peer delay exchange in progress. -/
structure PdelayState where
  lastPDelayReq : Option PTPMessagePathDelayReq
  lastPDelayResp : Option PTPMessagePathDelayResp
  lastPDelayRespFollowUp : Option PTPMessagePathDelayRespFollowUp
  pdelayStarted : Bool
  pdelayHalted : Bool
  duplicateRespCounter : UInt32
  lastInvalidSeqID : UInt16
  pdelayCount : UInt32

/-- The next sequence number of each kind of transmitted message. -/
structure SequenceIds where
  announce : UInt16
  signal : UInt16
  sync : UInt16
  pdelay : UInt16

/-- Variables of the automotive profile. -/
structure AutomotiveState where
  stationState : StationState
  avbSyncState : UInt32
  linkUpCount : UInt32
  linkDownCount : UInt32
  syncRateIntervalTimerStarted : Bool

/-- `CommonPort` and `EtherPort`. -/
structure EtherPort (F : Type) where
  cfg : PortConfig
  portState : PortState
  linkSpeed : UInt32
  logMeanSyncInterval : Int8
  logMeanAnnounceInterval : Int8
  logMinMeanPDelayReqInterval : Int8
  qualifiedAnnounce : Option PTPMessageAnnounce
  lastSync : Option PTPMessageSync
  wrongSeqIDCounter : UInt32
  syncCount : UInt32
  lastGmTimeBaseIndicator : UInt16
  /-- `_hw_timestamper->version`. -/
  timestampVersion : UInt8
  link : LinkState F
  pdelay : PdelayState
  seq : SequenceIds
  auto : AutomotiveState

/-! ### The clock -/

/-- What the constructor and `setClockIdentity` fix for the lifetime of a clock. -/
structure ClockConfig where
  clockIdentity : ClockIdentity
  clockQuality : ClockQuality
  priority1 : UInt8
  priority2 : UInt8
  domainNumber : UInt8
  currentUtcOffset : UInt16
  timeSource : UInt8
  syntonize : Bool
  /-- Whether an IPC object was supplied. -/
  ipc : Bool

/-- The grandmaster data set. -/
structure GrandmasterInfo where
  clockIdentity : ClockIdentity
  clockQuality : ClockQuality
  priority1 : UInt8
  priority2 : UInt8

/-- `IEEE1588Clock`. -/
structure Clock (F : Type) where
  cfg : ClockConfig
  grandmaster : GrandmasterInfo
  lastEBestIdentity : ClockIdentity
  newSyntonizationSetPoint : Bool
  ppm : F
  phaseErrorViolation : ℕ
  masterLocalFreqOffsetInit : Bool
  prevMasterTime : Timestamp
  prevSyncTime : Timestamp
  localSystemFreqOffsetInit : Bool
  prevLocalTime : Timestamp
  prevSystemTime : Timestamp
  masterLocalFreqOffset : F
  localSystemFreqOffset : F
  fupInfo : FollowUpTLV
  fupStatus : FollowUpTLV

/-! ### Effects -/

/-- The arguments of `IEEE1588Clock::setMasterOffset`. -/
structure MasterOffset (F : Type) where
  masterLocalOffset : Int64
  localTime : Timestamp
  masterLocalFreqOffset : F
  localSystemOffset : Int64
  systemTime : Timestamp
  localSystemFreqOffset : F
  syncCount : UInt32
  pdelayCount : UInt32
  portState : PortState
  asCapable : Bool

/-- What handling an event or a message does to the outside, or records for it. -/
inductive Effect (F : Type) where
  /-- A PTP message handed to the network interface. -/
  | send (m : PTPMessage)
  /-- An automotive test status message handed to the network interface. -/
  | sendTestStatus (state : StationState) (linkUpCount linkDownCount : UInt32)
  /-- A completed peer delay measurement stored by `setLinkDelay`. -/
  | setLinkDelay (delay : Int64)
  /-- A call of `setMasterOffset`. -/
  | setMasterOffset (u : MasterOffset F)
  /-- `ipc->update` with its arguments, and the grandmaster identity of `update_grandmaster`. -/
  | ipcUpdate (u : MasterOffset F) (grandmaster : ClockIdentity)
  | adjustClockPhase (phaseAdjust : Int64)
  | adjustClockRate (freqOffset : F)
  /-- `abort()`. -/
  | abort

/-! ### The daemon -/

/-- One daemon process: clock, port, pending timers and the effects of the current step. -/
structure Daemon (F : Type) where
  clock : Clock F
  port : EtherPort F
  timerq : List Timer
  effects : List (Effect F)

/-- What the operating system and the hardware answer while one event or message is handled. -/
structure Env where
  /-- The timestamp a transmission obtained within its retries, if any. -/
  txTimestamp : Option Timestamp
  /-- Whether the network interface accepted an event message for transmission. -/
  sendOk : Bool
  /-- `HWTimestamper_gettime`. -/
  systemTime : Timestamp
  deviceTime : Timestamp
  /-- Whether `tryPDelayRxLock` gets the receive lock, which the timer thread holds while it processes a
  deferred follow-up. -/
  pdelayRxLock : Bool
  /-- Whether `linkWatch` and `linkOpen` could create their threads. -/
  linkWatch : Bool
  linkOpen : Bool

namespace Daemon

variable {F : Type}

/-- Records an effect. -/
def emit (e : Effect F) (d : Daemon F) : Daemon F := { d with effects := d.effects ++ [e] }

@[simp] theorem emit_clock (e : Effect F) (d : Daemon F) : (d.emit e).clock = d.clock := rfl
@[simp] theorem emit_port (e : Effect F) (d : Daemon F) : (d.emit e).port = d.port := rfl
@[simp] theorem emit_timerq (e : Effect F) (d : Daemon F) : (d.emit e).timerq = d.timerq := rfl
@[simp] theorem emit_effects (e : Effect F) (d : Daemon F) :
    (d.emit e).effects = d.effects ++ [e] := rfl

end Daemon

end Gptp
