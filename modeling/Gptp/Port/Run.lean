import Gptp.Framework.Machine
import Gptp.Port.Events

/-!
# Runs of the daemon

A step of the daemon handles one stimulus: an event raised outside the timer queue, the expiry of a
pending timer, a received message or a new link speed. `machine` packages the step function with
the condition under which the environment can deliver a stimulus, and a run is a sequence of inputs
(`Framework.Machine.stateAt`). Timers may expire in any order: the model does not bind expiry to the
delay a timer was armed with.

A daemon starts in a state `Start.daemon`: the port and clock as constructed, with the state that
`main` may have restored from the persistent store or forced from the command line, and with the
fields that no constructor initialises holding arbitrary values.
-/

namespace Gptp

open Framework

variable {F : Type} [Platform F]

/-! ### Steps -/

/-- What the daemon reacts to. -/
inductive Stimulus where
  /-- An event raised by `main`, the link monitor or the listening thread. -/
  | event (e : Event)
  /-- The expiry of entry `k` of the timer queue. -/
  | timer (k : ℕ)
  /-- A decoded message, with the link speed it was received at. -/
  | receive (msg : PTPMessage) (linkSpeed : UInt32)
  /-- The link monitor reports a new link speed. -/
  | setLinkSpeed (linkSpeed : UInt32)

/-- A stimulus together with the platform's answers while it is handled. -/
structure Input where
  stimulus : Stimulus
  env : Env

/-- Events that are raised outside the timer queue. -/
def Event.isExternal : Event → Bool
  | .powerup | .initializeEvent | .linkup | .linkdown | .faultDetected => true
  | _ => false

namespace Daemon

/-- Handles one input. The effects of the previous step are discarded. -/
def step (d : Daemon F) (i : Input) : Daemon F :=
  let d := { d with effects := [] }
  match i.stimulus with
  | .event e => d.processEvent i.env e
  | .timer k => match d.timerq[k]? with
    | some t => processEvent i.env t.event { d with timerq := d.timerq.eraseIdx k }
    | none => d
  | .receive msg linkSpeed => d.receive i.env msg linkSpeed
  | .setLinkSpeed linkSpeed => { d with port.linkSpeed := linkSpeed }

/-- A Follow_Up is not compensated for the PHY delay on its way to its handler. -/
theorem step_of_followUp {d : Daemon F} {i : Input} {m : PTPMessageFollowUp} {linkSpeed : UInt32}
    (hi : i.stimulus = .receive (.followUp m) linkSpeed) :
    d.step i = (processFollowUp i.env m { d with effects := [] }).1 := by
  rw [step, hi]
  rfl

/-- The event an input makes the port handle, if any. -/
def handledEvent (d : Daemon F) (i : Input) : Option Event :=
  match i.stimulus with
  | .event e => some e
  | .timer k => (d.timerq[k]?).map Timer.event
  | _ => none

/-- When the environment can deliver an input: timers expire only while they are pending, and only
external events are raised outside the timer queue. -/
def enabled (d : Daemon F) (i : Input) : Prop :=
  match i.stimulus with
  | .event e => e.isExternal
  | .timer k => k < d.timerq.length
  | _ => True

instance (d : Daemon F) : (i : Input) → Decidable (d.enabled i)
  | ⟨.event e, _⟩ => inferInstanceAs (Decidable (e.isExternal = true))
  | ⟨.timer k, _⟩ => inferInstanceAs (Decidable (k < d.timerq.length))
  | ⟨.receive _ _, _⟩ => isTrue trivial
  | ⟨.setLinkSpeed _, _⟩ => isTrue trivial

end Daemon

/-- The daemon as a machine driven by its inputs. -/
def machine (F : Type) [Platform F] : Machine (Daemon F) Input where
  enabled := Daemon.enabled
  step := Daemon.step

instance (d : Daemon F) (i : Input) : Decidable ((machine F).enabled d i) :=
  inferInstanceAs (Decidable (d.enabled i))

/-! ### Initial states -/

/-- The values of the fields that no constructor initialises. -/
structure Uninitialized (F : Type) where
  grandmaster : GrandmasterInfo
  lastGmTimeBaseIndicator : UInt16
  masterLocalFreqOffset : F
  localSystemFreqOffset : F
  auto : AutomotiveState

/-- What the persistent store holds for the port. -/
structure SavedPort (F : Type) where
  asCapable : Bool
  portState : PortState
  oneWayDelay : Int64
  peerRateOffset : F

/-- What the persistent store holds for the clock. -/
structure SavedClock (F : Type) where
  masterLocalFreqOffset : F
  localSystemFreqOffset : F
  lastEBestIdentity : ClockIdentity

/-- How a daemon is started: the configuration of its clock and port, the restored state if there is
any, and the port state forced from the command line if there is any. -/
structure Start (F : Type) where
  clockConfig : ClockConfig
  portConfig : PortConfig
  linkSpeed : UInt32
  uninitialized : Uninitialized F
  restored : Option (SavedClock F × SavedPort F)
  forced : Option PortState

namespace Start

/-- `IEEE1588Clock::IEEE1588Clock`. -/
def newClock (s : Start F) : Clock F where
  cfg := s.clockConfig
  grandmaster := { s.uninitialized.grandmaster with clockIdentity := ClockIdentity.zero }
  lastEBestIdentity := ⟨fun _ => 0xFF⟩
  newSyntonizationSetPoint := false
  ppm := Platform.ofRat 0
  phaseErrorViolation := 0
  masterLocalFreqOffsetInit := false
  prevMasterTime := Timestamp.zero
  prevSyncTime := Timestamp.zero
  localSystemFreqOffsetInit := false
  prevLocalTime := Timestamp.zero
  prevSystemTime := Timestamp.zero
  masterLocalFreqOffset := s.uninitialized.masterLocalFreqOffset
  localSystemFreqOffset := s.uninitialized.localSystemFreqOffset
  fupInfo := FollowUpTLV.init F
  fupStatus := FollowUpTLV.init F

/-- `CommonPort::CommonPort`, `EtherPort::EtherPort` and `init_port`. -/
def newPort (s : Start F) : EtherPort F where
  cfg := s.portConfig
  portState := .ptpInitializing
  linkSpeed := s.linkSpeed
  logMeanSyncInterval := s.portConfig.initialLogSyncInterval
  logMeanAnnounceInterval := 0
  logMinMeanPDelayReqInterval := s.portConfig.initialLogPdelayReqInterval
  qualifiedAnnounce := none
  lastSync := none
  wrongSeqIDCounter := 0
  syncCount := 0
  lastGmTimeBaseIndicator := s.uninitialized.lastGmTimeBaseIndicator
  timestampVersion := 0
  link := {
    asCapable := s.portConfig.automotiveProfile
    oneWayDelay := invalidLinkDelay.toInt64
    peerRateOffset := Platform.ofRat 1
    peerOffsetInit := false
    peerOffsetTsMine := Timestamp.zero
    peerOffsetTsTheirs := Timestamp.zero }
  pdelay := {
    lastPDelayReq := none
    lastPDelayResp := none
    lastPDelayRespFollowUp := none
    pdelayStarted := false
    pdelayHalted := false
    duplicateRespCounter := 0
    lastInvalidSeqID := 0
    pdelayCount := 0 }
  seq := ⟨0, 0, 0, 0⟩
  auto :=
    if s.portConfig.automotiveProfile then {
      stationState := .reserved
      avbSyncState := if s.portConfig.isGM then 1 else 2
      linkUpCount := if s.portConfig.testMode then 1 else s.uninitialized.auto.linkUpCount
      linkDownCount := if s.portConfig.testMode then 0 else s.uninitialized.auto.linkDownCount
      syncRateIntervalTimerStarted := false }
    else { s.uninitialized.auto with syncRateIntervalTimerStarted := false }

/-- `IEEE1588Clock::restoreSerializedState`. -/
def restoreClock (saved : SavedClock F) (c : Clock F) : Clock F :=
  { c with
    masterLocalFreqOffset := saved.masterLocalFreqOffset
    localSystemFreqOffset := saved.localSystemFreqOffset
    lastEBestIdentity := saved.lastEBestIdentity }

/-- `CommonPort::restoreSerializedState`. -/
def restorePort (saved : SavedPort F) (p : EtherPort F) : EtherPort F :=
  { p with
    portState := saved.portState
    link.asCapable := saved.asCapable
    link.oneWayDelay := saved.oneWayDelay
    link.peerRateOffset := saved.peerRateOffset }

/-- The state in which `main` raises POWERUP. -/
def daemon (s : Start F) : Daemon F :=
  let clock := match s.restored with
    | some (saved, _) => restoreClock saved s.newClock
    | none => s.newClock
  let port := match s.restored with
    | some (_, saved) => restorePort saved s.newPort
    | none => s.newPort
  ⟨clock, { port with portState := s.forced.getD port.portState }, [], []⟩

/-- A port that has received nothing yet: no message is stored, and nothing has been measured. -/
structure HasReceivedNothing (p : EtherPort F) : Prop where
  qualifiedAnnounce : p.qualifiedAnnounce = none
  lastSync : p.lastSync = none
  wrongSeqIDCounter : p.wrongSeqIDCounter = 0
  lastPDelayReq : p.pdelay.lastPDelayReq = none
  peerOffsetInit : p.link.peerOffsetInit = false

/-- The saved state has no messages in it, so a restored port starts without any as well. -/
theorem hasReceivedNothing_daemon (s : Start F) : HasReceivedNothing s.daemon.port := by
  unfold daemon
  cases s.restored <;> exact ⟨rfl, rfl, rfl, rfl, rfl⟩

end Start

/-! ### The configuration of a daemon started without options -/

/-- The clock `main` builds for the interface with the given identity. -/
def ClockConfig.standard (identity : ClockIdentity) : ClockConfig where
  clockIdentity := identity
  clockQuality := { cqClass := 248, clockAccuracy := 0x22, offsetScaledLogVariance := 0x436A }
  priority1 := 248
  priority2 := 248
  domainNumber := 0
  currentUtcOffset := 0
  timeSource := 160
  syntonize := false
  ipc := true

/-- The port `main` builds for the interface with the given identity. -/
def PortConfig.standard (identity : ClockIdentity) : PortConfig where
  ifindex := 1
  portIdentity := ⟨identity, 1⟩
  isGM := false
  automotiveProfile := false
  testMode := false
  allowNegativeCorrectionField := false
  syncReceiptThresh := 5
  neighborPropDelayThresh := 800
  initialLogSyncInterval := -3
  initialLogPdelayReqInterval := 0
  operLogSyncInterval := 0
  operLogPdelayReqInterval := 0
  phyDelay := fun linkSpeed =>
    if linkSpeed = 1000000 then some (184, 382)
    else if linkSpeed = 100000 then some (1044, 2133)
    else none

/-- A start without options and without restored state; fields that no constructor initialises are
zero. -/
def Start.standard (identity : ClockIdentity) : Start ℚ where
  clockConfig := .standard identity
  portConfig := .standard identity
  linkSpeed := invalidLinkSpeed
  uninitialized := {
    grandmaster := ⟨ClockIdentity.zero, ⟨0, 0, 0⟩, 0, 0⟩
    lastGmTimeBaseIndicator := 0
    masterLocalFreqOffset := 0
    localSystemFreqOffset := 0
    auto := ⟨.reserved, 0, 0, 0, false⟩ }
  restored := none
  forced := none

/-! ### A neighbour -/

/-- The identity of the local clock in concrete runs. -/
def localIdentity : ClockIdentity := ⟨fun _ => 1⟩

/-- The identity of the neighbour in concrete runs. -/
def neighborIdentity : ClockIdentity := ⟨fun _ => 2⟩

/-- A start on a link that the persistent store says is capable, with an optional forced state. -/
def Start.capable (forced : Option PortState) : Start ℚ :=
  { Start.standard localIdentity with
    restored := some (⟨1, 1, ClockIdentity.zero⟩, ⟨true, .ptpInitializing, 100, 1⟩)
    forced := forced }

/-- A platform that answers every request, at time zero. -/
def Env.standard : Env where
  txTimestamp := some ⟨0, 0, 0, 0⟩
  sendOk := true
  systemTime := ⟨0, 0, 0, 0⟩
  deviceTime := ⟨0, 0, 0, 0⟩
  pdelayRxLock := true
  linkWatch := true
  linkOpen := true

/-- The header of a message the neighbour sends. -/
def neighborHeader (sequenceId : UInt16) : PTPMessageCommon where
  versionPTP := 2
  messageLength := 54
  domainNumber := 0
  flags := (2, 8)
  correctionField := 0
  sourcePortIdentity := ⟨neighborIdentity, 1⟩
  sequenceId := sequenceId
  control := 0
  logMeanMessageInterval := -3
  timestamp := ⟨0, 0, 0, 0⟩

/-- A Sync of the neighbour. -/
def neighborSync (sequenceId : UInt16) : PTPMessageSync where
  toPTPMessageCommon := neighborHeader sequenceId
  originTimestamp := Timestamp.zero

/-- A Follow_Up of the neighbour. -/
def neighborFollowUp (sequenceId : UInt16) : PTPMessageFollowUp where
  toPTPMessageCommon := neighborHeader sequenceId
  preciseOriginTimestamp := Timestamp.zero
  tlv := FollowUpTLV.init ℚ

/-- The neighbour's response to a Pdelay_Req of the local clock. -/
def neighborResp (sequenceId : UInt16) : PTPMessagePathDelayResp where
  toPTPMessageCommon := neighborHeader sequenceId
  requestingPortIdentity := ⟨localIdentity, 1⟩
  requestReceiptTimestamp := ⟨0, 0, 0, 0⟩

/-- The follow-up to the neighbour's response. -/
def neighborRespFollowUp (sequenceId : UInt16) : PTPMessagePathDelayRespFollowUp where
  toPTPMessageCommon := neighborHeader sequenceId
  requestingPortIdentity := ⟨localIdentity, 1⟩
  responseOriginTimestamp := ⟨0, 0, 0, 0⟩

/-- An Announce of a neighbour that is a better clock than the local one. -/
def neighborAnnounce : PTPMessageAnnounce where
  toPTPMessageCommon := neighborHeader 0
  grandmasterIdentity := neighborIdentity
  grandmasterClockQuality := ⟨6, 0x21, 0x4E5D⟩
  pathTrace := [neighborIdentity]
  currentUtcOffset := 0
  grandmasterPriority1 := 1
  grandmasterPriority2 := 248
  stepsRemoved := 0
  timeSource := 160

/-- A Signalling message of the neighbour. -/
def neighborSignalling (linkDelayInterval timeSyncInterval announceInterval : Int8) :
    PTPMessageSignalling where
  toPTPMessageCommon := neighborHeader 0
  targetPortIdentify := -1
  tlv := { SignallingTLV.init ℚ with
    linkDelayInterval := linkDelayInterval
    timeSyncInterval := timeSyncInterval
    announceInterval := announceInterval }

/-- The reception of a message at an unknown link speed. -/
def Input.message (msg : PTPMessage) : Input := ⟨.receive msg invalidLinkSpeed, .standard⟩

/-- An event raised outside the timer queue. -/
def Input.ofEvent (e : Event) : Input := ⟨.event e, .standard⟩

/-- The expiry of a pending timer. -/
def Input.expiry (k : ℕ) : Input := ⟨.timer k, .standard⟩

end Gptp
