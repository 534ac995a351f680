import Gptp.Port.Operations

/-!
# Building and sending messages

The constructors that fill a message from the port and clock data sets, and the `sendPort` method of
each message class up to the point where the octets are handed to the network interface. Event
messages (Sync, Pdelay_Req, Pdelay_Resp) obtain a transmit timestamp, compensated for the PHY delay.
The octets themselves are modelled with the wire format.
-/

namespace Gptp

variable {F : Type} [Platform F]

/-- `INVALID_LINKSPEED`. -/
def invalidLinkSpeed : UInt32 := 0xFFFFFFFF

/-- `CommonPort::getTxPhyDelay`. -/
def PortConfig.getTxPhyDelay (c : PortConfig) (linkSpeed : UInt32) : Timestamp :=
  match c.phyDelay linkSpeed with
  | some (tx, _) => ⟨tx.toUInt32, 0, 0, Timestamp.invalidVersion⟩
  | none => Timestamp.zero

/-- `CommonPort::getRxPhyDelay`. -/
def PortConfig.getRxPhyDelay (c : PortConfig) (linkSpeed : UInt32) : Timestamp :=
  match c.phyDelay linkSpeed with
  | some (_, rx) => ⟨rx.toUInt32, 0, 0, Timestamp.invalidVersion⟩
  | none => Timestamp.zero

/-- The TLV that `FollowUpTLV()` builds. -/
def FollowUpTLV.init (F : Type) [Platform F] : FollowUpTLV where
  tlvType := htons F 3
  lengthField := htons F 28
  organizationId := (0x00, 0x80, 0xC2)
  organizationSubTypeMs := 0
  organizationSubTypeLs := htons F 1
  cumulativeScaledRateOffset := (htonl F 0).toInt32
  gmTimeBaseIndicator := 0
  scaledLastGmPhaseChange := ⟨0, 0⟩
  scaledLastGmFreqChange := (htonl F 0).toInt32

/-- The TLV that `SignallingTLV()` builds. -/
def SignallingTLV.init (F : Type) [Platform F] : SignallingTLV where
  tlvType := htons F 3
  lengthField := htons F 12
  organizationId := (0x00, 0x80, 0xC2)
  organizationSubTypeMs := 0
  organizationSubTypeLs := htons F 2
  linkDelayInterval := 0
  timeSyncInterval := 0
  announceInterval := 0
  flags := 3
  reserved := htons F 0

namespace Daemon

/-- `PTPMessageCommon::getTxTimestamp`: the compensated timestamp of a transmission and whether it
was obtained. -/
def getTxTimestamp (env : Env) (d : Daemon F) : Timestamp × Bool :=
  match env.txTimestamp with
  | some ts =>
    let linkSpeed := if env.sendOk then d.port.linkSpeed else invalidLinkSpeed
    (ts.add { d.port.cfg.getTxPhyDelay linkSpeed with version := ts.version }, true)
  | none => (Timestamp.invalid, false)

omit [Platform F] in
/-- The time of a transmission for which none was obtained. -/
theorem getTxTimestamp_of_failed {d : Daemon F} {env : Env} (h : (d.getTxTimestamp env).2 = false) :
    (d.getTxTimestamp env).1 = Timestamp.invalid := by
  unfold getTxTimestamp at h ⊢
  cases henv : env.txTimestamp with
  | none => rfl
  | some ts =>
    rw [henv] at h
    cases h

/-- `PTPMessageCommon(port)` followed by `setPortIdentity`. -/
def commonFields (d : Daemon F) (messageLength sequenceId : UInt16) (control : UInt32)
    (interval : Int8) : PTPMessageCommon where
  versionPTP := 2
  messageLength := messageLength
  domainNumber := d.clock.cfg.domainNumber
  flags := (0, 8)
  correctionField := 0
  sourcePortIdentity := d.port.cfg.portIdentity
  sequenceId := sequenceId
  control := control
  logMeanMessageInterval := interval
  timestamp := Timestamp.zero

/-- `PTPMessageSync(port)`, with the timestamp its transmission obtained. -/
def syncMessage (env : Env) (d : Daemon F) : PTPMessageSync where
  toPTPMessageCommon :=
    { d.commonFields 44 d.port.seq.sync 0 d.port.logMeanSyncInterval with
      flags := (2, 8)
      timestamp := (d.getTxTimestamp env).1 }
  originTimestamp := Timestamp.zero

/-- `PTPMessageFollowUp(port)` for the Sync just transmitted, with `setClockSourceTime`. -/
def followUpMessage (sequenceId : UInt16) (preciseOrigin : Timestamp) (d : Daemon F) :
    PTPMessageFollowUp where
  toPTPMessageCommon := d.commonFields 76 sequenceId 2 d.port.logMeanSyncInterval
  preciseOriginTimestamp := preciseOrigin
  tlv :=
    { FollowUpTLV.init F with
      gmTimeBaseIndicator := d.clock.fupInfo.gmTimeBaseIndicator
      scaledLastGmFreqChange := (htonl F d.clock.fupInfo.scaledLastGmFreqChange.toUInt32).toInt32
      scaledLastGmPhaseChange := d.clock.fupInfo.scaledLastGmPhaseChange }

/-- `PTPMessageAnnounce(port)`. -/
def announceMessage (d : Daemon F) : PTPMessageAnnounce where
  toPTPMessageCommon := d.commonFields 76 d.port.seq.announce 5 d.port.logMeanAnnounceInterval
  grandmasterIdentity := d.clock.grandmaster.clockIdentity
  grandmasterClockQuality := d.clock.cfg.clockQuality
  pathTrace := [d.clock.cfg.clockIdentity]
  currentUtcOffset := d.clock.cfg.currentUtcOffset
  grandmasterPriority1 := d.clock.cfg.priority1
  grandmasterPriority2 := d.clock.cfg.priority2
  stepsRemoved := 0
  timeSource := d.clock.cfg.timeSource

/-- `PTPMessagePathDelayReq(port)`, its timestamp still pending. -/
def pathDelayReqMessage (d : Daemon F) : PTPMessagePathDelayReq where
  toPTPMessageCommon :=
    { d.commonFields 54 d.port.seq.pdelay 5 d.port.logMinMeanPDelayReqInterval with
      timestamp := Timestamp.pdelayPending }

/-- The response to a received Pdelay_Req. -/
def pathDelayRespMessage (env : Env) (req : PTPMessagePathDelayReq) (d : Daemon F) :
    PTPMessagePathDelayResp where
  toPTPMessageCommon :=
    { d.commonFields 54 req.sequenceId 5 0x7F with
      flags := (2, 8)
      timestamp := (d.getTxTimestamp env).1 }
  requestingPortIdentity := req.sourcePortIdentity
  requestReceiptTimestamp := req.timestamp

/-- The follow-up to a transmitted Pdelay_Resp. -/
def pathDelayRespFollowUpMessage (req : PTPMessagePathDelayReq) (resp : PTPMessagePathDelayResp)
    (d : Daemon F) : PTPMessagePathDelayRespFollowUp where
  toPTPMessageCommon := d.commonFields 54 req.sequenceId 5 0x7F
  requestingPortIdentity := req.sourcePortIdentity
  responseOriginTimestamp := resp.timestamp

/-- `PTPMessageSignalling(port)` with `setintervals`. Its source identity is left as constructed. -/
def signallingMessage (linkDelayInterval timeSyncInterval announceInterval : Int8)
    (d : Daemon F) : PTPMessageSignalling where
  toPTPMessageCommon :=
    { d.commonFields 60 d.port.seq.signal 5 0x7F with
      sourcePortIdentity := ⟨ClockIdentity.zero, 0⟩ }
  targetPortIdentify := -1
  tlv := { SignallingTLV.init F with
    linkDelayInterval := linkDelayInterval
    timeSyncInterval := timeSyncInterval
    announceInterval := announceInterval }

/-- `APMessageTestStatus::sendPort`. -/
def sendTestStatus (d : Daemon F) : Daemon F :=
  d.emit (.sendTestStatus d.port.auto.stationState d.port.auto.linkUpCount
    d.port.auto.linkDownCount)

/-- Builds and sends a Signalling message. -/
def sendSignalling (linkDelayInterval timeSyncInterval announceInterval : Int8) (d : Daemon F) :
    Daemon F :=
  emit (.send (.signalling
    (d.signallingMessage linkDelayInterval timeSyncInterval announceInterval)))
    { d with port.seq.signal := d.port.seq.signal + 1 }

/-- Builds and sends an Announce message. -/
def sendAnnounce (d : Daemon F) : Daemon F :=
  emit (.send (.announce d.announceMessage))
    { d with port.seq.announce := d.port.seq.announce + 1 }

/-- Builds a Sync message and hands it to the network interface. -/
def sendSync (env : Env) (d : Daemon F) : Daemon F :=
  emit (.send (.sync (d.syncMessage env))) { d with port.seq.sync := d.port.seq.sync + 1 }

/-- `setStationState(STATION_STATE_AVB_SYNC)` and the test status message, once `avbSyncState`
counts down to zero. -/
def countDownAvbSync (d : Daemon F) : Daemon F :=
  if 0 < d.port.auto.avbSyncState then
    let d := { d with port.auto.avbSyncState := d.port.auto.avbSyncState - 1 }
    if d.port.auto.avbSyncState = 0 then
      let d := d.setStationState .avbSync
      if d.port.cfg.testMode then d.sendTestStatus else d
    else d
  else d

/-- `EtherPort::syncDone`. -/
def syncDone (d : Daemon F) : Daemon F :=
  let d := if d.port.cfg.automotiveProfile ∧ d.port.portState = .ptpSlave then d.countDownAvbSync
    else d
  let d :=
    if d.port.cfg.automotiveProfile ∧ !d.port.auto.syncRateIntervalTimerStarted ∧
        d.port.logMeanSyncInterval ≠ d.port.cfg.operLogSyncInterval then
      d.startSyncRateIntervalTimer
    else d
  if d.port.pdelay.pdelayStarted then d else d.startPDelay

end Daemon

end Gptp
