import Gptp.Port.State

/-!
# Port and clock operations

The operations that the event and message handlers are made of: arming and cancelling timers,
changing role (`becomeMaster`, `becomeSlave`), starting and stopping peer delay requests, and
building and sending each kind of message.
-/

namespace Gptp

variable {F : Type} [Platform F]

/-! ### Timers -/

/-- The number of pending timers that deliver `e`. -/
def armed (q : List Timer) (e : Event) : ℕ := q.countP fun t => t.event = e

/-- `EVENT_TIMER_GRANULARITY`. -/
def eventTimerGranularity : UInt64 := 5000000

namespace Daemon

/-- `IEEE1588Clock::addEventTimer`. -/
def addEventTimer (e : Event) (timeNs : UInt64) (d : Daemon F) : Daemon F :=
  { d with timerq := d.timerq ++ [⟨e, d.port.cfg.ifindex, (timeNs / 1000).toUInt32⟩] }

/-- `IEEE1588Clock::deleteEventTimer`: cancels by event alone, whatever the port. -/
def deleteEventTimer (e : Event) (d : Daemon F) : Daemon F :=
  { d with timerq := d.timerq.filter fun t => t.event ≠ e }

/-- Cancels the pending timers of an event and arms a new one. -/
def restartEventTimer (e : Event) (waitTime : UInt64) (d : Daemon F) : Daemon F :=
  (d.deleteEventTimer e).addEventTimer e waitTime

/-- `CommonPort::startSyncReceiptTimer`. -/
def startSyncReceiptTimer (waitTime : UInt64) (d : Daemon F) : Daemon F :=
  d.restartEventTimer .syncReceiptTimeoutExpires waitTime

/-- `CommonPort::stopSyncReceiptTimer`. -/
def stopSyncReceiptTimer (d : Daemon F) : Daemon F :=
  d.deleteEventTimer .syncReceiptTimeoutExpires

/-- `CommonPort::startSyncIntervalTimer`. -/
def startSyncIntervalTimer (waitTime : UInt64) (d : Daemon F) : Daemon F :=
  d.restartEventTimer .syncIntervalTimeoutExpires waitTime

/-- `CommonPort::startAnnounceIntervalTimer`. -/
def startAnnounceIntervalTimer (waitTime : UInt64) (d : Daemon F) : Daemon F :=
  d.restartEventTimer .announceIntervalTimeoutExpires waitTime

/-- `EtherPort::startPDelayIntervalTimer`. -/
def startPDelayIntervalTimer (waitTime : UInt64) (d : Daemon F) : Daemon F :=
  d.restartEventTimer .pdelayIntervalTimeoutExpires waitTime

/-- `CommonPort::startAnnounce`. -/
def startAnnounce (d : Daemon F) : Daemon F := d.startAnnounceIntervalTimer 16000000

/-- `SYNC_RECEIPT_TIMEOUT_MULTIPLIER * (pow(2, getSyncInterval()) * 1000000000.0)`. -/
def syncReceiptTimeout (d : Daemon F) : UInt64 :=
  Platform.toU64 (intervalNs F 3 d.port.logMeanSyncInterval)

/-- The announce receipt timeout, the multiplier applied before the conversion to an integer. -/
def announceReceiptTimeout (d : Daemon F) : UInt64 :=
  Platform.toU64 (intervalNs F 3 d.port.logMeanAnnounceInterval)

/-- The announce receipt timeout, the multiplier applied after the conversion to an integer. -/
def announceReceiptTimeoutTruncated (d : Daemon F) : UInt64 :=
  3 * Platform.toU64 (intervalNs F 1 d.port.logMeanAnnounceInterval)

end Daemon

/-! ### Setters -/

namespace Daemon

/-- `CommonPort::setPortState`. -/
def setPortState (s : PortState) (d : Daemon F) : Daemon F := { d with port.portState := s }

/-- `CommonPort::setQualifiedAnnounce`. -/
def setQualifiedAnnounce (m : Option PTPMessageAnnounce) (d : Daemon F) : Daemon F :=
  { d with port.qualifiedAnnounce := m }

/-- `EtherPort::setLastSync`. -/
def setLastSync (m : Option PTPMessageSync) (d : Daemon F) : Daemon F :=
  { d with port.lastSync := m }

/-- `EtherPort::setLastPDelayReq`. -/
def setLastPDelayReq (m : Option PTPMessagePathDelayReq) (d : Daemon F) : Daemon F :=
  { d with port.pdelay.lastPDelayReq := m }

/-- `EtherPort::setLastPDelayResp`. -/
def setLastPDelayResp (m : Option PTPMessagePathDelayResp) (d : Daemon F) : Daemon F :=
  { d with port.pdelay.lastPDelayResp := m }

/-- `EtherPort::setLastPDelayRespFollowUp`. -/
def setLastPDelayRespFollowUp (m : Option PTPMessagePathDelayRespFollowUp) (d : Daemon F) :
    Daemon F :=
  { d with port.pdelay.lastPDelayRespFollowUp := m }

/-- `CommonPort::setWrongSeqIDCounter`. -/
def setWrongSeqIDCounter (n : UInt32) (d : Daemon F) : Daemon F :=
  { d with port.wrongSeqIDCounter := n }

/-- `CommonPort::setSyncCount`. -/
def setSyncCount (n : UInt32) (d : Daemon F) : Daemon F := { d with port.syncCount := n }

/-- `CommonPort::setPdelayCount`. -/
def setPdelayCount (n : UInt32) (d : Daemon F) : Daemon F :=
  { d with port.pdelay.pdelayCount := n }

/-- `EtherPort::setDuplicateRespCounter`. -/
def setDuplicateRespCounter (n : UInt32) (d : Daemon F) : Daemon F :=
  { d with port.pdelay.duplicateRespCounter := n }

/-- `EtherPort::setLastInvalidSeqID`. -/
def setLastInvalidSeqID (n : UInt16) (d : Daemon F) : Daemon F :=
  { d with port.pdelay.lastInvalidSeqID := n }

/-- `CommonPort::setSyncInterval`. -/
def setSyncInterval (k : Int8) (d : Daemon F) : Daemon F := { d with port.logMeanSyncInterval := k }

/-- `CommonPort::setAnnounceInterval`. -/
def setAnnounceInterval (k : Int8) (d : Daemon F) : Daemon F :=
  { d with port.logMeanAnnounceInterval := k }

/-- `CommonPort::setPDelayInterval`. -/
def setPDelayInterval (k : Int8) (d : Daemon F) : Daemon F :=
  { d with port.logMinMeanPDelayReqInterval := k }

/-- `CommonPort::setPeerRateOffset`. -/
def setPeerRateOffset (r : F) (d : Daemon F) : Daemon F :=
  { d with port.link.peerRateOffset := r }

/-- `CommonPort::setPeerOffset`. -/
def setPeerOffset (mine theirs : Timestamp) (d : Daemon F) : Daemon F :=
  { d with
    port.link.peerOffsetTsMine := mine
    port.link.peerOffsetTsTheirs := theirs
    port.link.peerOffsetInit := true }

/-- The part of `CommonPort::setLinkDelay` that stores the measured delay. -/
def setLinkDelay (delay : Int64) (d : Daemon F) : Daemon F :=
  emit (.setLinkDelay delay) { d with port.link.oneWayDelay := delay }

/-- `CommonPort::setAsCapable`. -/
def setAsCapable (ascap : Bool) (d : Daemon F) : Daemon F :=
  { d with
    port.link.asCapable := ascap
    port.link.peerOffsetInit := ascap && d.port.link.peerOffsetInit }

/-- The setters of the grandmaster data set. -/
def setGrandmaster (g : GrandmasterInfo) (d : Daemon F) : Daemon F :=
  { d with clock.grandmaster := g }

/-- `IEEE1588Clock::setLastEBestIdentity`. -/
def setLastEBestIdentity (id : ClockIdentity) (d : Daemon F) : Daemon F :=
  { d with clock.lastEBestIdentity := id }

/-- `IEEE1588Clock::newSyntonizationSetPoint`. -/
def newSyntonizationSetPoint (d : Daemon F) : Daemon F :=
  { d with clock.newSyntonizationSetPoint := true }

/-- `EtherPort::haltPdelay`. -/
def haltPdelay (halt : Bool) (d : Daemon F) : Daemon F := { d with port.pdelay.pdelayHalted := halt }

/-- Assigns `pdelay_started`. -/
def setPdelayStarted (started : Bool) (d : Daemon F) : Daemon F :=
  { d with port.pdelay.pdelayStarted := started }

/-- `EtherPort::setStationState`. -/
def setStationState (s : StationState) (d : Daemon F) : Daemon F :=
  { d with port.auto.stationState := s }

/-- Assigns `sync_rate_interval_timer_started`. -/
def setSyncRateIntervalTimerStarted (started : Bool) (d : Daemon F) : Daemon F :=
  { d with port.auto.syncRateIntervalTimerStarted := started }

end Daemon

/-! ### Role changes -/

/-- `IEEE1588Clock::updateFUPInfo`. -/
def Clock.updateFUPInfo (c : Clock F) : Clock F :=
  { c with fupInfo :=
    { c.fupInfo with
      gmTimeBaseIndicator := c.fupInfo.gmTimeBaseIndicator + 1
      scaledLastGmFreqChange := (htonl F c.fupStatus.scaledLastGmFreqChange.toUInt32).toInt32
      scaledLastGmPhaseChange := c.fupStatus.scaledLastGmPhaseChange } }

/-- The grandmaster data set naming the clock itself. -/
def ClockConfig.ownGrandmaster (c : ClockConfig) : GrandmasterInfo where
  clockIdentity := c.clockIdentity
  clockQuality := c.clockQuality
  priority1 := c.priority1
  priority2 := c.priority2

namespace Daemon

/-- `IEEE1588Clock::updateFUPInfo`. -/
def updateFUPInfo (d : Daemon F) : Daemon F := { d with clock := d.clock.updateFUPInfo }

/-- `EtherPort::becomeMaster`. -/
def becomeMaster (annc : Bool) (d : Daemon F) : Daemon F :=
  let d := d.setPortState .ptpMaster
  let d := d.deleteEventTimer .announceReceiptTimeoutExpires
  let d := d.stopSyncReceiptTimer
  let d := if annc && !d.port.cfg.automotiveProfile then d.startAnnounce else d
  let d := d.startSyncIntervalTimer 16000000
  d.updateFUPInfo

/-- `EtherPort::becomeSlave`. -/
def becomeSlave (restartSyntonization : Bool) (d : Daemon F) : Daemon F :=
  let d := d.deleteEventTimer .announceIntervalTimeoutExpires
  let d := d.deleteEventTimer .syncIntervalTimeoutExpires
  let d := d.setPortState .ptpSlave
  let d := if d.port.cfg.automotiveProfile then d else
    d.addEventTimer .announceReceiptTimeoutExpires d.announceReceiptTimeoutTruncated
  let d := if restartSyntonization then d.newSyntonizationSetPoint else d
  d.updateFUPInfo

/-- The role a port takes up at POWERUP, INITIALIZE and LINKUP. -/
def resumeRole (d : Daemon F) : Daemon F :=
  if d.clock.cfg.priority1 = 255 ∨ d.port.portState = .ptpSlave then d.becomeSlave true
  else if d.port.portState = .ptpMaster then d.becomeMaster true
  else d.addEventTimer .announceReceiptTimeoutExpires d.announceReceiptTimeout

/-- `CommonPort::recommendState`; only PTP_MASTER and PTP_SLAVE are ever recommended. -/
def recommendState (state : PortState) (changedExternalMaster : Bool) (d : Daemon F) : Daemon F :=
  match state with
  | .ptpMaster =>
    if d.port.portState ≠ .ptpMaster then
      ((d.setPortState .ptpMaster).becomeMaster true).setSyncCount 0
    else d
  | .ptpSlave =>
    if d.port.portState ≠ .ptpSlave then (d.becomeSlave true).setSyncCount 0
    else if changedExternalMaster then
      d.newSyntonizationSetPoint.updateFUPInfo.setSyncCount 0
    else d
  | _ => d

/-! ### Peer delay requests -/

/-- `EtherPort::startPDelay`. -/
def startPDelay (d : Daemon F) : Daemon F :=
  if d.port.pdelay.pdelayHalted then d
  else if d.port.cfg.automotiveProfile then
    if d.port.logMinMeanPDelayReqInterval ≠ sigMsgIntervalNoSend then
      (d.setPdelayStarted true).startPDelayIntervalTimer eventTimerGranularity
    else d
  else (d.setPdelayStarted true).startPDelayIntervalTimer 32000000

/-- `EtherPort::stopPDelay`. -/
def stopPDelay (d : Daemon F) : Daemon F :=
  ((d.haltPdelay true).setPdelayStarted false).deleteEventTimer .pdelayIntervalTimeoutExpires

/-- `EtherPort::startSyncRateIntervalTimer`. -/
def startSyncRateIntervalTimer (d : Daemon F) : Daemon F :=
  if d.port.cfg.automotiveProfile then
    (d.setSyncRateIntervalTimerStarted true).addEventTimer .syncRateIntervalTimeoutExpired
      (if d.port.cfg.isGM then 8000000000 else 4000000000)
  else d

end Daemon

end Gptp
