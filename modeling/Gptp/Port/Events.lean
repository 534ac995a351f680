import Gptp.Port.Bmca

/-!
# Handling events

`EtherPort::_processEvent` (`mediaEvent`) and `CommonPort::processEvent`. As in the source,
`mediaEvent` also returns whether it handled the event; `processEvent` falls back to the default
action of STATE_CHANGE_EVENT and of the receipt timeouts when it did not.
-/

namespace Gptp

variable {F : Type} [Platform F]

namespace Daemon

/-! ### Media specific handling -/

/-- The first Signalling message of an automotive slave, and its receipt timer. -/
def initialSignalling (d : Daemon F) : Daemon F :=
  if d.port.cfg.isGM then d
  else
    let d := d.sendSignalling sigMsgIntervalNoSend d.port.logMeanSyncInterval sigMsgIntervalNoSend
    d.startSyncReceiptTimer d.syncReceiptTimeout

/-- `setStationState(STATION_STATE_ETHERNET_READY)` and its test status message. -/
def announceEthernetReady (d : Daemon F) : Daemon F :=
  let d := d.setStationState .ethernetReady
  if d.port.cfg.testMode then d.sendTestStatus else d

/-- `startPDelay` unless the port is already master or slave. -/
def startPDelayIfUnassigned (d : Daemon F) : Daemon F :=
  if d.port.portState ≠ .ptpSlave ∧ d.port.portState ≠ .ptpMaster then d.startPDelay else d

/-- POWERUP and INITIALIZE. -/
def mediaPowerup (env : Env) (d : Daemon F) : Daemon F × Bool :=
  let d := if d.port.cfg.automotiveProfile then d.startPDelay else d.startPDelayIfUnassigned
  if !env.linkWatch || !env.linkOpen then (d, false)
  else if d.port.cfg.automotiveProfile then (d.announceEthernetReady.initialSignalling, true)
  else (d, true)

/-- Increments `linkUpCount` in test mode. -/
def countLinkUp (d : Daemon F) : Daemon F :=
  if d.port.cfg.testMode then { d with port.auto.linkUpCount := d.port.auto.linkUpCount + 1 } else d

/-- Increments `linkDownCount` in test mode. -/
def countLinkDown (d : Daemon F) : Daemon F :=
  if d.port.cfg.testMode then { d with port.auto.linkDownCount := d.port.auto.linkDownCount + 1 }
  else d

/-- `avbSyncState` at its initial value. -/
def resetAvbSyncState (d : Daemon F) : Daemon F :=
  { d with port.auto.avbSyncState := if d.port.cfg.isGM then 1 else 2 }

/-- What LINKUP resets in the automotive profile. -/
def automotiveLinkup (d : Daemon F) : Daemon F :=
  let d := (d.setAsCapable true).announceEthernetReady
  let d := d.setSyncInterval d.port.cfg.initialLogSyncInterval
  let d := d.setAnnounceInterval 0
  let d := d.setPDelayInterval d.port.cfg.initialLogPdelayReqInterval
  let d := d.initialSignalling
  ((d.setPdelayCount 0).setSyncCount 0).resetAvbSyncState.countLinkUp

/-- LINKUP. -/
def mediaLinkup (d : Daemon F) : Daemon F :=
  let d := (d.haltPdelay false).startPDelay.resumeRole
  if d.port.cfg.automotiveProfile then d.automotiveLinkup else d

/-- LINKDOWN. -/
def mediaLinkdown (d : Daemon F) : Daemon F :=
  let d := d.stopPDelay
  let d := if d.port.cfg.automotiveProfile then d else d.setAsCapable false
  d.countLinkDown

/-- A peer delay interval in nanoseconds times a multiplier, at least the timer granularity. -/
def pdelayWait (multiplier : Int64) (interval : Int8) : UInt64 :=
  let wait := multiplier * Platform.toI64 (intervalNs F 1 interval)
  (if 5000000 < wait then wait else 5000000).toUInt64

/-- `PTPMessagePathDelayReq::sendPort` of the stored request: nothing is sent, and the timestamp
stays pending, while peer delay requests are halted. -/
def sendPathDelayReq (env : Env) (req : PTPMessagePathDelayReq) (d : Daemon F) : Daemon F :=
  if d.port.pdelay.pdelayHalted then d.setLastPDelayReq (some req)
  else
    let sent := { req with timestamp := (d.getTxTimestamp env).1 }
    (d.setLastPDelayReq (some sent)).emit (.send (.pathDelayReq sent))

/-- PDELAY_INTERVAL_TIMEOUT_EXPIRES. -/
def mediaPdelayInterval (env : Env) (d : Daemon F) : Daemon F :=
  let req := d.pathDelayReqMessage
  let d := { d with port.seq.pdelay := d.port.seq.pdelay + 1 }
  let d := d.sendPathDelayReq env req
  let d := d.addEventTimer .pdelayRespReceiptTimeoutExpires
    (pdelayWait (F := F) 3 d.port.logMinMeanPDelayReqInterval)
  d.startPDelayIntervalTimer (pdelayWait (F := F) 1 d.port.logMinMeanPDelayReqInterval)

/-- SYNC_INTERVAL_TIMEOUT_EXPIRES: a Sync, and a Follow_Up if its timestamp was obtained. -/
def mediaSyncInterval (env : Env) (d : Daemon F) : Daemon F :=
  let sync := d.syncMessage env
  let txSucceed := (d.getTxTimestamp env).2
  let d := d.sendSync env
  let d := if d.port.cfg.automotiveProfile ∧ d.port.portState = .ptpMaster then d.countDownAvbSync
    else d
  if txSucceed then d.emit (.send (.followUp (d.followUpMessage sync.sequenceId sync.timestamp)))
  else d

/-- PDELAY_DEFERRED_PROCESSING: the stored follow-up is processed again. -/
def mediaPdelayDeferred (d : Daemon F) : Daemon F :=
  match d.port.pdelay.lastPDelayRespFollowUp with
  | none => d.emit .abort
  | some m =>
    let (d, gc) := d.processPathDelayRespFollowUp m
    if gc then d.setLastPDelayRespFollowUp none else d

/-- PDELAY_RESP_RECEIPT_TIMEOUT_EXPIRES. -/
def mediaPdelayRespReceipt (d : Daemon F) : Daemon F :=
  let d := if d.port.cfg.automotiveProfile then d else d.setAsCapable false
  d.setPdelayCount 0

/-- SYNC_RATE_INTERVAL_TIMEOUT_EXPIRED: the operational intervals are adopted and signalled. -/
def mediaSyncRateInterval (d : Daemon F) : Daemon F :=
  let d := d.setSyncRateIntervalTimerStarted false
  let sendSignalMessage :=
    d.port.logMeanSyncInterval ≠ d.port.cfg.operLogSyncInterval ∨
      d.port.logMinMeanPDelayReqInterval ≠ d.port.cfg.operLogPdelayReqInterval
  let d := d.setSyncInterval d.port.cfg.operLogSyncInterval
  let d := d.setPDelayInterval d.port.cfg.operLogPdelayReqInterval
  if sendSignalMessage ∧ !d.port.cfg.isGM then
    let linkDelayInterval :=
      if d.port.cfg.automotiveProfile then sigMsgIntervalNoChange
      else d.port.logMinMeanPDelayReqInterval
    let d := d.sendSignalling linkDelayInterval d.port.logMeanSyncInterval sigMsgIntervalNoChange
    d.startSyncReceiptTimer d.syncReceiptTimeout
  else d

/-- `EtherPort::_processEvent`: the new state, and whether the event was handled. -/
def mediaEvent (env : Env) (e : Event) (d : Daemon F) : Daemon F × Bool :=
  match e with
  | .powerup | .initializeEvent => d.mediaPowerup env
  | .stateChangeEvent => (d, d.port.cfg.automotiveProfile)
  | .linkup => (d.mediaLinkup, true)
  | .linkdown => (d.mediaLinkdown, true)
  | .announceReceiptTimeoutExpires => (d, d.port.cfg.automotiveProfile)
  | .syncReceiptTimeoutExpires =>
    if d.port.cfg.automotiveProfile then (d.startSyncReceiptTimer d.syncReceiptTimeout, true)
    else (d, false)
  | .pdelayIntervalTimeoutExpires => (d.mediaPdelayInterval env, false)
  | .syncIntervalTimeoutExpires => (d.mediaSyncInterval env, false)
  | .faultDetected =>
    (if d.port.cfg.automotiveProfile then d else d.setAsCapable false, false)
  | .pdelayDeferredProcessing => (d.mediaPdelayDeferred, false)
  | .pdelayRespReceiptTimeoutExpires => (d.mediaPdelayRespReceipt, false)
  | .pdelayRespPeerMisbehavingTimeoutExpires =>
    ((d.haltPdelay false).startPDelayIfUnassigned, false)
  | .syncRateIntervalTimeoutExpired => (d.mediaSyncRateInterval, false)
  | _ => (d, false)

/-! ### Default handling -/

/-- `CommonPort::processSyncAnnounceTimeout`. -/
def processSyncAnnounceTimeout (env : Env) (e : Event) (d : Daemon F) : Daemon F :=
  if d.clock.cfg.priority1 = 255 then d
  else
    let d := if e = .announceReceiptTimeoutExpires then
        d.addEventTimer .announceReceiptTimeoutExpires d.announceReceiptTimeoutTruncated
      else d.startSyncReceiptTimer d.syncReceiptTimeout
    if d.port.portState = .ptpMaster then d
    else
      let d := d.setGrandmaster d.clock.cfg.ownGrandmaster
      let d := d.setPortState .ptpMaster
      let d := { d with
        clock := (d.clock.calcLocalSystemClockRateDifference env.deviceTime env.systemTime).2 }
      let d := d.setQualifiedAnnounce none
      let d := d.addEventTimer .syncIntervalTimeoutExpires 16000000
      d.startAnnounce

/-- ANNOUNCE_INTERVAL_TIMEOUT_EXPIRES. -/
def announceInterval (d : Daemon F) : Daemon F :=
  let d := if d.port.link.asCapable then d.sendAnnounce else d
  d.startAnnounceIntervalTimer
    (Platform.toU64 (intervalNs F 1 d.port.logMeanAnnounceInterval))

/-- The arguments with which a master publishes its local and system time. -/
def localOffset (env : Env) (localSystemFreqOffset : F) (d : Daemon F) : MasterOffset F where
  masterLocalOffset := 0
  localTime := env.deviceTime
  masterLocalFreqOffset := Platform.ofRat 1
  localSystemOffset := (env.systemTime.toNs - env.deviceTime.toNs).toInt64
  systemTime := env.systemTime
  localSystemFreqOffset := localSystemFreqOffset
  syncCount := d.port.syncCount
  pdelayCount := d.port.pdelay.pdelayCount
  portState := d.port.portState
  asCapable := d.port.link.asCapable

/-- SYNC_INTERVAL_TIMEOUT_EXPIRES: the media specific action, then the local and system time are
published and the timer is restarted. -/
def syncInterval (env : Env) (d : Daemon F) : Daemon F :=
  let d := if d.port.link.asCapable then d.mediaSyncInterval env else d
  let estimate := d.clock.calcLocalSystemClockRateDifference env.deviceTime env.systemTime
  let d := { d with clock := estimate.2 }
  let d := (d.setMasterOffset (d.localOffset env estimate.1)).syncDone
  d.startSyncIntervalTimer (Platform.toU64 (intervalNs F 1 d.port.logMeanSyncInterval))

/-- `CommonPort::processEvent`. -/
def processEvent (env : Env) (e : Event) (d : Daemon F) : Daemon F :=
  match e with
  | .powerup | .initializeEvent => (d.resumeRole.mediaEvent env e).1
  | .stateChangeEvent =>
    let (d, handled) := d.mediaEvent env e
    if handled then d else d.processStateChange
  | .announceReceiptTimeoutExpires | .syncReceiptTimeoutExpires =>
    let (d, handled) := d.mediaEvent env e
    if handled then d else d.processSyncAnnounceTimeout env e
  | .announceIntervalTimeoutExpires => d.announceInterval
  | .syncIntervalTimeoutExpires => d.syncInterval env
  | e => (d.mediaEvent env e).1

/-! The three events that the media-dependent part handles in the automotive profile only. -/

theorem processEvent_stateChangeEvent (env : Env) (d : Daemon F) :
    d.processEvent env .stateChangeEvent =
      if d.port.cfg.automotiveProfile then d else d.processStateChange := rfl

theorem processEvent_of_receiptTimeout (env : Env) {e : Event}
    (he : e = .announceReceiptTimeoutExpires ∨ e = .syncReceiptTimeoutExpires) {d : Daemon F}
    (hauto : d.port.cfg.automotiveProfile = false) :
    d.processEvent env e = d.processSyncAnnounceTimeout env e := by
  rcases he with rfl | rfl <;> simp [processEvent, mediaEvent, hauto]

end Daemon

end Gptp
