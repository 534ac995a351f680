import Gptp.Port.Servo

/-!
# Handling received messages

`processMessage` of each message class, on the daemon state. Every handler returns the new state
and the message's garbage flag (`_gc`), which tells the caller whether to delete the message object.
Handlers that store the message leave the flag false.

Handlers run one at a time. The two handlers of peer delay responses need the receive lock of the peer delay
variables, which they do not wait for: whether a received response gets it is up to the environment
(`Env.pdelayRxLock`), and one that does not is dropped (`Daemon.tryPDelayRxLock`). Their own definitions are
for a thread that has the lock, as the timer thread has it when it processes a deferred follow-up.
-/

namespace Gptp

variable {F : Type} [Platform F]

/-- The states in which every message handler that looks at the port state ignores its message. -/
def PortState.ignoresMessages (s : PortState) : Bool := s = .ptpDisabled || s = .ptpFaulty

/-- The messages that are dropped when the receive lock is held by another thread. -/
def PTPMessage.needsPDelayRxLock : PTPMessage → Bool
  | .pathDelayResp _ | .pathDelayRespFollowUp _ => true
  | _ => false

/-- A message does not get the receive lock that it needs. -/
def Env.drops (env : Env) (msg : PTPMessage) : Bool := msg.needsPDelayRxLock && !env.pdelayRxLock

namespace Daemon

/-! ### Announce -/

/-- Whether an Announce qualifies: fewer than 255 steps away, from another clock, and without this
clock on its path. -/
def qualifies (m : PTPMessageAnnounce) (d : Daemon F) : Bool :=
  m.stepsRemoved < 255 && m.sourcePortIdentity.clockId ≠ d.clock.cfg.clockIdentity &&
    d.clock.cfg.clockIdentity ∉ m.pathTrace

/-- `PTPMessageAnnounce::processMessage`. -/
def processAnnounce (m : PTPMessageAnnounce) (d : Daemon F) : Daemon F × Bool :=
  let d := d.deleteEventTimer .announceReceiptTimeoutExpires
  let d := if d.qualifies m then
    (d.setQualifiedAnnounce (some m)).addEventTimer .stateChangeEvent 16000000 else d
  (d.addEventTimer .announceReceiptTimeoutExpires d.announceReceiptTimeout, false)

/-! ### Sync and Follow_Up -/

/-- `PTPMessageSync::processMessage`. -/
def processSync (m : PTPMessageSync) (d : Daemon F) : Daemon F × Bool :=
  if d.port.portState.ignoresMessages then (d, false)
  else (d.setLastSync (some m), false)

/-- `CommonPort::incWrongSeqIDCounter`: the counter it leaves. -/
def nextWrongSeqID (d : Daemon F) : UInt32 :=
  if d.port.link.asCapable then d.port.wrongSeqIDCounter + 1 else d.port.wrongSeqIDCounter

/-- What a Follow_Up that does not match the stored Sync does. -/
def wrongFollowUp (d : Daemon F) : Daemon F :=
  if d.nextWrongSeqID < d.port.cfg.syncReceiptThresh then
    d.setWrongSeqIDCounter d.nextWrongSeqID
  else (d.becomeMaster true).setWrongSeqIDCounter 0

/-- Whether a Follow_Up belongs to a Sync. -/
def syncMatches (sync : PTPMessageSync) (m : PTPMessageFollowUp) : Bool :=
  sync.sequenceId = m.sequenceId && sync.sourcePortIdentity = m.sourcePortIdentity

/-- `PTPMessageFollowUp::processMessage(port)`. -/
def processFollowUp (env : Env) (m : PTPMessageFollowUp) (d : Daemon F) : Daemon F × Bool :=
  let d := d.stopSyncReceiptTimer
  if d.port.portState.ignoresMessages then (d, false)
  else match d.port.lastSync with
    | none => (d, false)
    | some sync =>
      if !syncMatches sync m then (d.wrongFollowUp.setLastSync none, false)
      else if sync.timestamp.version ≠ d.port.timestampVersion then (d.setLastSync none, false)
      else ((d.processFollowUpAt env m sync.timestamp).setLastSync none, true)

/-- How the handling of a Follow_Up ends, with the state and the garbage flag that it leaves. -/
inductive FollowUpCase (env : Env) (m : PTPMessageFollowUp) (d : Daemon F) : Daemon F × Bool → Prop
  | ignored (hstate : d.port.portState.ignoresMessages = true) :
      FollowUpCase env m d (d.stopSyncReceiptTimer, false)
  | orphan (hstate : d.port.portState.ignoresMessages = false) (hsync : d.port.lastSync = none) :
      FollowUpCase env m d (d.stopSyncReceiptTimer, false)
  | wrong {sync : PTPMessageSync} (hstate : d.port.portState.ignoresMessages = false)
      (hsync : d.port.lastSync = some sync) (hmatch : syncMatches sync m = false) :
      FollowUpCase env m d (d.stopSyncReceiptTimer.wrongFollowUp.setLastSync none, false)
  /-- The arrival time of the Sync is of an earlier timestamper version. -/
  | stale {sync : PTPMessageSync} (hstate : d.port.portState.ignoresMessages = false)
      (hsync : d.port.lastSync = some sync) (hmatch : syncMatches sync m = true)
      (hversion : sync.timestamp.version ≠ d.port.timestampVersion) :
      FollowUpCase env m d (d.stopSyncReceiptTimer.setLastSync none, false)
  | used {sync : PTPMessageSync} (hstate : d.port.portState.ignoresMessages = false)
      (hsync : d.port.lastSync = some sync) (hmatch : syncMatches sync m = true)
      (hversion : sync.timestamp.version = d.port.timestampVersion) :
      FollowUpCase env m d
        ((d.stopSyncReceiptTimer.processFollowUpAt env m sync.timestamp).setLastSync none, true)

theorem processFollowUp_cases (env : Env) (m : PTPMessageFollowUp) (d : Daemon F) :
    FollowUpCase env m d (d.processFollowUp env m) := by
  have hport : d.stopSyncReceiptTimer.port = d.port := rfl
  unfold processFollowUp
  dsimp only
  rw [hport]
  cases hstate : d.port.portState.ignoresMessages with
  | true => exact .ignored hstate
  | false =>
    rw [if_neg Bool.false_ne_true]
    cases hsync : d.port.lastSync with
    | none => exact .orphan hstate hsync
    | some sync =>
      dsimp only
      split_ifs with hwrong hversion
      · exact .wrong hstate hsync (by simpa using hwrong)
      · exact .stale hstate hsync (by simpa using hwrong) hversion
      · exact .used hstate hsync (by simpa using hwrong) (not_not.mp hversion)

/-! ### Peer delay -/

/-- `PTPMessagePathDelayReq::processMessage`. -/
def processPathDelayReq (env : Env) (m : PTPMessagePathDelayReq) (d : Daemon F) : Daemon F × Bool :=
  if d.port.portState.ignoresMessages then (d, true)
  else
    let resp := d.pathDelayRespMessage env m
    let respFwup := d.pathDelayRespFollowUpMessage m resp
    ((d.emit (.send (.pathDelayResp resp))).emit (.send (.pathDelayRespFollowUp respFwup)), true)

/-- The check for several responses to one request: responses from different ports to consecutive
requests are counted, and the third stops peer delay requests for five minutes. -/
def checkDuplicateResp (m old : PTPMessagePathDelayResp) (d : Daemon F) : Daemon F :=
  if m.sequenceId = old.sequenceId then
    let d :=
      if m.sourcePortIdentity.portNumber ≠ old.sourcePortIdentity.portNumber ∧
          (d.port.pdelay.lastInvalidSeqID.toNat + 1 = m.sequenceId.toNat ∨
            d.port.pdelay.duplicateRespCounter = 0) then
        let d := d.setDuplicateRespCounter (d.port.pdelay.duplicateRespCounter + 1)
        if d.port.pdelay.duplicateRespCounter = 3 then
          d.stopPDelay.addEventTimer .pdelayRespPeerMisbehavingTimeoutExpires 300000000000
        else d
      else d.setDuplicateRespCounter 0
    d.setLastInvalidSeqID m.sequenceId
  else d.setDuplicateRespCounter 0

/-- `EtherPort::tryPDelayRxLock` at the head of a handler, which returns at once when the lock is held by
another thread: the message is neither stored nor marked as garbage. -/
def tryPDelayRxLock (env : Env) (handle : Daemon F → Daemon F × Bool) (d : Daemon F) :
    Daemon F × Bool :=
  if env.pdelayRxLock then handle d else (d, false)

/-- `PTPMessagePathDelayResp::processMessage`, with the receive lock. -/
def processPathDelayResp (m : PTPMessagePathDelayResp) (d : Daemon F) : Daemon F × Bool :=
  if d.port.portState.ignoresMessages then (d, false)
  else
    let d := match d.port.pdelay.lastPDelayResp with
      | none => d
      | some old => d.checkDuplicateResp m old
    (d.setLastPDelayResp (some m), false)

/-- The time from `earlier` to `later` in nanoseconds. -/
def elapsedNs (later earlier : Timestamp) : Int64 :=
  (Int64.ofNat later.secondsMs.toNat - Int64.ofNat earlier.secondsMs.toNat) * 4294967296 *
      1000000000 +
    (Int64.ofNat later.secondsLs.toNat - Int64.ofNat earlier.secondsLs.toNat) * 1000000000 +
    (Int64.ofNat later.nanoseconds.toNat - Int64.ofNat earlier.nanoseconds.toNat)

/-- The measured one-way delay: half of the round trip less the peer's turn-around, the latter
converted to local time when the peer rate is plausible. -/
def linkDelay (req : PTPMessagePathDelayReq) (resp : PTPMessagePathDelayResp)
    (m : PTPMessagePathDelayRespFollowUp) (peerRateOffset : F) : Int64 :=
  let turnAround := (elapsedNs m.responseOriginTimestamp resp.requestReceiptTimestamp).toUInt64
  let turnAround :=
    if Platform.lt (Platform.ofRat (998 / 1000)) peerRateOffset &&
        Platform.lt peerRateOffset (Platform.ofRat (1002 / 1000)) then
      (Platform.toI64 (Platform.mul (Platform.ofRat turnAround.toNat) peerRateOffset)).toUInt64
    else turnAround
  ((elapsedNs resp.timestamp req.timestamp).toUInt64 - turnAround).toInt64 / 2

/-- The new peer rate: updated when a baseline exists and the ratio is within 250 ppm. -/
def peerRate (req : PTPMessagePathDelayReq) (resp : PTPMessagePathDelayResp) (delay : Int64)
    (l : LinkState F) : F :=
  if l.peerOffsetInit then
    let mine := req.timestamp.toNs - l.peerOffsetTsMine.toNs
    let theirs := resp.requestReceiptTimestamp.toNs - l.peerOffsetTsTheirs.toNs -
      l.getLinkDelay + if delay < 0 then 0 else delay.toUInt64
    let rate : F := Platform.div (Platform.ofRat mine.toNat) (Platform.ofRat theirs.toNat)
    let limit (ppm : ℤ) : F :=
      Platform.add (Platform.div (Platform.ofRat ppm) (Platform.ofRat 1000000)) (Platform.ofRat 1)
    if Platform.lt rate (limit 250) && Platform.lt (limit (-250)) rate then rate
    else l.peerRateOffset
  else l.peerRateOffset

/-- `CommonPort::setLinkDelay`: whether a delay is within the threshold. -/
def withinThresh (cfg : PortConfig) (delay : Int64) : Bool :=
  (if delay < 0 then -delay else delay) ≤ cfg.neighborPropDelayThresh

/-- The end of a peer delay exchange: the delay, the peer rate, `asCapable` and the baseline. -/
def measure (req : PTPMessagePathDelayReq) (resp : PTPMessagePathDelayResp)
    (m : PTPMessagePathDelayRespFollowUp) (d : Daemon F) : Daemon F :=
  let delay := linkDelay req resp m d.port.link.peerRateOffset
  let d := d.setPdelayCount (d.port.pdelay.pdelayCount + 1)
  let d := d.setPeerRateOffset (peerRate req resp delay d.port.link)
  let d := d.setLinkDelay delay
  let d := if d.port.cfg.automotiveProfile then d
    else d.setAsCapable (withinThresh d.port.cfg delay)
  d.setPeerOffset req.timestamp resp.requestReceiptTimestamp

/-- The checks a follow-up must pass against the stored request and response. The source compares
clock identities too, but of two identities it has not filled in yet. -/
def followUpMatches (req : PTPMessagePathDelayReq) (resp : PTPMessagePathDelayResp)
    (m : PTPMessagePathDelayRespFollowUp) : Bool :=
  let respClkId := ClockIdentity.zero
  let reqClkId := ClockIdentity.zero
  req.sequenceId = m.sequenceId && resp.sequenceId = m.sequenceId && reqClkId = respClkId &&
    resp.requestingPortIdentity.portNumber = m.requestingPortIdentity.portNumber &&
    m.sourcePortIdentity = resp.sourcePortIdentity

/-- `PTPMessagePathDelayRespFollowUp::processMessage`, with the receive lock. -/
def processPathDelayRespFollowUp (m : PTPMessagePathDelayRespFollowUp) (d : Daemon F) :
    Daemon F × Bool :=
  if d.port.portState.ignoresMessages then (d, false)
  else match d.port.pdelay.lastPDelayReq, d.port.pdelay.lastPDelayResp with
    | some req, some resp =>
      if !followUpMatches req resp m then (d.setLastPDelayResp none, true)
      else
        let d := d.deleteEventTimer .pdelayRespReceiptTimeoutExpires
        if req.timestamp.nanoseconds = Timestamp.invalid.nanoseconds then
          (d.setLastPDelayResp none, true)
        else if req.timestamp.nanoseconds = Timestamp.pdelayPending.nanoseconds then
          ((d.setLastPDelayRespFollowUp (some m)).addEventTimer .pdelayDeferredProcessing 1000000,
            false)
        else if req.timestamp.version ≠ resp.timestamp.version then (d.setLastPDelayResp none, true)
        else ((d.measure req resp m).setLastPDelayResp none, true)
    | _, _ => (d.setLastPDelayResp none, true)

/-! ### Signalling -/

/-- The wait before the first message at a signalled interval. -/
def signalledWait (interval : Int8) : UInt64 :=
  let waitTime := (Platform.toI64 (intervalNs F 1 interval)).toUInt64
  if eventTimerGranularity < waitTime then waitTime else eventTimerGranularity

/-- A signalled interval that names neither a value to adopt nor the initial interval. -/
def keepsInterval (interval : Int8) : Bool :=
  interval = sigMsgIntervalNoSend || interval = sigMsgIntervalNoChange

/-- The link delay part of `PTPMessageSignalling::processMessage`. -/
def signalLinkDelay (interval : Int8) (d : Daemon F) : Daemon F :=
  if keepsInterval interval then d
  else
    let interval := if interval = sigMsgIntervalInitial then d.port.cfg.initialLogPdelayReqInterval
      else interval
    (d.setPDelayInterval interval).startPDelayIntervalTimer (signalledWait (F := F) interval)

/-- The time sync part of `PTPMessageSignalling::processMessage`. -/
def signalTimeSync (interval : Int8) (d : Daemon F) : Daemon F :=
  if keepsInterval interval then d
  else
    let interval := if interval = sigMsgIntervalInitial then d.port.cfg.initialLogSyncInterval
      else interval
    (d.setSyncInterval interval).startSyncIntervalTimer (signalledWait (F := F) interval)

/-- The announce part of `PTPMessageSignalling::processMessage`; the initial interval is not
implemented, and the automotive profile has no announces. -/
def signalAnnounce (interval : Int8) (d : Daemon F) : Daemon F :=
  if d.port.cfg.automotiveProfile ∨ keepsInterval interval ∨ interval = sigMsgIntervalInitial then d
  else (d.setAnnounceInterval interval).startAnnounceIntervalTimer
    (signalledWait (F := F) interval)

/-- `PTPMessageSignalling::processMessage`. -/
def processSignalling (m : PTPMessageSignalling) (d : Daemon F) : Daemon F × Bool :=
  (((d.signalLinkDelay m.tlv.linkDelayInterval).signalTimeSync
    m.tlv.timeSyncInterval).signalAnnounce m.tlv.announceInterval, false)

/-! ### Dispatch -/

/-- `processMessage` of the message's class. -/
def processMessage (env : Env) (msg : PTPMessage) (d : Daemon F) : Daemon F × Bool :=
  match msg with
  | .sync m => d.processSync m
  | .followUp m => d.processFollowUp env m
  | .pathDelayReq m => d.processPathDelayReq env m
  -- both look at the port state before they try the lock, but ignoring a message is the same exit
  | .pathDelayResp m => d.tryPDelayRxLock env (processPathDelayResp m)
  | .pathDelayRespFollowUp m => d.tryPDelayRxLock env (processPathDelayRespFollowUp m)
  | .announce m => d.processAnnounce m
  | .signalling m => d.processSignalling m

section Lock

variable {env : Env} {d : Daemon F} {handle : Daemon F → Daemon F × Bool}

omit [Platform F] in
/-- A handler that needs the receive lock gets it, or it does nothing. -/
theorem tryPDelayRxLock_cases {P : Daemon F × Bool → Prop} (hheld : P (d, false))
    (hgot : P (handle d)) : P (d.tryPDelayRxLock env handle) := by
  unfold tryPDelayRxLock
  split
  · exact hgot
  · exact hheld

theorem processMessage_pathDelayResp (h : env.pdelayRxLock = true) (m : PTPMessagePathDelayResp) :
    d.processMessage env (.pathDelayResp m) = d.processPathDelayResp m := if_pos h

theorem processMessage_pathDelayRespFollowUp (h : env.pdelayRxLock = true)
    (m : PTPMessagePathDelayRespFollowUp) :
    d.processMessage env (.pathDelayRespFollowUp m) = d.processPathDelayRespFollowUp m := if_pos h

end Lock

/-- A message that does not get the lock it needs is neither stored nor marked. -/
theorem processMessage_of_drops {env : Env} {msg : PTPMessage} (h : env.drops msg = true)
    (d : Daemon F) : d.processMessage env msg = (d, false) := by
  obtain ⟨hneeds, hlock⟩ := (Bool.and_eq_true _ _).mp h
  rw [Bool.not_eq_true'] at hlock
  cases msg with
  | pathDelayResp m => exact if_neg (hlock ▸ Bool.false_ne_true)
  | pathDelayRespFollowUp m => exact if_neg (hlock ▸ Bool.false_ne_true)
  | _ => cases hneeds

/-- The receive timestamp of an event message, less the PHY delay of the link. -/
def rxCompensate (cfg : PortConfig) (linkSpeed : UInt32) (ts : Timestamp) : Timestamp :=
  ts.sub { cfg.getRxPhyDelay linkSpeed with version := ts.version }

/-- The compensation `EtherPort::processMessage` applies to the receive timestamp of an event
message. -/
def compensate (cfg : PortConfig) (linkSpeed : UInt32) : PTPMessage → PTPMessage
  | .sync m => .sync { m with timestamp := rxCompensate cfg linkSpeed m.timestamp }
  | .pathDelayReq m => .pathDelayReq { m with timestamp := rxCompensate cfg linkSpeed m.timestamp }
  | .pathDelayResp m =>
    .pathDelayResp { m with timestamp := rxCompensate cfg linkSpeed m.timestamp }
  | msg => msg

/-- A message that needs the lock and is handled has got it. -/
theorem lock_of_not_drops {env : Env} {msg : PTPMessage} (hneeds : msg.needsPDelayRxLock = true)
    (h : env.drops msg = false) : env.pdelayRxLock = true := by
  unfold Env.drops at h
  rwa [hneeds, Bool.true_and, Bool.not_eq_false'] at h

theorem not_drops_of_lock {env : Env} (hlock : env.pdelayRxLock = true) (msg : PTPMessage) :
    env.drops msg = false := by
  unfold Env.drops
  rw [hlock]
  exact Bool.and_false _

theorem drops_compensate (env : Env) (cfg : PortConfig) (linkSpeed : UInt32) (msg : PTPMessage) :
    env.drops (compensate cfg linkSpeed msg) = env.drops msg := by
  cases msg <;> rfl

/-- `EtherPort::processMessage` after the frame has been decoded. -/
def receive (env : Env) (msg : PTPMessage) (linkSpeed : UInt32) (d : Daemon F) : Daemon F :=
  (d.processMessage env (compensate d.port.cfg linkSpeed msg)).1

end Daemon

end Gptp
