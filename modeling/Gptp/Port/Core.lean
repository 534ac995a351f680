import Gptp.Port.Run

/-!
# The core of the daemon state

The safety results of this development are about a small part of the daemon: its role and the
grandmaster it names, the message slots of the Sync and peer delay exchanges, the link measurement,
the timers that drive transmission and deferred processing, and the effects that carry time
(`Effect.isSalient`). `Daemon.core` projects a daemon to this part.

For every operation one lemma says what it does to the core, exactly. Most operations do nothing to
it (`core_startPDelay`, `core_syncDone`, ...); the proofs about runs only ever see the few that do.
The lemmas are `simp` lemmas, so the core of a handler is computed by rewriting.
-/

namespace Gptp

variable {F : Type}

/-- Transmission of a Sync or Follow_Up message. -/
def Effect.isSyncMessage : Effect F → Bool
  | .send (.sync _) | .send (.followUp _) => true
  | _ => false

/-- Transmission of an Announce message. -/
def Effect.isAnnounce : Effect F → Bool
  | .send (.announce _) => true
  | _ => false

theorem Effect.eq_send_of_isAnnounce {e : Effect F} (h : e.isAnnounce) :
    ∃ m, e = .send (.announce m) := by
  unfold Effect.isAnnounce at h
  split at h
  · exact ⟨_, rfl⟩
  · cases h

/-- Effects that carry or measure time, and `abort`. -/
def Effect.isSalient (e : Effect F) : Bool :=
  e.isSyncMessage || e.isAnnounce ||
    match e with
    | .setLinkDelay _ | .setMasterOffset _ | .abort => true
    | _ => false

/-- Who is master and who transmits: the port state, the grandmaster data set and the pending timers
of the Sync and Announce intervals, with the configuration they depend on. -/
structure Role where
  portCfg : PortConfig
  clockCfg : ClockConfig
  grandmaster : GrandmasterInfo
  portState : PortState
  /-- Pending SYNC_INTERVAL_TIMEOUT_EXPIRES timers. -/
  syncTimers : ℕ
  /-- Pending ANNOUNCE_INTERVAL_TIMEOUT_EXPIRES timers. -/
  announceTimers : ℕ

/-- The messages of the peer delay exchange in progress. -/
structure Exchange where
  lastPDelayReq : Option PTPMessagePathDelayReq
  lastPDelayResp : Option PTPMessagePathDelayResp
  lastPDelayRespFollowUp : Option PTPMessagePathDelayRespFollowUp
  /-- Pending PDELAY_DEFERRED_PROCESSING timers. -/
  deferredTimers : ℕ

/-- The part of the daemon state that the safety results are about. -/
structure Core (F : Type) extends Role, Exchange where
  lastSync : Option PTPMessageSync
  wrongSeqIDCounter : UInt32
  timestampVersion : UInt8
  link : LinkState F
  /-- The salient effects of the current step. -/
  log : List (Effect F)

/-- Events whose pending timers the core counts. -/
def Event.isCounted : Event → Bool
  | .syncIntervalTimeoutExpires | .announceIntervalTimeoutExpires | .pdelayDeferredProcessing => true
  | _ => false

namespace Core

/-- Records salient effects. -/
def record (es : List (Effect F)) (c : Core F) : Core F := { c with log := c.log ++ es }

theorem record_append (es es' : List (Effect F)) (c : Core F) :
    c.record (es ++ es') = (c.record es).record es' := by
  simp only [record, List.append_assoc]

@[simp] theorem record_nil (c : Core F) : c.record [] = c := by
  simp only [record, List.append_nil]

/-- `setPortState` on the core. -/
def setPortState (s : PortState) (c : Core F) : Core F := { c with portState := s }

/-- The setters of the grandmaster data set on the core. -/
def setGrandmaster (g : GrandmasterInfo) (c : Core F) : Core F := { c with grandmaster := g }

/-- `setLastSync` on the core. -/
def setLastSync (m : Option PTPMessageSync) (c : Core F) : Core F := { c with lastSync := m }

/-- `setWrongSeqIDCounter` on the core. -/
def setWrongSeqIDCounter (n : UInt32) (c : Core F) : Core F := { c with wrongSeqIDCounter := n }

/-- `setLastPDelayReq` on the core. -/
def setLastPDelayReq (m : Option PTPMessagePathDelayReq) (c : Core F) : Core F :=
  { c with lastPDelayReq := m }

/-- `setLastPDelayResp` on the core. -/
def setLastPDelayResp (m : Option PTPMessagePathDelayResp) (c : Core F) : Core F :=
  { c with lastPDelayResp := m }

/-- `setLastPDelayRespFollowUp` on the core. -/
def setLastPDelayRespFollowUp (m : Option PTPMessagePathDelayRespFollowUp) (c : Core F) : Core F :=
  { c with lastPDelayRespFollowUp := m }

/-- `setPeerRateOffset` on the core. -/
def setPeerRateOffset (r : F) (c : Core F) : Core F := { c with link.peerRateOffset := r }

/-- `setPeerOffset` on the core. -/
def setPeerOffset (mine theirs : Timestamp) (c : Core F) : Core F :=
  { c with
    link.peerOffsetTsMine := mine
    link.peerOffsetTsTheirs := theirs
    link.peerOffsetInit := true }

/-- `setLinkDelay` on the core. -/
def setLinkDelay (delay : Int64) (c : Core F) : Core F :=
  record [.setLinkDelay delay] { c with link.oneWayDelay := delay }

/-- `setAsCapable` on the core. -/
def setAsCapable (ascap : Bool) (c : Core F) : Core F :=
  { c with
    link.asCapable := ascap
    link.peerOffsetInit := ascap && c.link.peerOffsetInit }

/-- A new pending timer. -/
def arm (e : Event) (c : Core F) : Core F :=
  { c with
    syncTimers := c.syncTimers + if e = .syncIntervalTimeoutExpires then 1 else 0
    announceTimers := c.announceTimers + if e = .announceIntervalTimeoutExpires then 1 else 0
    deferredTimers := c.deferredTimers + if e = .pdelayDeferredProcessing then 1 else 0 }

theorem arm_of_not_isCounted {e : Event} (h : e.isCounted = false) (c : Core F) :
    c.arm e = c := by
  cases e <;> first | rfl | cases h

/-- Discards the effects of the previous step. -/
def clear (c : Core F) : Core F := { c with log := [] }

section Frames

variable (c : Core F)

@[simp] theorem toRole_clear : c.clear.toRole = c.toRole := rfl

@[simp] theorem toRole_setLastPDelayResp (m : Option PTPMessagePathDelayResp) :
    (c.setLastPDelayResp m).toRole = c.toRole := rfl

@[simp] theorem toRole_setLastPDelayRespFollowUp (m : Option PTPMessagePathDelayRespFollowUp) :
    (c.setLastPDelayRespFollowUp m).toRole = c.toRole := rfl

@[simp] theorem toRole_setAsCapable (ascap : Bool) : (c.setAsCapable ascap).toRole = c.toRole := rfl

theorem toRole_ite (p : Prop) [Decidable p] (c c' : Core F) :
    (if p then c else c').toRole = if p then c.toRole else c'.toRole :=
  apply_ite toRole p c c'

end Frames

end Core

/-! ### Pending timers -/

theorem armed_append_singleton (q : List Timer) (t : Timer) (e : Event) :
    armed (q ++ [t]) e = armed q e + if t.event = e then 1 else 0 := by
  simp [armed, List.countP_append, List.countP_cons]

theorem armed_filter_ne (q : List Timer) (e' e : Event) :
    armed (q.filter fun t => t.event ≠ e') e = if e' = e then 0 else armed q e := by
  rw [armed, List.countP_filter]
  split
  case isTrue h =>
    subst h
    rw [List.countP_eq_zero]
    intro t _ ht
    simp at ht
  case isFalse h =>
    refine List.countP_congr fun t _ => ?_
    simp only [Bool.and_eq_true, decide_eq_true_eq, and_iff_left_iff_imp]
    rintro rfl
    exact fun h' => h h'.symm

theorem armed_eraseIdx {q : List Timer} {k : ℕ} {t : Timer} (h : q[k]? = some t) (e : Event) :
    armed q e = armed (q.eraseIdx k) e + if t.event = e then 1 else 0 := by
  induction q generalizing k with
  | nil => simp at h
  | cons a q ih =>
    cases k with
    | zero =>
      obtain rfl : a = t := by simpa using h
      simp [armed, List.countP_cons]
    | succ k =>
      have := ih (k := k) (by simpa using h)
      simp only [armed, List.eraseIdx_cons_succ, List.countP_cons] at this ⊢
      omega

namespace Daemon

/-- The core of a daemon. -/
def core (d : Daemon F) : Core F where
  portCfg := d.port.cfg
  clockCfg := d.clock.cfg
  grandmaster := d.clock.grandmaster
  portState := d.port.portState
  lastSync := d.port.lastSync
  wrongSeqIDCounter := d.port.wrongSeqIDCounter
  timestampVersion := d.port.timestampVersion
  link := d.port.link
  lastPDelayReq := d.port.pdelay.lastPDelayReq
  lastPDelayResp := d.port.pdelay.lastPDelayResp
  lastPDelayRespFollowUp := d.port.pdelay.lastPDelayRespFollowUp
  syncTimers := armed d.timerq .syncIntervalTimeoutExpires
  announceTimers := armed d.timerq .announceIntervalTimeoutExpires
  deferredTimers := armed d.timerq .pdelayDeferredProcessing
  log := d.effects.filter Effect.isSalient

/-! ### Timers and effects -/

theorem core_ite (c : Prop) [Decidable c] (d d' : Daemon F) :
    (if c then d else d').core = if c then d.core else d'.core :=
  apply_ite core c d d'

@[simp] theorem core_addEventTimer (e : Event) (ns : UInt64) (d : Daemon F) :
    (d.addEventTimer e ns).core = d.core.arm e := by
  simp only [core, addEventTimer, armed_append_singleton, Core.arm]

@[simp] theorem core_deleteEventTimer (e : Event) (d : Daemon F) :
    (d.deleteEventTimer e).core = { d.core with
      syncTimers := if e = .syncIntervalTimeoutExpires then 0 else d.core.syncTimers
      announceTimers := if e = .announceIntervalTimeoutExpires then 0 else d.core.announceTimers
      deferredTimers := if e = .pdelayDeferredProcessing then 0 else d.core.deferredTimers } := by
  simp only [core, deleteEventTimer, armed_filter_ne]

@[simp] theorem core_restartEventTimer (e : Event) (ns : UInt64) (d : Daemon F) :
    (d.restartEventTimer e ns).core = { d.core with
      syncTimers := if e = .syncIntervalTimeoutExpires then 1 else d.core.syncTimers
      announceTimers := if e = .announceIntervalTimeoutExpires then 1 else d.core.announceTimers
      deferredTimers := if e = .pdelayDeferredProcessing then 1 else d.core.deferredTimers } := by
  cases e <;> simp [restartEventTimer, Core.arm]

theorem core_emit_of_isSalient {e : Effect F} (h : e.isSalient) (d : Daemon F) :
    (d.emit e).core = d.core.record [e] := by
  simp [core, Core.record, h]

theorem core_emit_of_not_isSalient {e : Effect F} (h : e.isSalient = false) (d : Daemon F) :
    (d.emit e).core = d.core := by
  simp [core, h]

/-! ### Setters -/

section Setters

variable (d : Daemon F)

@[simp] theorem core_setPortState (s : PortState) :
    (d.setPortState s).core = d.core.setPortState s := rfl

@[simp] theorem core_setGrandmaster (g : GrandmasterInfo) :
    (d.setGrandmaster g).core = d.core.setGrandmaster g := rfl

@[simp] theorem core_setLastSync (m : Option PTPMessageSync) :
    (d.setLastSync m).core = d.core.setLastSync m := rfl

@[simp] theorem core_setWrongSeqIDCounter (n : UInt32) :
    (d.setWrongSeqIDCounter n).core = d.core.setWrongSeqIDCounter n := rfl

@[simp] theorem core_setLastPDelayReq (m : Option PTPMessagePathDelayReq) :
    (d.setLastPDelayReq m).core = d.core.setLastPDelayReq m := rfl

@[simp] theorem core_setLastPDelayResp (m : Option PTPMessagePathDelayResp) :
    (d.setLastPDelayResp m).core = d.core.setLastPDelayResp m := rfl

@[simp] theorem core_setLastPDelayRespFollowUp (m : Option PTPMessagePathDelayRespFollowUp) :
    (d.setLastPDelayRespFollowUp m).core = d.core.setLastPDelayRespFollowUp m := rfl

@[simp] theorem core_setPeerRateOffset (r : F) :
    (d.setPeerRateOffset r).core = d.core.setPeerRateOffset r := rfl

@[simp] theorem core_setPeerOffset (mine theirs : Timestamp) :
    (d.setPeerOffset mine theirs).core = d.core.setPeerOffset mine theirs := rfl

@[simp] theorem core_setLinkDelay (delay : Int64) :
    (d.setLinkDelay delay).core = d.core.setLinkDelay delay := by
  rw [setLinkDelay, core_emit_of_isSalient rfl]
  rfl

@[simp] theorem core_setAsCapable (ascap : Bool) :
    (d.setAsCapable ascap).core = d.core.setAsCapable ascap := rfl

@[simp] theorem core_setQualifiedAnnounce (m : Option PTPMessageAnnounce) :
    (d.setQualifiedAnnounce m).core = d.core := rfl

@[simp] theorem core_setSyncCount (n : UInt32) : (d.setSyncCount n).core = d.core := rfl

@[simp] theorem core_setPdelayCount (n : UInt32) : (d.setPdelayCount n).core = d.core := rfl

@[simp] theorem core_setDuplicateRespCounter (n : UInt32) :
    (d.setDuplicateRespCounter n).core = d.core := rfl

@[simp] theorem core_setLastInvalidSeqID (n : UInt16) :
    (d.setLastInvalidSeqID n).core = d.core := rfl

@[simp] theorem core_setSyncInterval (k : Int8) : (d.setSyncInterval k).core = d.core := rfl

@[simp] theorem core_setAnnounceInterval (k : Int8) : (d.setAnnounceInterval k).core = d.core := rfl

@[simp] theorem core_setPDelayInterval (k : Int8) : (d.setPDelayInterval k).core = d.core := rfl

@[simp] theorem core_setLastEBestIdentity (id : ClockIdentity) :
    (d.setLastEBestIdentity id).core = d.core := rfl

@[simp] theorem core_newSyntonizationSetPoint : d.newSyntonizationSetPoint.core = d.core := rfl

@[simp] theorem core_haltPdelay (halt : Bool) : (d.haltPdelay halt).core = d.core := rfl

@[simp] theorem core_setPdelayStarted (started : Bool) :
    (d.setPdelayStarted started).core = d.core := rfl

@[simp] theorem core_setStationState (s : StationState) : (d.setStationState s).core = d.core := rfl

@[simp] theorem core_setSyncRateIntervalTimerStarted (started : Bool) :
    (d.setSyncRateIntervalTimerStarted started).core = d.core := rfl

@[simp] theorem core_updateFUPInfo [Platform F] : d.updateFUPInfo.core = d.core := rfl

end Setters

/-! ### Operations that leave the core alone -/

@[simp] theorem core_startSyncReceiptTimer (ns : UInt64) (d : Daemon F) :
    (d.startSyncReceiptTimer ns).core = d.core := by
  simp [startSyncReceiptTimer]

@[simp] theorem core_stopSyncReceiptTimer (d : Daemon F) :
    d.stopSyncReceiptTimer.core = d.core := by
  simp [stopSyncReceiptTimer]

@[simp] theorem core_startPDelayIntervalTimer (ns : UInt64) (d : Daemon F) :
    (d.startPDelayIntervalTimer ns).core = d.core := by
  simp [startPDelayIntervalTimer]

@[simp] theorem core_startPDelay (d : Daemon F) : d.startPDelay.core = d.core := by
  unfold startPDelay
  simp only [core_ite, core_startPDelayIntervalTimer, core_setPdelayStarted, ite_self]

@[simp] theorem core_stopPDelay (d : Daemon F) : d.stopPDelay.core = d.core := by
  simp [stopPDelay]

@[simp] theorem core_startSyncRateIntervalTimer (d : Daemon F) :
    d.startSyncRateIntervalTimer.core = d.core := by
  unfold startSyncRateIntervalTimer
  rw [core_ite, core_addEventTimer, Core.arm_of_not_isCounted rfl,
    core_setSyncRateIntervalTimerStarted, ite_self]

@[simp] theorem core_sendTestStatus (d : Daemon F) : d.sendTestStatus.core = d.core :=
  core_emit_of_not_isSalient rfl d

@[simp] theorem core_countDownAvbSync (d : Daemon F) : d.countDownAvbSync.core = d.core := by
  unfold countDownAvbSync
  simp only [core_ite, core_sendTestStatus, core_setStationState, ite_self]
  split_ifs <;> rfl

@[simp] theorem core_syncDone (d : Daemon F) : d.syncDone.core = d.core := by
  unfold syncDone
  simp only [core_ite, core_startPDelay, core_startSyncRateIntervalTimer, core_countDownAvbSync,
    ite_self]

@[simp] theorem core_announceEthernetReady (d : Daemon F) :
    d.announceEthernetReady.core = d.core := by
  unfold announceEthernetReady
  simp only [core_ite, core_sendTestStatus, core_setStationState, ite_self]

@[simp] theorem core_startPDelayIfUnassigned (d : Daemon F) :
    d.startPDelayIfUnassigned.core = d.core := by
  unfold startPDelayIfUnassigned
  simp only [core_ite, core_startPDelay, ite_self]

@[simp] theorem core_startSyncIntervalTimer (ns : UInt64) (d : Daemon F) :
    (d.startSyncIntervalTimer ns).core = { d.core with syncTimers := 1 } := by
  simp [startSyncIntervalTimer]

@[simp] theorem core_startAnnounceIntervalTimer (ns : UInt64) (d : Daemon F) :
    (d.startAnnounceIntervalTimer ns).core = { d.core with announceTimers := 1 } := by
  simp [startAnnounceIntervalTimer]

variable [Platform F]

@[simp] theorem core_sendSignalling (l t a : Int8) (d : Daemon F) :
    (d.sendSignalling l t a).core = d.core := by
  rw [sendSignalling, core_emit_of_not_isSalient rfl]
  rfl

@[simp] theorem core_initialSignalling (d : Daemon F) : d.initialSignalling.core = d.core := by
  unfold initialSignalling
  simp only [core_ite, core_startSyncReceiptTimer, core_sendSignalling, ite_self]

end Daemon

/-! ### Role changes -/

namespace Core

/-- `becomeMaster(true)` on the core. -/
def becomeMaster (c : Core F) : Core F :=
  { c with
    portState := .ptpMaster
    syncTimers := 1
    announceTimers := if c.portCfg.automotiveProfile then c.announceTimers else 1 }

/-- `becomeSlave` on the core. -/
def becomeSlave (c : Core F) : Core F :=
  { c with portState := .ptpSlave, syncTimers := 0, announceTimers := 0 }

/-- The role taken up at POWERUP, INITIALIZE and LINKUP. -/
def resumeRole (c : Core F) : Core F :=
  if c.clockCfg.priority1 = 255 ∨ c.portState = .ptpSlave then c.becomeSlave
  else if c.portState = .ptpMaster then c.becomeMaster
  else c

/-- `recommendState(PTP_MASTER)` on the core. -/
def recommendMaster (c : Core F) : Core F :=
  if c.portState = .ptpMaster then c else c.becomeMaster

/-- `recommendState(PTP_SLAVE)` on the core. -/
def recommendSlave (c : Core F) : Core F :=
  if c.portState = .ptpSlave then c else c.becomeSlave

end Core

namespace Daemon

variable [Platform F]

@[simp] theorem core_becomeMaster (d : Daemon F) :
    (d.becomeMaster true).core = d.core.becomeMaster := by
  -- which timers are started is read off the configuration after the timers have been cancelled
  have hcfg : (d.setPortState .ptpMaster |>.deleteEventTimer .announceReceiptTimeoutExpires
    |>.stopSyncReceiptTimer).port.cfg = d.port.cfg := rfl
  simp only [becomeMaster, hcfg, core_updateFUPInfo, core_startSyncIntervalTimer, core_ite,
    startAnnounce, core_startAnnounceIntervalTimer, core_stopSyncReceiptTimer,
    core_deleteEventTimer, core_setPortState, reduceCtorEq, if_false, Bool.true_and]
  cases hauto : d.port.cfg.automotiveProfile <;>
    simp [Core.becomeMaster, core, Core.setPortState, hauto]

@[simp] theorem core_becomeSlave (r : Bool) (d : Daemon F) :
    (d.becomeSlave r).core = d.core.becomeSlave := by
  unfold becomeSlave
  simp [core_ite, Core.becomeSlave, Core.setPortState, Core.arm]

theorem portState_becomeMaster (d : Daemon F) : (d.becomeMaster true).port.portState = .ptpMaster :=
  congrArg (fun c : Core F => c.portState) (core_becomeMaster d)

theorem portState_becomeSlave (restart : Bool) (d : Daemon F) :
    (d.becomeSlave restart).port.portState = .ptpSlave :=
  congrArg (fun c : Core F => c.portState) (core_becomeSlave restart d)

@[simp] theorem core_resumeRole (d : Daemon F) : d.resumeRole.core = d.core.resumeRole := by
  unfold resumeRole Core.resumeRole
  simp only [core_ite, core_becomeSlave, core_becomeMaster, core_addEventTimer]
  rw [Core.arm_of_not_isCounted rfl]
  rfl

theorem core_recommendMaster (changed : Bool) (d : Daemon F) :
    (d.recommendState .ptpMaster changed).core = d.core.recommendMaster := by
  simp only [recommendState, core_ite, core_setSyncCount, core_becomeMaster, core_setPortState,
    ne_eq, ite_not]
  rfl

theorem core_recommendSlave (changed : Bool) (d : Daemon F) :
    (d.recommendState .ptpSlave changed).core = d.core.recommendSlave := by
  simp only [recommendState, core_ite, core_setSyncCount, core_updateFUPInfo,
    core_newSyntonizationSetPoint, core_becomeSlave, ne_eq, ite_not, ite_self]
  rfl

end Daemon

namespace Core

/-- `processStateChange` with EBest `e` on the core; `better` says whether the clock itself is
better than `e`. -/
def assignRole (better : Bool) (e : PTPMessageAnnounce) (c : Core F) : Core F :=
  if better then (c.setGrandmaster c.clockCfg.ownGrandmaster).recommendMaster
  else c.recommendSlave.setGrandmaster e.grandmaster

/-- Taking over as master after a receipt timeout. -/
def takeOver (c : Core F) : Core F :=
  { c with
    grandmaster := c.clockCfg.ownGrandmaster
    portState := .ptpMaster
    syncTimers := c.syncTimers + 1
    announceTimers := 1 }

/-- From `c` to `c'` nothing has changed but the role, and of the role not the configuration. -/
structure ChangesRole (c c' : Core F) : Prop where
  clockCfg : c'.clockCfg = c.clockCfg
  portCfg : c'.portCfg = c.portCfg
  toExchange : c'.toExchange = c.toExchange
  lastSync : c'.lastSync = c.lastSync
  wrongSeqIDCounter : c'.wrongSeqIDCounter = c.wrongSeqIDCounter
  timestampVersion : c'.timestampVersion = c.timestampVersion
  link : c'.link = c.link
  log : c'.log = c.log

theorem changesRole_resumeRole (c : Core F) : c.ChangesRole c.resumeRole := by
  unfold resumeRole
  split_ifs <;> constructor <;> rfl

theorem changesRole_assignRole (better : Bool) (m : PTPMessageAnnounce) (c : Core F) :
    c.ChangesRole (c.assignRole better m) := by
  unfold assignRole recommendMaster recommendSlave
  split_ifs <;> constructor <;> rfl

end Core

namespace Daemon

variable [Platform F]

theorem core_assignRole (e : PTPMessageAnnounce) (d : Daemon F) :
    (d.assignRole e).core = d.core.assignRole (d.clock.isBetterThan (some e)) e := by
  unfold assignRole Core.assignRole
  cases d.clock.isBetterThan (some e) with
  | true =>
    simp only [if_true, core_recommendMaster, core_setGrandmaster, core_setLastEBestIdentity]
    rfl
  | false =>
    simp only [Bool.false_eq_true, if_false, core_setGrandmaster, core_recommendSlave,
      core_setLastEBestIdentity]

/-- **What a state change does to the core.** Either nothing, or the clock is not slave-only and the
port's own announce decides its role. -/
theorem core_processStateChange (d : Daemon F) :
    d.processStateChange.core = d.core ∨
      d.core.clockCfg.priority1 ≠ 255 ∧
        ∃ better e, d.processStateChange.core = d.core.assignRole better e := by
  rw [processStateChange_eq]
  split
  case isTrue => exact .inl rfl
  case isFalse h =>
    split
    · exact .inl rfl
    · rename_i e _
      exact .inr ⟨fun hp => h (.inl hp), _, e, core_assignRole e d⟩

theorem core_processSyncAnnounceTimeout (env : Env) (e : Event) (d : Daemon F) :
    (d.processSyncAnnounceTimeout env e).core =
      if d.core.clockCfg.priority1 = 255 ∨ d.core.portState = .ptpMaster then d.core
      else d.core.takeOver := by
  unfold processSyncAnnounceTimeout
  by_cases hp : d.clock.cfg.priority1 = 255
  · have hp' : d.core.clockCfg.priority1 = 255 := hp
    simp [hp, hp']
  have hp' : ¬ d.core.clockCfg.priority1 = 255 := hp
  rw [if_neg hp]
  -- restarting the receipt timer changes neither the core nor the state that is tested next
  set d' := if e = .announceReceiptTimeoutExpires then
      d.addEventTimer .announceReceiptTimeoutExpires d.announceReceiptTimeoutTruncated
    else d.startSyncReceiptTimer d.syncReceiptTimeout with hd'
  have hcore : d'.core = d.core := by
    rw [hd', core_ite, core_addEventTimer, Core.arm_of_not_isCounted rfl,
      core_startSyncReceiptTimer, ite_self]
  have hstate : d'.port.portState = d.core.portState := congrArg (fun c : Core F => c.portState) hcore
  simp only [hp', false_or, hstate]
  split
  · exact hcore
  · rw [← hcore, startAnnounce, core_startAnnounceIntervalTimer, core_addEventTimer,
      core_setQualifiedAnnounce, Clock.calcLocalSystemClockRateDifference_snd]
    rfl

/-! ### The clock servo -/

end Daemon

namespace Core

/-- A call of `setMasterOffset` on the core; `stepped` says whether it stepped the hardware clock,
which starts a new timestamp version and drops the peer rate baseline. -/
def setMasterOffset (stepped : Bool) (u : MasterOffset F) (c : Core F) : Core F :=
  { c with
    log := c.log ++ [.setMasterOffset u]
    timestampVersion := if stepped then c.timestampVersion + 1 else c.timestampVersion
    link.peerOffsetInit := !stepped && c.link.peerOffsetInit }

end Core

namespace Daemon

variable [Platform F]

theorem core_stepFrequency (offset : Int64) (freqOffset : F) (d : Daemon F) :
    (d.stepFrequency offset freqOffset).core = d.core := by
  rw [stepFrequency, core_emit_of_not_isSalient rfl]
  rfl

omit [Platform F] in
theorem core_stepPhase (offset : Int64) (d : Daemon F) :
    (d.stepPhase offset).core = { d.core with
      timestampVersion := d.core.timestampVersion + 1
      link.peerOffsetInit := false } := by
  rw [stepPhase, core_emit_of_not_isSalient rfl]
  rfl

omit [Platform F] in
theorem core_publishOffset (u : MasterOffset F) (d : Daemon F) :
    (d.publishOffset u).core = d.core.record [.setMasterOffset u] := by
  unfold publishOffset
  dsimp only
  rw [core_ite, core_emit_of_not_isSalient rfl, ite_self, core_emit_of_isSalient rfl]
  rfl

theorem core_disciplineClock (u : MasterOffset F) (d : Daemon F) :
    (d.disciplineClock u).core = d.core ∨
      (d.disciplineClock u).core = { d.core with
        timestampVersion := d.core.timestampVersion + 1
        link.peerOffsetInit := false } := by
  unfold disciplineClock
  split_ifs
  · exact .inl rfl
  · -- the only path on which the clock is stepped
    exact .inr ((core_stepFrequency _ _ _).trans (core_stepPhase _ _))
  · exact .inl (core_stepFrequency _ _ _)
  · exact .inl rfl

theorem core_setMasterOffset (u : MasterOffset F) (d : Daemon F) :
    ∃ stepped, (d.setMasterOffset u).core = d.core.setMasterOffset stepped u := by
  rcases core_disciplineClock u (d.publishOffset u) with h | h
  · exact ⟨false, h.trans (core_publishOffset u d)⟩
  · refine ⟨true, h.trans ?_⟩
    rw [core_publishOffset]
    rfl

/-- Synchronising calls `setMasterOffset` once, with the arrival time it is given and its difference
to the origin time. -/
theorem core_synchronize (env : Env) (syncArrival preciseOrigin : Timestamp) (rate : F)
    (d : Daemon F) : ∃ stepped u, u.localTime = syncArrival ∧
      u.masterLocalOffset = (syncArrival.toNs - preciseOrigin.toNs).toInt64 ∧
      (d.synchronize env syncArrival preciseOrigin rate).core =
        d.core.setMasterOffset stepped u := by
  let estimate := d.clock.calcLocalSystemClockRateDifference env.deviceTime env.systemTime
  -- neither the count nor the rate estimate is part of the core
  let d₁ : Daemon F := { d.setSyncCount (d.port.syncCount + 1) with clock := estimate.2 }
  have hd₁ : d₁.core = d.core := by
    simp only [d₁, estimate, Clock.calcLocalSystemClockRateDifference_snd]
    rfl
  let u := d₁.followUpOffset env syncArrival preciseOrigin rate estimate.1
  obtain ⟨stepped, hcore⟩ := core_setMasterOffset u d₁
  refine ⟨stepped, u, rfl, rfl, ?_⟩
  rw [← hd₁, ← hcore, synchronize, core_startSyncReceiptTimer, core_syncDone]
  rfl

/-- **What an accepted Follow_Up does to the core.** Either nothing, or the port is a slave and the
clock is given one offset, computed from the arrival time of the Sync. -/
theorem core_processFollowUpAt (env : Env) (m : PTPMessageFollowUp) (syncArrival : Timestamp)
    (d : Daemon F) :
    (d.processFollowUpAt env m syncArrival).core = d.core ∨
      ∃ stepped u, u.localTime = syncArrival ∧
        (d.processFollowUpAt env m syncArrival).core = d.core.setMasterOffset stepped u := by
  -- the first two exits come before anything is written
  unfold processFollowUpAt
  split
  · exact .inl rfl
  dsimp only
  split
  · exact .inl rfl
  set preciseOrigin := d.correctedOrigin m (m.correctionField / 65536)
  set estimate := d.clock.calcMasterLocalClockRateDifference preciseOrigin syncArrival
    with hestimate
  have hclock : { d with clock := estimate.2 }.core = d.core := by
    have h := Clock.calcMasterLocalClockRateDifference_snd preciseOrigin syncArrival d.clock
    simp only [core, hestimate, h]
  split
  · exact .inl hclock
  -- the status for later Follow_Up messages is not part of the core
  have hstatus : (recordFUPStatus m estimate.1 { d with clock := estimate.2 }).core = d.core :=
    hclock
  have happly : ∀ d' : Daemon F, { d' with
      port.lastGmTimeBaseIndicator := m.tlv.gmTimeBaseIndicator }.core = d'.core := fun _ => rfl
  unfold applyFollowUp
  dsimp only
  rw [happly]
  split
  · obtain ⟨stepped, u, hu, -, hcore⟩ := core_synchronize env syncArrival preciseOrigin estimate.1
      (recordFUPStatus m estimate.1 { d with clock := estimate.2 })
    exact .inr ⟨stepped, u, hu, hcore.trans (by rw [hstatus])⟩
  · exact .inl hstatus

end Daemon

end Gptp
