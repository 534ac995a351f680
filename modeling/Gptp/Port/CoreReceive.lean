import Gptp.Port.Core

/-!
# Received messages on the core

`MessageStep` lists what a received message can do to the core of the daemon. Two handlers with many
exits have a relation of their own: `FollowUpStep` and `RespFollowUpStep`. A constructor carries the
checks of the source that lead to its exit, except that the clock servo is not part of the core: what
it makes of an accepted Follow_Up is left open.

* `Daemon.processMessage_core`: the daemon handles every message as one of these steps.
-/

namespace Gptp

variable {F : Type}

/-! ### Message handling on the core -/

/-- `incWrongSeqIDCounter`: the counter it leaves. -/
def Core.nextWrongSeqID (c : Core F) : UInt32 :=
  if c.link.asCapable then c.wrongSeqIDCounter + 1 else c.wrongSeqIDCounter

/-- The exits of `PTPMessageFollowUp::processMessage`. -/
inductive FollowUpStep (m : PTPMessageFollowUp) (c : Core F) : Core F → Prop
  | ignored (h : c.portState.ignoresMessages ∨ c.lastSync = none) : FollowUpStep m c c
  /-- The Follow_Up does not belong to the stored Sync. -/
  | mismatch {sync : PTPMessageSync} (hstate : c.portState.ignoresMessages = false)
      (hsync : c.lastSync = some sync) (hmatch : Daemon.syncMatches sync m = false)
      (hcount : c.nextWrongSeqID < c.portCfg.syncReceiptThresh) :
      FollowUpStep m c ((c.setWrongSeqIDCounter c.nextWrongSeqID).setLastSync none)
  /-- The Follow_Up does not belong to the stored Sync, once too often. -/
  | takeOver {sync : PTPMessageSync} (hstate : c.portState.ignoresMessages = false)
      (hsync : c.lastSync = some sync) (hmatch : Daemon.syncMatches sync m = false)
      (hcount : ¬ c.nextWrongSeqID < c.portCfg.syncReceiptThresh) :
      FollowUpStep m c ((c.becomeMaster.setWrongSeqIDCounter 0).setLastSync none)
  /-- The Sync is used up without an offset. -/
  | unused {sync : PTPMessageSync} (hsync : c.lastSync = some sync)
      (hmatch : Daemon.syncMatches sync m) : FollowUpStep m c (c.setLastSync none)
  /-- The clock is given one offset, computed from the arrival time of the Sync. -/
  | offset {sync : PTPMessageSync} (hsync : c.lastSync = some sync)
      (hmatch : Daemon.syncMatches sync m)
      (hversion : sync.timestamp.version = c.timestampVersion) (stepped : Bool)
      (u : MasterOffset F) (hu : u.localTime = sync.timestamp) :
      FollowUpStep m c ((c.setMasterOffset stepped u).setLastSync none)

/-- The checks a follow-up passes when it is deferred. -/
def Daemon.defers (req : PTPMessagePathDelayReq) (resp : PTPMessagePathDelayResp)
    (m : PTPMessagePathDelayRespFollowUp) : Bool :=
  followUpMatches req resp m && req.timestamp.nanoseconds = Timestamp.pdelayPending.nanoseconds

/-- The checks a follow-up passes when it completes a measurement. -/
def Daemon.completes (req : PTPMessagePathDelayReq) (resp : PTPMessagePathDelayResp)
    (m : PTPMessagePathDelayRespFollowUp) : Bool :=
  followUpMatches req resp m && req.timestamp.nanoseconds ≠ Timestamp.invalid.nanoseconds &&
    req.timestamp.nanoseconds ≠ Timestamp.pdelayPending.nanoseconds &&
    req.timestamp.version = resp.timestamp.version

/-- The end of a peer delay exchange with a measured delay and peer rate. -/
def Core.measured (delay : Int64) (rate : F) (mine theirs : Timestamp) (c : Core F) : Core F :=
  let c := (c.setPeerRateOffset rate).setLinkDelay delay
  let c := if c.portCfg.automotiveProfile then c
    else c.setAsCapable (Daemon.withinThresh c.portCfg delay)
  c.setPeerOffset mine theirs

theorem Core.toRole_measured (delay : Int64) (rate : F) (mine theirs : Timestamp) (c : Core F) :
    (c.measured delay rate mine theirs).toRole = c.toRole := by
  unfold measured
  dsimp only
  split <;> rfl

theorem Core.toExchange_measured (delay : Int64) (rate : F) (mine theirs : Timestamp) (c : Core F) :
    (c.measured delay rate mine theirs).toExchange = c.toExchange := by
  unfold measured
  dsimp only
  split <;> rfl

/-- A measurement touches neither the reception of Sync messages nor the timestamper. -/
theorem Core.sync_measured (delay : Int64) (rate : F) (mine theirs : Timestamp) (c : Core F) :
    (c.measured delay rate mine theirs).lastSync = c.lastSync ∧
      (c.measured delay rate mine theirs).wrongSeqIDCounter = c.wrongSeqIDCounter ∧
      (c.measured delay rate mine theirs).timestampVersion = c.timestampVersion := by
  unfold measured
  dsimp only
  split <;> exact ⟨rfl, rfl, rfl⟩

theorem Core.log_measured (delay : Int64) (rate : F) (mine theirs : Timestamp) (c : Core F) :
    (c.measured delay rate mine theirs).log = c.log ++ [.setLinkDelay delay] := by
  unfold measured
  dsimp only
  split <;> rfl

theorem Core.asCapable_measured (delay : Int64) (rate : F) (mine theirs : Timestamp) (c : Core F) :
    (c.measured delay rate mine theirs).link.asCapable =
      if c.portCfg.automotiveProfile then c.link.asCapable
      else Daemon.withinThresh c.portCfg delay := by
  unfold measured
  dsimp only
  change (if c.portCfg.automotiveProfile then _ else _ : Core F).link.asCapable = _
  split <;> rfl

variable [Platform F]

/-- The end of a peer delay exchange. -/
def Core.measure (req : PTPMessagePathDelayReq) (resp : PTPMessagePathDelayResp)
    (m : PTPMessagePathDelayRespFollowUp) (c : Core F) : Core F :=
  let delay := Daemon.linkDelay req resp m c.link.peerRateOffset
  c.measured delay (Daemon.peerRate req resp delay c.link) req.timestamp
    resp.requestReceiptTimestamp

theorem Core.toRole_measure (req : PTPMessagePathDelayReq) (resp : PTPMessagePathDelayResp)
    (m : PTPMessagePathDelayRespFollowUp) (c : Core F) :
    (c.measure req resp m).toRole = c.toRole := toRole_measured ..

theorem Core.toExchange_measure (req : PTPMessagePathDelayReq) (resp : PTPMessagePathDelayResp)
    (m : PTPMessagePathDelayRespFollowUp) (c : Core F) :
    (c.measure req resp m).toExchange = c.toExchange := toExchange_measured ..

theorem Core.sync_measure (req : PTPMessagePathDelayReq) (resp : PTPMessagePathDelayResp)
    (m : PTPMessagePathDelayRespFollowUp) (c : Core F) :
    (c.measure req resp m).lastSync = c.lastSync ∧
      (c.measure req resp m).wrongSeqIDCounter = c.wrongSeqIDCounter ∧
      (c.measure req resp m).timestampVersion = c.timestampVersion := sync_measured ..

theorem Core.log_measure (req : PTPMessagePathDelayReq) (resp : PTPMessagePathDelayResp)
    (m : PTPMessagePathDelayRespFollowUp) (c : Core F) :
    (c.measure req resp m).log =
      c.log ++ [.setLinkDelay (Daemon.linkDelay req resp m c.link.peerRateOffset)] :=
  log_measured ..

theorem Core.asCapable_measure (req : PTPMessagePathDelayReq) (resp : PTPMessagePathDelayResp)
    (m : PTPMessagePathDelayRespFollowUp) (c : Core F) :
    (c.measure req resp m).link.asCapable =
      if c.portCfg.automotiveProfile then c.link.asCapable
      else Daemon.withinThresh c.portCfg (Daemon.linkDelay req resp m c.link.peerRateOffset) :=
  asCapable_measured ..

/-- The exits of `PTPMessagePathDelayRespFollowUp::processMessage`, with the garbage flag. -/
inductive RespFollowUpStep (m : PTPMessagePathDelayRespFollowUp) (c : Core F) :
    Core F → Bool → Prop
  | ignored (hstate : c.portState.ignoresMessages) : RespFollowUpStep m c c false
  /-- The stored response is dropped. -/
  | dropped (hstate : c.portState.ignoresMessages = false)
      (h : ∀ req resp, c.lastPDelayReq = some req → c.lastPDelayResp = some resp →
        Daemon.defers req resp m = false ∧ Daemon.completes req resp m = false) :
      RespFollowUpStep m c (c.setLastPDelayResp none) true
  /-- The request has no timestamp yet: the follow-up is stored and processed again later. -/
  | deferred {req : PTPMessagePathDelayReq} {resp : PTPMessagePathDelayResp}
      (hstate : c.portState.ignoresMessages = false) (hreq : c.lastPDelayReq = some req)
      (hresp : c.lastPDelayResp = some resp) (hdefers : Daemon.defers req resp m) :
      RespFollowUpStep m c ((c.setLastPDelayRespFollowUp (some m)).arm .pdelayDeferredProcessing)
        false
  | measured {req : PTPMessagePathDelayReq} {resp : PTPMessagePathDelayResp}
      (hstate : c.portState.ignoresMessages = false) (hreq : c.lastPDelayReq = some req)
      (hresp : c.lastPDelayResp = some resp) (hcompletes : Daemon.completes req resp m) :
      RespFollowUpStep m c ((c.measure req resp m).setLastPDelayResp none) true

/-- A pending timestamp fails the checks. -/
theorem Daemon.defers_of_completes {req : PTPMessagePathDelayReq} {resp : PTPMessagePathDelayResp}
    {m : PTPMessagePathDelayRespFollowUp} (h : completes req resp m) : defers req resp m = false := by
  simp only [completes, Bool.and_eq_true, decide_eq_true_eq] at h
  simp only [defers, h.1.2, decide_false, Bool.and_false]

/-- A follow-up that passes the checks is measured. -/
theorem RespFollowUpStep.eq_of_completes {m : PTPMessagePathDelayRespFollowUp} {c c' : Core F}
    {gc : Bool} (h : RespFollowUpStep m c c' gc) (hstate : c.portState.ignoresMessages = false)
    {req : PTPMessagePathDelayReq} {resp : PTPMessagePathDelayResp}
    (hreq : c.lastPDelayReq = some req) (hresp : c.lastPDelayResp = some resp)
    (hcompletes : Daemon.completes req resp m) :
    c' = (c.measure req resp m).setLastPDelayResp none := by
  cases h with
  | ignored hignores =>
    rw [hstate] at hignores
    cases hignores
  -- a dropped follow-up has failed both checks for the stored messages
  | dropped _ hfails =>
    rw [(hfails req resp hreq hresp).2] at hcompletes
    cases hcompletes
  | deferred _ hreq' hresp' hdefers =>
    obtain rfl := Option.some.inj (hreq.symm.trans hreq')
    obtain rfl := Option.some.inj (hresp.symm.trans hresp')
    rw [Daemon.defers_of_completes hcompletes] at hdefers
    cases hdefers
  | measured _ hreq' hresp' _ =>
    obtain rfl := Option.some.inj (hreq.symm.trans hreq')
    obtain rfl := Option.some.inj (hresp.symm.trans hresp')
    rfl

/-- Peer delay processing leaves the role alone. -/
theorem RespFollowUpStep.toRole {m : PTPMessagePathDelayRespFollowUp} {c c' : Core F} {gc : Bool}
    (h : RespFollowUpStep m c c' gc) : c'.toRole = c.toRole := by
  cases h with
  | ignored => rfl
  | dropped => rfl
  | deferred => rfl
  | measured _ _ _ _ => rw [Core.toRole_setLastPDelayResp, Core.toRole_measure]

/-- Peer delay processing leaves the reception of Sync messages and the timestamper alone. -/
theorem RespFollowUpStep.sync {m : PTPMessagePathDelayRespFollowUp} {c c' : Core F} {gc : Bool}
    (h : RespFollowUpStep m c c' gc) :
    c'.lastSync = c.lastSync ∧ c'.wrongSeqIDCounter = c.wrongSeqIDCounter ∧
      c'.timestampVersion = c.timestampVersion := by
  cases h with
  | ignored | dropped | deferred => exact ⟨rfl, rfl, rfl⟩
  | @measured req resp _ _ _ _ =>
    have h := c.sync_measure req resp m
    exact h

/-- The core after a Signalling message: its intervals arm the timers, whatever the port state. -/
def Core.signalled (m : PTPMessageSignalling) (c : Core F) : Core F :=
  { c with
    syncTimers := if Daemon.keepsInterval m.tlv.timeSyncInterval then c.syncTimers else 1
    announceTimers :=
      if c.portCfg.automotiveProfile ∨ Daemon.keepsInterval m.tlv.announceInterval ∨
          m.tlv.announceInterval = sigMsgIntervalInitial then c.announceTimers
      else 1 }

/-- What a received message can do to the core. -/
inductive MessageStep : PTPMessage → Core F → Core F → Prop
  | sync {m : PTPMessageSync} {c : Core F} (hstate : c.portState.ignoresMessages = false) :
      MessageStep (.sync m) c (c.setLastSync (some m))
  | syncIgnored {m : PTPMessageSync} {c : Core F} (hstate : c.portState.ignoresMessages) :
      MessageStep (.sync m) c c
  | followUp {m : PTPMessageFollowUp} {c c' : Core F} (h : FollowUpStep m c c') :
      MessageStep (.followUp m) c c'
  | pathDelayReq {m : PTPMessagePathDelayReq} {c : Core F} : MessageStep (.pathDelayReq m) c c
  | pathDelayResp {m : PTPMessagePathDelayResp} {c : Core F}
      (hstate : c.portState.ignoresMessages = false) :
      MessageStep (.pathDelayResp m) c (c.setLastPDelayResp (some m))
  | pathDelayRespIgnored {m : PTPMessagePathDelayResp} {c : Core F}
      (hstate : c.portState.ignoresMessages) : MessageStep (.pathDelayResp m) c c
  | pathDelayRespFollowUp {m : PTPMessagePathDelayRespFollowUp} {c c' : Core F} {gc : Bool}
      (h : RespFollowUpStep m c c' gc) : MessageStep (.pathDelayRespFollowUp m) c c'
  | announce {m : PTPMessageAnnounce} {c : Core F} : MessageStep (.announce m) c c
  | signalling {m : PTPMessageSignalling} {c : Core F} :
      MessageStep (.signalling m) c (c.signalled m)

/-! ### Message handlers of the daemon -/

namespace Daemon

theorem processSync_core (m : PTPMessageSync) (d : Daemon F) :
    MessageStep (.sync m) d.core (d.processSync m).1.core := by
  unfold processSync
  cases hstate : d.port.portState.ignoresMessages with
  | true => exact .syncIgnored hstate
  | false => exact .sync hstate

theorem processFollowUp_core (env : Env) (m : PTPMessageFollowUp) (d : Daemon F) :
    FollowUpStep m d.core (d.processFollowUp env m).1.core := by
  have hcase := d.processFollowUp_cases env m
  generalize d.processFollowUp env m = ended at hcase ⊢
  -- the receipt timer is not part of the core
  have hstop := core_stopSyncReceiptTimer d
  cases hcase with
  | ignored hstate =>
    rw [hstop]
    exact .ignored (.inl hstate)
  | orphan _ hsync =>
    rw [hstop]
    exact .ignored (.inr hsync)
  | wrong hstate hsync hmatch =>
    rw [← hstop]
    simp only [core_setLastSync, wrongFollowUp]
    split
    case isTrue hcount => exact .mismatch hstate hsync hmatch hcount
    case isFalse hcount =>
      rw [core_setWrongSeqIDCounter, core_becomeMaster]
      exact .takeOver hstate hsync hmatch hcount
  | stale _ hsync hmatch =>
    rw [← hstop]
    exact .unused hsync hmatch
  | @used sync _ hsync hmatch hversion =>
    rw [← hstop, core_setLastSync]
    -- the servo has set an offset, or it has found no use for the message
    rcases core_processFollowUpAt env m sync.timestamp d.stopSyncReceiptTimer with
      h | ⟨stepped, u, hu, h⟩
    · rw [h]
      exact .unused hsync hmatch
    · rw [h]
      exact .offset hsync hmatch hversion stepped u hu

omit [Platform F] in
theorem core_processPathDelayReq (env : Env) (m : PTPMessagePathDelayReq) (d : Daemon F) :
    (d.processPathDelayReq env m).1.core = d.core := by
  unfold processPathDelayReq
  split
  · rfl
  · rw [core_emit_of_not_isSalient rfl, core_emit_of_not_isSalient rfl]

omit [Platform F] in
theorem core_checkDuplicateResp (m old : PTPMessagePathDelayResp) (d : Daemon F) :
    (d.checkDuplicateResp m old).core = d.core := by
  unfold checkDuplicateResp
  simp only [core_ite, core_setLastInvalidSeqID, core_setDuplicateRespCounter, core_addEventTimer,
    core_stopPDelay, Core.arm_of_not_isCounted (e := .pdelayRespPeerMisbehavingTimeoutExpires) rfl,
    ite_self]

theorem processPathDelayResp_core (m : PTPMessagePathDelayResp) (d : Daemon F) :
    MessageStep (.pathDelayResp m) d.core (d.processPathDelayResp m).1.core := by
  unfold processPathDelayResp
  cases hstate : d.port.portState.ignoresMessages with
  | true => exact .pathDelayRespIgnored hstate
  | false =>
    simp only [Bool.false_eq_true, if_false]
    rw [core_setLastPDelayResp]
    split
    · exact .pathDelayResp hstate
    · rw [core_checkDuplicateResp]
      exact .pathDelayResp hstate

theorem core_measure (req : PTPMessagePathDelayReq) (resp : PTPMessagePathDelayResp)
    (m : PTPMessagePathDelayRespFollowUp) (d : Daemon F) :
    (d.measure req resp m).core = d.core.measure req resp m := by
  unfold measure Core.measure Core.measured
  simp only [core_setPeerOffset, core_ite, core_setAsCapable, core_setLinkDelay,
    core_setPeerRateOffset, core_setPdelayCount]
  rfl

theorem processPathDelayRespFollowUp_core (m : PTPMessagePathDelayRespFollowUp) (d : Daemon F) :
    RespFollowUpStep m d.core (d.processPathDelayRespFollowUp m).1.core
      (d.processPathDelayRespFollowUp m).2 := by
  have hdel : (d.deleteEventTimer .pdelayRespReceiptTimeoutExpires).core = d.core := by simp
  have hne : Timestamp.invalid.nanoseconds ≠ Timestamp.pdelayPending.nanoseconds := by decide
  unfold processPathDelayRespFollowUp
  cases hstate : d.port.portState.ignoresMessages with
  | true => exact .ignored hstate
  | false =>
    simp only [Bool.false_eq_true, if_false]
    cases hreq : d.port.pdelay.lastPDelayReq with
    | none =>
      have hnone : d.core.lastPDelayReq = none := hreq
      exact .dropped hstate fun req resp h _ => by rw [hnone] at h; cases h
    | some req =>
      cases hresp : d.port.pdelay.lastPDelayResp with
      | none =>
        have hnone : d.core.lastPDelayResp = none := hresp
        exact .dropped hstate fun req resp _ h => by rw [hnone] at h; cases h
      | some resp =>
        -- all exits but two end here; `dropped` quantifies over the messages, which are those at hand
        have hdropped (h : defers req resp m = false ∧ completes req resp m = false) :
            RespFollowUpStep m d.core (d.core.setLastPDelayResp none) true := by
          refine .dropped hstate fun req' resp' hreq' hresp' => ?_
          obtain rfl : req = req' := Option.some.inj (hreq.symm.trans hreq')
          obtain rfl : resp = resp' := Option.some.inj (hresp.symm.trans hresp')
          exact h
        cases hmatch : followUpMatches req resp m with
        | false =>
          simp only [hmatch, Bool.not_false, if_true]
          exact hdropped (by simp [defers, completes, hmatch])
        | true =>
          simp only [hmatch, Bool.not_true, Bool.false_eq_true, if_false]
          -- no timestamp, a pending one, one of another version, a usable one
          split_ifs with hinvalid hpending hversion
          · rw [core_setLastPDelayResp, hdel]
            exact hdropped (by simp [defers, completes, hinvalid, hne])
          · rw [core_addEventTimer, core_setLastPDelayRespFollowUp, hdel]
            exact .deferred hstate hreq hresp (by simp [defers, hmatch, hpending])
          · rw [core_setLastPDelayResp, hdel]
            exact hdropped (by simp [defers, completes, hpending, hversion])
          · rw [core_setLastPDelayResp, core_measure, hdel]
            refine .measured hstate hreq hresp ?_
            simp [completes, hmatch, hinvalid, hpending, not_not.mp hversion]

theorem core_processAnnounce (m : PTPMessageAnnounce) (d : Daemon F) :
    (d.processAnnounce m).1.core = d.core := by
  simp only [processAnnounce, core_addEventTimer, core_ite, core_deleteEventTimer,
    core_setQualifiedAnnounce, Core.arm_of_not_isCounted (e := .stateChangeEvent) rfl,
    Core.arm_of_not_isCounted (e := .announceReceiptTimeoutExpires) rfl, reduceCtorEq, if_false,
    ite_self]

theorem core_processSignalling (m : PTPMessageSignalling) (d : Daemon F) :
    (d.processSignalling m).1.core = d.core.signalled m := by
  have hlink : ∀ d : Daemon F, (d.signalLinkDelay m.tlv.linkDelayInterval).core = d.core := by
    intro d
    simp only [signalLinkDelay, core_ite, core_startPDelayIntervalTimer, core_setPDelayInterval,
      ite_self]
  have hsync : ∀ d : Daemon F, (d.signalTimeSync m.tlv.timeSyncInterval).core = { d.core with
      syncTimers := if keepsInterval m.tlv.timeSyncInterval then d.core.syncTimers else 1 } := by
    intro d
    simp only [signalTimeSync, core_ite, core_startSyncIntervalTimer, core_setSyncInterval]
    split <;> rfl
  have hannounce : ∀ d : Daemon F, (d.signalAnnounce m.tlv.announceInterval).core = { d.core with
      announceTimers :=
        if d.core.portCfg.automotiveProfile ∨ keepsInterval m.tlv.announceInterval ∨
            m.tlv.announceInterval = sigMsgIntervalInitial then d.core.announceTimers
        else 1 } := by
    intro d
    simp only [signalAnnounce, core_ite, core_startAnnounceIntervalTimer,
      core_setAnnounceInterval]
    have hcfg : d.core.portCfg = d.port.cfg := rfl
    rw [hcfg]
    split <;> rfl
  -- the three intervals are handled one after the other, and no handler reads what another has set
  rw [processSignalling, hannounce, hsync, hlink]
  rfl

/-- **Received messages.** The daemon handles every message that gets the lock it needs as one of the steps
listed in `MessageStep`. -/
theorem processMessage_core {env : Env} {msg : PTPMessage} (hgot : env.drops msg = false)
    (d : Daemon F) : MessageStep msg d.core (d.processMessage env msg).1.core := by
  cases msg with
  | sync m => exact processSync_core m d
  | followUp m => exact .followUp (processFollowUp_core env m d)
  | pathDelayReq m =>
    change MessageStep _ _ (d.processPathDelayReq env m).1.core
    rw [core_processPathDelayReq]
    exact .pathDelayReq
  | pathDelayResp m =>
    rw [processMessage_pathDelayResp (lock_of_not_drops rfl hgot)]
    exact processPathDelayResp_core m d
  | pathDelayRespFollowUp m =>
    rw [processMessage_pathDelayRespFollowUp (lock_of_not_drops rfl hgot)]
    exact .pathDelayRespFollowUp (processPathDelayRespFollowUp_core m d)
  | announce m =>
    change MessageStep _ _ (d.processAnnounce m).1.core
    rw [core_processAnnounce]
    exact .announce
  | signalling m =>
    change MessageStep _ _ (d.processSignalling m).1.core
    rw [core_processSignalling]
    exact .signalling

end Daemon

end Gptp
