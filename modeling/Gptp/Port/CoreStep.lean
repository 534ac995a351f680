import Gptp.Port.CoreReceive

/-!
# Steps of the core

What a step of the daemon does to its core, said once. `EventStep` lists what the handling of each
event can do, `CoreStep` adds received messages and the expiry of timers, and `step_core` shows that
every step of the daemon is a step of the core. The results about runs are proved from it by cases
on the constructors.
-/

namespace Gptp

open Framework

variable {F : Type}

/-! ### The abstract steps -/

/-- Events whose handling may leave the core as it is. -/
def Event.mayBeIdle : Event → Bool
  | .nullEvent | .stateChangeEvent | .syncReceiptTimeoutExpires | .qualificationTimeoutExpires
  | .announceReceiptTimeoutExpires | .pdelayRespPeerMisbehavingTimeoutExpires
  | .syncRateIntervalTimeoutExpired => true
  | _ => false

/-- Events whose handling takes away `asCapable`, outside the automotive profile. -/
def Event.losesCapability : Event → Bool
  | .linkdown | .faultDetected | .pdelayRespReceiptTimeoutExpires => true
  | _ => false

namespace Core

/-- What an Announce built in this state says about the grandmaster. -/
structure Announces (c : Core F) (m : PTPMessageAnnounce) : Prop where
  identity : m.grandmasterIdentity = c.grandmaster.clockIdentity
  quality : m.grandmasterClockQuality = c.clockCfg.clockQuality
  priority1 : m.grandmasterPriority1 = c.clockCfg.priority1
  priority2 : m.grandmasterPriority2 = c.clockCfg.priority2
  stepsRemoved : m.stepsRemoved = 0

/-- LINKUP. -/
def linkup (c : Core F) : Core F :=
  if c.portCfg.automotiveProfile then c.resumeRole.setAsCapable true else c.resumeRole

/-- LINKDOWN, FAULT_DETECTED and PDELAY_RESP_RECEIPT_TIMEOUT_EXPIRES. -/
def loseCapability (c : Core F) : Core F :=
  if c.portCfg.automotiveProfile then c else c.setAsCapable false

/-- ANNOUNCE_INTERVAL_TIMEOUT_EXPIRES, with the message to be sent. -/
def announceInterval (m : PTPMessageAnnounce) (c : Core F) : Core F :=
  { (if c.link.asCapable then c.record [.send (.announce m)] else c) with announceTimers := 1 }

/-- SYNC_INTERVAL_TIMEOUT_EXPIRES, with the messages that were sent and the offset that was
published. -/
def syncInterval (sent : List (Effect F)) (stepped : Bool) (u : MasterOffset F) (c : Core F) :
    Core F :=
  { (c.record sent).setMasterOffset stepped u with syncTimers := 1 }

end Core

variable [Platform F]

/-- What the handling of an event can do to the core. -/
inductive EventStep : Event → Core F → Core F → Prop
  /-- Nothing. -/
  | idle {e : Event} {c : Core F} (he : e.mayBeIdle) : EventStep e c c
  /-- POWERUP and INITIALIZE. -/
  | powerup {e : Event} {c : Core F} (he : e = .powerup ∨ e = .initializeEvent) :
      EventStep e c c.resumeRole
  | linkup {c : Core F} : EventStep .linkup c c.linkup
  | loseCapability {e : Event} {c : Core F} (he : e.losesCapability) :
      EventStep e c c.loseCapability
  /-- The port's own qualified announce `m` decides its role. -/
  | stateChange {c : Core F} (better : Bool) (m : PTPMessageAnnounce)
      (hauto : c.portCfg.automotiveProfile = false) (hprio : c.clockCfg.priority1 ≠ 255) :
      EventStep .stateChangeEvent c (c.assignRole better m)
  /-- A receipt timeout makes the port master. -/
  | receiptTimeout {e : Event} {c : Core F}
      (he : e = .announceReceiptTimeoutExpires ∨ e = .syncReceiptTimeoutExpires)
      (hauto : c.portCfg.automotiveProfile = false) (hprio : c.clockCfg.priority1 ≠ 255)
      (hstate : c.portState ≠ .ptpMaster) : EventStep e c c.takeOver
  | pdelayInterval {c : Core F} (req : PTPMessagePathDelayReq)
      (hsource : req.sourcePortIdentity = c.portCfg.portIdentity) :
      EventStep .pdelayIntervalTimeoutExpires c (c.setLastPDelayReq (some req))
  /-- A deferred follow-up is due, but none is stored. -/
  | abort {c : Core F} (h : c.lastPDelayRespFollowUp = none) :
      EventStep .pdelayDeferredProcessing c (c.record [.abort])
  | deferred {c c' : Core F} {m : PTPMessagePathDelayRespFollowUp} {gc : Bool}
      (hstored : c.lastPDelayRespFollowUp = some m) (h : RespFollowUpStep m c c' gc) :
      EventStep .pdelayDeferredProcessing c (if gc then c'.setLastPDelayRespFollowUp none else c')
  | announceInterval {c : Core F} (m : PTPMessageAnnounce) (hm : c.Announces m) :
      EventStep .announceIntervalTimeoutExpires c (c.announceInterval m)
  | syncInterval {c : Core F} (sent : List (Effect F)) (stepped : Bool) (u : MasterOffset F)
      (hcapable : c.link.asCapable = false → sent = []) (hsent : ∀ x ∈ sent, x.isSyncMessage) :
      EventStep .syncIntervalTimeoutExpires c (c.syncInterval sent stepped u)

theorem EventStep.of_pdelayInterval {c c' : Core F}
    (h : EventStep .pdelayIntervalTimeoutExpires c c') :
    ∃ req : PTPMessagePathDelayReq, req.sourcePortIdentity = c.portCfg.portIdentity ∧
      c' = c.setLastPDelayReq (some req) := by
  cases h with
  | pdelayInterval req hsource => exact ⟨req, hsource, rfl⟩
  | idle he => cases he
  | loseCapability he => cases he
  | powerup he => rcases he with he | he <;> cases he
  | receiptTimeout he => rcases he with he | he <;> cases he

theorem EventStep.of_deferred {c c' : Core F} (h : EventStep .pdelayDeferredProcessing c c') :
    (c.lastPDelayRespFollowUp = none ∧ c' = c.record [.abort]) ∨
      ∃ m c₁ gc, c.lastPDelayRespFollowUp = some m ∧ RespFollowUpStep m c c₁ gc ∧
        c' = if gc then c₁.setLastPDelayRespFollowUp none else c₁ := by
  cases h with
  | abort h => exact .inl ⟨h, rfl⟩
  | deferred hstored h => exact .inr ⟨_, _, _, hstored, h, rfl⟩
  | idle he => cases he
  | loseCapability he => cases he
  | powerup he => rcases he with he | he <;> cases he
  | receiptTimeout he => rcases he with he | he <;> cases he

/-- What the handling of an event can do to the role. -/
inductive RoleStep : Event → Core F → Role → Prop
  | keep {e : Event} {c : Core F} : RoleStep e c c.toRole
  | resume {e : Event} {c : Core F} (he : e = .powerup ∨ e = .initializeEvent ∨ e = .linkup) :
      RoleStep e c c.resumeRole.toRole
  | stateChange {c : Core F} (better : Bool) (m : PTPMessageAnnounce)
      (hauto : c.portCfg.automotiveProfile = false) (hprio : c.clockCfg.priority1 ≠ 255) :
      RoleStep .stateChangeEvent c (c.assignRole better m).toRole
  | receiptTimeout {e : Event} {c : Core F} (hauto : c.portCfg.automotiveProfile = false)
      (hprio : c.clockCfg.priority1 ≠ 255) : RoleStep e c c.takeOver.toRole
  /-- An interval timer arms itself again. -/
  | announceInterval {c : Core F} :
      RoleStep .announceIntervalTimeoutExpires c { c.toRole with announceTimers := 1 }
  | syncInterval {c : Core F} :
      RoleStep .syncIntervalTimeoutExpires c { c.toRole with syncTimers := 1 }

theorem EventStep.role {e : Event} {c c' : Core F} (h : EventStep e c c') :
    RoleStep e c c'.toRole := by
  cases h with
  | idle => exact .keep
  | powerup he => exact .resume (he.imp_right .inl)
  | linkup =>
    unfold Core.linkup
    rw [Core.toRole_ite, Core.toRole_setAsCapable, ite_self]
    exact .resume (.inr (.inr rfl))
  | loseCapability =>
    unfold Core.loseCapability
    rw [Core.toRole_ite, Core.toRole_setAsCapable, ite_self]
    exact .keep
  | stateChange better m hauto hprio => exact .stateChange better m hauto hprio
  | receiptTimeout _ hauto hprio => exact .receiptTimeout hauto hprio
  | pdelayInterval => exact .keep
  | abort => exact .keep
  | deferred _ h =>
    rw [Core.toRole_ite, Core.toRole_setLastPDelayRespFollowUp, ite_self, h.toRole]
    exact .keep
  | announceInterval =>
    unfold Core.announceInterval
    split <;> exact .announceInterval
  | syncInterval => exact .syncInterval

/-- What a step reacts to: the stimulus with its timer looked up and its timestamp compensated, unless the
message is dropped. -/
inductive Label where
  | event (e : Event)
  | timer (e : Event)
  | receive (msg : PTPMessage)
  | idle

/-- What a step can do to the core. -/
inductive CoreStep : Label → Core F → Core F → Prop
  | event {e : Event} {c c' : Core F} (h : EventStep e c.clear c') : CoreStep (.event e) c c'
  /-- The timer is taken out of the queue before its event is handled. -/
  | timer {e : Event} {c c₀ c' : Core F} (hpop : c.clear = c₀.arm e) (h : EventStep e c₀ c') :
      CoreStep (.timer e) c c'
  | receive {msg : PTPMessage} {c c' : Core F} (h : MessageStep msg c.clear c') :
      CoreStep (.receive msg) c c'
  | idle {c : Core F} : CoreStep .idle c c.clear

omit [Platform F] in
/-- The role before a timer was taken out of the queue. -/
theorem Core.toRole_of_pop {c c₀ : Core F} {e : Event} (h : c.clear = c₀.arm e) :
    c.toRole = (c₀.arm e).toRole := by
  rw [← h, toRole_clear]

omit [Platform F] in
/-- The peer delay exchange before a timer was taken out of the queue. -/
theorem Core.toExchange_of_pop {c c₀ : Core F} {e : Event} (h : c.clear = c₀.arm e) :
    c.toExchange = (c₀.arm e).toExchange := by
  rw [← h]
  rfl

/-- `c₀` is `c` at the start of a step, as far as the link, the exchange and the role go. -/
structure Core.SameInput (c c₀ : Core F) : Prop where
  log : c₀.log = []
  link : c₀.link = c.link
  portState : c₀.portState = c.portState
  portCfg : c₀.portCfg = c.portCfg
  lastPDelayReq : c₀.lastPDelayReq = c.lastPDelayReq
  lastPDelayResp : c₀.lastPDelayResp = c.lastPDelayResp

omit [Platform F] in
theorem Core.sameInput_clear (c : Core F) : c.SameInput c.clear := ⟨rfl, rfl, rfl, rfl, rfl, rfl⟩

omit [Platform F] in
theorem Core.sameInput_of_pop {c c₀ : Core F} {e : Event} (h : c.clear = c₀.arm e) :
    c.SameInput c₀ where
  log := (congrArg Core.log h).symm
  link := (congrArg Core.link h).symm
  portState := (congrArg Role.portState (toRole_of_pop h)).symm
  portCfg := (congrArg Role.portCfg (toRole_of_pop h)).symm
  lastPDelayReq := (congrArg Exchange.lastPDelayReq (toExchange_of_pop h)).symm
  lastPDelayResp := (congrArg Exchange.lastPDelayResp (toExchange_of_pop h)).symm

/-! ### Event handlers of the daemon -/

namespace Daemon

/-- The label of an input. -/
def label (d : Daemon F) (i : Input) : Label :=
  match i.stimulus with
  | .event e => .event e
  | .timer k => match d.timerq[k]? with
    | some t => .timer t.event
    | none => .idle
  | .receive msg linkSpeed =>
    if i.env.drops msg then .idle else .receive (compensate d.port.cfg linkSpeed msg)
  | .setLinkSpeed _ => .idle

section Labels

variable {d : Daemon F} {i : Input}

omit [Platform F] in
theorem label_of_receive {msg : PTPMessage} {linkSpeed : UInt32}
    (hi : i.stimulus = .receive msg linkSpeed) (hgot : i.env.drops msg = false) :
    d.label i = .receive (compensate d.port.cfg linkSpeed msg) := by
  simp only [label, hi, hgot, Bool.false_eq_true, if_false]

omit [Platform F] in
theorem label_of_drops {msg : PTPMessage} {linkSpeed : UInt32}
    (hi : i.stimulus = .receive msg linkSpeed) (hdrops : i.env.drops msg = true) :
    d.label i = .idle := by
  simp only [label, hi, hdrops, if_true]

omit [Platform F] in
/-- A received message is compensated before it is handled. -/
theorem stimulus_of_label_receive {msg : PTPMessage} (h : d.label i = .receive msg) :
    ∃ msg₀ linkSpeed, i.stimulus = .receive msg₀ linkSpeed ∧
      compensate d.port.cfg linkSpeed msg₀ = msg := by
  obtain ⟨stimulus, env⟩ := i
  cases stimulus with
  | event e => cases h
  | timer k => cases hk : d.timerq[k]? <;> simp [label, hk] at h
  | receive msg₀ linkSpeed =>
    cases hdrops : env.drops msg₀ with
    | true => cases (label_of_drops rfl hdrops).symm.trans h
    | false => exact ⟨msg₀, linkSpeed, rfl, Label.receive.inj ((label_of_receive rfl hdrops).symm.trans h)⟩
  | setLinkSpeed linkSpeed => cases h

omit [Platform F] in
/-- A message that is handled has got the lock that it needs. -/
theorem drops_of_label_receive {msg : PTPMessage} (h : d.label i = .receive msg) :
    i.env.drops msg = false := by
  obtain ⟨msg₀, linkSpeed, hi, rfl⟩ := stimulus_of_label_receive h
  rw [drops_compensate]
  cases hdrops : i.env.drops msg₀ with
  | true => cases (label_of_drops hi hdrops).symm.trans h
  | false => rfl

omit [Platform F] in
/-- Only the expiry of a timer and an event raised from outside are handled as events. -/
theorem handledEvent_eq_some {e : Event} :
    d.handledEvent i = some e ↔ d.label i = .event e ∨ d.label i = .timer e := by
  obtain ⟨stimulus, env⟩ := i
  cases stimulus with
  | event e' => simp [handledEvent, label]
  | timer k => cases h : d.timerq[k]? <;> simp [handledEvent, label, h]
  | receive msg linkSpeed => cases h : env.drops msg <;> simp [handledEvent, label, h]
  | setLinkSpeed linkSpeed => simp [handledEvent, label]

omit [Platform F] in
/-- Only external events are raised outside the timer queue. -/
theorem isExternal_of_label_event {e : Event} (henabled : d.enabled i)
    (h : d.label i = .event e) : e.isExternal := by
  obtain ⟨stimulus, env⟩ := i
  cases stimulus with
  | event e' =>
    obtain rfl : e' = e := Label.event.inj h
    exact henabled
  | timer k => cases hk : d.timerq[k]? <;> simp [label, hk] at h
  | receive msg linkSpeed => cases hdrops : env.drops msg <;> simp [label, hdrops] at h
  | setLinkSpeed linkSpeed => cases h

end Labels

theorem core_mediaPowerup (env : Env) (d : Daemon F) : (d.mediaPowerup env).1.core = d.core := by
  unfold mediaPowerup
  dsimp only
  split_ifs <;> simp

theorem core_automotiveLinkup (d : Daemon F) :
    d.automotiveLinkup.core = d.core.setAsCapable true := by
  have hreset : ∀ d : Daemon F, d.resetAvbSyncState.countLinkUp.core = d.core := by
    intro d
    unfold countLinkUp
    rw [core_ite]
    exact ite_self _
  simp only [automotiveLinkup, hreset, core_setSyncCount, core_setPdelayCount,
    core_initialSignalling, core_setPDelayInterval, core_setAnnounceInterval, core_setSyncInterval,
    core_announceEthernetReady, core_setAsCapable]

theorem core_mediaLinkup (d : Daemon F) : d.mediaLinkup.core = d.core.linkup := by
  have hresume : (d.haltPdelay false).startPDelay.resumeRole.core = d.core.resumeRole := by
    rw [core_resumeRole, core_startPDelay, core_haltPdelay]
  have hcfg : (d.haltPdelay false).startPDelay.resumeRole.port.cfg = d.core.portCfg := by
    have h := congrArg (fun c : Core F => c.portCfg) hresume
    exact h.trans d.core.changesRole_resumeRole.portCfg
  unfold mediaLinkup Core.linkup
  dsimp only
  rw [core_ite, core_automotiveLinkup, hresume, hcfg]

omit [Platform F] in
theorem core_countLinkDown (d : Daemon F) : d.countLinkDown.core = d.core := by
  unfold countLinkDown
  rw [core_ite]
  exact ite_self _

omit [Platform F] in
theorem core_mediaLinkdown (d : Daemon F) : d.mediaLinkdown.core = d.core.loseCapability := by
  unfold mediaLinkdown
  rw [core_countLinkDown, core_ite, core_setAsCapable, core_stopPDelay]
  rfl

theorem core_mediaPdelayInterval (env : Env) (d : Daemon F) :
    ∃ req : PTPMessagePathDelayReq, req.sourcePortIdentity = d.core.portCfg.portIdentity ∧
      (d.mediaPdelayInterval env).core = d.core.setLastPDelayReq (some req) := by
  have hsend : ∀ (req : PTPMessagePathDelayReq) (d' : Daemon F),
      ∃ req' : PTPMessagePathDelayReq, req'.sourcePortIdentity = req.sourcePortIdentity ∧
        (d'.sendPathDelayReq env req).core = d'.core.setLastPDelayReq (some req') := by
    intro req d'
    unfold sendPathDelayReq
    -- a halted port stores the request without sending it
    split
    · exact ⟨req, rfl, rfl⟩
    · refine ⟨{ req with timestamp := (d'.getTxTimestamp env).1 }, rfl, ?_⟩
      rw [core_emit_of_not_isSalient rfl, core_setLastPDelayReq]
  obtain ⟨req, hsource, hcore⟩ := hsend d.pathDelayReqMessage
    { d with port.seq.pdelay := d.port.seq.pdelay + 1 }
  refine ⟨req, hsource, ?_⟩
  unfold mediaPdelayInterval
  dsimp only
  rw [core_startPDelayIntervalTimer, core_addEventTimer, Core.arm_of_not_isCounted rfl, hcore]
  rfl

theorem mediaPdelayDeferred_core (d : Daemon F) :
    EventStep .pdelayDeferredProcessing d.core d.mediaPdelayDeferred.core := by
  unfold mediaPdelayDeferred
  cases hstored : d.port.pdelay.lastPDelayRespFollowUp with
  | none =>
    dsimp only
    rw [core_emit_of_isSalient rfl]
    exact .abort hstored
  | some m =>
    dsimp only
    rw [core_ite, core_setLastPDelayRespFollowUp]
    exact .deferred hstored (processPathDelayRespFollowUp_core m d)

omit [Platform F] in
theorem core_mediaPdelayRespReceipt (d : Daemon F) :
    d.mediaPdelayRespReceipt.core = d.core.loseCapability := by
  unfold mediaPdelayRespReceipt
  rw [core_setPdelayCount, core_ite, core_setAsCapable]
  rfl

theorem core_mediaSyncRateInterval (d : Daemon F) :
    d.mediaSyncRateInterval.core = d.core := by
  unfold mediaSyncRateInterval
  dsimp only
  rw [core_ite, core_startSyncReceiptTimer, core_sendSignalling, core_setPDelayInterval,
    core_setSyncInterval, core_setSyncRateIntervalTimerStarted, ite_self]

theorem core_announceInterval (d : Daemon F) :
    d.core.Announces d.announceMessage ∧
      d.announceInterval.core = d.core.announceInterval d.announceMessage := by
  refine ⟨⟨rfl, rfl, rfl, rfl, rfl⟩, ?_⟩
  have hsend : d.sendAnnounce.core = d.core.record [.send (.announce d.announceMessage)] := by
    rw [sendAnnounce, core_emit_of_isSalient rfl]
    rfl
  unfold announceInterval Core.announceInterval
  rw [core_startAnnounceIntervalTimer, core_ite, hsend]
  rfl

omit [Platform F] in
theorem clock_countDownAvbSync (d : Daemon F) : d.countDownAvbSync.clock = d.clock := by
  unfold countDownAvbSync
  dsimp only
  split_ifs <;> rfl

/-- The messages sent at a Sync interval are Sync and Follow_Up messages, and a Follow_Up carries
the TLV of the clock. -/
theorem core_mediaSyncInterval (env : Env) (d : Daemon F) :
    ∃ sent : List (Effect F), (∀ x ∈ sent, x.isSyncMessage) ∧
      (∀ m, .send (.followUp m) ∈ sent →
        m.tlv = (d.followUpMessage m.sequenceId m.preciseOriginTimestamp).tlv) ∧
      (d.mediaSyncInterval env).core = d.core.record sent := by
  let sync : Effect F := .send (.sync (d.syncMessage env))
  have hsend : (d.sendSync env).core = d.core.record [sync] := by
    rw [sendSync, core_emit_of_isSalient rfl]
    rfl
  unfold mediaSyncInterval
  dsimp only
  -- counting down the AVB synchronisation state does not touch the core
  set d₁ := if (d.sendSync env).port.cfg.automotiveProfile ∧
    (d.sendSync env).port.portState = .ptpMaster then (d.sendSync env).countDownAvbSync
    else d.sendSync env with hd₁
  have hcore : d₁.core = d.core.record [sync] := by
    rw [hd₁, core_ite, core_countDownAvbSync, ite_self, hsend]
  have hclock : d₁.clock = d.clock := by
    rw [hd₁, apply_ite Daemon.clock, clock_countDownAvbSync, ite_self]
    rfl
  split
  · let followUp : PTPMessageFollowUp :=
      d₁.followUpMessage (d.syncMessage env).sequenceId (d.syncMessage env).timestamp
    -- the TLV is built from the clock alone
    have htlv : followUp.tlv =
        (d.followUpMessage followUp.sequenceId followUp.preciseOriginTimestamp).tlv := by
      unfold followUpMessage
      rw [← hclock]
      rfl
    refine ⟨[sync] ++ [.send (.followUp followUp)], by simp [sync, Effect.isSyncMessage], ?_, ?_⟩
    · intro m hm
      obtain rfl : m = followUp := by simpa [sync] using hm
      exact htlv
    · rw [core_emit_of_isSalient rfl, hcore, Core.record_append]
  · exact ⟨[sync], by simp [sync, Effect.isSyncMessage], by simp [sync], hcore⟩

theorem core_syncInterval (env : Env) (d : Daemon F) :
    ∃ sent stepped u, (d.core.link.asCapable = false → sent = []) ∧
      (∀ x ∈ sent, x.isSyncMessage) ∧
      (∀ m, .send (.followUp m) ∈ sent →
        m.tlv = (d.followUpMessage m.sequenceId m.preciseOriginTimestamp).tlv) ∧
      (d.syncInterval env).core = d.core.syncInterval sent stepped u := by
  -- the messages of this interval; a link that is not capable gets none
  set d₁ := if d.port.link.asCapable then d.mediaSyncInterval env else d with hd₁
  obtain ⟨sent, hcapable, hsent, htlv, hcore⟩ : ∃ sent : List (Effect F),
      (d.core.link.asCapable = false → sent = []) ∧ (∀ x ∈ sent, x.isSyncMessage) ∧
      (∀ m, .send (.followUp m) ∈ sent →
        m.tlv = (d.followUpMessage m.sequenceId m.preciseOriginTimestamp).tlv) ∧
      d₁.core = d.core.record sent := by
    cases hcap : d.port.link.asCapable with
    | true =>
      obtain ⟨sent, hsent, htlv, hcore⟩ := core_mediaSyncInterval env d
      have hcap' : d.core.link.asCapable = true := hcap
      refine ⟨sent, fun h => ?_, hsent, htlv, ?_⟩
      · rw [hcap'] at h
        cases h
      · rw [hd₁, if_pos hcap, hcore]
    | false =>
      refine ⟨[], fun _ => rfl, by simp, by simp, ?_⟩
      rw [hd₁, hcap, Core.record_nil]
      rfl
  -- the rate estimate is part of the servo, not of the core
  let estimate := d₁.clock.calcLocalSystemClockRateDifference env.deviceTime env.systemTime
  have hclock : { d₁ with clock := estimate.2 }.core = d₁.core := by
    simp only [estimate, Clock.calcLocalSystemClockRateDifference_snd]
    rfl
  let d₂ : Daemon F := { d₁ with clock := estimate.2 }
  obtain ⟨stepped, hoffset⟩ := core_setMasterOffset (d₂.localOffset env estimate.1) d₂
  refine ⟨sent, stepped, d₂.localOffset env estimate.1, hcapable, hsent, htlv, ?_⟩
  unfold syncInterval
  dsimp only
  rw [core_startSyncIntervalTimer, core_syncDone]
  exact congrArg (fun c : Core F => { c with syncTimers := 1 })
    (hoffset.trans (by rw [hclock, hcore]))

/-! ### Simulation -/

theorem processEvent_powerup (env : Env) {e : Event} (he : e = .powerup ∨ e = .initializeEvent)
    (d : Daemon F) : EventStep e d.core (d.processEvent env e).core := by
  have hcore : (d.processEvent env e).core = d.core.resumeRole := by
    rcases he with rfl | rfl <;> exact (core_mediaPowerup env _).trans (core_resumeRole d)
  rw [hcore]
  exact .powerup he

theorem processEvent_receiptTimeout (env : Env) {e : Event}
    (he : e = .announceReceiptTimeoutExpires ∨ e = .syncReceiptTimeoutExpires) (d : Daemon F) :
    EventStep e d.core (d.processEvent env e).core := by
  have hidle : e.mayBeIdle := by rcases he with rfl | rfl <;> rfl
  cases hauto : d.port.cfg.automotiveProfile with
  | true =>
    have hcore : (d.processEvent env e).core = d.core := by
      rcases he with rfl | rfl <;> simp [processEvent, mediaEvent, hauto]
    rw [hcore]
    exact .idle hidle
  | false =>
    rw [processEvent_of_receiptTimeout env he hauto, core_processSyncAnnounceTimeout]
    split
    case isTrue => exact .idle hidle
    case isFalse h =>
      rw [not_or] at h
      exact .receiptTimeout he hauto h.1 h.2

theorem processEvent_stateChange (env : Env) (d : Daemon F) :
    EventStep .stateChangeEvent d.core (d.processEvent env .stateChangeEvent).core := by
  rw [processEvent_stateChangeEvent]
  cases hauto : d.port.cfg.automotiveProfile with
  | true => exact .idle rfl
  | false =>
    rw [if_neg Bool.false_ne_true]
    rcases core_processStateChange d with h | ⟨hprio, better, m, h⟩
    · rw [h]
      exact .idle rfl
    · rw [h]
      exact .stateChange better m hauto hprio

/-- **Events.** The daemon handles every event as one of the steps listed in `EventStep`. -/
theorem processEvent_core (env : Env) (e : Event) (d : Daemon F) :
    EventStep e d.core (d.processEvent env e).core := by
  cases e with
  | nullEvent | qualificationTimeoutExpires => exact .idle rfl
  | powerup => exact processEvent_powerup env (.inl rfl) d
  | initializeEvent => exact processEvent_powerup env (.inr rfl) d
  | linkup =>
    change EventStep _ _ d.mediaLinkup.core
    rw [core_mediaLinkup]
    exact .linkup
  | linkdown =>
    change EventStep _ _ d.mediaLinkdown.core
    rw [core_mediaLinkdown]
    exact .loseCapability rfl
  | stateChangeEvent => exact processEvent_stateChange env d
  | syncIntervalTimeoutExpires =>
    obtain ⟨sent, stepped, u, hcapable, hsent, -, hcore⟩ := core_syncInterval env d
    change EventStep _ _ (d.syncInterval env).core
    rw [hcore]
    exact .syncInterval sent stepped u hcapable hsent
  | pdelayIntervalTimeoutExpires =>
    obtain ⟨req, hsource, hcore⟩ := core_mediaPdelayInterval env d
    change EventStep _ _ (d.mediaPdelayInterval env).core
    rw [hcore]
    exact .pdelayInterval req hsource
  | syncReceiptTimeoutExpires => exact processEvent_receiptTimeout env (.inr rfl) d
  | announceReceiptTimeoutExpires => exact processEvent_receiptTimeout env (.inl rfl) d
  | announceIntervalTimeoutExpires =>
    obtain ⟨hm, hcore⟩ := core_announceInterval d
    change EventStep _ _ d.announceInterval.core
    rw [hcore]
    exact .announceInterval _ hm
  -- an automotive port keeps its capability, which `loseCapability` has as a case of its own
  | faultDetected =>
    change EventStep _ _ (ite _ _ _ : Daemon F).core
    rw [core_ite, core_setAsCapable]
    exact .loseCapability rfl
  | pdelayDeferredProcessing => exact mediaPdelayDeferred_core d
  | pdelayRespReceiptTimeoutExpires =>
    change EventStep _ _ d.mediaPdelayRespReceipt.core
    rw [core_mediaPdelayRespReceipt]
    exact .loseCapability rfl
  -- the halt flag and the request timer are not part of the core
  | pdelayRespPeerMisbehavingTimeoutExpires =>
    change EventStep _ _ (d.haltPdelay false).startPDelayIfUnassigned.core
    rw [core_startPDelayIfUnassigned, core_haltPdelay]
    exact .idle rfl
  | syncRateIntervalTimeoutExpired =>
    change EventStep _ _ d.mediaSyncRateInterval.core
    rw [core_mediaSyncRateInterval]
    exact .idle rfl

omit [Platform F] in
/-- Taking a timer out of the queue, on the core. -/
theorem core_clear_eq_arm {d : Daemon F} {k : ℕ} {t : Timer} (h : d.timerq[k]? = some t) :
    d.core.clear =
      Core.arm t.event { d with effects := [], timerq := d.timerq.eraseIdx k }.core := by
  simp only [core, Core.clear, Core.arm, List.filter_nil, armed_eraseIdx h]

/-- A message that is dropped leaves the daemon as it is. -/
theorem step_of_drops {d : Daemon F} {i : Input} {msg : PTPMessage} {linkSpeed : UInt32}
    (hi : i.stimulus = .receive msg linkSpeed) (hdrops : i.env.drops msg = true) :
    d.step i = { d with effects := [] } := by
  unfold step
  rw [hi]
  change (processMessage i.env (compensate d.port.cfg linkSpeed msg) _).1 = _
  rw [processMessage_of_drops ((drops_compensate ..).trans hdrops)]

/-- **Simulation.** Every step of the daemon is a step of its core. -/
theorem step_core (d : Daemon F) (i : Input) :
    CoreStep (d.label i) d.core (d.step i).core := by
  obtain ⟨stimulus, env⟩ := i
  cases stimulus with
  | event e => exact .event (processEvent_core env e { d with effects := [] })
  | timer k =>
    -- an expiry without a timer does nothing
    cases h : d.timerq[k]? with
    | none =>
      have hlabel : d.label ⟨.timer k, env⟩ = .idle := by simp only [label, h]
      have hstep : d.step ⟨.timer k, env⟩ = { d with effects := [] } := by simp only [step, h]
      rw [hlabel, hstep]
      exact .idle
    | some t =>
      have hlabel : d.label ⟨.timer k, env⟩ = .timer t.event := by simp only [label, h]
      have hstep : d.step ⟨.timer k, env⟩ = processEvent env t.event
          { d with effects := [], timerq := d.timerq.eraseIdx k } := by simp only [step, h]
      rw [hlabel, hstep]
      exact .timer (core_clear_eq_arm h) (processEvent_core env t.event _)
  | receive msg linkSpeed =>
    cases hdrops : env.drops msg with
    | true =>
      rw [label_of_drops rfl hdrops, step_of_drops rfl hdrops]
      exact .idle
    | false =>
      rw [label_of_receive rfl hdrops]
      exact .receive (processMessage_core ((drops_compensate ..).trans hdrops) { d with effects := [] })
  | setLinkSpeed linkSpeed => exact .idle

end Daemon

/-! ### What a step leaves alone -/

/-- Only a new request and a deferred follow-up touch the peer delay exchange. -/
theorem EventStep.toExchange {e : Event} {c c' : Core F} (h : EventStep e c c')
    (hrequest : e ≠ .pdelayIntervalTimeoutExpires) (hdeferred : e ≠ .pdelayDeferredProcessing) :
    c'.toExchange = c.toExchange := by
  cases h with
  | powerup => exact c.changesRole_resumeRole.toExchange
  | linkup =>
    unfold Core.linkup
    split_ifs <;> exact c.changesRole_resumeRole.toExchange
  | loseCapability =>
    unfold Core.loseCapability
    split_ifs <;> rfl
  | stateChange better m => exact (c.changesRole_assignRole better m).toExchange
  | announceInterval =>
    unfold Core.announceInterval
    split_ifs <;> rfl
  | pdelayInterval => exact absurd rfl hrequest
  | abort => exact absurd rfl hdeferred
  | deferred => exact absurd rfl hdeferred
  | idle => rfl
  | receiptTimeout => rfl
  | syncInterval => rfl

/-- No event touches the reception of Sync messages. -/
theorem EventStep.sync {e : Event} {c c' : Core F} (h : EventStep e c c') :
    c'.lastSync = c.lastSync ∧ c'.wrongSeqIDCounter = c.wrongSeqIDCounter := by
  have hresume := c.changesRole_resumeRole
  cases h with
  | powerup => exact ⟨hresume.lastSync, hresume.wrongSeqIDCounter⟩
  | linkup =>
    unfold Core.linkup
    split_ifs <;> exact ⟨hresume.lastSync, hresume.wrongSeqIDCounter⟩
  | loseCapability =>
    unfold Core.loseCapability
    split_ifs <;> exact ⟨rfl, rfl⟩
  | stateChange better m =>
    have hassign := c.changesRole_assignRole better m
    exact ⟨hassign.lastSync, hassign.wrongSeqIDCounter⟩
  | announceInterval =>
    unfold Core.announceInterval
    split_ifs <;> exact ⟨rfl, rfl⟩
  | deferred _ h => split_ifs <;> exact ⟨h.sync.1, h.sync.2.1⟩
  | _ => exact ⟨rfl, rfl⟩

omit [Platform F] in
theorem FollowUpStep.cfg {m : PTPMessageFollowUp} {c c' : Core F} (h : FollowUpStep m c c') :
    c'.clockCfg = c.clockCfg ∧ c'.portCfg = c.portCfg := by
  cases h <;> exact ⟨rfl, rfl⟩

theorem MessageStep.cfg {msg : PTPMessage} {c c' : Core F} (h : MessageStep msg c c') :
    c'.clockCfg = c.clockCfg ∧ c'.portCfg = c.portCfg := by
  cases h with
  | followUp h => exact h.cfg
  | pathDelayRespFollowUp h => exact ⟨congrArg Role.clockCfg h.toRole, congrArg Role.portCfg h.toRole⟩
  | _ => exact ⟨rfl, rfl⟩

theorem EventStep.cfg {e : Event} {c c' : Core F} (h : EventStep e c c') :
    c'.clockCfg = c.clockCfg ∧ c'.portCfg = c.portCfg := by
  have hrole := h.role
  generalize c'.toRole = r at hrole ⊢
  cases hrole with
  | resume =>
    have hresume := c.changesRole_resumeRole
    exact ⟨hresume.clockCfg, hresume.portCfg⟩
  | stateChange better m =>
    have hassign := c.changesRole_assignRole better m
    exact ⟨hassign.clockCfg, hassign.portCfg⟩
  | _ => exact ⟨rfl, rfl⟩

/-- No step changes the configuration. -/
theorem Daemon.step_cfg (d : Daemon F) (i : Input) :
    (d.step i).clock.cfg = d.clock.cfg ∧ (d.step i).port.cfg = d.port.cfg := by
  have hstep := d.step_core i
  -- the configuration of the core is that of the daemon
  suffices h : (d.step i).core.clockCfg = d.core.clockCfg ∧
      (d.step i).core.portCfg = d.core.portCfg from h
  generalize (d.step i).core = c' at hstep ⊢
  generalize d.label i = l at hstep
  cases hstep with
  | event h => exact h.cfg
  -- taking the timer off the queue changes a counter of the role, not its configuration
  | timer hpop h =>
    have hrole := Core.toRole_of_pop hpop
    exact ⟨h.cfg.1.trans (congrArg Role.clockCfg hrole).symm,
      h.cfg.2.trans (congrArg Role.portCfg hrole).symm⟩
  | receive h => exact h.cfg
  | idle => exact ⟨rfl, rfl⟩

/-- The configuration is the same throughout a run. -/
theorem stateAt_cfg (d₀ : Daemon F) (σ : ℕ → Input) (k : ℕ) :
    ((machine F).stateAt d₀ σ k).clock.cfg = d₀.clock.cfg ∧
      ((machine F).stateAt d₀ σ k).port.cfg = d₀.port.cfg := by
  refine Machine.invariant_all (M := machine F) (σ := σ)
    (P := fun d => d.clock.cfg = d₀.clock.cfg ∧ d.port.cfg = d₀.port.cfg) ⟨rfl, rfl⟩ ?_ k
  rintro d i ⟨hclock, hport⟩
  obtain ⟨hclock', hport'⟩ := d.step_cfg i
  exact ⟨hclock'.trans hclock, hport'.trans hport⟩

/-- A start keeps the configuration it is given. -/
theorem Start.daemon_cfg (s : Start F) :
    s.daemon.clock.cfg = s.clockConfig ∧ s.daemon.port.cfg = s.portConfig := by
  unfold Start.daemon
  cases s.restored <;> exact ⟨rfl, rfl⟩

end Gptp
