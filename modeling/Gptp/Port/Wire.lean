import Gptp.Port.StepFootprint

/-!
# What a step puts on the wire

The messages a step hands to the network interface, and the sequence numbers it leaves for the next ones
(`Daemon.wire`). Few handlers touch either. `EventTransmits` lists what the handling of an event can send,
`Transmits` adds the answers to received messages, and `transmits_step` shows that this is all a step
sends.
-/

namespace Gptp

open Framework

variable {F : Type}

/-- The message an effect hands to the network interface. -/
def Effect.sent : Effect F → Option PTPMessage
  | .send m => some m
  | _ => none

namespace Daemon

/-- The messages sent in the current step, in order. -/
def sends (d : Daemon F) : List PTPMessage := d.effects.filterMap Effect.sent

/-- The messages sent in the current step, and the sequence numbers of the next ones. -/
def wire (d : Daemon F) : List PTPMessage × SequenceIds := (d.sends, d.port.seq)

/-! ### Operations that send nothing -/

section Quiet

variable (d : Daemon F)

theorem sends_emit (m : PTPMessage) : (d.emit (.send m)).sends = d.sends ++ [m] := by
  unfold sends
  change (d.effects ++ [Effect.send m]).filterMap Effect.sent = _
  rw [List.filterMap_append]
  rfl

theorem wire_emit_of_none {x : Effect F} (h : x.sent = none) : (d.emit x).wire = d.wire := by
  have hsends : (d.emit x).sends = d.sends := by
    unfold sends
    change (d.effects ++ [x]).filterMap Effect.sent = _
    rw [List.filterMap_append, List.filterMap_cons_none h, List.filterMap_nil, List.append_nil]
  exact congrArg (·, d.port.seq) hsends

theorem wire_ite (p : Prop) [Decidable p] (d₁ d₂ : Daemon F) :
    (if p then d₁ else d₂).wire = if p then d₁.wire else d₂.wire :=
  apply_ite wire p d₁ d₂

@[simp] theorem wire_addEventTimer (e : Event) (ns : UInt64) :
    (d.addEventTimer e ns).wire = d.wire := rfl

@[simp] theorem wire_startSyncReceiptTimer (ns : UInt64) :
    (d.startSyncReceiptTimer ns).wire = d.wire := rfl

@[simp] theorem wire_setLastPDelayResp (m : Option PTPMessagePathDelayResp) :
    (d.setLastPDelayResp m).wire = d.wire := rfl

@[simp] theorem wire_setLastPDelayRespFollowUp (m : Option PTPMessagePathDelayRespFollowUp) :
    (d.setLastPDelayRespFollowUp m).wire = d.wire := rfl

@[simp] theorem wire_setDuplicateRespCounter (n : UInt32) :
    (d.setDuplicateRespCounter n).wire = d.wire := rfl

@[simp] theorem wire_setLastInvalidSeqID (n : UInt16) :
    (d.setLastInvalidSeqID n).wire = d.wire := rfl

@[simp] theorem wire_setAsCapable (ascap : Bool) : (d.setAsCapable ascap).wire = d.wire := rfl

@[simp] theorem wire_setClock (c : Clock F) : { d with clock := c }.wire = d.wire := rfl

@[simp] theorem wire_stopPDelay : d.stopPDelay.wire = d.wire := rfl

@[simp] theorem wire_setLinkDelay (delay : Int64) : (d.setLinkDelay delay).wire = d.wire :=
  wire_emit_of_none _ rfl

@[simp] theorem wire_startPDelay : d.startPDelay.wire = d.wire := by
  unfold startPDelay
  split_ifs <;> rfl

@[simp] theorem wire_startPDelayIfUnassigned : d.startPDelayIfUnassigned.wire = d.wire := by
  rw [startPDelayIfUnassigned, wire_ite, wire_startPDelay, ite_self]

@[simp] theorem wire_startSyncRateIntervalTimer : d.startSyncRateIntervalTimer.wire = d.wire := by
  unfold startSyncRateIntervalTimer
  split <;> rfl

@[simp] theorem wire_sendTestStatus : d.sendTestStatus.wire = d.wire := wire_emit_of_none _ rfl

@[simp] theorem wire_countDownAvbSync : d.countDownAvbSync.wire = d.wire := by
  unfold countDownAvbSync
  simp only [wire_ite, wire_sendTestStatus]
  split_ifs <;> rfl

@[simp] theorem wire_syncDone : d.syncDone.wire = d.wire := by
  simp only [syncDone, wire_ite, wire_startPDelay, wire_startSyncRateIntervalTimer,
    wire_countDownAvbSync, ite_self]

@[simp] theorem wire_announceEthernetReady : d.announceEthernetReady.wire = d.wire := by
  simp only [announceEthernetReady, wire_ite, wire_sendTestStatus, ite_self]
  rfl

@[simp] theorem wire_checkDuplicateResp (m old : PTPMessagePathDelayResp) :
    (d.checkDuplicateResp m old).wire = d.wire := by
  simp only [checkDuplicateResp, wire_ite, wire_setLastInvalidSeqID, wire_setDuplicateRespCounter,
    wire_addEventTimer, wire_stopPDelay, ite_self]

@[simp] theorem wire_countLinkUp : d.countLinkUp.wire = d.wire := by
  unfold countLinkUp
  split <;> rfl

theorem wire_mediaLinkdown : d.mediaLinkdown.wire = d.wire := by
  unfold mediaLinkdown countLinkDown
  dsimp only
  split_ifs <;> rfl

theorem wire_mediaPdelayRespReceipt : d.mediaPdelayRespReceipt.wire = d.wire := by
  unfold mediaPdelayRespReceipt
  split <;> rfl

theorem wire_processSync (m : PTPMessageSync) : (d.processSync m).1.wire = d.wire := by
  unfold processSync
  split <;> rfl

theorem wire_processPathDelayResp (m : PTPMessagePathDelayResp) :
    (d.processPathDelayResp m).1.wire = d.wire := by
  unfold processPathDelayResp
  split
  · rfl
  · dsimp only
    rw [wire_setLastPDelayResp]
    cases d.port.pdelay.lastPDelayResp with
    | none => rfl
    | some old => exact d.wire_checkDuplicateResp m old

variable [Platform F]

@[simp] theorem wire_becomeMaster (annc : Bool) : (d.becomeMaster annc).wire = d.wire := by
  unfold becomeMaster
  dsimp only
  split <;> rfl

@[simp] theorem wire_becomeSlave (restart : Bool) : (d.becomeSlave restart).wire = d.wire := by
  unfold becomeSlave
  dsimp only
  split_ifs <;> rfl

@[simp] theorem wire_resumeRole : d.resumeRole.wire = d.wire := by
  simp only [resumeRole, wire_ite, wire_becomeSlave, wire_becomeMaster, wire_addEventTimer, ite_self]

@[simp] theorem wire_recommendState (state : PortState) (changed : Bool) :
    (d.recommendState state changed).wire = d.wire := by
  cases state with
  | ptpMaster =>
    unfold recommendState
    dsimp only
    split
    · exact wire_becomeMaster _ true
    · rfl
  | ptpSlave =>
    unfold recommendState
    dsimp only
    split_ifs
    · exact wire_becomeSlave _ true
    all_goals rfl
  | _ => rfl

theorem wire_processStateChange : d.processStateChange.wire = d.wire := by
  rw [processStateChange_eq, wire_ite]
  cases d.port.qualifiedAnnounce with
  | none => exact ite_self _
  | some e =>
    dsimp only
    rw [assignRole, wire_ite]
    split_ifs
    · rfl
    · exact wire_recommendState _ _ _
    · exact wire_recommendState _ _ _

theorem wire_processSyncAnnounceTimeout (env : Env) (e : Event) :
    (d.processSyncAnnounceTimeout env e).wire = d.wire := by
  unfold processSyncAnnounceTimeout
  dsimp only
  split_ifs <;> rfl

theorem wire_setMasterOffset (u : MasterOffset F) : (d.setMasterOffset u).wire = d.wire := by
  have hphase (d : Daemon F) (offset : Int64) : (d.stepPhase offset).wire = d.wire :=
    wire_emit_of_none _ rfl
  have hfrequency (d : Daemon F) (offset : Int64) (freqOffset : F) :
      (d.stepFrequency offset freqOffset).wire = d.wire := wire_emit_of_none _ rfl
  have hpublish : (d.publishOffset u).wire = d.wire := by
    have hrecord (d : Daemon F) : (d.emit (.setMasterOffset u)).wire = d.wire := wire_emit_of_none _ rfl
    unfold publishOffset
    dsimp only
    rw [wire_ite, wire_emit_of_none _ rfl, ite_self, hrecord]
    rfl
  simp only [setMasterOffset, disciplineClock, wire_ite, hphase, hfrequency, hpublish, ite_self]

theorem wire_synchronize (env : Env) (syncArrival preciseOrigin : Timestamp) (rate : F) :
    (d.synchronize env syncArrival preciseOrigin rate).wire = d.wire := by
  unfold synchronize
  dsimp only
  rw [wire_startSyncReceiptTimer, wire_syncDone, wire_setMasterOffset]
  rfl

theorem wire_processFollowUpAt (env : Env) (m : PTPMessageFollowUp) (syncArrival : Timestamp) :
    (d.processFollowUpAt env m syncArrival).wire = d.wire := by
  have happly (d : Daemon F) (preciseOrigin : Timestamp) (rate : F) :
      (d.applyFollowUp env m syncArrival preciseOrigin rate).wire = d.wire := by
    have hindicator (d : Daemon F) (n : UInt16) :
        { d with port.lastGmTimeBaseIndicator := n }.wire = d.wire := rfl
    unfold applyFollowUp
    dsimp only
    rw [hindicator, wire_ite, wire_synchronize, ite_self]
    rfl
  cases h : d.appliesFollowUp m syncArrival with
  | true =>
    rw [processFollowUpAt_of_applies h]
    exact happly _ _ _
  | false =>
    obtain ⟨clock, hclock, -⟩ := processFollowUpAt_of_not_applies h env
    rw [hclock, wire_setClock]

theorem wire_processFollowUp (env : Env) (m : PTPMessageFollowUp) :
    (d.processFollowUp env m).1.wire = d.wire := by
  have hwrong : d.stopSyncReceiptTimer.wrongFollowUp.wire = d.wire := by
    unfold wrongFollowUp
    split
    · rfl
    · exact wire_becomeMaster _ true
  have hcases := d.processFollowUp_cases env m
  generalize d.processFollowUp env m = r at hcases
  cases hcases with
  | ignored | orphan | stale => rfl
  | wrong => exact hwrong
  | used => exact wire_processFollowUpAt _ env m _

theorem wire_measure (req : PTPMessagePathDelayReq) (resp : PTPMessagePathDelayResp)
    (m : PTPMessagePathDelayRespFollowUp) : (d.measure req resp m).wire = d.wire := by
  have hbaseline (d : Daemon F) (mine theirs : Timestamp) :
      (d.setPeerOffset mine theirs).wire = d.wire := rfl
  unfold measure
  dsimp only
  rw [hbaseline, wire_ite, wire_setAsCapable, ite_self, wire_setLinkDelay]
  rfl

theorem wire_processPathDelayRespFollowUp (m : PTPMessagePathDelayRespFollowUp) :
    (d.processPathDelayRespFollowUp m).1.wire = d.wire := by
  unfold processPathDelayRespFollowUp
  split
  · rfl
  split
  · dsimp only
    split_ifs
    case neg => exact wire_measure _ _ _ m
    all_goals rfl
  · rfl

theorem wire_mediaPdelayDeferred : d.mediaPdelayDeferred.wire = d.wire := by
  unfold mediaPdelayDeferred
  cases d.port.pdelay.lastPDelayRespFollowUp with
  | none => exact d.wire_emit_of_none rfl
  | some m =>
    dsimp only
    rw [wire_ite, wire_setLastPDelayRespFollowUp, wire_processPathDelayRespFollowUp, ite_self]

theorem wire_processSignalling (m : PTPMessageSignalling) : (d.processSignalling m).1.wire = d.wire := by
  unfold processSignalling signalAnnounce signalTimeSync signalLinkDelay
  dsimp only
  split_ifs <;> rfl

theorem wire_processAnnounce (m : PTPMessageAnnounce) : (d.processAnnounce m).1.wire = d.wire := by
  unfold processAnnounce
  dsimp only
  split <;> rfl

end Quiet

/-! ### Signalling messages -/

/-- Nothing is sent, or a Signalling message with the next number. -/
def Signals (w w' : List PTPMessage × SequenceIds) : Prop :=
  w' = w ∨ ∃ m : PTPMessageSignalling, m.sequenceId = w.2.signal ∧
    w' = (w.1 ++ [.signalling m], { w.2 with signal := w.2.signal + 1 })

section Signalling

variable [Platform F] (d : Daemon F)

theorem signals_sendSignalling (linkDelay timeSync announce : Int8) :
    Signals d.wire (d.sendSignalling linkDelay timeSync announce).wire :=
  .inr ⟨d.signallingMessage linkDelay timeSync announce, rfl, congrArg (·, _) (sends_emit _ _)⟩

theorem signals_initialSignalling : Signals d.wire d.initialSignalling.wire := by
  unfold initialSignalling
  split
  · exact .inl rfl
  · exact d.signals_sendSignalling _ _ _

theorem signals_mediaPowerup (env : Env) : Signals d.wire (d.mediaPowerup env).1.wire := by
  unfold mediaPowerup
  dsimp only
  -- starting peer delay requests comes first, in both profiles
  set d₁ := if d.port.cfg.automotiveProfile then d.startPDelay else d.startPDelayIfUnassigned with hd₁
  have hwire : d₁.wire = d.wire := by
    rw [hd₁, wire_ite, wire_startPDelay, wire_startPDelayIfUnassigned, ite_self]
  rw [← hwire]
  split_ifs
  · exact .inl rfl
  · rw [← wire_announceEthernetReady]
    exact signals_initialSignalling _
  · exact .inl rfl

theorem signals_mediaLinkup : Signals d.wire d.mediaLinkup.wire := by
  have hreset (d : Daemon F) :
      ((d.setPdelayCount 0).setSyncCount 0).resetAvbSyncState.countLinkUp.wire = d.wire :=
    (wire_countLinkUp _).trans rfl
  have hautomotive (d : Daemon F) : Signals d.wire d.automotiveLinkup.wire := by
    have hintervals (d : Daemon F) (sync announce pdelay : Int8) :
        (((d.setSyncInterval sync).setAnnounceInterval announce).setPDelayInterval pdelay).wire =
          d.wire := rfl
    have hsignals (d' : Daemon F) (h : d'.wire = d.wire) : Signals d.wire d'.initialSignalling.wire := by
      rw [← h]
      exact d'.signals_initialSignalling
    unfold automotiveLinkup
    dsimp only
    rw [hreset]
    -- the intervals are set between the station state and the Signalling message
    exact hsignals _ ((hintervals _ _ _ _).trans (wire_announceEthernetReady _))
  have hrole : (d.haltPdelay false).startPDelay.resumeRole.wire = d.wire :=
    (wire_resumeRole _).trans (wire_startPDelay _)
  unfold mediaLinkup
  dsimp only
  rw [← hrole]
  split
  · exact hautomotive _
  · exact .inl rfl

theorem signals_mediaSyncRateInterval : Signals d.wire d.mediaSyncRateInterval.wire := by
  unfold mediaSyncRateInterval
  dsimp only
  split
  · exact signals_sendSignalling _ _ _ _
  · exact .inl rfl

end Signalling

/-! ### Sync and Follow_Up messages -/

section Sync

variable [Platform F] (d : Daemon F)

theorem followUpMessage_countDownAvbSync (sequenceId : UInt16) (preciseOrigin : Timestamp) :
    d.countDownAvbSync.followUpMessage sequenceId preciseOrigin =
      d.followUpMessage sequenceId preciseOrigin := by
  unfold countDownAvbSync
  dsimp only
  split_ifs <;> rfl

/-- A Follow_Up carries the number and the time of transmission of the Sync before it. -/
theorem wire_mediaSyncInterval (env : Env) :
    (d.mediaSyncInterval env).wire =
      (d.sends ++ .sync (d.syncMessage env) :: (if (d.getTxTimestamp env).2 then
          [.followUp (d.followUpMessage d.port.seq.sync (d.getTxTimestamp env).1)] else []),
        { d.port.seq with sync := d.port.seq.sync + 1 }) := by
  have hsync : (d.sendSync env).wire = (d.sends ++ [.sync (d.syncMessage env)],
      { d.port.seq with sync := d.port.seq.sync + 1 }) := congrArg (·, _) (sends_emit _ _)
  unfold mediaSyncInterval
  dsimp only
  set d₁ := if (d.sendSync env).port.cfg.automotiveProfile ∧
    (d.sendSync env).port.portState = .ptpMaster then (d.sendSync env).countDownAvbSync
    else d.sendSync env with hd₁
  have hwire : d₁.wire = (d.sendSync env).wire := by
    rw [hd₁, wire_ite, wire_countDownAvbSync, ite_self]
  have hmessage (sequenceId : UInt16) (preciseOrigin : Timestamp) :
      d₁.followUpMessage sequenceId preciseOrigin = d.followUpMessage sequenceId preciseOrigin := by
    rw [hd₁, apply_ite (followUpMessage sequenceId preciseOrigin),
      followUpMessage_countDownAvbSync, ite_self]
    rfl
  split
  · have hemit (m : PTPMessage) : (d₁.emit (.send m)).wire = (d₁.wire.1 ++ [m], d₁.wire.2) :=
      congrArg (·, _) (sends_emit _ _)
    rw [hemit, hwire, hsync, hmessage, List.append_assoc]
    rfl
  · rw [hwire, hsync]

/-- Publishing the time and restarting the timer sends nothing. -/
theorem wire_syncInterval (env : Env) :
    (d.syncInterval env).wire = if d.port.link.asCapable then (d.mediaSyncInterval env).wire
      else d.wire := by
  have htimer (d : Daemon F) (ns : UInt64) : (d.startSyncIntervalTimer ns).wire = d.wire := rfl
  unfold syncInterval
  dsimp only
  rw [htimer, wire_syncDone, wire_setMasterOffset, wire_setClock, wire_ite]

theorem wire_announceInterval :
    d.announceInterval.wire = if d.port.link.asCapable then
        (d.sends ++ [.announce d.announceMessage],
          { d.port.seq with announce := d.port.seq.announce + 1 })
      else d.wire := by
  have hannounce : d.sendAnnounce.wire = (d.sends ++ [.announce d.announceMessage],
      { d.port.seq with announce := d.port.seq.announce + 1 }) := congrArg (·, _) (sends_emit _ _)
  have htimer (d : Daemon F) (ns : UInt64) : (d.startAnnounceIntervalTimer ns).wire = d.wire := rfl
  unfold announceInterval
  dsimp only
  rw [htimer, wire_ite, hannounce]

/-- A request is numbered whether or not it is sent. -/
theorem wire_mediaPdelayInterval (env : Env) :
    (d.mediaPdelayInterval env).wire =
      (if d.port.pdelay.pdelayHalted then d.sends else d.sends ++ [.pathDelayReq
        { d.pathDelayReqMessage with timestamp := (d.getTxTimestamp env).1 }],
        { d.port.seq with pdelay := d.port.seq.pdelay + 1 }) := by
  have htimers (d : Daemon F) (ns ns' : UInt64) :
      ((d.addEventTimer .pdelayRespReceiptTimeoutExpires ns).startPDelayIntervalTimer ns').wire =
        d.wire := rfl
  unfold mediaPdelayInterval
  dsimp only
  rw [htimers]
  unfold sendPathDelayReq
  dsimp only
  split
  · rfl
  · exact congrArg (·, _) (sends_emit _ _)

end Sync

end Daemon

/-! ### Events -/

/-- The timers that pace the transmission of messages. -/
def Event.paces : Event → Bool
  | .syncIntervalTimeoutExpires | .announceIntervalTimeoutExpires
  | .pdelayIntervalTimeoutExpires => true
  | _ => false

/-- Events whose handling may send a Signalling message. -/
def Event.maySignal : Event → Bool
  | .powerup | .initializeEvent | .linkup | .syncRateIntervalTimeoutExpired => true
  | _ => false

namespace Daemon

variable [Platform F]

/-- What the handling of an event can send, and the sequence numbers it leaves. -/
inductive EventTransmits (env : Env) (d : Daemon F) :
    Event → List PTPMessage × SequenceIds → Prop
  | silent {e : Event} (hpdelay : e ≠ .pdelayIntervalTimeoutExpires)
      (hcapable : e = .syncIntervalTimeoutExpires ∨ e = .announceIntervalTimeoutExpires →
        d.port.link.asCapable = false) : EventTransmits env d e ([], d.port.seq)
  | signalling {e : Event} (he : e.maySignal) (m : PTPMessageSignalling)
      (hm : m.sequenceId = d.port.seq.signal) :
      EventTransmits env d e
        ([.signalling m], { d.port.seq with signal := d.port.seq.signal + 1 })
  | announce (hcapable : d.port.link.asCapable = true) :
      EventTransmits env d .announceIntervalTimeoutExpires
        ([.announce d.announceMessage], { d.port.seq with announce := d.port.seq.announce + 1 })
  /-- No time of transmission was obtained, and no Follow_Up is sent. -/
  | sync (hcapable : d.port.link.asCapable = true) (htx : (d.getTxTimestamp env).2 = false) :
      EventTransmits env d .syncIntervalTimeoutExpires
        ([.sync (d.syncMessage env)], { d.port.seq with sync := d.port.seq.sync + 1 })
  | syncFollowUp (hcapable : d.port.link.asCapable = true) (htx : (d.getTxTimestamp env).2 = true) :
      EventTransmits env d .syncIntervalTimeoutExpires
        ([.sync (d.syncMessage env),
            .followUp (d.followUpMessage d.port.seq.sync (d.getTxTimestamp env).1)],
          { d.port.seq with sync := d.port.seq.sync + 1 })
  /-- Requests are halted: one is built and numbered, but not sent. -/
  | halted (hhalted : d.port.pdelay.pdelayHalted = true) :
      EventTransmits env d .pdelayIntervalTimeoutExpires
        ([], { d.port.seq with pdelay := d.port.seq.pdelay + 1 })
  | request (hhalted : d.port.pdelay.pdelayHalted = false) :
      EventTransmits env d .pdelayIntervalTimeoutExpires
        ([.pathDelayReq { d.pathDelayReqMessage with timestamp := (d.getTxTimestamp env).1 }],
          { d.port.seq with pdelay := d.port.seq.pdelay + 1 })

/-- The events that neither pace a message nor signal send nothing. -/
theorem wire_processEvent (env : Env) {e : Event} (hpaces : e.paces = false)
    (hsignal : e.maySignal = false) (d : Daemon F) : (d.processEvent env e).wire = d.wire := by
  cases e with
  | powerup | initializeEvent | linkup | syncRateIntervalTimeoutExpired => cases hsignal
  | announceIntervalTimeoutExpires | syncIntervalTimeoutExpires | pdelayIntervalTimeoutExpires =>
    cases hpaces
  | nullEvent | qualificationTimeoutExpires => rfl
  | linkdown => exact d.wire_mediaLinkdown
  | pdelayDeferredProcessing => exact d.wire_mediaPdelayDeferred
  | pdelayRespReceiptTimeoutExpires => exact d.wire_mediaPdelayRespReceipt
  | pdelayRespPeerMisbehavingTimeoutExpires => exact wire_startPDelayIfUnassigned _
  | faultDetected =>
    change (ite _ _ _ : Daemon F).wire = _
    rw [wire_ite, wire_setAsCapable, ite_self]
  | stateChangeEvent =>
    rw [processEvent_stateChangeEvent, wire_ite, wire_processStateChange, ite_self]
  | announceReceiptTimeoutExpires =>
    change (ite _ _ _ : Daemon F).wire = _
    rw [wire_ite, wire_processSyncAnnounceTimeout, ite_self]
  | syncReceiptTimeoutExpires =>
    rw [processEvent_syncReceiptTimeout, wire_ite, wire_startSyncReceiptTimer,
      wire_processSyncAnnounceTimeout, ite_self]

theorem signals_processEvent (env : Env) {e : Event} (he : e.maySignal = true) (d : Daemon F) :
    Signals d.wire (d.processEvent env e).wire := by
  have hpowerup : Signals d.wire (d.resumeRole.mediaPowerup env).1.wire := by
    rw [← wire_resumeRole]
    exact signals_mediaPowerup _ env
  cases e with
  | powerup => exact hpowerup
  | initializeEvent => exact hpowerup
  | linkup => exact d.signals_mediaLinkup
  | syncRateIntervalTimeoutExpired => exact d.signals_mediaSyncRateInterval
  | _ => cases he

/-- The three intervals: what is due is sent if the link is capable, a request if none are halted. -/
theorem processEvent_paced (env : Env) {e : Event} (he : e.paces = true) {d : Daemon F}
    (hd : d.sends = []) : EventTransmits env d e (d.processEvent env e).wire := by
  have hwire : d.wire = ([], d.port.seq) := congrArg (·, _) hd
  cases e with
  | announceIntervalTimeoutExpires =>
    change EventTransmits env d _ d.announceInterval.wire
    rw [wire_announceInterval, hwire, hd]
    split
    case isTrue hcapable => exact .announce hcapable
    case isFalse hcapable =>
      exact .silent (by decide) fun _ => Bool.eq_false_iff.mpr hcapable
  | syncIntervalTimeoutExpires =>
    change EventTransmits env d _ (d.syncInterval env).wire
    rw [wire_syncInterval, wire_mediaSyncInterval, hwire, hd]
    split
    case isTrue hcapable =>
      -- the Follow_Up needs the time at which the Sync left
      cases htx : (d.getTxTimestamp env).2 with
      | true => exact .syncFollowUp hcapable htx
      | false => exact .sync hcapable htx
    case isFalse hcapable =>
      exact .silent (by decide) fun _ => Bool.eq_false_iff.mpr hcapable
  | pdelayIntervalTimeoutExpires =>
    -- a request takes a sequence number even if it is not sent
    change EventTransmits env d _ (d.mediaPdelayInterval env).wire
    rw [wire_mediaPdelayInterval, hd]
    cases hhalted : d.port.pdelay.pdelayHalted with
    | true => exact .halted hhalted
    | false => exact .request hhalted
  | _ => cases he

/-- **Events.** The handling of an event sends what `EventTransmits` lists. -/
theorem processEvent_transmits (env : Env) (e : Event) {d : Daemon F} (hd : d.sends = []) :
    EventTransmits env d e (d.processEvent env e).wire := by
  have hwire : d.wire = ([], d.port.seq) := congrArg (·, _) hd
  cases hpaces : e.paces with
  | true => exact processEvent_paced env hpaces hd
  | false =>
    -- an event that paces nothing need not find the link capable to be silent
    have hsilent : EventTransmits env d e ([], d.port.seq) := by
      refine .silent ?_ ?_
      · rintro rfl
        cases hpaces
      · rintro (rfl | rfl) <;> cases hpaces
    cases hsignal : e.maySignal with
    | true =>
      have hsignals := d.signals_processEvent env hsignal
      rw [hwire] at hsignals
      rcases hsignals with h | ⟨m, hm, h⟩
      · rw [h]
        exact hsilent
      · rw [h]
        exact .signalling hsignal m hm
    | false =>
      rw [wire_processEvent env hpaces hsignal, hwire]
      exact hsilent

/-! ### Steps -/

/-- What a step can send, and the sequence numbers it leaves. -/
inductive Transmits (d : Daemon F) (i : Input) : List PTPMessage × SequenceIds → Prop
  | event {e : Event} {w : List PTPMessage × SequenceIds} (he : d.handledEvent i = some e)
      (h : EventTransmits i.env d e w) : Transmits d i w
  /-- A Pdelay_Req is answered. -/
  | response {m req : PTPMessagePathDelayReq} {linkSpeed : UInt32}
      (hi : i.stimulus = .receive (.pathDelayReq m) linkSpeed)
      (hreq : req = { m with timestamp := rxCompensate d.port.cfg linkSpeed m.timestamp })
      (hstate : d.port.portState.ignoresMessages = false) :
      Transmits d i ([.pathDelayResp (d.pathDelayRespMessage i.env req),
        .pathDelayRespFollowUp (d.pathDelayRespFollowUpMessage req (d.pathDelayRespMessage i.env req))],
        d.port.seq)
  | silent (he : d.handledEvent i = none) : Transmits d i ([], d.port.seq)

/-- What is sent depends on the port and the clock alone. -/
theorem EventTransmits.congr {env : Env} {d d₀ : Daemon F} {e : Event}
    {w : List PTPMessage × SequenceIds} (h : EventTransmits env d₀ e w) (hport : d₀.port = d.port)
    (hclock : d₀.clock = d.clock) : EventTransmits env d e w := by
  obtain ⟨clock, port, timerq, effects⟩ := d
  obtain ⟨clock₀, port₀, timerq₀, effects₀⟩ := d₀
  obtain rfl : port₀ = port := hport
  obtain rfl : clock₀ = clock := hclock
  cases h with
  | silent hpdelay hcapable => exact .silent hpdelay hcapable
  | signalling he m hm => exact .signalling he m hm
  | announce hcapable => exact .announce hcapable
  | sync hcapable htx => exact .sync hcapable htx
  | syncFollowUp hcapable htx => exact .syncFollowUp hcapable htx
  | halted hhalted => exact .halted hhalted
  | request hhalted => exact .request hhalted

omit [Platform F] in
theorem processPathDelayReq_transmits (env : Env) (req : PTPMessagePathDelayReq) {d : Daemon F}
    (hd : d.sends = []) :
    (d.processPathDelayReq env req).1.wire =
      (if d.port.portState.ignoresMessages then [] else
        [.pathDelayResp (d.pathDelayRespMessage env req),
          .pathDelayRespFollowUp (d.pathDelayRespFollowUpMessage req (d.pathDelayRespMessage env req))],
        d.port.seq) := by
  unfold processPathDelayReq
  split
  · exact congrArg (·, _) hd
  · refine congrArg (·, _) ?_
    dsimp only
    rw [sends_emit, sends_emit, hd]
    rfl

/-- No message but a request is answered. -/
theorem wire_processMessage (env : Env) {msg : PTPMessage} (hmsg : ∀ m, msg ≠ .pathDelayReq m)
    (d : Daemon F) : (d.processMessage env msg).1.wire = d.wire := by
  cases msg with
  | sync m => exact wire_processSync _ _
  | followUp m => exact wire_processFollowUp _ _ _
  | pathDelayReq m => exact absurd rfl (hmsg m)
  | pathDelayResp m =>
    exact tryPDelayRxLock_cases (P := fun r => r.1.wire = d.wire) rfl (wire_processPathDelayResp _ _)
  | pathDelayRespFollowUp m =>
    exact tryPDelayRxLock_cases (P := fun r => r.1.wire = d.wire) rfl
      (wire_processPathDelayRespFollowUp _ _)
  | announce m => exact wire_processAnnounce _ _
  | signalling m => exact wire_processSignalling _ _

/-- A request is answered with both messages at once, unless the port ignores messages. -/
theorem transmits_pathDelayReq {d : Daemon F} {i : Input} {m : PTPMessagePathDelayReq}
    {linkSpeed : UInt32} (hi : i.stimulus = .receive (.pathDelayReq m) linkSpeed) :
    Transmits d i (d.step i).wire := by
  have hstep : (d.step i).wire = _ := congrArg (fun s => (step d ⟨s, i.env⟩).wire) hi
  have hwire := processPathDelayReq_transmits i.env
    { m with timestamp := rxCompensate d.port.cfg linkSpeed m.timestamp }
    (d := { d with effects := [] }) rfl
  rw [hstep]
  cases hstate : d.port.portState.ignoresMessages with
  | true =>
    refine (congrArg (Transmits d i) (hwire.trans (by rw [hstate]))).mpr ?_
    exact .silent (by rw [handledEvent, hi])
  | false =>
    refine (congrArg (Transmits d i) (hwire.trans (by rw [hstate]))).mpr ?_
    exact .response hi rfl hstate

/-- **Steps.** A step sends what `Transmits` lists, and nothing else. -/
theorem transmits_step (d : Daemon F) (i : Input) : Transmits d i (d.step i).wire := by
  have hidle (he : d.handledEvent i = none) (h : (d.step i).wire = ([], d.port.seq)) :
      Transmits d i (d.step i).wire := by
    rw [h]
    exact .silent he
  cases hi : i.stimulus with
  | event e =>
    have he : d.handledEvent i = some e := by rw [handledEvent, hi]
    have hstep : d.step i = processEvent i.env e { d with effects := [] } := by rw [step, hi]
    rw [hstep]
    exact .event he ((processEvent_transmits _ _ rfl).congr rfl rfl)
  | timer k =>
    cases hk : d.timerq[k]? with
    | none =>
      -- no such timer is pending
      refine hidle (by simp only [handledEvent, hi, hk, Option.map_none]) ?_
      have hstep : d.step i = { d with effects := [] } := by simp only [step, hi, hk]
      rw [hstep]
      rfl
    | some t =>
      -- taking the timer off the queue touches neither the port nor the clock
      have he : d.handledEvent i = some t.event := by
        simp only [handledEvent, hi, hk, Option.map_some]
      have hstep : d.step i = processEvent i.env t.event
          { d with timerq := d.timerq.eraseIdx k, effects := [] } := by simp only [step, hi, hk]
      rw [hstep]
      exact .event he ((processEvent_transmits _ _ rfl).congr rfl rfl)
  | setLinkSpeed linkSpeed =>
    refine hidle (by rw [handledEvent, hi]) ?_
    rw [step, hi]
    rfl
  | receive msg linkSpeed =>
    by_cases hreq : ∃ m, msg = .pathDelayReq m
    · obtain ⟨m, rfl⟩ := hreq
      exact transmits_pathDelayReq hi
    · -- the compensation makes no request of another message
      have hmsg : ∀ m, compensate d.port.cfg linkSpeed msg ≠ .pathDelayReq m := by
        intro m hm
        cases msg with
        | pathDelayReq m' => exact hreq ⟨m', rfl⟩
        | _ => cases hm
      refine hidle (by rw [handledEvent, hi]) ?_
      rw [step, hi]
      exact wire_processMessage i.env hmsg { d with effects := [] }

/-! ### Messages and the steps that send them -/

omit [Platform F] in
theorem eq_of_getElem?_singleton {q : ℕ} {a m : PTPMessage} (h : [a][q]? = some m) : q = 0 ∧ m = a := by
  cases q with
  | zero => exact ⟨rfl, (Option.some.inj h).symm⟩
  | succ q => cases h

omit [Platform F] in
theorem eq_of_getElem?_pair {q : ℕ} {a b m : PTPMessage} (h : [a, b][q]? = some m) :
    q = 0 ∧ m = a ∨ q = 1 ∧ m = b := by
  cases q with
  | zero => exact .inl ⟨rfl, (Option.some.inj h).symm⟩
  | succ q =>
    obtain ⟨rfl, hm⟩ := eq_of_getElem?_singleton (a := b) h
    exact .inr ⟨rfl, hm⟩

/-- The message that a step sends as number `q`, and why it is sent. -/
inductive Sends (d : Daemon F) (i : Input) : ℕ → PTPMessage → Prop
  | signalling (m : PTPMessageSignalling) : Sends d i 0 (.signalling m)
  | announce : Sends d i 0 (.announce d.announceMessage)
  | sync (he : d.handledEvent i = some .syncIntervalTimeoutExpires)
      (hcapable : d.port.link.asCapable = true) : Sends d i 0 (.sync (d.syncMessage i.env))
  | followUp (he : d.handledEvent i = some .syncIntervalTimeoutExpires)
      (hcapable : d.port.link.asCapable = true) (htx : (d.getTxTimestamp i.env).2 = true)
      (hsync : (d.step i).sends[0]? = some (.sync (d.syncMessage i.env))) :
      Sends d i 1 (.followUp (d.followUpMessage d.port.seq.sync (d.getTxTimestamp i.env).1))
  | request (he : d.handledEvent i = some .pdelayIntervalTimeoutExpires) :
      Sends d i 0 (.pathDelayReq { d.pathDelayReqMessage with timestamp := (d.getTxTimestamp i.env).1 })
  | response {m req : PTPMessagePathDelayReq} {linkSpeed : UInt32}
      (hi : i.stimulus = .receive (.pathDelayReq m) linkSpeed)
      (hreq : req = { m with timestamp := rxCompensate d.port.cfg linkSpeed m.timestamp }) :
      Sends d i 0 (.pathDelayResp (d.pathDelayRespMessage i.env req))
  | responseFollowUp {m req : PTPMessagePathDelayReq} {linkSpeed : UInt32}
      (hi : i.stimulus = .receive (.pathDelayReq m) linkSpeed)
      (hreq : req = { m with timestamp := rxCompensate d.port.cfg linkSpeed m.timestamp })
      (hresp : (d.step i).sends[0]? = some (.pathDelayResp (d.pathDelayRespMessage i.env req))) :
      Sends d i 1 (.pathDelayRespFollowUp
        (d.pathDelayRespFollowUpMessage req (d.pathDelayRespMessage i.env req)))

/-- Every message of a step is sent for one of the reasons that `Sends` lists. -/
theorem sends_of_getElem? {d : Daemon F} {i : Input} {q : ℕ} {m : PTPMessage}
    (h : (d.step i).sends[q]? = some m) : Sends d i q m := by
  have htransmits := d.transmits_step i
  have hsends : (d.step i).sends = (d.step i).wire.1 := rfl
  generalize (d.step i).wire = w at htransmits hsends
  rw [hsends] at h
  cases htransmits with
  | silent => cases h
  | response hi hreq =>
    rcases eq_of_getElem?_pair h with ⟨rfl, rfl⟩ | ⟨rfl, rfl⟩
    · exact .response hi hreq
    · exact .responseFollowUp hi hreq (by rw [hsends]; rfl)
  | event he h' =>
    cases h' with
    | silent | halted => cases h
    | signalling he m =>
      obtain ⟨rfl, rfl⟩ := eq_of_getElem?_singleton h
      exact .signalling m
    | announce =>
      obtain ⟨rfl, rfl⟩ := eq_of_getElem?_singleton h
      exact .announce
    | sync hcapable =>
      obtain ⟨rfl, rfl⟩ := eq_of_getElem?_singleton h
      exact .sync he hcapable
    | syncFollowUp hcapable htx =>
      rcases eq_of_getElem?_pair h with ⟨rfl, rfl⟩ | ⟨rfl, rfl⟩
      · exact .sync he hcapable
      · exact .followUp he hcapable htx (by rw [hsends]; rfl)
    | request =>
      obtain ⟨rfl, rfl⟩ := eq_of_getElem?_singleton h
      exact .request he

/-! ### Sequence numbers -/

/-- A port numbers its Syncs: the number advances with each, and with nothing else. -/
theorem seq_sync_step (d : Daemon F) (i : Input) :
    (d.step i).port.seq.sync =
      if d.handledEvent i = some .syncIntervalTimeoutExpires ∧ d.port.link.asCapable = true
      then d.port.seq.sync + 1 else d.port.seq.sync := by
  have htransmits := d.transmits_step i
  change (d.step i).wire.2.sync = _
  generalize (d.step i).wire = w at htransmits ⊢
  cases htransmits with
  | silent he =>
    rw [he, if_neg]
    rintro ⟨h, -⟩
    cases h
  | response hi =>
    rw [show d.handledEvent i = none by rw [handledEvent, hi], if_neg]
    rintro ⟨h, -⟩
    cases h
  | event he h =>
    rw [he]
    cases h with
    | silent hpdelay hcapable =>
      refine (if_neg ?_).symm
      rintro ⟨he, hcap⟩
      rw [hcapable (.inl (Option.some.inj he))] at hcap
      cases hcap
    | signalling hsignal =>
      refine (if_neg ?_).symm
      rintro ⟨he, -⟩
      obtain rfl := Option.some.inj he
      cases hsignal
    | announce | halted | request => rfl
    | sync hcapable => exact (if_pos ⟨rfl, hcapable⟩).symm
    | syncFollowUp hcapable => exact (if_pos ⟨rfl, hcapable⟩).symm

/-- A port numbers its peer delay requests, also those that are not sent. -/
theorem seq_pdelay_step (d : Daemon F) (i : Input) :
    (d.step i).port.seq.pdelay =
      if d.handledEvent i = some .pdelayIntervalTimeoutExpires
      then d.port.seq.pdelay + 1 else d.port.seq.pdelay := by
  have htransmits := d.transmits_step i
  change (d.step i).wire.2.pdelay = _
  generalize (d.step i).wire = w at htransmits ⊢
  cases htransmits with
  | silent he => rw [he, if_neg nofun]
  | response hi => rw [show d.handledEvent i = none by rw [handledEvent, hi], if_neg nofun]
  | event he h =>
    rw [he]
    cases h with
    | silent hpdelay => exact (if_neg fun he => hpdelay (Option.some.inj he)).symm
    | signalling hsignal =>
      refine (if_neg ?_).symm
      intro he
      obtain rfl := Option.some.inj he
      cases hsignal
    | announce | sync | syncFollowUp | halted | request => rfl

end Daemon

end Gptp
