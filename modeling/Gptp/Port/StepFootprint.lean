import Gptp.Port.Footprint

/-!
# Footprints of events and steps

`Event.footprint` and `PTPMessage.footprint` bound what handling an event or a message can change, and
`Daemon.stepFootprint` what a step of a run can change (`Daemon.step_modifies`). An invariant about a
few locations is then checked at the events and messages that have one of them in their footprint.
-/

namespace Gptp

open Framework

variable {F : Type}

namespace Daemon

/-! ### Sending -/

section Sending

variable (d : Daemon F)

theorem modifies_setSequenceIds (seq : SequenceIds) :
    Modifies [.sequenceIds] d { d with port.seq := seq } := by
  intro l hl
  cases l with
  | sequenceIds => exact absurd (List.mem_singleton_self _) hl
  | _ => rfl

theorem modifies_sendSignalling [Platform F] (linkDelay timeSync announce : Int8) :
    Modifies [.sequenceIds] d (d.sendSignalling linkDelay timeSync announce) :=
  .step (d.modifies_setSequenceIds _) (modifies_emit _ _) (by decide)

theorem modifies_sendAnnounce : Modifies [.sequenceIds] d d.sendAnnounce :=
  .step (d.modifies_setSequenceIds _) (modifies_emit _ _) (by decide)

theorem modifies_sendSync (env : Env) : Modifies [.sequenceIds] d (d.sendSync env) :=
  .step (d.modifies_setSequenceIds _) (modifies_emit _ _) (by decide)

theorem modifies_sendPathDelayReq (env : Env) (req : PTPMessagePathDelayReq) :
    Modifies [.lastPDelayReq] d (d.sendPathDelayReq env req) := by
  unfold sendPathDelayReq
  refine .ite (d.modifies_setLastPDelayReq _) ?_
  exact (d.modifies_setLastPDelayReq _).step (modifies_emit _ _) (by decide)

end Sending

/-! ### Link changes -/

section Link

variable [Platform F] (d : Daemon F)

omit [Platform F] in
theorem modifies_announceEthernetReady : Modifies [.automotive] d d.announceEthernetReady :=
  (d.modifies_setStationState _).step (.ite (modifies_emit _ _) (.refl _ _)) (by decide)

theorem modifies_initialSignalling :
    Modifies [.sequenceIds, .timer .syncReceiptTimeoutExpires] d d.initialSignalling := by
  unfold initialSignalling
  refine .ite (.refl _ _) (.step ?_ (modifies_restartEventTimer _ _ _) (by decide))
  exact (d.modifies_sendSignalling _ _ _).mono (by decide)

/-- What POWERUP and INITIALIZE can change beyond the role. -/
def powerupFootprint : List Location :=
  [.pdelayStarted, .timer .pdelayIntervalTimeoutExpires, .automotive, .sequenceIds,
    .timer .syncReceiptTimeoutExpires]

theorem modifies_mediaPowerup (env : Env) :
    Modifies powerupFootprint d (d.mediaPowerup env).1 := by
  have hstart : Modifies powerupFootprint d
      (if d.port.cfg.automotiveProfile then d.startPDelay else d.startPDelayIfUnassigned) :=
    .ite (d.modifies_startPDelay.mono (by decide)) (d.modifies_startPDelayIfUnassigned.mono (by decide))
  have hready : ∀ d : Daemon F, Modifies powerupFootprint d
      d.announceEthernetReady.initialSignalling := fun d =>
    .step (d.modifies_announceEthernetReady.mono (by decide)) (modifies_initialSignalling _) (by decide)
  unfold mediaPowerup
  refine hstart.trans ?_
  rw [apply_ite Prod.fst, apply_ite Prod.fst]
  exact .ite (.refl _ _) (.ite (hready _) (.refl _ _))

omit [Platform F] in
theorem modifies_setAutomotive (auto : AutomotiveState) :
    Modifies [.automotive] d { d with port.auto := auto } := by
  intro l hl
  cases l with
  | automotive => exact absurd (List.mem_singleton_self _) hl
  | _ => rfl

/-- What LINKUP can change beyond the role. -/
def linkupFootprint : List Location :=
  [.pdelayHalted, .pdelayStarted, .timer .pdelayIntervalTimeoutExpires, .link, .automotive,
    .logMeanSyncInterval, .logMeanAnnounceInterval, .logMinMeanPDelayReqInterval, .sequenceIds,
    .timer .syncReceiptTimeoutExpires, .pdelayCount, .syncCount]

theorem modifies_automotiveLinkup : Modifies linkupFootprint d d.automotiveLinkup := by
  unfold automotiveLinkup
  refine .step ?_ (.ite (modifies_setAutomotive _ _) (.refl _ _)) (by decide)
  refine .step ?_ (modifies_setAutomotive _ _) (by decide)
  refine .step ?_ (modifies_setSyncCount _ _) (by decide)
  refine .step ?_ (modifies_setPdelayCount _ _) (by decide)
  refine .step ?_ (modifies_initialSignalling _) (by decide)
  refine .step ?_ (modifies_setPDelayInterval _ _) (by decide)
  refine .step ?_ (modifies_setAnnounceInterval _ _) (by decide)
  refine .step ?_ (modifies_setSyncInterval _ _) (by decide)
  refine .step ?_ (modifies_announceEthernetReady _) (by decide)
  exact (d.modifies_setAsCapable _).mono (by decide)

theorem modifies_mediaLinkup : Modifies (linkupFootprint ++ roleFootprint) d d.mediaLinkup := by
  unfold mediaLinkup
  refine .step ?_ (.ite (modifies_automotiveLinkup _) (.refl _ _)) (by decide)
  refine .step ?_ (modifies_resumeRole _) (by decide)
  refine .step ?_ (modifies_startPDelay _) (by decide)
  exact (d.modifies_haltPdelay _).mono (by decide)

omit [Platform F] in
theorem modifies_mediaLinkdown :
    Modifies [.pdelayHalted, .pdelayStarted, .timer .pdelayIntervalTimeoutExpires, .link,
      .automotive] d d.mediaLinkdown := by
  unfold mediaLinkdown
  refine .step ?_ (.ite (modifies_setAutomotive _ _) (.refl _ _)) (by decide)
  refine .step ?_ (.ite (.refl _ _) (modifies_setAsCapable _ _)) (by decide)
  exact d.modifies_stopPDelay.mono (by decide)

end Link

/-! ### Timer expiries -/

section Expiry

variable [Platform F] (d : Daemon F)

theorem modifies_mediaPdelayInterval (env : Env) :
    Modifies [.sequenceIds, .lastPDelayReq, .timer .pdelayRespReceiptTimeoutExpires,
      .timer .pdelayIntervalTimeoutExpires] d (d.mediaPdelayInterval env) := by
  unfold mediaPdelayInterval
  refine .step ?_ (modifies_restartEventTimer _ _ _) (by decide)
  refine .step ?_ (modifies_addEventTimer _ _ _) (by decide)
  refine .step ?_ (modifies_sendPathDelayReq _ _ _) (by decide)
  exact (d.modifies_setSequenceIds _).mono (by decide)

theorem modifies_mediaSyncInterval (env : Env) :
    Modifies [.sequenceIds, .automotive] d (d.mediaSyncInterval env) := by
  unfold mediaSyncInterval
  refine .step ?_ (.ite (modifies_emit _ _) (.refl _ _)) (by decide)
  refine .step ?_ (.ite (modifies_countDownAvbSync _) (.refl _ _)) (by decide)
  exact (d.modifies_sendSync _).mono (by decide)

theorem modifies_mediaPdelayDeferred : Modifies respFollowUpFootprint d d.mediaPdelayDeferred := by
  unfold mediaPdelayDeferred
  split
  · exact (d.modifies_emit _).mono (by decide)
  case h_2 m _ =>
    refine (d.modifies_processPathDelayRespFollowUp m).trans ?_
    exact .ite ((modifies_setLastPDelayRespFollowUp _ _).mono (by decide)) (.refl _ _)

omit [Platform F] in
theorem modifies_mediaPdelayRespReceipt :
    Modifies [.link, .pdelayCount] d d.mediaPdelayRespReceipt := by
  unfold mediaPdelayRespReceipt
  refine .step ?_ (modifies_setPdelayCount _ _) (by decide)
  exact .ite (.refl _ _) ((d.modifies_setAsCapable _).mono (by decide))

/-- What the expiry of the sync rate interval timer can change. -/
def syncRateFootprint : List Location :=
  [.automotive, .logMeanSyncInterval, .logMinMeanPDelayReqInterval, .sequenceIds,
    .timer .syncReceiptTimeoutExpires]

theorem modifies_mediaSyncRateInterval : Modifies syncRateFootprint d d.mediaSyncRateInterval := by
  have hsignal : ∀ (linkDelay timeSync : Int8) (d : Daemon F), Modifies syncRateFootprint d
      ((d.sendSignalling linkDelay timeSync sigMsgIntervalNoChange).startSyncReceiptTimer
        (d.sendSignalling linkDelay timeSync sigMsgIntervalNoChange).syncReceiptTimeout) :=
    fun _ _ d => .step ((d.modifies_sendSignalling _ _ _).mono (by decide))
      (modifies_restartEventTimer _ _ _) (by decide)
  unfold mediaSyncRateInterval
  refine .step ?_ (.ite (hsignal _ _ _) (.refl _ _)) (List.Subset.refl _)
  refine .step ?_ (modifies_setPDelayInterval _ _) (by decide)
  refine .step ?_ (modifies_setSyncInterval _ _) (by decide)
  exact (d.modifies_setSyncRateIntervalTimerStarted _).mono (by decide)

/-- What a receipt timeout can change. -/
def timeoutFootprint : List Location :=
  [.timer .announceReceiptTimeoutExpires, .timer .syncReceiptTimeoutExpires, .grandmaster, .portState,
    .servo, .qualifiedAnnounce, .timer .syncIntervalTimeoutExpires,
    .timer .announceIntervalTimeoutExpires]

theorem modifies_processSyncAnnounceTimeout (env : Env) (e : Event) :
    Modifies timeoutFootprint d (d.processSyncAnnounceTimeout env e) := by
  unfold processSyncAnnounceTimeout
  refine .ite (.refl _ _) ?_
  have hrestart : Modifies timeoutFootprint d (if e = .announceReceiptTimeoutExpires then
      d.addEventTimer .announceReceiptTimeoutExpires d.announceReceiptTimeoutTruncated
      else d.startSyncReceiptTimer d.syncReceiptTimeout) :=
    .ite ((d.modifies_addEventTimer _ _).mono (by decide))
      ((d.modifies_restartEventTimer _ _).mono (by decide))
  refine hrestart.trans (.ite (.refl _ _) ?_)
  refine .step ?_ (modifies_restartEventTimer _ _ _) (by decide)
  refine .step ?_ (modifies_addEventTimer _ _ _) (by decide)
  refine .step ?_ (modifies_setQualifiedAnnounce _ _) (by decide)
  refine .step ?_ (modifies_calcLocalSystemClockRateDifference _ _ _) (by decide)
  refine .step ?_ (modifies_setPortState _ _) (by decide)
  exact (modifies_setGrandmaster _ _).mono (by decide)

theorem modifies_announceInterval :
    Modifies [.sequenceIds, .timer .announceIntervalTimeoutExpires] d d.announceInterval := by
  unfold announceInterval
  refine .step ?_ (modifies_restartEventTimer _ _ _) (by decide)
  exact .ite (d.modifies_sendAnnounce.mono (by decide)) (.refl _ _)

/-- What the expiry of the sync interval timer can change. -/
def syncIntervalFootprint : List Location :=
  [.sequenceIds, .automotive, .servo, .timestampVersion, .link,
    .timer .syncRateIntervalTimeoutExpired, .pdelayStarted, .timer .pdelayIntervalTimeoutExpires,
    .timer .syncIntervalTimeoutExpires]

theorem modifies_syncInterval (env : Env) :
    Modifies syncIntervalFootprint d (d.syncInterval env) := by
  unfold syncInterval
  refine .step ?_ (modifies_restartEventTimer _ _ _) (by decide)
  refine .step ?_ (modifies_syncDone _) (by decide)
  refine .step ?_ (modifies_setMasterOffset _ _) (by decide)
  refine .step ?_ (modifies_calcLocalSystemClockRateDifference _ _ _) (by decide)
  exact .ite ((d.modifies_mediaSyncInterval _).mono (by decide)) (.refl _ _)

end Expiry

end Daemon

/-! ### Events and messages -/

open Daemon

/-- What handling an event can change. -/
def Event.footprint : Event → List Location
  | .powerup | .initializeEvent => powerupFootprint ++ roleFootprint
  | .stateChangeEvent => .lastEBestIdentity :: .grandmaster :: .syncCount :: roleFootprint
  | .linkup => linkupFootprint ++ roleFootprint
  | .linkdown => [.pdelayHalted, .pdelayStarted, .timer .pdelayIntervalTimeoutExpires, .link,
      .automotive]
  | .announceReceiptTimeoutExpires | .syncReceiptTimeoutExpires => timeoutFootprint
  | .pdelayIntervalTimeoutExpires => [.sequenceIds, .lastPDelayReq,
      .timer .pdelayRespReceiptTimeoutExpires, .timer .pdelayIntervalTimeoutExpires]
  | .syncIntervalTimeoutExpires => syncIntervalFootprint
  | .announceIntervalTimeoutExpires => [.sequenceIds, .timer .announceIntervalTimeoutExpires]
  | .faultDetected => [.link]
  | .pdelayDeferredProcessing => respFollowUpFootprint
  | .pdelayRespReceiptTimeoutExpires => [.link, .pdelayCount]
  | .pdelayRespPeerMisbehavingTimeoutExpires =>
    [.pdelayHalted, .pdelayStarted, .timer .pdelayIntervalTimeoutExpires]
  | .syncRateIntervalTimeoutExpired => syncRateFootprint
  | .nullEvent | .qualificationTimeoutExpires => []

/-- What handling a message can change. -/
def PTPMessage.footprint : PTPMessage → List Location
  | .sync _ => [.lastSync]
  | .followUp _ => followUpFootprint
  | .pathDelayReq _ => []
  | .pathDelayResp _ => respFootprint
  | .pathDelayRespFollowUp _ => respFollowUpFootprint
  | .announce _ =>
    [.timer .announceReceiptTimeoutExpires, .qualifiedAnnounce, .timer .stateChangeEvent]
  | .signalling _ => signallingFootprint

namespace Daemon

variable [Platform F]

theorem processEvent_modifies (env : Env) (e : Event) (d : Daemon F) :
    Modifies e.footprint d (d.processEvent env e) := by
  cases e with
  | powerup =>
    exact (d.modifies_resumeRole.mono (by decide)).step (modifies_mediaPowerup _ _) (by decide)
  | initializeEvent =>
    exact (d.modifies_resumeRole.mono (by decide)).step (modifies_mediaPowerup _ _) (by decide)
  | stateChangeEvent => exact .ite (.refl _ _) d.modifies_processStateChange
  | linkup => exact d.modifies_mediaLinkup
  | linkdown => exact d.modifies_mediaLinkdown
  | announceReceiptTimeoutExpires =>
    exact .ite (.refl _ _) (d.modifies_processSyncAnnounceTimeout env _)
  -- the automotive handler only restarts the timer
  | syncReceiptTimeoutExpires =>
    unfold processEvent mediaEvent
    by_cases hauto : d.port.cfg.automotiveProfile
    · simp only [hauto, if_true]
      exact (d.modifies_restartEventTimer _ _).mono (by decide)
    · simp only [hauto, if_false, Bool.false_eq_true]
      exact d.modifies_processSyncAnnounceTimeout env _
  | pdelayIntervalTimeoutExpires => exact d.modifies_mediaPdelayInterval env
  | syncIntervalTimeoutExpires => exact d.modifies_syncInterval env
  | announceIntervalTimeoutExpires => exact d.modifies_announceInterval
  | faultDetected => exact .ite (.refl _ _) (d.modifies_setAsCapable _)
  | pdelayDeferredProcessing => exact d.modifies_mediaPdelayDeferred
  | pdelayRespReceiptTimeoutExpires => exact d.modifies_mediaPdelayRespReceipt
  | pdelayRespPeerMisbehavingTimeoutExpires =>
    exact ((d.modifies_haltPdelay _).mono (by decide)).step (modifies_startPDelayIfUnassigned _)
      (by decide)
  | syncRateIntervalTimeoutExpired => exact d.modifies_mediaSyncRateInterval
  | nullEvent => exact .refl _ _
  | qualificationTimeoutExpires => exact .refl _ _

theorem processMessage_modifies (env : Env) (msg : PTPMessage) (d : Daemon F) :
    Modifies msg.footprint d (d.processMessage env msg).1 := by
  cases msg with
  | sync m => exact d.modifies_processSync m
  | followUp m => exact d.modifies_processFollowUp env m
  | pathDelayReq m => exact d.modifies_processPathDelayReq env m
  | pathDelayResp m =>
    exact tryPDelayRxLock_cases (P := fun r => Modifies respFootprint d r.1) (.refl _ _)
      (d.modifies_processPathDelayResp m)
  | pathDelayRespFollowUp m =>
    exact tryPDelayRxLock_cases (P := fun r => Modifies respFollowUpFootprint d r.1) (.refl _ _)
      (d.modifies_processPathDelayRespFollowUp m)
  | announce m => exact d.modifies_processAnnounce m
  | signalling m => exact d.modifies_processSignalling m

/-! ### Steps -/

/-- What a step can change. An expiry also removes its timer, and a message that is dropped changes
nothing. -/
def stepFootprint (d : Daemon F) (i : Input) : List Location :=
  match i.stimulus with
  | .event e => e.footprint
  | .timer k => match d.timerq[k]? with
    | some t => .timer t.event :: t.event.footprint
    | none => []
  | .receive msg _ => if i.env.drops msg then [] else msg.footprint
  | .setLinkSpeed _ => [.linkSpeed]

theorem step_modifies (d : Daemon F) (i : Input) : Modifies (d.stepFootprint i) d (d.step i) := by
  -- effects are at no location
  have hclear : ∀ L, Modifies L d { d with effects := [] } := by
    intro L l _
    cases l <;> rfl
  unfold stepFootprint step
  cases hi : i.stimulus with
  | event e => exact (hclear _).trans (processEvent_modifies _ _ _)
  | timer k =>
    dsimp only
    cases hk : d.timerq[k]? with
    | none => exact hclear _
    | some t =>
      refine .step ?_ (processEvent_modifies _ _ _) (List.subset_cons_self _ _)
      intro l hl
      cases l with
      | timer e => exact timersOf_eraseIdx_of_ne hk (by rintro rfl; simp at hl) _
      | _ => rfl
  | receive msg linkSpeed =>
    dsimp only
    split
    case isTrue hdrops =>
      change Modifies [] d (processMessage i.env (compensate d.port.cfg linkSpeed msg) _).1
      rw [processMessage_of_drops ((drops_compensate ..).trans hdrops)]
      exact hclear _
    case isFalse =>
      have hsame : msg.footprint = (compensate d.port.cfg linkSpeed msg).footprint := by
        cases msg <;> rfl
      rw [hsame]
      exact (hclear _).trans (processMessage_modifies _ _ _)
  | setLinkSpeed linkSpeed =>
    intro l hl
    cases l with
    | linkSpeed => exact absurd (List.mem_singleton_self _) hl
    | _ => rfl

/-- What a step leaves alone: a location outside the footprint of the event or the message it
handles, if the message is not dropped. -/
theorem read_step {d : Daemon F} {i : Input} {l : Location}
    (hevent : ∀ e, d.handledEvent i = some e → l ≠ .timer e ∧ l ∉ e.footprint)
    (hmessage : ∀ msg linkSpeed, i.stimulus = .receive msg linkSpeed → i.env.drops msg = false →
      l ∉ msg.footprint)
    (hspeed : l ≠ .linkSpeed) : (d.step i).read l = d.read l := by
  refine d.step_modifies i l ?_
  unfold stepFootprint
  unfold handledEvent at hevent
  cases hi : i.stimulus with
  | event e =>
    rw [hi] at hevent
    exact (hevent e rfl).2
  | timer k =>
    rw [hi] at hevent
    dsimp only
    cases hk : d.timerq[k]? with
    | none => exact List.not_mem_nil
    | some t =>
      obtain ⟨htimer, hfootprint⟩ := hevent t.event (congrArg (Option.map _) hk)
      exact List.not_mem_cons_of_ne_of_not_mem htimer hfootprint
  | receive msg linkSpeed =>
    dsimp only
    split
    case isTrue => exact List.not_mem_nil
    case isFalse hgot => exact hmessage msg linkSpeed hi (Bool.eq_false_iff.mpr hgot)
  | setLinkSpeed linkSpeed => exact fun h => hspeed (List.mem_singleton.mp h)

/-- A step that handles an event starts from the same port and clock; only the expired timer is
gone. -/
theorem step_of_handledEvent {d : Daemon F} {i : Input} {e : Event}
    (he : d.handledEvent i = some e) :
    ∃ d₀ : Daemon F, d₀.clock = d.clock ∧ d₀.port = d.port ∧ d.step i = d₀.processEvent i.env e := by
  unfold handledEvent at he
  unfold step
  cases hi : i.stimulus with
  | event e' =>
    rw [hi] at he
    obtain rfl : e' = e := Option.some.inj he
    exact ⟨{ d with effects := [] }, rfl, rfl, rfl⟩
  | timer k =>
    rw [hi] at he
    obtain ⟨t, ht, rfl⟩ := Option.map_eq_some_iff.mp he
    simp only [ht]
    exact ⟨{ d with timerq := d.timerq.eraseIdx k, effects := [] }, rfl, rfl, rfl⟩
  | receive msg linkSpeed =>
    rw [hi] at he
    cases he
  | setLinkSpeed linkSpeed =>
    rw [hi] at he
    cases he

/-- `d₀` is `d` with the timer of the event that is handled taken out of the queue. -/
structure Popped (e : Event) (external : Bool) (d d₀ : Daemon F) : Prop where
  clock : d₀.clock = d.clock
  port : d₀.port = d.port
  others : ∀ e', e' ≠ e → d₀.timersOf e' = d.timersOf e'
  length : (d₀.timersOf e).length + (if external then 0 else 1) = (d.timersOf e).length

/-- A delivered event is handled from the state without its timer; an external event has none. -/
theorem exists_popped {d : Daemon F} {i : Input} {e : Event} (henabled : d.enabled i)
    (he : d.handledEvent i = some e) :
    ∃ external d₀, Popped e external d d₀ ∧ (external → e.isExternal) ∧
      d.step i = d₀.processEvent i.env e := by
  unfold handledEvent at he
  unfold enabled at henabled
  unfold step
  cases hi : i.stimulus with
  | event e' =>
    rw [hi] at he henabled
    obtain rfl : e' = e := Option.some.inj he
    exact ⟨true, { d with effects := [] }, ⟨rfl, rfl, fun _ _ => rfl, rfl⟩, fun _ => henabled, rfl⟩
  | timer k =>
    rw [hi] at he
    obtain ⟨t, ht, rfl⟩ := Option.map_eq_some_iff.mp he
    simp only [ht]
    refine ⟨false, { d with timerq := d.timerq.eraseIdx k, effects := [] }, ⟨rfl, rfl, ?_, ?_⟩,
      nofun, rfl⟩
    · intro e' hne
      exact timersOf_eraseIdx_of_ne ht hne.symm []
    · -- the popped timer is the one that is missing from the queue afterwards
      have hcount := armed_eraseIdx ht t.event
      rw [if_pos rfl, armed, armed, List.countP_eq_length_filter, List.countP_eq_length_filter] at hcount
      exact hcount.symm
  | receive msg linkSpeed =>
    rw [hi] at he
    cases he
  | setLinkSpeed linkSpeed =>
    rw [hi] at he
    cases he

/-! ### The qualified announce -/

theorem qualifiedAnnounce_processAnnounce (m : PTPMessageAnnounce) (d : Daemon F) :
    (d.processAnnounce m).1.port.qualifiedAnnounce =
      if d.qualifies m then some m else d.port.qualifiedAnnounce := by
  -- the timers do not matter
  change (if d.qualifies m then _ else _ : Daemon F).port.qualifiedAnnounce = _
  split <;> rfl

/-- A receipt timeout that makes the port master drops the qualified announce. -/
theorem qualifiedAnnounce_processSyncAnnounceTimeout (env : Env) (e : Event) (d : Daemon F) :
    (d.processSyncAnnounceTimeout env e).port.qualifiedAnnounce =
      if d.clock.cfg.priority1 = 255 ∨ d.port.portState = .ptpMaster then d.port.qualifiedAnnounce
      else none := by
  unfold processSyncAnnounceTimeout
  by_cases hprio : d.clock.cfg.priority1 = 255
  · rw [if_pos hprio, if_pos (.inl hprio)]
  · rw [if_neg hprio]
    -- restarting the timer leaves the port alone
    generalize hd' : (if e = .announceReceiptTimeoutExpires then
        d.addEventTimer .announceReceiptTimeoutExpires d.announceReceiptTimeoutTruncated
      else d.startSyncReceiptTimer d.syncReceiptTimeout) = d'
    have hport : d'.port = d.port := by
      rw [← hd']
      split <;> rfl
    simp only [hport, hprio, false_or]
    split
    · exact congrArg EtherPort.qualifiedAnnounce hport
    · rfl

theorem processEvent_syncReceiptTimeout (env : Env) (d : Daemon F) :
    d.processEvent env .syncReceiptTimeoutExpires =
      if d.port.cfg.automotiveProfile then d.startSyncReceiptTimer d.syncReceiptTimeout
      else d.processSyncAnnounceTimeout env .syncReceiptTimeoutExpires := by
  unfold processEvent mediaEvent
  by_cases hauto : d.port.cfg.automotiveProfile = true <;> simp [hauto]

/-- A receipt timeout. -/
theorem qualifiedAnnounce_receiptTimeout (env : Env) {e : Event} (d : Daemon F)
    (he : e = .announceReceiptTimeoutExpires ∨ e = .syncReceiptTimeoutExpires) :
    (d.processEvent env e).port.qualifiedAnnounce =
      if d.port.cfg.automotiveProfile ∨ d.clock.cfg.priority1 = 255 ∨ d.port.portState = .ptpMaster
      then d.port.qualifiedAnnounce else none := by
  rcases he with rfl | rfl
  · change (if d.port.cfg.automotiveProfile then d else
      d.processSyncAnnounceTimeout env _).port.qualifiedAnnounce = _
    by_cases hauto : d.port.cfg.automotiveProfile = true
    · rw [if_pos hauto, if_pos (.inl hauto)]
    · rw [if_neg hauto, qualifiedAnnounce_processSyncAnnounceTimeout]
      simp only [hauto, Bool.false_eq_true, false_or]
  · rw [processEvent_syncReceiptTimeout]
    by_cases hauto : d.port.cfg.automotiveProfile = true
    · rw [if_pos hauto, if_pos (.inl hauto)]
      rfl
    · rw [if_neg hauto, qualifiedAnnounce_processSyncAnnounceTimeout]
      simp only [hauto, Bool.false_eq_true, false_or]

end Daemon

end Gptp
