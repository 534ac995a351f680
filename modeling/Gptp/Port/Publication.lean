import Gptp.Port.StepFootprint

/-!
# What is published to the clients

`setMasterOffset` passes the offset and the grandmaster identity to the interprocess interface.
Nothing else does, and it is called in two places: when a slave applies a Follow_Up, and when the Sync
interval timer expires. `Daemon.publications` are the calls made in a step; `Daemon.publications_step`
says that they carry the identity of the data set before the step.

As for the core, one lemma says for each operation that it publishes nothing, and the handlers are
computed by rewriting.
-/

namespace Gptp

open Framework

variable {F : Type}

/-- The arguments of `ipc->update` and `ipc->update_grandmaster`. -/
def Effect.publication : Effect F → Option (MasterOffset F × ClockIdentity)
  | .ipcUpdate u grandmaster => some (u, grandmaster)
  | _ => none

namespace Daemon

/-- What has been published in the current step. -/
def publications (d : Daemon F) : List (MasterOffset F × ClockIdentity) :=
  d.effects.filterMap Effect.publication

theorem mem_publications {d : Daemon F} {u : MasterOffset F} {grandmaster : ClockIdentity} :
    (u, grandmaster) ∈ d.publications ↔ .ipcUpdate u grandmaster ∈ d.effects := by
  unfold publications
  rw [List.mem_filterMap]
  constructor
  · rintro ⟨x, hx, hpublication⟩
    cases x with
    | ipcUpdate u' g' =>
      obtain ⟨rfl, rfl⟩ := Prod.mk.inj (Option.some.inj hpublication)
      exact hx
    | _ => cases hpublication
  · exact fun h => ⟨_, h, rfl⟩

theorem exists_ipcUpdate {d : Daemon F} {grandmaster : ClockIdentity}
    (h : d.publications.map Prod.snd = [grandmaster]) :
    ∃ u, .ipcUpdate u grandmaster ∈ d.effects := by
  have hgrandmaster : grandmaster ∈ d.publications.map Prod.snd := by
    rw [h]
    exact List.mem_singleton_self grandmaster
  obtain ⟨⟨u, _⟩, hmem, rfl⟩ := List.mem_map.mp hgrandmaster
  exact ⟨u, mem_publications.mp hmem⟩

/-! ### Operations that publish nothing -/

section Quiet

variable (d : Daemon F)

theorem publications_emit (x : Effect F) :
    (d.emit x).publications = d.publications ++ x.publication.toList := by
  unfold publications
  change (d.effects ++ [x]).filterMap Effect.publication = _
  rw [List.filterMap_append]
  cases h : x.publication with
  | none => rw [List.filterMap_cons_none h, List.filterMap_nil, Option.toList_none]
  | some p => rw [List.filterMap_cons_some h, List.filterMap_nil, Option.toList_some]

theorem publications_emit_of_none {x : Effect F} (h : x.publication = none) :
    (d.emit x).publications = d.publications := by
  rw [publications_emit, h, Option.toList_none, List.append_nil]

/-- The effects of a step are all that matters. -/
theorem publications_congr {d d' : Daemon F} (h : d'.effects = d.effects) :
    d'.publications = d.publications :=
  congrArg (List.filterMap Effect.publication) h

theorem publications_ite (p : Prop) [Decidable p] (d₁ d₂ : Daemon F) :
    (if p then d₁ else d₂).publications = if p then d₁.publications else d₂.publications :=
  apply_ite publications p d₁ d₂

@[simp] theorem publications_addEventTimer (e : Event) (ns : UInt64) :
    (d.addEventTimer e ns).publications = d.publications := rfl

@[simp] theorem publications_deleteEventTimer (e : Event) :
    (d.deleteEventTimer e).publications = d.publications := rfl

@[simp] theorem publications_startSyncReceiptTimer (ns : UInt64) :
    (d.startSyncReceiptTimer ns).publications = d.publications := rfl

@[simp] theorem publications_stopSyncReceiptTimer :
    d.stopSyncReceiptTimer.publications = d.publications := rfl

@[simp] theorem publications_startSyncIntervalTimer (ns : UInt64) :
    (d.startSyncIntervalTimer ns).publications = d.publications := rfl

@[simp] theorem publications_startAnnounceIntervalTimer (ns : UInt64) :
    (d.startAnnounceIntervalTimer ns).publications = d.publications := rfl

@[simp] theorem publications_startPDelayIntervalTimer (ns : UInt64) :
    (d.startPDelayIntervalTimer ns).publications = d.publications := rfl

@[simp] theorem publications_setPortState (s : PortState) :
    (d.setPortState s).publications = d.publications := rfl

@[simp] theorem publications_setGrandmaster (g : GrandmasterInfo) :
    (d.setGrandmaster g).publications = d.publications := rfl

@[simp] theorem publications_setLastEBestIdentity (id : ClockIdentity) :
    (d.setLastEBestIdentity id).publications = d.publications := rfl

@[simp] theorem publications_setQualifiedAnnounce (m : Option PTPMessageAnnounce) :
    (d.setQualifiedAnnounce m).publications = d.publications := rfl

@[simp] theorem publications_setLastSync (m : Option PTPMessageSync) :
    (d.setLastSync m).publications = d.publications := rfl

@[simp] theorem publications_setWrongSeqIDCounter (n : UInt32) :
    (d.setWrongSeqIDCounter n).publications = d.publications := rfl

@[simp] theorem publications_setLastPDelayReq (m : Option PTPMessagePathDelayReq) :
    (d.setLastPDelayReq m).publications = d.publications := rfl

@[simp] theorem publications_setLastPDelayResp (m : Option PTPMessagePathDelayResp) :
    (d.setLastPDelayResp m).publications = d.publications := rfl

@[simp] theorem publications_setLastPDelayRespFollowUp
    (m : Option PTPMessagePathDelayRespFollowUp) :
    (d.setLastPDelayRespFollowUp m).publications = d.publications := rfl

@[simp] theorem publications_setDuplicateRespCounter (n : UInt32) :
    (d.setDuplicateRespCounter n).publications = d.publications := rfl

@[simp] theorem publications_setLastInvalidSeqID (n : UInt16) :
    (d.setLastInvalidSeqID n).publications = d.publications := rfl

@[simp] theorem publications_setSyncCount (n : UInt32) :
    (d.setSyncCount n).publications = d.publications := rfl

@[simp] theorem publications_setPdelayCount (n : UInt32) :
    (d.setPdelayCount n).publications = d.publications := rfl

@[simp] theorem publications_setSyncInterval (k : Int8) :
    (d.setSyncInterval k).publications = d.publications := rfl

@[simp] theorem publications_setAnnounceInterval (k : Int8) :
    (d.setAnnounceInterval k).publications = d.publications := rfl

@[simp] theorem publications_setPDelayInterval (k : Int8) :
    (d.setPDelayInterval k).publications = d.publications := rfl

@[simp] theorem publications_setPeerRateOffset (r : F) :
    (d.setPeerRateOffset r).publications = d.publications := rfl

@[simp] theorem publications_setPeerOffset (mine theirs : Timestamp) :
    (d.setPeerOffset mine theirs).publications = d.publications := rfl

@[simp] theorem publications_setLinkDelay (delay : Int64) :
    (d.setLinkDelay delay).publications = d.publications :=
  publications_emit_of_none _ rfl

@[simp] theorem publications_setAsCapable (ascap : Bool) :
    (d.setAsCapable ascap).publications = d.publications := rfl

@[simp] theorem publications_haltPdelay (halt : Bool) :
    (d.haltPdelay halt).publications = d.publications := rfl

@[simp] theorem publications_setPdelayStarted (started : Bool) :
    (d.setPdelayStarted started).publications = d.publications := rfl

@[simp] theorem publications_setStationState (s : StationState) :
    (d.setStationState s).publications = d.publications := rfl

@[simp] theorem publications_setSyncRateIntervalTimerStarted (started : Bool) :
    (d.setSyncRateIntervalTimerStarted started).publications = d.publications := rfl

@[simp] theorem publications_newSyntonizationSetPoint :
    d.newSyntonizationSetPoint.publications = d.publications := rfl

@[simp] theorem publications_setClock (c : Clock F) :
    { d with clock := c }.publications = d.publications := rfl

@[simp] theorem publications_startPDelay : d.startPDelay.publications = d.publications := by
  simp [startPDelay, publications_ite]

@[simp] theorem publications_startPDelayIfUnassigned :
    d.startPDelayIfUnassigned.publications = d.publications := by
  simp [startPDelayIfUnassigned, publications_ite]

@[simp] theorem publications_stopPDelay : d.stopPDelay.publications = d.publications := by
  simp [stopPDelay]

@[simp] theorem publications_sendTestStatus : d.sendTestStatus.publications = d.publications :=
  publications_emit_of_none _ rfl

@[simp] theorem publications_countDownAvbSync :
    d.countDownAvbSync.publications = d.publications := by
  unfold countDownAvbSync
  simp only [publications_ite, publications_sendTestStatus, publications_setStationState]
  split_ifs <;> rfl

@[simp] theorem publications_startSyncRateIntervalTimer :
    d.startSyncRateIntervalTimer.publications = d.publications := by
  simp [startSyncRateIntervalTimer, publications_ite]

@[simp] theorem publications_syncDone : d.syncDone.publications = d.publications := by
  simp only [syncDone, publications_ite, publications_startPDelay,
    publications_startSyncRateIntervalTimer, publications_countDownAvbSync, ite_self]

@[simp] theorem publications_announceEthernetReady :
    d.announceEthernetReady.publications = d.publications := by
  simp [announceEthernetReady, publications_ite]

@[simp] theorem publications_countLinkUp : d.countLinkUp.publications = d.publications := by
  unfold countLinkUp
  split <;> rfl

@[simp] theorem publications_countLinkDown : d.countLinkDown.publications = d.publications := by
  unfold countLinkDown
  split <;> rfl

@[simp] theorem publications_resetAvbSyncState :
    d.resetAvbSyncState.publications = d.publications := rfl

variable [Platform F]

@[simp] theorem publications_updateFUPInfo : d.updateFUPInfo.publications = d.publications := rfl

@[simp] theorem publications_becomeMaster (annc : Bool) :
    (d.becomeMaster annc).publications = d.publications := by
  simp [becomeMaster, startAnnounce, publications_ite]

@[simp] theorem publications_becomeSlave (restart : Bool) :
    (d.becomeSlave restart).publications = d.publications := by
  simp [becomeSlave, publications_ite]

@[simp] theorem publications_resumeRole : d.resumeRole.publications = d.publications := by
  simp [resumeRole, publications_ite]

@[simp] theorem publications_recommendState (state : PortState) (changed : Bool) :
    (d.recommendState state changed).publications = d.publications := by
  unfold recommendState
  split <;> simp [publications_ite]

@[simp] theorem publications_sendSignalling (l t a : Int8) :
    (d.sendSignalling l t a).publications = d.publications :=
  publications_emit_of_none _ rfl

@[simp] theorem publications_initialSignalling :
    d.initialSignalling.publications = d.publications := by
  simp [initialSignalling, publications_ite]

@[simp] theorem publications_assignRole (e : PTPMessageAnnounce) :
    (d.assignRole e).publications = d.publications := by
  simp [assignRole, publications_ite]

@[simp] theorem publications_processStateChange :
    d.processStateChange.publications = d.publications := by
  rw [processStateChange_eq, publications_ite]
  cases d.port.qualifiedAnnounce <;> simp

@[simp] theorem publications_processSyncAnnounceTimeout (env : Env) (e : Event) :
    (d.processSyncAnnounceTimeout env e).publications = d.publications := by
  simp [processSyncAnnounceTimeout, startAnnounce, publications_ite]

@[simp] theorem publications_mediaPowerup (env : Env) :
    (d.mediaPowerup env).1.publications = d.publications := by
  simp [mediaPowerup, apply_ite Prod.fst, publications_ite]

@[simp] theorem publications_automotiveLinkup :
    d.automotiveLinkup.publications = d.publications := by
  simp [automotiveLinkup]

@[simp] theorem publications_mediaLinkup : d.mediaLinkup.publications = d.publications := by
  simp [mediaLinkup, publications_ite]

omit [Platform F] in
@[simp] theorem publications_mediaLinkdown : d.mediaLinkdown.publications = d.publications := by
  simp [mediaLinkdown, publications_ite]

omit [Platform F] in
@[simp] theorem publications_sendPathDelayReq (env : Env) (req : PTPMessagePathDelayReq) :
    (d.sendPathDelayReq env req).publications = d.publications := by
  unfold sendPathDelayReq
  split
  · rfl
  · exact publications_emit_of_none _ rfl

@[simp] theorem publications_mediaPdelayInterval (env : Env) :
    (d.mediaPdelayInterval env).publications = d.publications := by
  simp only [mediaPdelayInterval, publications_startPDelayIntervalTimer,
    publications_addEventTimer, publications_sendPathDelayReq]
  rfl

omit [Platform F] in
@[simp] theorem publications_mediaPdelayRespReceipt :
    d.mediaPdelayRespReceipt.publications = d.publications := by
  simp [mediaPdelayRespReceipt, publications_ite]

@[simp] theorem publications_mediaSyncRateInterval :
    d.mediaSyncRateInterval.publications = d.publications := by
  simp [mediaSyncRateInterval, publications_ite]

@[simp] theorem publications_mediaSyncInterval (env : Env) :
    (d.mediaSyncInterval env).publications = d.publications := by
  have hsync : (d.sendSync env).publications = d.publications := publications_emit_of_none _ rfl
  unfold mediaSyncInterval
  dsimp only
  rw [publications_ite, publications_emit_of_none _ rfl, ite_self, publications_ite,
    publications_countDownAvbSync, ite_self, hsync]

@[simp] theorem publications_announceInterval :
    d.announceInterval.publications = d.publications := by
  have hannounce : d.sendAnnounce.publications = d.publications := publications_emit_of_none _ rfl
  simp [announceInterval, publications_ite, hannounce]

@[simp] theorem publications_measure (req : PTPMessagePathDelayReq)
    (resp : PTPMessagePathDelayResp) (m : PTPMessagePathDelayRespFollowUp) :
    (d.measure req resp m).publications = d.publications := by
  unfold measure
  dsimp only
  -- by rewriting: the measured delay is not to be computed
  rw [publications_setPeerOffset, publications_ite, publications_setAsCapable, ite_self,
    publications_setLinkDelay, publications_setPeerRateOffset, publications_setPdelayCount]

@[simp] theorem publications_processPathDelayRespFollowUp (m : PTPMessagePathDelayRespFollowUp) :
    (d.processPathDelayRespFollowUp m).1.publications = d.publications := by
  unfold processPathDelayRespFollowUp
  split
  · rfl
  · split <;> simp [apply_ite Prod.fst, publications_ite]

@[simp] theorem publications_mediaPdelayDeferred :
    d.mediaPdelayDeferred.publications = d.publications := by
  unfold mediaPdelayDeferred
  split
  · exact publications_emit_of_none _ rfl
  · simp [publications_ite]

omit [Platform F] in
@[simp] theorem publications_checkDuplicateResp (m old : PTPMessagePathDelayResp) :
    (d.checkDuplicateResp m old).publications = d.publications := by
  simp [checkDuplicateResp, publications_ite]

omit [Platform F] in
theorem publications_processPathDelayResp (m : PTPMessagePathDelayResp) :
    (d.processPathDelayResp m).1.publications = d.publications := by
  simp only [processPathDelayResp, apply_ite Prod.fst, publications_ite,
    publications_setLastPDelayResp]
  cases d.port.pdelay.lastPDelayResp <;> simp

/-! ### `setMasterOffset` -/

/-- The second part of `setMasterOffset` publishes nothing. -/
theorem publications_disciplineClock (u : MasterOffset F) :
    (d.disciplineClock u).publications = d.publications := by
  have hfrequency (d : Daemon F) (offset : Int64) (freqOffset : F) :
      (d.stepFrequency offset freqOffset).publications = d.publications :=
    publications_emit_of_none _ rfl
  have hphase (offset : Int64) : (d.stepPhase offset).publications = d.publications :=
    publications_emit_of_none _ rfl
  simp [disciplineClock, publications_ite, hfrequency, hphase]

/-- **`setMasterOffset` publishes the identity of the grandmaster data set**, if there are clients. -/
theorem publications_setMasterOffset (u : MasterOffset F) :
    (d.setMasterOffset u).publications = d.publications ++
      if d.clock.cfg.ipc then [(u, d.clock.grandmaster.clockIdentity)] else [] := by
  rw [setMasterOffset, publications_disciplineClock]
  unfold publishOffset
  dsimp only
  rw [publications_ite, publications_emit, publications_emit_of_none _ rfl]
  change (if d.clock.cfg.ipc then d.publications ++ [(u, d.clock.grandmaster.clockIdentity)]
    else d.publications) = _
  split
  · rfl
  · rw [List.append_nil]

/-- Whatever has been published since `d` carries the grandmaster identity of `d`. -/
def PublishesGrandmaster (d d' : Daemon F) : Prop :=
  ∀ p ∈ d'.publications, p ∈ d.publications ∨ p.2 = d.clock.grandmaster.clockIdentity

namespace PublishesGrandmaster

variable {d} {d₁ d₂ : Daemon F}

omit [Platform F] in
theorem of_eq (h : d₁.publications = d.publications) : PublishesGrandmaster d d₁ := by
  intro p hp
  rw [h] at hp
  exact .inl hp

theorem setMasterOffset (d : Daemon F) (u : MasterOffset F) :
    PublishesGrandmaster d (d.setMasterOffset u) := by
  intro p hp
  rw [publications_setMasterOffset, List.mem_append] at hp
  refine hp.imp_right fun hp => ?_
  split at hp
  · rw [List.mem_singleton.mp hp]
  · cases hp

omit [Platform F] in
/-- What comes before publishes nothing and leaves the data set alone. -/
theorem after (hpublications : d₁.publications = d.publications)
    (hgrandmaster : d₁.clock.grandmaster = d.clock.grandmaster) (h : PublishesGrandmaster d₁ d₂) :
    PublishesGrandmaster d d₂ := by
  intro p hp
  rw [← hpublications, ← hgrandmaster]
  exact h p hp

omit [Platform F] in
/-- What follows publishes nothing. -/
theorem before (h : PublishesGrandmaster d d₁) (heq : d₂.publications = d₁.publications) :
    PublishesGrandmaster d d₂ := by
  intro p hp
  rw [heq] at hp
  exact h p hp

end PublishesGrandmaster

theorem publishesGrandmaster_syncInterval (env : Env) :
    PublishesGrandmaster d (d.syncInterval env) := by
  unfold syncInterval
  refine .before ?_ ((publications_startSyncIntervalTimer _ _).trans (publications_syncDone _))
  -- the Sync and the rate estimate come before the publication
  set d₁ := if d.port.link.asCapable then d.mediaSyncInterval env else d with hd₁
  have hgrandmaster : d₁.clock.grandmaster = d.clock.grandmaster := by
    rw [hd₁]
    split
    · exact d.modifies_mediaSyncInterval env .grandmaster (by decide)
    · rfl
  refine .after ?_ ?_ (.setMasterOffset _ _)
  · rw [publications_setClock, hd₁, publications_ite, publications_mediaSyncInterval, ite_self]
  · dsimp only
    rw [Clock.calcLocalSystemClockRateDifference_snd]
    exact hgrandmaster

theorem publishesGrandmaster_synchronize (env : Env) (syncArrival preciseOrigin : Timestamp)
    (rate : F) : PublishesGrandmaster d (d.synchronize env syncArrival preciseOrigin rate) := by
  unfold synchronize
  refine .before ?_ ((publications_startSyncReceiptTimer _ _).trans (publications_syncDone _))
  refine .after (publications_setClock _ _) ?_ (.setMasterOffset _ _)
  dsimp only
  rw [Clock.calcLocalSystemClockRateDifference_snd]
  rfl

theorem publishesGrandmaster_applyFollowUp (env : Env) (m : PTPMessageFollowUp)
    (syncArrival preciseOrigin : Timestamp) (rate : F) :
    PublishesGrandmaster d (d.applyFollowUp env m syncArrival preciseOrigin rate) := by
  have hrest (d₁ : Daemon F) : PublishesGrandmaster d₁ (if d₁.port.portState = .ptpSlave then
      d₁.synchronize env syncArrival preciseOrigin rate else d₁) := by
    split
    · exact d₁.publishesGrandmaster_synchronize _ _ _ _
    · exact .of_eq rfl
  refine .after ?_ ?_ ((hrest (d.recordFUPStatus m rate)).before (publications_congr rfl))
  · unfold recordFUPStatus
    exact publications_setClock _ _
  · unfold recordFUPStatus
    rfl

theorem publishesGrandmaster_processFollowUpAt (env : Env) (m : PTPMessageFollowUp)
    (syncArrival : Timestamp) : PublishesGrandmaster d (d.processFollowUpAt env m syncArrival) := by
  cases happlies : d.appliesFollowUp m syncArrival with
  | false =>
    obtain ⟨clock, h, -⟩ := processFollowUpAt_of_not_applies happlies env
    rw [h]
    exact .of_eq rfl
  | true =>
    rw [processFollowUpAt_of_applies happlies]
    have hgrandmaster : (d.masterRateEstimate m syncArrival).2.grandmaster = d.clock.grandmaster :=
      (Clock.calcMasterLocalClockRateDifference_snd _ _ _).2
    exact .after (publications_setClock _ _) hgrandmaster
      (publishesGrandmaster_applyFollowUp _ _ _ _ _ _)

/-! ### Handlers -/

/-- The events whose handling publishes nothing: all but the Sync interval. -/
theorem publications_processEvent (env : Env) {e : Event}
    (he : e ≠ .syncIntervalTimeoutExpires) :
    (d.processEvent env e).publications = d.publications := by
  cases e with
  | syncIntervalTimeoutExpires => exact absurd rfl he
  | stateChangeEvent =>
    rw [processEvent_stateChangeEvent, publications_ite, publications_processStateChange, ite_self]
  | announceReceiptTimeoutExpires =>
    change (if _ then d else _ : Daemon F).publications = _
    rw [publications_ite, publications_processSyncAnnounceTimeout, ite_self]
  | _ => simp [processEvent, mediaEvent, apply_ite Prod.fst, publications_ite]

/-- The messages whose handling publishes nothing: all but Follow_Up. -/
theorem publications_processMessage (env : Env) {msg : PTPMessage}
    (hmsg : ∀ m, msg ≠ .followUp m) :
    (d.processMessage env msg).1.publications = d.publications := by
  cases msg with
  | sync m => simp [processMessage, processSync, apply_ite Prod.fst, publications_ite]
  | followUp m => exact absurd rfl (hmsg m)
  | pathDelayReq m =>
    simp [processMessage, processPathDelayReq, apply_ite Prod.fst, publications_ite,
      publications_emit, Effect.publication]
  | pathDelayResp m =>
    exact tryPDelayRxLock_cases (P := fun r => r.1.publications = d.publications) rfl
      (d.publications_processPathDelayResp m)
  | pathDelayRespFollowUp m =>
    exact tryPDelayRxLock_cases (P := fun r => r.1.publications = d.publications) rfl
      (d.publications_processPathDelayRespFollowUp m)
  | announce m => simp [processMessage, processAnnounce, publications_ite]
  | signalling m =>
    simp [processMessage, processSignalling, signalAnnounce, signalTimeSync, signalLinkDelay,
      publications_ite]

theorem publishesGrandmaster_processFollowUp (env : Env) (m : PTPMessageFollowUp) :
    PublishesGrandmaster d (d.processFollowUp env m).1 := by
  have hcase := d.processFollowUp_cases env m
  generalize d.processFollowUp env m = ended at hcase ⊢
  refine .after d.publications_stopSyncReceiptTimer rfl ?_
  cases hcase with
  | ignored => exact .of_eq rfl
  | orphan => exact .of_eq rfl
  | wrong =>
    refine .of_eq ((publications_setLastSync _ _).trans ?_)
    simp [wrongFollowUp, publications_ite]
  | stale => exact .of_eq (publications_setLastSync _ _)
  | used =>
    exact (publishesGrandmaster_processFollowUpAt _ _ _ _).before (publications_setLastSync _ _)

end Quiet

/-! ### Steps -/

variable [Platform F] (d : Daemon F)

theorem publishesGrandmaster_processEvent (env : Env) (e : Event) :
    PublishesGrandmaster d (d.processEvent env e) := by
  by_cases he : e = .syncIntervalTimeoutExpires
  · subst he
    exact d.publishesGrandmaster_syncInterval env
  · exact .of_eq (d.publications_processEvent env he)

theorem publishesGrandmaster_processMessage (env : Env) (msg : PTPMessage) :
    PublishesGrandmaster d (d.processMessage env msg).1 := by
  by_cases hmsg : ∃ m, msg = .followUp m
  · obtain ⟨m, rfl⟩ := hmsg
    exact d.publishesGrandmaster_processFollowUp env m
  · rw [not_exists] at hmsg
    exact .of_eq (d.publications_processMessage env hmsg)

theorem publishesGrandmaster_step (i : Input) :
    PublishesGrandmaster { d with effects := [] } (d.step i) := by
  unfold step
  -- the effects of the step before have been discarded
  generalize hd₀ : { d with effects := [] } = d₀
  dsimp only
  cases i.stimulus with
  | event e => exact d₀.publishesGrandmaster_processEvent i.env e
  | timer k =>
    dsimp only
    cases d₀.timerq[k]? with
    | none => exact .of_eq rfl
    | some t =>
      exact .after (publications_congr rfl) rfl
        (publishesGrandmaster_processEvent { d₀ with timerq := d₀.timerq.eraseIdx k } i.env t.event)
  | receive msg linkSpeed => exact d₀.publishesGrandmaster_processMessage i.env _
  | setLinkSpeed linkSpeed => exact .of_eq (publications_congr rfl)

/-- **A step publishes the grandmaster it starts with.** -/
theorem publications_step {i : Input} {u : MasterOffset F} {grandmaster : ClockIdentity}
    (h : .ipcUpdate u grandmaster ∈ (d.step i).effects) :
    grandmaster = d.clock.grandmaster.clockIdentity := by
  refine (d.publishesGrandmaster_step i _ (mem_publications.mpr h)).resolve_left fun hmem => ?_
  cases hmem

end Daemon

end Gptp
