import Gptp.Safety.RoleChange

/-!
# One timer for each event

The interval handlers re-arm their own timer, so a second pending timer of the same event would double
the rate for good; a second receipt timer would fire from an outdated deadline. Most code cancels a
timer when it arms it, and such operations leave at most one timer behind (`RestartsOnly`). Three places
only arm. A port that becomes slave, or that takes up no role at POWERUP or LINKUP, arms an announce
receipt timer; a receipt timeout that makes the port master arms a Sync interval timer. Whether there
are ever two is decided by whether one is pending in these places.
-/

namespace Gptp

open Framework

variable {F : Type}

namespace Daemon

/-! ### Restarting -/

/-- From `d` to `d'` the timers of the event have been left alone, or cancelled and restarted. -/
def RestartsOnly (e : Event) (d d' : Daemon F) : Prop :=
  d'.timersOf e = d.timersOf e ∨ (d'.timersOf e).length ≤ 1

namespace RestartsOnly

variable {e : Event} {d d' d'' : Daemon F}

theorem of_timerq_eq (h : d'.timerq = d.timerq) : RestartsOnly e d d' := by
  left
  rw [timersOf, h, timersOf]

theorem of_modifies {L : List Location} (h : Modifies L d d') (he : Location.timer e ∉ L) :
    RestartsOnly e d d' :=
  .inl (h (.timer e) he)

theorem trans (h : RestartsOnly e d d') (h' : RestartsOnly e d' d'') : RestartsOnly e d d'' := by
  rcases h' with h' | h'
  · unfold RestartsOnly
    rwa [h']
  · exact .inr h'

theorem ite {p : Prop} [Decidable p] (h : RestartsOnly e d d') (h' : RestartsOnly e d d'') :
    RestartsOnly e d (if p then d' else d'') := by
  split
  · exact h
  · exact h'

theorem length_le_one (h : RestartsOnly e d d') (hd : (d.timersOf e).length ≤ 1) :
    (d'.timersOf e).length ≤ 1 := by
  rcases h with h | h
  · rwa [h]
  · exact h

end RestartsOnly

section Operations

variable (e : Event) (d : Daemon F)

theorem restartsOnly_deleteEventTimer (e' : Event) : RestartsOnly e d (d.deleteEventTimer e') := by
  unfold RestartsOnly
  rw [timersOf_deleteEventTimer]
  split
  · exact .inr (Nat.zero_le _)
  · exact .inl rfl

theorem restartsOnly_restartEventTimer (e' : Event) (ns : UInt64) :
    RestartsOnly e d (d.restartEventTimer e' ns) := by
  by_cases h : e' = e
  · subst h
    right
    rw [timersOf_restartEventTimer_self]
    rfl
  · exact .of_modifies (d.modifies_restartEventTimer e' ns) (by simpa [eq_comm] using h)

theorem restartsOnly_addEventTimer {e' : Event} (h : e' ≠ e) (ns : UInt64) :
    RestartsOnly e d (d.addEventTimer e' ns) :=
  .inl (timersOf_addEventTimer_of_ne h ns d)

theorem restartsOnly_startPDelay : RestartsOnly e d d.startPDelay := by
  have hstart (ns : UInt64) :
      RestartsOnly e d ((d.setPdelayStarted true).startPDelayIntervalTimer ns) :=
    restartsOnly_restartEventTimer e (d.setPdelayStarted true) _ ns
  unfold startPDelay
  exact .ite (.of_timerq_eq rfl) (.ite (.ite (hstart _) (.of_timerq_eq rfl)) (hstart _))

theorem restartsOnly_stopPDelay : RestartsOnly e d d.stopPDelay :=
  restartsOnly_deleteEventTimer e ((d.haltPdelay true).setPdelayStarted false) _

theorem restartsOnly_syncDone (he : e ≠ .syncRateIntervalTimeoutExpired) :
    RestartsOnly e d d.syncDone := by
  unfold syncDone
  refine .trans ?_ (.ite (.of_timerq_eq rfl) (restartsOnly_startPDelay e _))
  -- the rate timer is one the automotive profile arms once, and not a periodic one
  refine .of_modifies (L := [.automotive, .timer .syncRateIntervalTimeoutExpired]) ?_ (by simpa using he)
  refine .step ?_ (.ite (modifies_startSyncRateIntervalTimer _) (.refl _ _)) (by decide)
  exact .ite (d.modifies_countDownAvbSync.mono (by decide)) (.refl _ _)

variable [Platform F]

theorem restartsOnly_becomeMaster (annc : Bool) : RestartsOnly e d (d.becomeMaster annc) := by
  unfold becomeMaster
  refine .trans ?_ (.of_timerq_eq rfl)
  refine .trans ?_ (restartsOnly_restartEventTimer e _ _ _)
  -- read from the last operation back to the first
  refine .trans ?_ (.ite (restartsOnly_restartEventTimer e _ _ _) (.of_timerq_eq rfl))
  refine .trans ?_ (restartsOnly_deleteEventTimer e _ _)
  exact restartsOnly_deleteEventTimer e (d.setPortState .ptpMaster) _

theorem restartsOnly_becomeSlave (he : e ≠ .announceReceiptTimeoutExpires) (restart : Bool) :
    RestartsOnly e d (d.becomeSlave restart) := by
  unfold becomeSlave
  refine .trans ?_ (.of_timerq_eq rfl)
  refine .trans ?_ (.ite (.of_timerq_eq rfl) (.of_timerq_eq rfl))
  -- the one timer that is armed without being cancelled
  refine .trans ?_ (.ite (.of_timerq_eq rfl) (restartsOnly_addEventTimer e _ he.symm _))
  refine .trans ?_ (.of_timerq_eq rfl)
  refine .trans ?_ (restartsOnly_deleteEventTimer e _ _)
  exact restartsOnly_deleteEventTimer e d _

theorem restartsOnly_resumeRole (he : e ≠ .announceReceiptTimeoutExpires) :
    RestartsOnly e d d.resumeRole := by
  unfold resumeRole
  refine .ite (d.restartsOnly_becomeSlave e he true) (.ite (d.restartsOnly_becomeMaster e true) ?_)
  exact restartsOnly_addEventTimer e d he.symm _

theorem restartsOnly_recommendState (he : e ≠ .announceReceiptTimeoutExpires) (state : PortState)
    (changed : Bool) : RestartsOnly e d (d.recommendState state changed) := by
  unfold recommendState
  split
  · refine .ite ?_ (.of_timerq_eq rfl)
    exact restartsOnly_becomeMaster e (d.setPortState .ptpMaster) true
  · refine .ite ?_ (.ite (.of_timerq_eq rfl) (.of_timerq_eq rfl))
    exact d.restartsOnly_becomeSlave e he true
  · exact .of_timerq_eq rfl

theorem restartsOnly_processStateChange (he : e ≠ .announceReceiptTimeoutExpires) :
    RestartsOnly e d d.processStateChange := by
  rw [processStateChange_eq]
  refine .ite (.of_timerq_eq rfl) ?_
  split
  · exact .of_timerq_eq rfl
  · unfold assignRole
    refine .ite ?_ ?_
    · exact restartsOnly_recommendState e ((d.setLastEBestIdentity _).setGrandmaster _) he _ _
    · exact restartsOnly_recommendState e (d.setLastEBestIdentity _) he _ _

theorem restartsOnly_initialSignalling : RestartsOnly e d d.initialSignalling := by
  unfold initialSignalling
  refine .ite (.of_timerq_eq rfl) ?_
  exact .trans (.of_timerq_eq rfl) (restartsOnly_restartEventTimer e _ _ _)

theorem restartsOnly_mediaPowerup (env : Env) : RestartsOnly e d (d.mediaPowerup env).1 := by
  have hstart : RestartsOnly e d
      (if d.port.cfg.automotiveProfile then d.startPDelay else d.startPDelayIfUnassigned) :=
    .ite (d.restartsOnly_startPDelay e) (.ite (d.restartsOnly_startPDelay e) (.of_timerq_eq rfl))
  have hready (d : Daemon F) : RestartsOnly e d d.announceEthernetReady.initialSignalling :=
    .trans (.of_modifies d.modifies_announceEthernetReady (by simp))
      (restartsOnly_initialSignalling e _)
  unfold mediaPowerup
  refine hstart.trans ?_
  rw [apply_ite Prod.fst, apply_ite Prod.fst]
  exact .ite (.of_timerq_eq rfl) (.ite (hready _) (.of_timerq_eq rfl))

theorem restartsOnly_mediaLinkup (he : e ≠ .announceReceiptTimeoutExpires) :
    RestartsOnly e d d.mediaLinkup := by
  have hautomotive (d : Daemon F) : RestartsOnly e d d.automotiveLinkup := by
    unfold automotiveLinkup
    refine .trans ?_ (.ite (.of_modifies (modifies_setAutomotive _ _) (by simp)) (.of_timerq_eq rfl))
    refine .trans ?_ (.of_modifies (modifies_setAutomotive _ _) (by simp))
    refine .trans ?_ (.of_modifies (modifies_setSyncCount _ _) (by simp))
    refine .trans ?_ (.of_modifies (modifies_setPdelayCount _ _) (by simp))
    refine .trans ?_ (restartsOnly_initialSignalling e _)
    refine .trans ?_ (.of_modifies (modifies_setPDelayInterval _ _) (by simp))
    refine .trans ?_ (.of_modifies (modifies_setAnnounceInterval _ _) (by simp))
    refine .trans ?_ (.of_modifies (modifies_setSyncInterval _ _) (by simp))
    refine .trans ?_ (.of_modifies (modifies_announceEthernetReady _) (by simp))
    exact .of_modifies (d.modifies_setAsCapable true) (by simp)
  unfold mediaLinkup
  refine .trans ?_ (.ite (hautomotive _) (.of_timerq_eq rfl))
  exact .trans (restartsOnly_startPDelay e (d.haltPdelay false)) (restartsOnly_resumeRole e _ he)

theorem restartsOnly_processSyncAnnounceTimeout (he : e ≠ .announceReceiptTimeoutExpires)
    (he' : e ≠ .syncIntervalTimeoutExpires) (env : Env) (e' : Event) :
    RestartsOnly e d (d.processSyncAnnounceTimeout env e') := by
  unfold processSyncAnnounceTimeout
  refine .ite (.of_timerq_eq rfl) ?_
  -- the timeout arms its own timer again, and then, in a port that was not master, the others
  refine .trans (.ite (restartsOnly_addEventTimer e d he.symm _)
    (restartsOnly_restartEventTimer e d _ _)) (.ite (.of_timerq_eq rfl) ?_)
  refine .trans ?_ (restartsOnly_restartEventTimer e _ _ _)
  exact .trans (.of_timerq_eq rfl) (restartsOnly_addEventTimer e _ he'.symm _)

theorem restartsOnly_mediaSyncRateInterval : RestartsOnly e d d.mediaSyncRateInterval := by
  unfold mediaSyncRateInterval
  exact .ite (.trans (.of_timerq_eq rfl) (restartsOnly_restartEventTimer e _ _ _)) (.of_timerq_eq rfl)

theorem restartsOnly_syncInterval (he : e ≠ .syncRateIntervalTimeoutExpired) (env : Env) :
    RestartsOnly e d (d.syncInterval env) := by
  unfold syncInterval
  refine .trans ?_ (restartsOnly_restartEventTimer e _ _ _)
  refine .trans ?_ (restartsOnly_syncDone e _ he)
  refine .trans ?_ (.of_modifies (modifies_setMasterOffset _ _) (by simp))
  refine .trans ?_ (.of_timerq_eq rfl)
  exact .ite (.of_modifies (d.modifies_mediaSyncInterval env) (by simp)) (.of_timerq_eq rfl)

theorem restartsOnly_synchronize (he : e ≠ .syncRateIntervalTimeoutExpired) (env : Env)
    (syncArrival preciseOrigin : Timestamp) (rate : F) :
    RestartsOnly e d (d.synchronize env syncArrival preciseOrigin rate) := by
  unfold synchronize
  refine .trans ?_ (restartsOnly_restartEventTimer e _ _ _)
  refine .trans ?_ (restartsOnly_syncDone e _ he)
  refine .trans ?_ (.of_modifies (modifies_setMasterOffset _ _) (by simp))
  exact .of_timerq_eq rfl

theorem restartsOnly_applyFollowUp (he : e ≠ .syncRateIntervalTimeoutExpired) (env : Env)
    (m : PTPMessageFollowUp) (syncArrival preciseOrigin : Timestamp) (rate : F) :
    RestartsOnly e d (d.applyFollowUp env m syncArrival preciseOrigin rate) := by
  have hstatus : RestartsOnly e d (d.recordFUPStatus m rate) := .of_timerq_eq rfl
  unfold applyFollowUp
  refine .trans (.trans hstatus ?_) (.of_timerq_eq rfl)
  exact .ite (restartsOnly_synchronize e _ he env _ _ _) (.of_timerq_eq rfl)

theorem restartsOnly_processFollowUpAt (he : e ≠ .syncRateIntervalTimeoutExpired) (env : Env)
    (m : PTPMessageFollowUp) (syncArrival : Timestamp) :
    RestartsOnly e d (d.processFollowUpAt env m syncArrival) := by
  cases h : d.appliesFollowUp m syncArrival with
  | true =>
    rw [processFollowUpAt_of_applies h]
    refine .trans ?_ (restartsOnly_applyFollowUp e _ he env m _ _ _)
    exact .of_timerq_eq rfl
  | false =>
    obtain ⟨clock, hclock, -⟩ := processFollowUpAt_of_not_applies h env
    rw [hclock]
    exact .of_timerq_eq rfl

theorem restartsOnly_processFollowUp (he : e ≠ .syncRateIntervalTimeoutExpired) (env : Env)
    (m : PTPMessageFollowUp) : RestartsOnly e d (d.processFollowUp env m).1 := by
  have hwrong (d : Daemon F) : RestartsOnly e d d.wrongFollowUp :=
    .ite (.of_timerq_eq rfl) ((restartsOnly_becomeMaster e d true).trans (.of_timerq_eq rfl))
  have hcase := d.processFollowUp_cases env m
  generalize d.processFollowUp env m = ended at hcase ⊢
  refine .trans (restartsOnly_deleteEventTimer e d .syncReceiptTimeoutExpires) ?_
  cases hcase with
  | ignored => exact .of_timerq_eq rfl
  | orphan => exact .of_timerq_eq rfl
  | wrong => exact (hwrong _).trans (.of_timerq_eq rfl)
  | stale => exact .of_timerq_eq rfl
  | used => exact (restartsOnly_processFollowUpAt e _ he env m _).trans (.of_timerq_eq rfl)

omit [Platform F] in
theorem restartsOnly_processPathDelayResp (he : e ≠ .pdelayRespPeerMisbehavingTimeoutExpires)
    (m : PTPMessagePathDelayResp) : RestartsOnly e d (d.processPathDelayResp m).1 := by
  have hcheck (old : PTPMessagePathDelayResp) : RestartsOnly e d (d.checkDuplicateResp m old) := by
    unfold checkDuplicateResp
    refine .ite (.trans ?_ (.of_timerq_eq rfl)) (.of_timerq_eq rfl)
    refine .ite (.trans (.of_timerq_eq rfl) (.ite ?_ (.of_timerq_eq rfl))) (.of_timerq_eq rfl)
    exact .trans (restartsOnly_stopPDelay e _) (restartsOnly_addEventTimer e _ he.symm _)
  unfold processPathDelayResp
  split
  · exact .of_timerq_eq rfl
  refine .trans ?_ (.of_modifies (modifies_setLastPDelayResp _ _) (by simp))
  split
  · exact .of_timerq_eq rfl
  · exact hcheck _

theorem restartsOnly_processSignalling (m : PTPMessageSignalling) :
    RestartsOnly e d (d.processSignalling m).1 := by
  have hpdelay (k : Int8) : RestartsOnly e d (d.signalLinkDelay k) :=
    .ite (.of_timerq_eq rfl) (restartsOnly_restartEventTimer e (d.setPDelayInterval _) _ _)
  have hsync (k : Int8) (d : Daemon F) : RestartsOnly e d (d.signalTimeSync k) :=
    .ite (.of_timerq_eq rfl) (restartsOnly_restartEventTimer e (d.setSyncInterval _) _ _)
  have hannounce (k : Int8) (d : Daemon F) : RestartsOnly e d (d.signalAnnounce k) :=
    .ite (.of_timerq_eq rfl) (restartsOnly_restartEventTimer e (d.setAnnounceInterval _) _ _)
  exact ((hpdelay _).trans (hsync _ _)).trans (hannounce _ _)

end Operations

end Daemon

/-! ### Events and messages -/

/-- The interval timers and the receipt timers. -/
def Event.isPeriodic : Event → Bool
  | .syncIntervalTimeoutExpires | .announceIntervalTimeoutExpires => true
  | .pdelayIntervalTimeoutExpires => true
  | .syncReceiptTimeoutExpires | .announceReceiptTimeoutExpires => true
  | _ => false

namespace Daemon

theorem not_mem_respFollowUpFootprint {e : Event} (he : e.isPeriodic) :
    Location.timer e ∉ respFollowUpFootprint := by
  revert he
  cases e <;> decide

variable [Platform F]

/-- All events restart the periodic timers other than the announce receipt timer, except that a receipt
timeout only arms the Sync interval timer. -/
theorem restartsOnly_processEvent {e : Event} (he : e.isPeriodic)
    (hreceipt : e ≠ .announceReceiptTimeoutExpires) (env : Env) (e' : Event)
    (hexcept : e = .syncIntervalTimeoutExpires → e'.isReceiptTimeout = false) (d : Daemon F) :
    RestartsOnly e d (d.processEvent env e') := by
  have hrate : e ≠ .syncRateIntervalTimeoutExpired := by rintro rfl; cases he
  -- the Sync interval timer is the exception, and it is not asked about
  have htimeout (h : e'.isReceiptTimeout) : RestartsOnly e d (d.processSyncAnnounceTimeout env e') := by
    refine d.restartsOnly_processSyncAnnounceTimeout e hreceipt (fun hsync => ?_) env e'
    rw [hexcept hsync] at h
    cases h
  cases e' with
  | powerup | initializeEvent =>
    exact .trans (d.restartsOnly_resumeRole e hreceipt) (restartsOnly_mediaPowerup e _ env)
  | stateChangeEvent =>
    exact .ite (.of_timerq_eq rfl) (d.restartsOnly_processStateChange e hreceipt)
  | linkup => exact d.restartsOnly_mediaLinkup e hreceipt
  | linkdown =>
    refine .trans (d.restartsOnly_stopPDelay e) ?_
    exact .of_modifies (L := [.link, .automotive]) (.step (.ite (.refl _ _)
      ((modifies_setAsCapable _ _).mono (by decide))) (.ite (modifies_setAutomotive _ _) (.refl _ _))
      (by decide)) (by simp)
  | announceReceiptTimeoutExpires => exact .ite (.of_timerq_eq rfl) (htimeout rfl)
  | syncReceiptTimeoutExpires =>
    rw [processEvent_syncReceiptTimeout]
    exact .ite (restartsOnly_restartEventTimer e d _ _) (htimeout rfl)
  | pdelayIntervalTimeoutExpires =>
    change RestartsOnly e d (d.mediaPdelayInterval env)
    unfold mediaPdelayInterval
    refine .trans ?_ (restartsOnly_restartEventTimer e _ _ _)
    -- the receipt timer of the request is not a periodic one
    refine .trans ?_ (restartsOnly_addEventTimer e _ (by rintro rfl; cases he) _)
    exact .trans (.of_modifies (modifies_setSequenceIds _ _) (by simp))
      (.of_modifies (modifies_sendPathDelayReq _ _ _) (by simp))
  | syncIntervalTimeoutExpires => exact d.restartsOnly_syncInterval e hrate env
  | announceIntervalTimeoutExpires =>
    refine .trans ?_ (restartsOnly_restartEventTimer e _ _ _)
    exact .ite (.of_timerq_eq rfl) (.of_timerq_eq rfl)
  | pdelayRespPeerMisbehavingTimeoutExpires =>
    exact .ite (restartsOnly_startPDelay e (d.haltPdelay false)) (.of_timerq_eq rfl)
  | syncRateIntervalTimeoutExpired => exact d.restartsOnly_mediaSyncRateInterval e
  | pdelayDeferredProcessing =>
    exact .of_modifies d.modifies_mediaPdelayDeferred (not_mem_respFollowUpFootprint he)
  | pdelayRespReceiptTimeoutExpires => exact .of_modifies d.modifies_mediaPdelayRespReceipt (by simp)
  | faultDetected => exact .ite (.of_timerq_eq rfl) (.of_timerq_eq rfl)
  | nullEvent | qualificationTimeoutExpires => exact .of_timerq_eq rfl

/-- Announce processing restarts the announce receipt timer. -/
theorem length_receipt_processAnnounce (m : PTPMessageAnnounce) (d : Daemon F) :
    ((d.processAnnounce m).1.timersOf .announceReceiptTimeoutExpires).length ≤ 1 := by
  -- the timers that are pending are cancelled first; the state change is another event
  have hcancel : (d.deleteEventTimer .announceReceiptTimeoutExpires).timersOf
      .announceReceiptTimeoutExpires = [] := by
    rw [timersOf_deleteEventTimer, if_pos rfl]
  have hqualified (d : Daemon F) (ns : UInt64) :
      ((d.setQualifiedAnnounce (some m)).addEventTimer .stateChangeEvent ns).timersOf
        .announceReceiptTimeoutExpires = d.timersOf .announceReceiptTimeoutExpires :=
    timersOf_addEventTimer_of_ne (by decide) ns (d.setQualifiedAnnounce (some m))
  unfold processAnnounce
  dsimp only
  rw [timersOf_addEventTimer, if_pos rfl]
  split_ifs
  · rw [hqualified, hcancel]
    exact le_rfl
  · rw [hcancel]
    exact le_rfl

theorem restartsOnly_processMessage {e : Event} (he : e.isPeriodic) (env : Env) (msg : PTPMessage)
    (d : Daemon F) : RestartsOnly e d (d.processMessage env msg).1 := by
  cases msg with
  | followUp m => exact d.restartsOnly_processFollowUp e (by rintro rfl; cases he) env m
  | pathDelayResp m =>
    exact tryPDelayRxLock_cases (P := fun r => RestartsOnly e d r.1) (.inl rfl)
      (d.restartsOnly_processPathDelayResp e (by rintro rfl; cases he) m)
  | signalling m => exact d.restartsOnly_processSignalling e m
  | sync m => exact .of_modifies (d.modifies_processSync m) (by simp)
  | pathDelayReq m => exact .of_modifies (d.modifies_processPathDelayReq env m) (by simp)
  | pathDelayRespFollowUp m =>
    exact tryPDelayRxLock_cases (P := fun r => RestartsOnly e d r.1) (.inl rfl)
      (.of_modifies (d.modifies_processPathDelayRespFollowUp m) (not_mem_respFollowUpFootprint he))
  | announce m =>
    by_cases hreceipt : e = .announceReceiptTimeoutExpires
    · subst hreceipt
      exact .inr (d.length_receipt_processAnnounce m)
    · have hchange : e ≠ .stateChangeEvent := by rintro rfl; cases he
      exact .of_modifies (d.modifies_processAnnounce m) (by simp [hreceipt, hchange])

/-! ### Receipt timeouts -/

/-- The part of `processSyncAnnounceTimeout` that makes the port master. -/
def takeOver (env : Env) (d : Daemon F) : Daemon F :=
  let d := d.setGrandmaster d.clock.cfg.ownGrandmaster
  let d := d.setPortState .ptpMaster
  let d := { d with
    clock := (d.clock.calcLocalSystemClockRateDifference env.deviceTime env.systemTime).2 }
  let d := d.setQualifiedAnnounce none
  let d := d.addEventTimer .syncIntervalTimeoutExpires 16000000
  d.startAnnounce

/-- The timer a receipt timeout arms for itself. -/
def rearmReceipt (e : Event) (d : Daemon F) : Daemon F :=
  if e = .announceReceiptTimeoutExpires then
    d.addEventTimer .announceReceiptTimeoutExpires d.announceReceiptTimeoutTruncated
  else d.startSyncReceiptTimer d.syncReceiptTimeout

theorem processSyncAnnounceTimeout_eq (env : Env) (e : Event) (d : Daemon F) :
    d.processSyncAnnounceTimeout env e =
      if d.clock.cfg.priority1 = 255 then d
      else if d.port.portState = .ptpMaster then d.rearmReceipt e
      else (d.rearmReceipt e).takeOver env := by
  have hport : (d.rearmReceipt e).port = d.port := by
    unfold rearmReceipt
    split <;> rfl
  -- the state is looked at after the timer has been armed, which leaves the port alone
  rw [← hport]
  rfl

theorem timersOf_takeOver_of_ne {e : Event} (hsync : e ≠ .syncIntervalTimeoutExpires)
    (hannounce : e ≠ .announceIntervalTimeoutExpires) (env : Env) (d : Daemon F) :
    (d.takeOver env).timersOf e = d.timersOf e := by
  unfold takeOver
  dsimp only
  rw [startAnnounce, startAnnounceIntervalTimer, timersOf_restartEventTimer_of_ne hannounce.symm,
    timersOf_addEventTimer_of_ne hsync.symm]
  rfl

theorem length_syncInterval_takeOver (env : Env) (d : Daemon F) :
    ((d.takeOver env).timersOf .syncIntervalTimeoutExpires).length =
      (d.timersOf .syncIntervalTimeoutExpires).length + 1 := by
  unfold takeOver
  dsimp only
  rw [startAnnounce, startAnnounceIntervalTimer, timersOf_restartEventTimer_of_ne (by decide),
    timersOf_addEventTimer, if_pos rfl, List.length_append]
  rfl

theorem processEvent_of_isReceiptTimeout (env : Env) {e : Event} (he : e.isReceiptTimeout) {d : Daemon F}
    (hauto : d.port.cfg.automotiveProfile = false) :
    d.processEvent env e = d.processSyncAnnounceTimeout env e := by
  cases e with
  | announceReceiptTimeoutExpires => exact processEvent_of_receiptTimeout env (.inl rfl) hauto
  | syncReceiptTimeoutExpires => exact processEvent_of_receiptTimeout env (.inr rfl) hauto
  | _ => cases he

/-- A receipt timeout arms a Sync interval timer exactly if it makes the port master. -/
theorem length_syncInterval_timeout (env : Env) {e : Event} (he : e.isReceiptTimeout) {d : Daemon F}
    (hauto : d.port.cfg.automotiveProfile = false) :
    ((d.processEvent env e).timersOf .syncIntervalTimeoutExpires).length =
      (d.timersOf .syncIntervalTimeoutExpires).length +
        if d.EntersMaster (d.processEvent env e) then 1 else 0 := by
  have hrearm : (d.rearmReceipt e).timersOf .syncIntervalTimeoutExpires =
      d.timersOf .syncIntervalTimeoutExpires := by
    unfold rearmReceipt
    split
    · exact timersOf_addEventTimer_of_ne (by decide) _ _
    · exact timersOf_restartEventTimer_of_ne (by decide) _ _
  rw [processEvent_of_isReceiptTimeout env he hauto, processSyncAnnounceTimeout_eq]
  by_cases hprio : d.clock.cfg.priority1 = 255
  · rw [if_pos hprio, if_neg (not_entersMaster_of_eq rfl)]
    rfl
  rw [if_neg hprio]
  by_cases hmaster : d.port.portState = .ptpMaster
  · rw [if_pos hmaster, if_neg fun h => h.1 hmaster, hrearm]
    rfl
  · have henters : d.EntersMaster ((d.rearmReceipt e).takeOver env) := ⟨hmaster, rfl⟩
    rw [if_neg hmaster, if_pos henters, length_syncInterval_takeOver, hrearm]

/-- The announce receipt timer is armed again after its own timeout, and only then. -/
theorem length_receipt_timeout (env : Env) {e : Event} (he : e.isReceiptTimeout) {d : Daemon F}
    (hauto : d.port.cfg.automotiveProfile = false) :
    ((d.processEvent env e).timersOf .announceReceiptTimeoutExpires).length ≤
      (d.timersOf .announceReceiptTimeoutExpires).length +
        if e = .announceReceiptTimeoutExpires then 1 else 0 := by
  have hrearm : ((d.rearmReceipt e).timersOf .announceReceiptTimeoutExpires).length =
      (d.timersOf .announceReceiptTimeoutExpires).length +
        if e = .announceReceiptTimeoutExpires then 1 else 0 := by
    unfold rearmReceipt
    split
    · rw [timersOf_addEventTimer, if_pos rfl, List.length_append]
      rfl
    · rw [startSyncReceiptTimer, timersOf_restartEventTimer_of_ne (by decide)]
      rfl
  rw [processEvent_of_isReceiptTimeout env he hauto, processSyncAnnounceTimeout_eq, ← hrearm]
  split_ifs
  · omega
  · exact le_rfl
  · rw [timersOf_takeOver_of_ne (by decide) (by decide)]

/-! ### Announce receipt timers -/

section Receipt

variable {d : Daemon F}

/-- A port that becomes slave arms the timer. -/
theorem length_receipt_becomeSlave (hauto : d.port.cfg.automotiveProfile = false) (restart : Bool) :
    ((d.becomeSlave restart).timersOf .announceReceiptTimeoutExpires).length =
      (d.timersOf .announceReceiptTimeoutExpires).length + 1 := by
  -- what is left of the queue when the timer is armed
  generalize hd₁ : ((d.deleteEventTimer .announceIntervalTimeoutExpires).deleteEventTimer
    .syncIntervalTimeoutExpires).setPortState .ptpSlave = d₁
  have hauto₁ : d₁.port.cfg.automotiveProfile = false := by rw [← hd₁]; exact hauto
  have htimers₁ : d₁.timersOf .announceReceiptTimeoutExpires =
      d.timersOf .announceReceiptTimeoutExpires := by
    rw [← hd₁]
    change timersOf .announceReceiptTimeoutExpires (deleteEventTimer _ _) = _
    rw [timersOf_deleteEventTimer_of_ne (by decide), timersOf_deleteEventTimer_of_ne (by decide)]
  have htimerq : (d.becomeSlave restart).timersOf .announceReceiptTimeoutExpires =
      (d₁.addEventTimer .announceReceiptTimeoutExpires
        d₁.announceReceiptTimeoutTruncated).timersOf .announceReceiptTimeoutExpires := by
    unfold becomeSlave
    dsimp only
    rw [hd₁, hauto₁, if_neg Bool.false_ne_true]
    cases restart <;> rfl
  rw [htimerq, timersOf_addEventTimer, if_pos rfl, List.length_append, htimers₁]
  rfl

/-- A port that becomes master cancels it. -/
theorem length_receipt_becomeMaster (annc : Bool) :
    ((d.becomeMaster annc).timersOf .announceReceiptTimeoutExpires).length = 0 := by
  generalize hd₁ : (d.setPortState .ptpMaster).deleteEventTimer .announceReceiptTimeoutExpires = d₁
  have htimers₁ : d₁.timersOf .announceReceiptTimeoutExpires = [] := by
    rw [← hd₁, timersOf_deleteEventTimer, if_pos rfl]
  have hmodifies : Modifies [.timer .syncReceiptTimeoutExpires,
      .timer .announceIntervalTimeoutExpires, .timer .syncIntervalTimeoutExpires, .fupInfo] d₁
      (d.becomeMaster annc) := by
    unfold becomeMaster
    dsimp only
    rw [hd₁]
    refine .step ?_ (modifies_updateFUPInfo _) (by decide)
    refine .step ?_ (modifies_restartEventTimer _ _ _) (by decide)
    refine .step ?_ (.ite (modifies_restartEventTimer _ _ _) (.refl _ _)) (by decide)
    exact (d₁.modifies_deleteEventTimer _).mono (by decide)
  have hkept := hmodifies (.timer .announceReceiptTimeoutExpires) (by decide)
  exact (congrArg List.length (hkept.trans htimers₁))

/-- POWERUP, INITIALIZE and LINKUP arm the timer, unless they find a master. -/
theorem length_receipt_resumeRole (hauto : d.port.cfg.automotiveProfile = false) :
    (d.resumeRole.timersOf .announceReceiptTimeoutExpires).length =
      if d.clock.cfg.priority1 = 255 ∨ d.port.portState ≠ .ptpMaster then
        (d.timersOf .announceReceiptTimeoutExpires).length + 1
      else 0 := by
  unfold resumeRole
  -- slave, master, and every other state, in the order of the source
  by_cases hslave : d.clock.cfg.priority1 = 255 ∨ d.port.portState = .ptpSlave
  · have hresumes : d.clock.cfg.priority1 = 255 ∨ d.port.portState ≠ .ptpMaster :=
      hslave.imp_right fun h => by rw [h]; decide
    rw [if_pos hslave, if_pos hresumes, length_receipt_becomeSlave hauto]
  rw [if_neg hslave]
  rw [not_or] at hslave
  by_cases hmaster : d.port.portState = .ptpMaster
  · rw [if_pos hmaster, if_neg (by simp [hslave.1, hmaster]), length_receipt_becomeMaster]
  · rw [if_neg hmaster, if_pos (.inr hmaster), timersOf_addEventTimer, if_pos rfl, List.length_append]
    rfl

theorem length_receipt_of_resumes (env : Env) {e : Event} (he : e.resumes)
    (hauto : d.port.cfg.automotiveProfile = false) :
    ((d.processEvent env e).timersOf .announceReceiptTimeoutExpires).length =
      if d.clock.cfg.priority1 = 255 ∨ d.port.portState ≠ .ptpMaster then
        (d.timersOf .announceReceiptTimeoutExpires).length + 1
      else 0 := by
  have hpowerup : (d.resumeRole.mediaPowerup env).1.timersOf .announceReceiptTimeoutExpires =
      d.resumeRole.timersOf .announceReceiptTimeoutExpires :=
    modifies_mediaPowerup _ env (.timer .announceReceiptTimeoutExpires) (by decide)
  cases e with
  | powerup | initializeEvent =>
    exact (congrArg List.length hpowerup).trans (length_receipt_resumeRole hauto)
  | linkup =>
    -- peer delay requests are started before the role is resumed
    generalize hd₁ : (d.haltPdelay false).startPDelay = d₁
    have hmodifies : Modifies [.pdelayHalted, .pdelayStarted, .timer .pdelayIntervalTimeoutExpires] d
        d₁ := by
      rw [← hd₁]
      exact .step ((d.modifies_haltPdelay _).mono (by decide)) (modifies_startPDelay _) (by decide)
    have hconfig : (d₁.clock.cfg, d₁.port.cfg) = (d.clock.cfg, d.port.cfg) :=
      hmodifies .config (by decide)
    have hstate : d₁.port.portState = d.port.portState := hmodifies .portState (by decide)
    have htimers : d₁.timersOf .announceReceiptTimeoutExpires =
        d.timersOf .announceReceiptTimeoutExpires :=
      hmodifies (.timer .announceReceiptTimeoutExpires) (by decide)
    obtain ⟨hclock, hport⟩ := Prod.mk.inj hconfig
    have hauto₁ : d₁.port.cfg.automotiveProfile = false := by rw [hport, hauto]
    have hlinkup : d.mediaLinkup = d₁.resumeRole := by
      have hauto₂ : d₁.resumeRole.port.cfg.automotiveProfile = false := by
        have hkept := d₁.modifies_resumeRole .config (by decide)
        rw [show d₁.resumeRole.port.cfg = d₁.port.cfg from congrArg Prod.snd hkept, hauto₁]
      unfold mediaLinkup
      dsimp only
      rw [hd₁, hauto₂, if_neg Bool.false_ne_true]
    have hresume := length_receipt_resumeRole hauto₁
    rw [hclock, hstate, htimers] at hresume
    change (d.mediaLinkup.timersOf _).length = _
    rw [hlinkup, hresume]
  | _ => cases he

theorem length_receipt_recommendMaster (changed : Bool) :
    ((d.recommendState .ptpMaster changed).timersOf .announceReceiptTimeoutExpires).length ≤
      (d.timersOf .announceReceiptTimeoutExpires).length := by
  unfold recommendState
  dsimp only
  split_ifs
  · have hmaster := length_receipt_becomeMaster (d := d.setPortState .ptpMaster) true
    exact hmaster.le.trans (Nat.zero_le _)
  · exact le_rfl

theorem length_receipt_recommendSlave (hauto : d.port.cfg.automotiveProfile = false)
    (changed : Bool) :
    ((d.recommendState .ptpSlave changed).timersOf .announceReceiptTimeoutExpires).length =
      (d.timersOf .announceReceiptTimeoutExpires).length +
        if d.port.portState = .ptpSlave then 0 else 1 := by
  unfold recommendState
  dsimp only
  rw [ite_not]
  split_ifs
  · rfl
  · rfl
  · exact length_receipt_becomeSlave hauto true

/-- From `d` to `d'` an announce receipt timer has been armed exactly if the port has become slave. -/
def ArmsAsSlave (d d' : Daemon F) : Prop :=
  if d.port.portState ≠ .ptpSlave ∧ d'.port.portState = .ptpSlave then
    (d'.timersOf .announceReceiptTimeoutExpires).length =
      (d.timersOf .announceReceiptTimeoutExpires).length + 1
  else (d'.timersOf .announceReceiptTimeoutExpires).length ≤
      (d.timersOf .announceReceiptTimeoutExpires).length

omit [Platform F] in
theorem armsAsSlave_refl (d : Daemon F) : ArmsAsSlave d d := by
  unfold ArmsAsSlave
  rw [if_neg fun h => h.1 h.2]

theorem armsAsSlave_recommendMaster (changed : Bool) :
    ArmsAsSlave d (d.recommendState .ptpMaster changed) := by
  unfold ArmsAsSlave
  rw [portState_recommendMaster, if_neg fun h => absurd h.2 (by decide)]
  exact length_receipt_recommendMaster changed

theorem armsAsSlave_recommendSlave (hauto : d.port.cfg.automotiveProfile = false) (changed : Bool) :
    ArmsAsSlave d (d.recommendState .ptpSlave changed) := by
  unfold ArmsAsSlave
  rw [portState_recommendSlave, length_receipt_recommendSlave hauto]
  -- both sides ask whether the port was a slave; two of the four combinations are left
  split_ifs with hnot hslave hslave
  · exact absurd hslave hnot.1
  · rfl
  · exact le_rfl
  · exact absurd ⟨hslave, rfl⟩ hnot

/-- The selection arms the timer exactly if it makes the port slave. -/
theorem armsAsSlave_processStateChange (hauto : d.port.cfg.automotiveProfile = false) :
    ArmsAsSlave d d.processStateChange := by
  rw [processStateChange_eq]
  split_ifs
  · exact armsAsSlave_refl d
  split
  case h_1 => exact armsAsSlave_refl d
  case h_2 a _ =>
    unfold assignRole
    dsimp only
    split_ifs
    · exact armsAsSlave_recommendMaster
        (d := (d.setLastEBestIdentity a.grandmasterIdentity).setGrandmaster _) _
    · exact armsAsSlave_recommendSlave (d := d.setLastEBestIdentity a.grandmasterIdentity) hauto _

theorem armsAsSlave_processEvent (hauto : d.port.cfg.automotiveProfile = false) (env : Env) :
    ArmsAsSlave d (d.processEvent env .stateChangeEvent) := by
  rw [processEvent_stateChangeEvent, hauto, if_neg Bool.false_ne_true]
  exact armsAsSlave_processStateChange hauto

end Receipt

/-! ### Steps -/

/-- The input makes the port arm an announce receipt timer without cancelling those that are pending:
it finds no role to resume other than that of a slave, or it becomes slave. -/
def ArmsReceipt (d : Daemon F) (i : Input) : Prop :=
  (∃ e, d.handledEvent i = some e ∧ e.resumes ∧
    (d.clock.cfg.priority1 = 255 ∨ d.port.portState ≠ .ptpMaster)) ∨
  (d.handledEvent i = some .stateChangeEvent ∧ d.port.portState ≠ .ptpSlave ∧
    (d.step i).port.portState = .ptpSlave)

/-- The input arms a second announce receipt timer, or, when a receipt timeout makes the port master, a
second Sync interval timer. -/
def ArmsSecond (d : Daemon F) (i : Input) : Prop :=
  (d.timersOf .announceReceiptTimeoutExpires ≠ [] ∧ d.ArmsReceipt i) ∨
  (d.timersOf .syncIntervalTimeoutExpires ≠ [] ∧ d.TimesOut i ∧ d.EntersMaster (d.step i))

/-- At most one timer is pending for each of the periodic events. -/
def SingleTimers (d : Daemon F) : Prop := ∀ e, e.isPeriodic → (d.timersOf e).length ≤ 1

/-- A step that handles no event restarts timers. -/
theorem restartsOnly_step {d : Daemon F} {i : Input} (hnone : d.handledEvent i = none) {e : Event}
    (he : e.isPeriodic) : RestartsOnly e d (d.step i) := by
  have hclear : RestartsOnly e d { d with effects := [] } := .of_timerq_eq rfl
  unfold handledEvent at hnone
  unfold step
  cases hi : i.stimulus with
  | event e' =>
    rw [hi] at hnone
    cases hnone
  | timer k =>
    rw [hi] at hnone
    have hk : d.timerq[k]? = none := Option.map_eq_none_iff.mp hnone
    simp only [hk]
    exact hclear
  | receive msg linkSpeed => exact hclear.trans (restartsOnly_processMessage he _ _ _)
  | setLinkSpeed linkSpeed => exact .of_timerq_eq rfl

/-- The events that touch the announce receipt timers. -/
theorem of_receipt_mem_footprint {e : Event}
    (h : Location.timer .announceReceiptTimeoutExpires ∈ e.footprint) :
    e.resumes ∨ e = .stateChangeEvent ∨ e.isReceiptTimeout := by
  revert h
  cases e <;> decide

section Step

variable {d d₀ : Daemon F} {e : Event} {external : Bool}

omit [Platform F] in
theorem Popped.length_le (h : Popped e external d d₀) (e' : Event) :
    (d₀.timersOf e').length ≤ (d.timersOf e').length := by
  by_cases he : e' = e
  · subst he
    have := h.length
    omega
  · rw [h.others e' he]

/-- Sync interval timers. -/
theorem Popped.syncInterval_le_one (h : Popped e external d d₀) (hauto : d.port.cfg.automotiveProfile = false)
    (env : Env) (hd : (d.timersOf .syncIntervalTimeoutExpires).length ≤ 1)
    (hsecond : e.isReceiptTimeout → d.EntersMaster (d₀.processEvent env e) →
      d.timersOf .syncIntervalTimeoutExpires = []) :
    ((d₀.processEvent env e).timersOf .syncIntervalTimeoutExpires).length ≤ 1 := by
  have hle := h.length_le .syncIntervalTimeoutExpires
  -- a timeout arms one more; every other event restarts
  by_cases he : e.isReceiptTimeout
  · have hauto₀ : d₀.port.cfg.automotiveProfile = false := by rw [h.port, hauto]
    rw [length_syncInterval_timeout env he hauto₀]
    split_ifs with henters
    · have hempty := hsecond he (by rwa [EntersMaster, ← h.port])
      rw [hempty] at hle
      simpa using hle
    · omega
  · refine (restartsOnly_processEvent rfl (by decide) env e (fun _ => ?_) d₀).length_le_one (hle.trans hd)
    simpa using he

/-- Announce receipt timers. -/
theorem Popped.receipt_le_one (h : Popped e external d d₀) (hexternal : external → e.isExternal)
    (hauto : d.port.cfg.automotiveProfile = false) (env : Env)
    (hd : (d.timersOf .announceReceiptTimeoutExpires).length ≤ 1)
    (hsecond : d.timersOf .announceReceiptTimeoutExpires ≠ [] →
      ¬ (e.resumes ∧ (d.clock.cfg.priority1 = 255 ∨ d.port.portState ≠ .ptpMaster)) ∧
        ¬ (e = .stateChangeEvent ∧ d.port.portState ≠ .ptpSlave ∧
          (d₀.processEvent env e).port.portState = .ptpSlave)) :
    ((d₀.processEvent env e).timersOf .announceReceiptTimeoutExpires).length ≤ 1 := by
  have hauto₀ : d₀.port.cfg.automotiveProfile = false := by rw [h.port, hauto]
  have hle := h.length_le .announceReceiptTimeoutExpires
  -- where a timer is armed without cancelling, none is pending
  have hempty (harms : ¬ d.timersOf .announceReceiptTimeoutExpires ≠ []) :
      (d₀.timersOf .announceReceiptTimeoutExpires).length = 0 := by
    rw [not_not.mp harms] at hle
    exact Nat.le_zero.mp hle
  by_cases hfootprint : Location.timer .announceReceiptTimeoutExpires ∈ e.footprint
  swap
  · have hkept := processEvent_modifies env e d₀ _ hfootprint
    exact (congrArg List.length hkept).le.trans (hle.trans hd)
  -- the three kinds of events that touch the timer
  rcases of_receipt_mem_footprint hfootprint with hresumes | rfl | htimeout
  · rw [length_receipt_of_resumes env hresumes hauto₀, h.clock, h.port]
    split_ifs with hcond
    · rw [hempty fun hne => (hsecond hne).1 ⟨hresumes, hcond⟩]
    · exact Nat.zero_le 1
  · have hchange := armsAsSlave_processEvent hauto₀ env
    unfold ArmsAsSlave at hchange
    split_ifs at hchange with hslave
    · rw [hchange, hempty fun hne => (hsecond hne).2 ⟨rfl, by rw [← h.port]; exact hslave.1, hslave.2⟩]
    · exact hchange.trans (hle.trans hd)
  · have htimers := length_receipt_timeout env htimeout hauto₀
    split_ifs at htimers with hreceipt
    · -- the timer that is armed again is the one that has expired
      subst hreceipt
      have hlength := h.length
      cases external with
      | true => exact absurd (hexternal rfl) (by decide)
      | false =>
        rw [if_neg Bool.false_ne_true] at hlength
        omega
    · omega

end Step

/-- **Step lemma.** A delivered input that arms no second timer keeps the timers single. -/
theorem singleTimers_step {d : Daemon F} {i : Input} (hauto : d.port.cfg.automotiveProfile = false)
    (henabled : d.enabled i) (hsecond : ¬ d.ArmsSecond i) (h : d.SingleTimers) :
    (d.step i).SingleTimers := by
  intro e he
  cases hhandled : d.handledEvent i with
  | none => exact (restartsOnly_step hhandled he).length_le_one (h e he)
  | some e' =>
    obtain ⟨external, d₀, hpopped, hexternal, hstep⟩ := exists_popped henabled hhandled
    have hsecond' : ¬ d.ArmsSecond i := hsecond
    unfold ArmsSecond at hsecond'
    rw [not_or] at hsecond'
    obtain ⟨hreceipt, hsync⟩ := hsecond'
    rw [hstep]
    -- two of the timers are armed without being restarted; the condition excludes a second one
    by_cases hAR : e = .announceReceiptTimeoutExpires
    · subst hAR
      refine hpopped.receipt_le_one hexternal hauto i.env (h _ he) fun hne => ⟨?_, ?_⟩
      · rintro ⟨hresumes, hcond⟩
        exact hreceipt ⟨hne, .inl ⟨e', hhandled, hresumes, hcond⟩⟩
      · rintro ⟨rfl, hslave, hslave'⟩
        exact hreceipt ⟨hne, .inr ⟨hhandled, hslave, hstep ▸ hslave'⟩⟩
    by_cases hSI : e = .syncIntervalTimeoutExpires
    · subst hSI
      refine hpopped.syncInterval_le_one hauto i.env (h _ he) fun htimeout henters => ?_
      by_contra hne
      exact hsync ⟨hne, ⟨e', hhandled, htimeout⟩, hstep ▸ henters⟩
    · refine (restartsOnly_processEvent he hAR i.env e' (fun h => absurd h hSI) d₀).length_le_one ?_
      exact (hpopped.length_le e).trans (h e he)

/-- A second timer that is armed is pending. -/
theorem not_singleTimers_step {d : Daemon F} {i : Input}
    (hauto : d.port.cfg.automotiveProfile = false) (henabled : d.enabled i)
    (hsecond : d.ArmsSecond i) : ¬ (d.step i).SingleTimers := by
  intro hsingle
  rcases hsecond with ⟨hne, harms⟩ | ⟨hne, ⟨e, hhandled, htimeout⟩, henters⟩
  · -- the handler has added one to a timer that was pending and has not fired
    have hle := hsingle .announceReceiptTimeoutExpires rfl
    have hpos := List.length_pos_iff.mpr hne
    rcases harms with ⟨e, hhandled, hresumes, hcond⟩ | ⟨hhandled, hslave, hslave'⟩
    · obtain ⟨external, d₀, hpopped, -, hstep⟩ := exists_popped henabled hhandled
      have hauto₀ : d₀.port.cfg.automotiveProfile = false := by rw [hpopped.port, hauto]
      have he : Event.announceReceiptTimeoutExpires ≠ e := by rintro rfl; cases hresumes
      rw [hstep, length_receipt_of_resumes i.env hresumes hauto₀, hpopped.clock, hpopped.port,
        if_pos hcond, hpopped.others _ he] at hle
      omega
    · obtain ⟨external, d₀, hpopped, -, hstep⟩ := exists_popped henabled hhandled
      have hauto₀ : d₀.port.cfg.automotiveProfile = false := by rw [hpopped.port, hauto]
      rw [hstep] at hle hslave'
      have hchange := armsAsSlave_processEvent hauto₀ i.env
      rw [ArmsAsSlave, hpopped.port, if_pos ⟨hslave, hslave'⟩, hpopped.others _ (by decide)] at hchange
      omega
  · have hle := hsingle .syncIntervalTimeoutExpires rfl
    have hpos := List.length_pos_iff.mpr hne
    obtain ⟨external, d₀, hpopped, -, hstep⟩ := exists_popped henabled hhandled
    have hauto₀ : d₀.port.cfg.automotiveProfile = false := by rw [hpopped.port, hauto]
    have he : Event.syncIntervalTimeoutExpires ≠ e := by rintro rfl; cases htimeout
    have henters₀ : d₀.EntersMaster (d₀.processEvent i.env e) := by
      rwa [EntersMaster, hpopped.port, ← hstep]
    rw [hstep, length_syncInterval_timeout i.env htimeout hauto₀, if_pos henters₀,
      hpopped.others _ he] at hle
    omega

end Daemon

/-! ### Runs -/

/-- **At most one timer.** Over a run of a port that is not automotive, every state has at most one timer
pending for each of the interval and receipt events exactly if no step arms a second one. -/
theorem singleTimers_iff [Platform F] (s : Start F) (σ : ℕ → Input) (n : ℕ)
    (hauto : s.portConfig.automotiveProfile = false)
    (hdelivers : (machine F).Delivers s.daemon σ n) :
    (∀ k ≤ n, ((machine F).stateAt s.daemon σ k).SingleTimers) ↔
      ∀ k < n, ¬ ((machine F).stateAt s.daemon σ k).ArmsSecond (σ k) := by
  have hauto' (k : ℕ) : ((machine F).stateAt s.daemon σ k).port.cfg.automotiveProfile = false := by
    rw [(stateAt_cfg s.daemon σ k).2, s.daemon_cfg.2, hauto]
  constructor
  · intro hsingle k hk hsecond
    exact Daemon.not_singleTimers_step (hauto' k) (hdelivers k hk) hsecond (hsingle (k + 1) hk)
  · intro hsecond
    have hstart : s.daemon.SingleTimers := fun e _ => Nat.zero_le 1
    refine Machine.invariant (M := machine F) hstart fun k hk hsingle => ?_
    exact Daemon.singleTimers_step (hauto' k) (hdelivers k hk) (hsecond k hk) hsingle

/-- The daemon is started and receives the neighbour's Announce; then best master selection runs. -/
def joinNetwork : ℕ → Input
  | 0 => .ofEvent .powerup
  | 1 => .message (.announce neighborAnnounce)
  | _ => .expiry 1

/-- Up to the selection the timers are single. -/
theorem joinNetwork_singleTimers :
    (machine ℚ).Delivers (Start.standard localIdentity).daemon joinNetwork 2 ∧
      ∀ k ≤ 2,
        ((machine ℚ).stateAt (Start.standard localIdentity).daemon joinNetwork k).SingleTimers := by
  have hdelivers : (machine ℚ).Delivers (Start.standard localIdentity).daemon joinNetwork 2 := by
    decide +kernel
  refine ⟨hdelivers, (singleTimers_iff (Start.standard localIdentity) joinNetwork 2 rfl hdelivers).mpr ?_⟩
  intro k hk
  obtain rfl | rfl : k = 0 ∨ k = 1 := by omega
  · -- no timer is pending yet
    rintro (⟨hne, -⟩ | ⟨hne, -⟩) <;> exact hne rfl
  · -- a message is received, and no event handled
    rintro (⟨-, ⟨e, he, -⟩ | ⟨he, -⟩⟩ | ⟨-, ⟨e, he, -⟩, -⟩) <;> cases he

/-- **Two announce receipt timers.** The timer armed when the Announce was received is still pending when
the port becomes slave and arms another one. -/
theorem joinNetwork_two_timers :
    let d := (machine ℚ).stateAt (Start.standard localIdentity).daemon joinNetwork
    (machine ℚ).Delivers (Start.standard localIdentity).daemon joinNetwork 3 ∧
      (d 0).port.cfg.automotiveProfile = false ∧ (d 3).port.portState = .ptpSlave ∧
      ((d 3).timersOf .announceReceiptTimeoutExpires).length = 2 := by
  decide +kernel

end Gptp
