import Gptp.Port.StepFootprint
import Gptp.Safety.MasterOffset
import Gptp.Safety.PhaseStep
import Gptp.Safety.SyncPairing

/-!
# What disciplines the clock

The frequency correction and the estimate of the master's rate are changed by Follow_Up messages only:
events change at most the request for a new set point. A Follow_Up that is used replaces the baseline of
the estimate, integrates the offset and the rate into the frequency correction, and clamps it.

* `Daemon.syntonization_step`: a step that handles no Follow_Up leaves all of it alone.
* `Daemon.syntonized_of_offset`: what a Follow_Up does from which an offset is computed.
-/

namespace Gptp

open Framework

variable {F : Type}

/-- The frequency correction, the count of phase errors, and the two times against which the rate of the
master is estimated next. -/
structure Syntonization (F : Type) where
  ppm : F
  phaseErrorViolation : ℕ
  masterLocalFreqOffsetInit : Bool
  prevMasterTime : Timestamp
  prevSyncTime : Timestamp

namespace Daemon

def syntonization (d : Daemon F) : Syntonization F where
  ppm := d.clock.ppm
  phaseErrorViolation := d.clock.phaseErrorViolation
  masterLocalFreqOffsetInit := d.clock.masterLocalFreqOffsetInit
  prevMasterTime := d.clock.prevMasterTime
  prevSyncTime := d.clock.prevSyncTime

theorem syntonization_congr {d d' : Daemon F} (h : d'.clock = d.clock) :
    d'.syntonization = d.syntonization := by
  unfold syntonization
  rw [h]

/-! ### Events -/

theorem syntonization_of_modifies {L : List Location} {d d' : Daemon F} (h : Modifies L d d')
    (hL : .servo ∉ L) : d'.syntonization = d.syntonization := by
  have hread := h .servo hL
  exact congrArg (fun v : Location.Value F .servo =>
    (⟨v.2.1, v.2.2.1, v.2.2.2.1.1, v.2.2.2.1.2.1, v.2.2.2.1.2.2⟩ : Syntonization F)) hread

/-! The operations that have the servo in their footprint. -/

section Events

variable [Platform F] (d : Daemon F)

theorem syntonization_becomeMaster (annc : Bool) :
    (d.becomeMaster annc).syntonization = d.syntonization :=
  syntonization_of_modifies (d.modifies_becomeMaster annc) (by decide)

theorem syntonization_becomeSlave (restart : Bool) :
    (d.becomeSlave restart).syntonization = d.syntonization := by
  unfold becomeSlave
  dsimp only
  split <;> split <;> rfl

theorem syntonization_recommendState (state : PortState) (changed : Bool) :
    (d.recommendState state changed).syntonization = d.syntonization := by
  unfold recommendState
  split
  · split
    · exact syntonization_becomeMaster _ _
    · rfl
  · split
    · exact d.syntonization_becomeSlave true
    · split <;> rfl
  · rfl

theorem syntonization_resumeRole : d.resumeRole.syntonization = d.syntonization := by
  unfold resumeRole
  split
  · exact d.syntonization_becomeSlave true
  · split
    · exact d.syntonization_becomeMaster true
    · rfl

theorem syntonization_processStateChange : d.processStateChange.syntonization = d.syntonization := by
  rw [processStateChange_eq]
  split
  · rfl
  · split
    · rfl
    · unfold assignRole
      dsimp only
      split
      · exact syntonization_recommendState _ _ _
      · exact (rfl : _ = _).trans (syntonization_recommendState _ _ _)

theorem syntonization_calcLocalSystem (localTime systemTime : Timestamp) :
    syntonization { d with
      clock := (d.clock.calcLocalSystemClockRateDifference localTime systemTime).2 } =
      d.syntonization := by
  rw [Clock.calcLocalSystemClockRateDifference_snd]
  rfl

theorem syntonization_processSyncAnnounceTimeout (env : Env) (e : Event) :
    (d.processSyncAnnounceTimeout env e).syntonization = d.syntonization := by
  have hrestart : syntonization (if e = .announceReceiptTimeoutExpires then
      d.addEventTimer .announceReceiptTimeoutExpires d.announceReceiptTimeoutTruncated
      else d.startSyncReceiptTimer d.syncReceiptTimeout) = d.syntonization := by split <;> rfl
  unfold processSyncAnnounceTimeout
  generalize (if e = .announceReceiptTimeoutExpires then
      d.addEventTimer .announceReceiptTimeoutExpires d.announceReceiptTimeoutTruncated
      else d.startSyncReceiptTimer d.syncReceiptTimeout) = d₀ at hrestart ⊢
  dsimp only
  split
  · rfl
  · split
    · exact hrestart
    · exact (syntonization_calcLocalSystem _ _ _).trans hrestart

omit [Platform F] in
theorem syntonization_publishOffset (u : MasterOffset F) :
    (d.publishOffset u).syntonization = d.syntonization := by
  unfold publishOffset
  dsimp only
  split <;> rfl

end Events

/-! Exact arithmetic from here on, in which a master's own offset is no correction. -/

/-- A master publishes its time without correcting anything. -/
theorem syntonization_syncInterval (env : Env) (d : Daemon ℚ) :
    (d.syncInterval env).syntonization = d.syntonization := by
  have hmedia : syntonization (if d.port.link.asCapable then d.mediaSyncInterval env else d) =
      d.syntonization := by
    split
    · exact syntonization_of_modifies (d.modifies_mediaSyncInterval env) (by decide)
    · rfl
  unfold syncInterval
  generalize (if d.port.link.asCapable then d.mediaSyncInterval env else d) = d₀ at hmedia ⊢
  dsimp only
  refine Eq.trans ?_ ((syntonization_calcLocalSystem d₀ env.deviceTime env.systemTime).trans hmedia)
  generalize d₀.clock.calcLocalSystemClockRateDifference env.deviceTime env.systemTime = estimate
  refine (syntonization_of_modifies (modifies_syncDone _) (by decide)).trans ?_
  unfold setMasterOffset disciplineClock
  rw [if_pos ⟨rfl, decide_eq_true rfl⟩]
  exact syntonization_publishOffset _ _

theorem syntonization_processEvent (env : Env) (e : Event) (d : Daemon ℚ) :
    (d.processEvent env e).syntonization = d.syntonization := by
  cases e with
  | powerup | initializeEvent =>
    exact (syntonization_of_modifies (modifies_mediaPowerup _ env) (by decide)).trans
      d.syntonization_resumeRole
  | stateChangeEvent =>
    rw [processEvent_stateChangeEvent]
    split
    · rfl
    · exact d.syntonization_processStateChange
  | linkup =>
    change d.mediaLinkup.syntonization = _
    unfold mediaLinkup
    dsimp only
    have hrole : syntonization ((d.haltPdelay false).startPDelay.resumeRole) = d.syntonization := by
      refine (syntonization_resumeRole _).trans ?_
      exact (syntonization_of_modifies (modifies_startPDelay _) (by decide)).trans rfl
    split
    · exact (syntonization_of_modifies (modifies_automotiveLinkup _) (by decide)).trans hrole
    · exact hrole
  | announceReceiptTimeoutExpires | syncReceiptTimeoutExpires =>
    unfold processEvent mediaEvent
    cases d.port.cfg.automotiveProfile
    · exact d.syntonization_processSyncAnnounceTimeout env _
    · rfl
  | syncIntervalTimeoutExpires => exact d.syntonization_syncInterval env
  | linkdown | pdelayIntervalTimeoutExpires | announceIntervalTimeoutExpires | faultDetected
  | pdelayDeferredProcessing | pdelayRespReceiptTimeoutExpires
  | pdelayRespPeerMisbehavingTimeoutExpires | syncRateIntervalTimeoutExpired | nullEvent
  | qualificationTimeoutExpires =>
    exact syntonization_of_modifies (processEvent_modifies env _ d) (by decide)

/-- **Only a Follow_Up disciplines the clock.** -/
theorem syntonization_step {d : Daemon ℚ} {i : Input}
    (hi : ∀ m linkSpeed, i.stimulus ≠ .receive (.followUp m) linkSpeed) :
    (d.step i).syntonization = d.syntonization := by
  cases he : d.handledEvent i with
  | some e =>
    obtain ⟨d₀, hclock, -, hstep⟩ := step_of_handledEvent he
    rw [hstep, syntonization_processEvent]
    exact syntonization_congr hclock
  | none =>
    refine congrArg (fun v : Location.Value ℚ .servo =>
      (⟨v.2.1, v.2.2.1, v.2.2.2.1.1, v.2.2.2.1.2.1, v.2.2.2.1.2.2⟩ : Syntonization ℚ))
      (read_step (l := .servo) ?_ ?_ ?_)
    · intro e he'
      cases he.symm.trans he'
    · intro msg linkSpeed hmsg _
      cases msg with
      | followUp m => exact absurd hmsg (hi m linkSpeed)
      | sync => exact (show _ ∉ [Location.lastSync] by decide)
      | pathDelayReq => exact List.not_mem_nil
      | pathDelayResp => exact (show _ ∉ respFootprint by decide)
      | pathDelayRespFollowUp => exact (show _ ∉ respFollowUpFootprint by decide)
      | signalling => exact (show _ ∉ signallingFootprint by decide)
      | announce => exact (show _ ∉ [Location.timer .announceReceiptTimeoutExpires,
          .qualifiedAnnounce, .timer .stateChangeEvent] by decide)
    · decide

/-! ### Follow_Up messages -/

end Daemon

/-- `setMasterOffset` without a phase step. An offset of more than a second is not integrated. -/
def Syntonization.correct (offset : Int64) (rate : ℚ) (interval : Int8) (s : Syntonization ℚ) :
    Syntonization ℚ :=
  if offset = 0 ∧ rate = 1 then s
  else { s with
    ppm := Clock.clampPpm (if isPhaseError offset then s.ppm
      else Clock.integratePpm offset rate interval s.ppm)
    phaseErrorViolation := if isPhaseError offset then s.phaseErrorViolation + 1 else 0 }

namespace Daemon

theorem syntonization_disciplineClock (u : MasterOffset ℚ) {d : Daemon ℚ}
    (hsyntonize : d.clock.cfg.syntonize = true) (hsetPoint : d.clock.newSyntonizationSetPoint = false)
    (hcount : d.clock.phaseErrorViolation ≤ 6) :
    (d.disciplineClock u).syntonization =
      d.syntonization.correct u.masterLocalOffset u.masterLocalFreqOffset d.port.logMeanSyncInterval := by
  have hnostep : ¬ (d.clock.newSyntonizationSetPoint = true ∨ 6 < d.clock.phaseErrorViolation) := by
    rw [hsetPoint]
    exact not_or.mpr ⟨Bool.false_ne_true, hcount.not_gt⟩
  have hcorrects : (u.masterLocalOffset = 0 ∧
      Platform.eq u.masterLocalFreqOffset (Platform.ofRat 1 : ℚ) = true) ↔
        u.masterLocalOffset = 0 ∧ u.masterLocalFreqOffset = 1 := and_congr_right' decide_eq_true_iff
  unfold disciplineClock Syntonization.correct
  rw [if_pos hsyntonize, if_neg hnostep, if_congr hcorrects rfl rfl]
  split
  · rfl
  · unfold stepFrequency isPhaseError
    rw [natAbs_toInt_neg]
    rfl

end Daemon

theorem Clock.newSyntonizationSetPoint_calcMasterLocal [Platform F]
    (masterTime syncTime : Timestamp) (c : Clock F) :
    (c.calcMasterLocalClockRateDifference masterTime syncTime).2.newSyntonizationSetPoint =
      c.newSyntonizationSetPoint := by
  unfold Clock.calcMasterLocalClockRateDifference
  dsimp only
  split_ifs <;> rfl

namespace Daemon

/-- The estimate of the master's rate, unless its time has jumped back. -/
theorem syntonization_calcMasterLocal {masterTime syncTime : Timestamp} {d : Daemon ℚ}
    (hjump : (d.clock.calcMasterLocalClockRateDifference masterTime syncTime).1 ≠ 0) :
    syntonization { d with
        clock := (d.clock.calcMasterLocalClockRateDifference masterTime syncTime).2 } =
      ⟨d.clock.ppm, d.clock.phaseErrorViolation, true, masterTime, syncTime⟩ ∧
    (d.clock.masterLocalFreqOffsetInit = true → ¬ masterTime.toNs < d.clock.prevMasterTime.toNs ∧
      (d.clock.calcMasterLocalClockRateDifference masterTime syncTime).1 =
        elapsedRatio (masterTime.toNs - d.clock.prevMasterTime.toNs)
          (syncTime.toNs - d.clock.prevSyncTime.toNs)) := by
  unfold Clock.calcMasterLocalClockRateDifference at hjump ⊢
  dsimp only at hjump ⊢
  split at hjump
  · split at hjump
    · exact absurd rfl hjump
    · rename_i hinit hnot
      rw [if_pos hinit, if_neg hnot]
      exact ⟨rfl, fun _ => ⟨hnot, rfl⟩⟩
  · rename_i hinit
    rw [if_neg hinit]
    exact ⟨rfl, fun h => absurd h hinit⟩

/-- A Follow_Up from which an offset is computed is used, by a slave. -/
theorem used_of_offset [Platform F] {d : Daemon F} {i : Input} {m : PTPMessageFollowUp}
    {linkSpeed : UInt32} {u : MasterOffset F} (hi : i.stimulus = .receive (.followUp m) linkSpeed)
    (hu : .setMasterOffset u ∈ (d.step i).effects) :
    ∃ d₀ : Daemon F, d₀.clock = d.clock ∧ d₀.port = d.port ∧ d₀.effects = [] ∧
      d.step i = (d₀.processFollowUpAt i.env m u.localTime).setLastSync none := by
  obtain ⟨-, -, sync, hsync, hmatch, hversion, harrival⟩ := step_offset hi hu
  rw [step_of_followUp hi] at hu ⊢
  have hcases := processFollowUp_cases i.env m { d with effects := [] }
  generalize processFollowUp i.env m { d with effects := [] } = result at hcases hu ⊢
  cases hcases with
  | ignored => cases hu
  | orphan hstate hnone => cases hsync.symm.trans hnone
  | wrong hstate hsync' hwrong =>
    obtain rfl := Option.some.inj (hsync.symm.trans hsync')
    cases hmatch.symm.trans hwrong
  | stale hstate hsync' hmatch' hstale =>
    obtain rfl := Option.some.inj (hsync.symm.trans hsync')
    exact absurd hversion hstale
  | used hstate hsync' =>
    obtain rfl := Option.some.inj (hsync.symm.trans hsync')
    rw [harrival]
    exact ⟨stopSyncReceiptTimer { d with effects := [] }, rfl, rfl, rfl, rfl⟩

theorem applies_of_offset [Platform F] {d : Daemon F} {env : Env} {m : PTPMessageFollowUp}
    {syncArrival : Timestamp} {u : MasterOffset F} (hnone : d.effects = [])
    (hu : .setMasterOffset u ∈ (d.processFollowUpAt env m syncArrival).effects) :
    d.appliesFollowUp m syncArrival = true ∧ d.port.portState = .ptpSlave := by
  cases happlies : d.appliesFollowUp m syncArrival with
  | false =>
    obtain ⟨clock, hclock, -⟩ := processFollowUpAt_of_not_applies happlies env
    rw [hclock] at hu
    change _ ∈ d.effects at hu
    rw [hnone] at hu
    cases hu
  | true =>
    refine ⟨rfl, ?_⟩
    by_contra hslave
    -- nobody else is given an offset
    rw [processFollowUpAt_of_applies happlies] at hu
    unfold applyFollowUp at hu
    dsimp only at hu
    rw [if_neg (by exact hslave)] at hu
    change _ ∈ d.effects at hu
    rw [hnone] at hu
    cases hu

/-! What comes after the offset has been passed on steps no phase. -/

section PhaseSteps

variable (d : Daemon F)

theorem phaseSteps_emit {e : Effect F} (h : ∀ p, e ≠ .adjustClockPhase p) :
    (d.emit e).phaseSteps = d.phaseSteps :=
  congrArg Servo.phaseSteps (servo_emit h d)

theorem phaseSteps_ite {p : Prop} [Decidable p] (d' : Daemon F) :
    (if p then d else d').phaseSteps = if p then d.phaseSteps else d'.phaseSteps :=
  apply_ite _ _ _ _

theorem phaseSteps_startPDelay : d.startPDelay.phaseSteps = d.phaseSteps := by
  unfold startPDelay
  split_ifs <;> rfl

theorem phaseSteps_startSyncRateIntervalTimer :
    d.startSyncRateIntervalTimer.phaseSteps = d.phaseSteps := by
  unfold startSyncRateIntervalTimer
  split <;> rfl

theorem phaseSteps_sendTestStatus : d.sendTestStatus.phaseSteps = d.phaseSteps :=
  d.phaseSteps_emit (by simp)

theorem phaseSteps_countDownAvbSync : d.countDownAvbSync.phaseSteps = d.phaseSteps := by
  unfold countDownAvbSync
  simp only [phaseSteps_ite, phaseSteps_sendTestStatus]
  split_ifs <;> rfl

theorem phaseSteps_syncDone : d.syncDone.phaseSteps = d.phaseSteps := by
  simp only [syncDone, phaseSteps_ite, phaseSteps_startPDelay, phaseSteps_startSyncRateIntervalTimer,
    phaseSteps_countDownAvbSync, ite_self]

end PhaseSteps

/-- The servo of `d'` is that of `d` after `setMasterOffset`, without a phase step. -/
structure Corrects (offset : Int64) (rate : ℚ) (d d' : Daemon ℚ) : Prop where
  syntonization : d'.syntonization = d.syntonization.correct offset rate d.port.logMeanSyncInterval
  phaseSteps : d'.phaseSteps = d.phaseSteps

theorem Corrects.setTimeBaseIndicator {offset : Int64} {rate : ℚ} {d d' : Daemon ℚ}
    (h : Corrects offset rate d d') (x : UInt16) :
    Corrects offset rate d { d' with port.lastGmTimeBaseIndicator := x } :=
  ⟨h.syntonization, h.phaseSteps⟩

/-- No phase step is due: none is asked for, and the count of phase errors is within its limit. -/
structure NotDue (d : Daemon F) : Prop where
  setPoint : d.clock.newSyntonizationSetPoint = false
  count : d.clock.phaseErrorViolation ≤ 6

theorem NotDue.phaseSteps_setMasterOffset [Platform F] {d : Daemon F} (h : d.NotDue)
    (u : MasterOffset F) : (d.setMasterOffset u).phaseSteps = d.phaseSteps := by
  have hnostep : ¬ (d.servo.newSyntonizationSetPoint || decide (6 < d.servo.phaseErrorViolation)) =
      true := by
    rw [Bool.or_eq_true, decide_eq_true_eq]
    exact not_or.mpr ⟨Bool.eq_false_iff.mp h.setPoint, h.count.not_gt⟩
  refine (congrArg Servo.phaseSteps (d.servo_setMasterOffset u)).trans ?_
  unfold Servo.setMasterOffset
  rw [if_neg hnostep]
  split <;> rfl

/-- A call of `setMasterOffset` that steps no phase. -/
theorem NotDue.corrects_setMasterOffset {d : Daemon ℚ} (h : d.NotDue)
    (hsyntonize : d.clock.cfg.syntonize = true) (u : MasterOffset ℚ) :
    Corrects u.masterLocalOffset u.masterLocalFreqOffset d (d.setMasterOffset u) := by
  refine ⟨?_, h.phaseSteps_setMasterOffset u⟩
  have hpublish : (d.publishOffset u).clock.cfg = d.clock.cfg ∧
      (d.publishOffset u).clock.newSyntonizationSetPoint = d.clock.newSyntonizationSetPoint ∧
      (d.publishOffset u).clock.phaseErrorViolation = d.clock.phaseErrorViolation ∧
      (d.publishOffset u).port = d.port := by
    unfold publishOffset
    dsimp only
    split <;> exact ⟨rfl, rfl, rfl, rfl⟩
  have hsame := d.syntonization_publishOffset u
  unfold setMasterOffset
  generalize d.publishOffset u = d₀ at hpublish hsame ⊢
  obtain ⟨hcfg, hpoint, hviolation, hport⟩ := hpublish
  rw [syntonization_disciplineClock u (hcfg ▸ hsyntonize) (hpoint.trans h.setPoint)
    (hviolation.trans_le h.count), hsame, hport]

theorem NotDue.corrects_synchronize {d : Daemon ℚ} (h : d.NotDue)
    (hsyntonize : d.clock.cfg.syntonize = true) (env : Env) (syncArrival preciseOrigin : Timestamp)
    (rate : ℚ) :
    Corrects (syncArrival.toNs - preciseOrigin.toNs).toInt64 rate d
      (d.synchronize env syncArrival preciseOrigin rate) := by
  -- what follows `setMasterOffset` leaves the servo alone
  have hdone (d : Daemon ℚ) (waitTime : UInt64) :
      (d.syncDone.startSyncReceiptTimer waitTime).syntonization = d.syntonization ∧
        (d.syncDone.startSyncReceiptTimer waitTime).phaseSteps = d.phaseSteps :=
    ⟨(syntonization_of_modifies (modifies_restartEventTimer _ _ _) (by decide)).trans
      (syntonization_of_modifies (modifies_syncDone _) (by decide)), d.phaseSteps_syncDone⟩
  unfold synchronize
  dsimp only
  rw [Clock.calcLocalSystemClockRateDifference_snd]
  -- the daemon and the update with which `setMasterOffset` is called
  generalize hd₂ : (Daemon.mk _ _ _ _ : Daemon ℚ) = d₂
  have hsame : d₂.syntonization = d.syntonization ∧ d₂.phaseSteps = d.phaseSteps := by
    rw [← hd₂]
    exact ⟨rfl, rfl⟩
  have hclock : d₂.clock.cfg = d.clock.cfg ∧
      d₂.clock.newSyntonizationSetPoint = d.clock.newSyntonizationSetPoint ∧
      d₂.clock.phaseErrorViolation = d.clock.phaseErrorViolation := by
    rw [← hd₂]
    exact ⟨rfl, rfl, rfl⟩
  have hinterval : d₂.port.logMeanSyncInterval = d.port.logMeanSyncInterval := by rw [← hd₂]; rfl
  obtain ⟨hcfg, hpoint, hviolation⟩ := hclock
  have hnotDue : d₂.NotDue := ⟨hpoint.trans h.setPoint, hviolation.trans_le h.count⟩
  obtain ⟨hcorrect, hsteps⟩ := hnotDue.corrects_setMasterOffset (hcfg ▸ hsyntonize)
    (d₂.followUpOffset env syncArrival preciseOrigin rate _)
  rw [hsame.1, hinterval] at hcorrect
  exact ⟨(hdone _ _).1.trans hcorrect, (hdone _ _).2.trans (hsteps.trans hsame.2)⟩

theorem NotDue.corrects_applyFollowUp {d : Daemon ℚ} (h : d.NotDue)
    (hslave : d.port.portState = .ptpSlave) (hsyntonize : d.clock.cfg.syntonize = true) (env : Env)
    (m : PTPMessageFollowUp) (syncArrival preciseOrigin : Timestamp) (rate : ℚ) :
    Corrects (syncArrival.toNs - preciseOrigin.toNs).toInt64 rate d
      (d.applyFollowUp env m syncArrival preciseOrigin rate) := by
  have hrecord : (d.recordFUPStatus m rate).syntonization = d.syntonization ∧
      (d.recordFUPStatus m rate).phaseSteps = d.phaseSteps ∧
      (d.recordFUPStatus m rate).clock.cfg = d.clock.cfg ∧
      (d.recordFUPStatus m rate).NotDue ∧
      (d.recordFUPStatus m rate).port = d.port := ⟨rfl, rfl, rfl, ⟨h.setPoint, h.count⟩, rfl⟩
  unfold applyFollowUp
  generalize d.recordFUPStatus m rate = d₁ at hrecord ⊢
  obtain ⟨hsame, hsteps, hcfg, hnotDue, hport⟩ := hrecord
  dsimp only
  rw [if_pos (by rw [hport]; exact hslave)]
  have hsynchronize :=
    hnotDue.corrects_synchronize (hcfg ▸ hsyntonize) env syncArrival preciseOrigin rate
  generalize d₁.synchronize env syncArrival preciseOrigin rate = d₂ at hsynchronize ⊢
  refine Corrects.setTimeBaseIndicator ⟨?_, hsynchronize.phaseSteps.trans hsteps⟩ _
  rw [hsynchronize.syntonization, hsame, hport]

/-- An offset computed from a Follow_Up is the arrival time of the stored Sync less its corrected origin. -/
theorem masterOffset_of_processFollowUpAt [Platform F] {d : Daemon F} {env : Env}
    {m : PTPMessageFollowUp} {syncArrival : Timestamp} {u : MasterOffset F} (hnone : d.effects = [])
    (hu : .setMasterOffset u ∈ (d.processFollowUpAt env m syncArrival).effects) :
    u.masterLocalOffset =
      (syncArrival.toNs - (d.correctedOrigin m (m.correctionField / 65536)).toNs).toInt64 := by
  obtain ⟨happlies, hslave⟩ := applies_of_offset hnone hu
  obtain ⟨u', hu', heffects⟩ := processFollowUpAt_offset happlies hslave env
  have hmem := List.mem_filter.mpr ⟨hu, (rfl : Effect.isMasterOffset (.setMasterOffset u) = true)⟩
  rw [heffects, hnone] at hmem
  obtain rfl := Effect.setMasterOffset.inj (List.mem_singleton.mp hmem)
  exact hu'

/-- **What a Follow_Up does to the servo** if no phase step is due. Its origin and the arrival of its Sync
are the new baseline, the offset and the rate against the old one are integrated, and the phase is not
stepped. -/
theorem syntonized_of_offset {d : Daemon ℚ} {i : Input} {m : PTPMessageFollowUp} {linkSpeed : UInt32}
    {u : MasterOffset ℚ} (hi : i.stimulus = .receive (.followUp m) linkSpeed)
    (hu : .setMasterOffset u ∈ (d.step i).effects) (hsyntonize : d.clock.cfg.syntonize = true)
    (hnotDue : d.NotDue) :
    (d.step i).phaseSteps = [] ∧ ∃ (origin : Timestamp) (rate : ℚ),
      u.masterLocalOffset = (u.localTime.toNs - origin.toNs).toInt64 ∧
      (d.clock.masterLocalFreqOffsetInit = true → ¬ origin.toNs < d.clock.prevMasterTime.toNs ∧
        rate = elapsedRatio (origin.toNs - d.clock.prevMasterTime.toNs)
          (u.localTime.toNs - d.clock.prevSyncTime.toNs)) ∧
      (d.step i).syntonization =
        Syntonization.correct u.masterLocalOffset rate d.port.logMeanSyncInterval
          ⟨d.clock.ppm, d.clock.phaseErrorViolation, true, origin, u.localTime⟩ := by
  obtain ⟨d₀, hclock, hport, hnone, hstep⟩ := used_of_offset hi hu
  rw [hstep] at hu
  have hmem : .setMasterOffset u ∈ (d₀.processFollowUpAt i.env m u.localTime).effects := hu
  obtain ⟨happlies, hslave⟩ := applies_of_offset hnone hmem
  have hoffset := masterOffset_of_processFollowUpAt hnone hmem
  have hjump : (d₀.masterRateEstimate m u.localTime).1 ≠ 0 := by
    intro hzero
    simp only [appliesFollowUp, Bool.and_eq_true, Bool.not_eq_true'] at happlies
    rw [hzero] at happlies
    exact absurd happlies.2 (by decide)
  obtain ⟨hestimate, hrate⟩ := syntonization_calcMasterLocal hjump
  obtain ⟨hcfg, -⟩ := Clock.calcMasterLocalClockRateDifference_snd
    (d₀.correctedOrigin m (m.correctionField / 65536)) u.localTime d₀.clock
  have hpoint := Clock.newSyntonizationSetPoint_calcMasterLocal
    (d₀.correctedOrigin m (m.correctionField / 65536)) u.localTime d₀.clock
  have hviolation := congrArg Syntonization.phaseErrorViolation hestimate
  rw [← hclock] at hsyntonize ⊢
  have hnotDue' : NotDue { d₀ with clock := (d₀.masterRateEstimate m u.localTime).2 } :=
    ⟨hpoint.trans (hclock ▸ hnotDue.setPoint), hviolation.trans_le (hclock ▸ hnotDue.count)⟩
  obtain ⟨hcorrect, hsteps⟩ := hnotDue'.corrects_applyFollowUp hslave (hcfg ▸ hsyntonize) i.env m
    u.localTime (d₀.correctedOrigin m (m.correctionField / 65536))
    (d₀.masterRateEstimate m u.localTime).1
  rw [hstep, processFollowUpAt_of_applies happlies, hoffset, ← hport]
  refine ⟨?_, d₀.correctedOrigin m (m.correctionField / 65536), (d₀.masterRateEstimate m u.localTime).1,
    rfl, hrate, ?_⟩
  · refine hsteps.trans ?_
    change List.filterMap _ d₀.effects = []
    rw [hnone]
    rfl
  · rw [← hestimate]
    exact hcorrect

end Daemon

end Gptp
