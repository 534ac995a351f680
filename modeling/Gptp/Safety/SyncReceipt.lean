import Gptp.Port.StepFootprint
import Gptp.Safety.Mastership

/-!
# The Sync receipt timeout

A slave notices that its master is gone by the Sync receipt timeout. Follow_Up processing cancels the
timer before it looks at the message, and arms it again at the end of the one path on which the
Follow_Up is used (`Daemon.acceptsFollowUp`). On every other path the timer is gone, and it stays away
until the next Follow_Up is used.

* `Daemon.step_keepsReceiptTimer`: apart from Follow_Up messages, no step that keeps a port in the slave
  state takes the timer away.
* `Daemon.receiptPending_step`: a slave that has handled a Follow_Up has a receipt timer exactly if
  it accepted the message.
* `receiptPending_iff`: once armed, the timer is pending for exactly as long as no Follow_Up is
  rejected.
-/

namespace Gptp

open Framework

variable {F : Type} [Platform F]

/-- The input is the reception of a Follow_Up. -/
def Input.IsFollowUp (i : Input) (m : PTPMessageFollowUp) : Prop :=
  ∃ linkSpeed, i.stimulus = .receive (.followUp m) linkSpeed

namespace Daemon

/-- A Sync receipt timer for the port is pending. -/
def receiptPending (d : Daemon F) : Prop :=
  ∃ t ∈ d.timersOf .syncReceiptTimeoutExpires, t.port = d.port.cfg.ifindex

instance (d : Daemon F) : Decidable d.receiptPending :=
  inferInstanceAs (Decidable (∃ t ∈ d.timersOf .syncReceiptTimeoutExpires, _))

/-- Whether a Follow_Up passes every check: it belongs to the stored Sync, the arrival time of the
Sync is of the current timestamper version, and the message is applied. -/
def acceptsFollowUp (m : PTPMessageFollowUp) (d : Daemon F) : Bool :=
  match d.port.lastSync with
  | none => false
  | some sync =>
    syncMatches sync m && sync.timestamp.version = d.port.timestampVersion &&
      d.appliesFollowUp m sync.timestamp

/-! ### Follow_Up messages -/

omit [Platform F] in
theorem receiptPending_startSyncReceiptTimer (ns : UInt64) (d : Daemon F) :
    (d.startSyncReceiptTimer ns).receiptPending := by
  unfold receiptPending
  rw [startSyncReceiptTimer, timersOf_restartEventTimer_self]
  exact ⟨_, List.mem_singleton_self _, rfl⟩

omit [Platform F] in
theorem not_receiptPending {d : Daemon F} (h : d.timersOf .syncReceiptTimeoutExpires = []) :
    ¬ d.receiptPending := by
  rintro ⟨t, ht, -⟩
  rw [h] at ht
  cases ht

/-- A Follow_Up applied in the slave state ends with the restart of the timer. -/
theorem receiptPending_applyFollowUp (env : Env) (m : PTPMessageFollowUp)
    (syncArrival preciseOrigin : Timestamp) (rate : F) {d : Daemon F}
    (hslave : d.port.portState = .ptpSlave) :
    (d.applyFollowUp env m syncArrival preciseOrigin rate).receiptPending := by
  have hslave' : (d.recordFUPStatus m rate).port.portState = .ptpSlave := hslave
  have hindicator : ∀ (x : UInt16) (d : Daemon F), d.receiptPending →
      receiptPending { d with port.lastGmTimeBaseIndicator := x } := fun _ _ h => h
  unfold applyFollowUp
  refine hindicator _ _ ?_
  rw [if_pos hslave']
  exact receiptPending_startSyncReceiptTimer _ _

omit [Platform F] in
@[simp] theorem receiptPending_setLastSync (m : Option PTPMessageSync) (d : Daemon F) :
    (d.setLastSync m).receiptPending ↔ d.receiptPending := Iff.rfl

omit [Platform F] in
/-- Follow_Up processing starts by cancelling the timer. -/
theorem not_receiptPending_stopSyncReceiptTimer (d : Daemon F) :
    ¬ d.stopSyncReceiptTimer.receiptPending := by
  refine not_receiptPending ?_
  rw [stopSyncReceiptTimer, timersOf_deleteEventTimer, if_pos rfl]

/-- **Follow_Up messages.** A slave that has handled a Follow_Up has a receipt timer exactly if the
message was accepted. -/
theorem receiptPending_processFollowUp {env : Env} {m : PTPMessageFollowUp} {d : Daemon F}
    (hslave : d.port.portState = .ptpSlave)
    (hslave' : (d.processFollowUp env m).1.port.portState = .ptpSlave) :
    (d.processFollowUp env m).1.receiptPending ↔ d.acceptsFollowUp m := by
  have hcancelled := d.not_receiptPending_stopSyncReceiptTimer
  have hcase := d.processFollowUp_cases env m
  generalize d.processFollowUp env m = ended at hcase hslave' ⊢
  unfold acceptsFollowUp
  cases hcase with
  | ignored hstate =>
    rw [hslave] at hstate
    cases hstate
  | orphan _ hsync =>
    rw [hsync]
    exact iff_of_false hcancelled Bool.false_ne_true
  | wrong _ hsync hmatch =>
    -- a count below the threshold leaves the timer cancelled, and the take-over leaves the state
    rw [hsync]
    refine iff_of_false ?_ (by simp [hmatch])
    unfold wrongFollowUp at hslave' ⊢
    split
    · exact hcancelled
    · rename_i hcount
      rw [if_neg hcount] at hslave'
      exact absurd ((portState_becomeMaster _).symm.trans hslave') (by decide)
  | stale _ hsync _ hversion =>
    rw [hsync]
    exact iff_of_false hcancelled (by simp [hversion])
  | @used sync _ hsync hmatch hversion =>
    rw [hsync]
    simp only [hmatch, hversion, decide_true, Bool.true_and, receiptPending_setLastSync]
    have happlies : d.stopSyncReceiptTimer.appliesFollowUp m sync.timestamp =
        d.appliesFollowUp m sync.timestamp := rfl
    rw [← happlies]
    cases h : d.stopSyncReceiptTimer.appliesFollowUp m sync.timestamp with
    | true =>
      rw [processFollowUpAt_of_applies h]
      exact iff_of_true (receiptPending_applyFollowUp env m _ _ _ hslave) rfl
    | false =>
      obtain ⟨clock, hclock, -⟩ := processFollowUpAt_of_not_applies h env
      rw [hclock]
      exact iff_of_false hcancelled Bool.false_ne_true

/-! ### Everything else -/

/-- The receipt timers of the port stay as they are, or one has been armed anew. -/
def KeepsReceiptTimer (d d' : Daemon F) : Prop :=
  d'.timersOf .syncReceiptTimeoutExpires = d.timersOf .syncReceiptTimeoutExpires ∨ d'.receiptPending

/-- A receipt timeout makes a slave master. -/
theorem portState_receiptTimeout (env : Env) {e : Event}
    (he : e = .announceReceiptTimeoutExpires ∨ e = .syncReceiptTimeoutExpires) {d : Daemon F}
    (hauto : d.port.cfg.automotiveProfile = false) (hprio : d.clock.cfg.priority1 ≠ 255)
    (hslave : d.port.portState = .ptpSlave) :
    (d.processEvent env e).port.portState = .ptpMaster := by
  have hcore := d.core_processSyncAnnounceTimeout env e
  rw [if_neg] at hcore
  · rw [processEvent_of_receiptTimeout env he hauto]
    exact congrArg (fun c : Core F => c.portState) hcore
  · rintro (h | h)
    · exact hprio h
    · exact absurd (hslave.symm.trans h) (by decide)

/-- A slave that is recommended to be one keeps its timers. -/
theorem timersOf_recommendSlave {d : Daemon F} (hslave : d.port.portState = .ptpSlave)
    (changed : Bool) (e : Event) :
    (d.recommendState .ptpSlave changed).timersOf e = d.timersOf e := by
  unfold recommendState
  dsimp only
  rw [if_neg (not_not.mpr hslave)]
  split_ifs <;> rfl

/-- A state change that leaves a slave a slave keeps its timers. -/
theorem timersOf_processStateChange {d : Daemon F} (hslave : d.port.portState = .ptpSlave)
    (hslave' : d.processStateChange.port.portState = .ptpSlave) (e : Event) :
    d.processStateChange.timersOf e = d.timersOf e := by
  rw [processStateChange_eq] at hslave' ⊢
  split_ifs at hslave' ⊢
  · rfl
  cases hannounce : d.port.qualifiedAnnounce with
  | none => rfl
  | some a =>
    rw [hannounce] at hslave'
    dsimp only at hslave' ⊢
    unfold assignRole at hslave' ⊢
    dsimp only at hslave' ⊢
    split_ifs at hslave' ⊢ with hbetter
    · -- a better clock becomes master
      have hne : ((d.setLastEBestIdentity a.grandmasterIdentity).setGrandmaster
          d.clock.cfg.ownGrandmaster).port.portState ≠ .ptpMaster := by
        intro h
        exact absurd (hslave.symm.trans h) (by decide)
      unfold recommendState at hslave'
      dsimp only at hslave'
      rw [if_pos hne] at hslave'
      exact absurd ((portState_becomeMaster _).symm.trans hslave') (by decide)
    · exact timersOf_recommendSlave (d := d.setLastEBestIdentity a.grandmasterIdentity) hslave _ _

/-- The role a slave resumes is its own. -/
theorem resumeRole_of_slave {d : Daemon F} (hslave : d.port.portState = .ptpSlave) :
    d.resumeRole = d.becomeSlave true := if_pos (.inr hslave)

theorem automotiveProfile_becomeSlave {d : Daemon F}
    (hauto : d.port.cfg.automotiveProfile = false) :
    (d.becomeSlave true).port.cfg.automotiveProfile = false :=
  (congrArg (fun c : Core F => c.portCfg.automotiveProfile) (core_becomeSlave true d)).trans hauto

/-- Becoming a slave does not touch the receipt timer. -/
theorem timersOf_becomeSlave (d : Daemon F) :
    (d.becomeSlave true).timersOf .syncReceiptTimeoutExpires =
      d.timersOf .syncReceiptTimeoutExpires :=
  d.modifies_becomeSlave true (.timer .syncReceiptTimeoutExpires) (by decide)

/-- POWERUP and INITIALIZE keep the receipt timer of a slave. -/
theorem timersOf_powerup (env : Env) {d : Daemon F} (hauto : d.port.cfg.automotiveProfile = false)
    (hslave : d.port.portState = .ptpSlave) :
    (d.resumeRole.mediaPowerup env).1.timersOf .syncReceiptTimeoutExpires =
      d.timersOf .syncReceiptTimeoutExpires := by
  have hpdelay : (d.becomeSlave true).startPDelayIfUnassigned = d.becomeSlave true :=
    if_neg fun h => h.1 (d.portState_becomeSlave true)
  rw [resumeRole_of_slave hslave]
  simp only [mediaPowerup, automotiveProfile_becomeSlave hauto, hpdelay, Bool.false_eq_true,
    if_false]
  split_ifs <;> exact d.timersOf_becomeSlave

/-- LINKUP keeps the receipt timer of a slave. -/
theorem timersOf_mediaLinkup {d : Daemon F} (hauto : d.port.cfg.automotiveProfile = false)
    (hslave : d.port.portState = .ptpSlave) :
    d.mediaLinkup.timersOf .syncReceiptTimeoutExpires =
      d.timersOf .syncReceiptTimeoutExpires := by
  have hslave' : (d.haltPdelay false).startPDelay.port.portState = .ptpSlave :=
    (congrArg (fun c : Core F => c.portState) (core_startPDelay (d.haltPdelay false))).trans hslave
  have hauto' : (d.haltPdelay false).startPDelay.port.cfg.automotiveProfile = false :=
    (congrArg (fun c : Core F => c.portCfg.automotiveProfile)
      (core_startPDelay (d.haltPdelay false))).trans hauto
  unfold mediaLinkup
  dsimp only
  rw [resumeRole_of_slave hslave', if_neg (by rw [automotiveProfile_becomeSlave hauto']; decide),
    timersOf_becomeSlave]
  exact modifies_startPDelay (d.haltPdelay false) (.timer .syncReceiptTimeoutExpires) (by decide)

/-- **Events.** No event other than its own takes the receipt timer from a port that stays slave. -/
theorem processEvent_keepsReceiptTimer (env : Env) {e : Event} {d : Daemon F}
    (hauto : d.port.cfg.automotiveProfile = false) (hprio : d.clock.cfg.priority1 ≠ 255)
    (hslave : d.port.portState = .ptpSlave)
    (hslave' : (d.processEvent env e).port.portState = .ptpSlave) :
    d.KeepsReceiptTimer (d.processEvent env e) := by
  by_cases hfootprint : .timer .syncReceiptTimeoutExpires ∈ e.footprint
  swap
  · exact .inl (d.processEvent_modifies env e _ hfootprint)
  cases e with
  | powerup | initializeEvent => exact .inl (timersOf_powerup env hauto hslave)
  | linkup => exact .inl (timersOf_mediaLinkup hauto hslave)
  | stateChangeEvent =>
    rw [processEvent_stateChangeEvent, hauto, if_neg Bool.false_ne_true] at hslave' ⊢
    exact .inl (timersOf_processStateChange hslave hslave' _)
  | syncReceiptTimeoutExpires =>
    -- a receipt timeout does not keep the port a slave
    have hmaster := portState_receiptTimeout env (.inr rfl) hauto hprio hslave
    exact absurd (hmaster.symm.trans hslave') (by decide)
  | announceReceiptTimeoutExpires =>
    have hmaster := portState_receiptTimeout env (.inl rfl) hauto hprio hslave
    exact absurd (hmaster.symm.trans hslave') (by decide)
  | syncRateIntervalTimeoutExpired =>
    change d.KeepsReceiptTimer d.mediaSyncRateInterval
    unfold mediaSyncRateInterval
    extract_lets
    split
    · exact .inr (receiptPending_startSyncReceiptTimer _ _)
    · exact .inl rfl
  | _ => exact absurd hfootprint (by decide)

/-- **Messages.** No message other than a Follow_Up touches the receipt timer. -/
theorem timersOf_processMessage (env : Env) {msg : PTPMessage} (hmsg : ∀ m, msg ≠ .followUp m)
    (d : Daemon F) : (d.processMessage env msg).1.timersOf .syncReceiptTimeoutExpires =
      d.timersOf .syncReceiptTimeoutExpires := by
  refine d.processMessage_modifies env msg (.timer .syncReceiptTimeoutExpires) ?_
  cases msg with
  | followUp m => exact absurd rfl (hmsg m)
  | _ => dsimp only [PTPMessage.footprint]; decide

/-! ### Steps -/

/-- **Steps.** A step that keeps a port in the slave state and is not the reception of a Follow_Up
keeps the receipt timer. -/
theorem step_keepsReceiptTimer {d : Daemon F} {i : Input}
    (hauto : d.port.cfg.automotiveProfile = false) (hprio : d.clock.cfg.priority1 ≠ 255)
    (hslave : d.port.portState = .ptpSlave) (hslave' : (d.step i).port.portState = .ptpSlave)
    (hi : ∀ m, ¬ i.IsFollowUp m) : d.KeepsReceiptTimer (d.step i) := by
  obtain ⟨stimulus, env⟩ := i
  cases stimulus with
  | event e =>
    exact processEvent_keepsReceiptTimer env (d := { d with effects := [] }) hauto hprio hslave
      hslave'
  | timer k =>
    cases ht : d.timerq[k]? with
    | none =>
      have hstep : d.step ⟨.timer k, env⟩ = { d with effects := [] } := by simp only [step, ht]
      rw [hstep]
      exact .inl rfl
    | some t =>
      let popped : Daemon F := { d with effects := [], timerq := d.timerq.eraseIdx k }
      have hstep : d.step ⟨.timer k, env⟩ = popped.processEvent env t.event := by
        simp only [step, ht, popped]
      rw [hstep] at hslave' ⊢
      -- popping takes a timer of the fired event, which is another one unless the port becomes a master
      by_cases he : t.event = .syncReceiptTimeoutExpires
      · have hmaster := portState_receiptTimeout (d := popped) env (.inr he) hauto hprio hslave
        exact absurd (hmaster.symm.trans hslave') (by decide)
      · have hkeeps := processEvent_keepsReceiptTimer (d := popped) env hauto hprio hslave hslave'
        exact hkeeps.imp_left fun h => h.trans (timersOf_eraseIdx_of_ne ht he [])
  | receive msg linkSpeed =>
    refine .inl (timersOf_processMessage env (fun m hm => hi m ⟨linkSpeed, ?_⟩) _)
    rw [compensate_eq_followUp.mp hm]
  | setLinkSpeed linkSpeed => exact .inl rfl

/-- A slave that has handled a Follow_Up has a receipt timer exactly if it accepted the message. -/
theorem receiptPending_step {d : Daemon F} {i : Input} {m : PTPMessageFollowUp}
    (hslave : d.port.portState = .ptpSlave) (hslave' : (d.step i).port.portState = .ptpSlave)
    (hi : i.IsFollowUp m) : (d.step i).receiptPending ↔ d.acceptsFollowUp m := by
  obtain ⟨linkSpeed, hi⟩ := hi
  rw [step_of_followUp hi] at hslave' ⊢
  exact receiptPending_processFollowUp (d := { d with effects := [] }) hslave hslave'

end Daemon

/-! ### Runs -/

/-- **The receipt timer over a run.** Once a slave has accepted a Follow_Up, a Sync receipt timer is
pending at every later position, while the port stays slave, exactly if every Follow_Up received in
between is accepted too. -/
theorem receiptPending_iff (d₀ : Daemon F) (σ : ℕ → Input) (j n : ℕ)
    (hauto : d₀.port.cfg.automotiveProfile = false) (hprio : d₀.clock.cfg.priority1 ≠ 255)
    (hslave : ∀ k, j ≤ k → k ≤ n → ((machine F).stateAt d₀ σ k).port.portState = .ptpSlave)
    (haccepted : ∃ m, (σ j).IsFollowUp m ∧ ((machine F).stateAt d₀ σ j).acceptsFollowUp m) :
    (∀ k, j < k → k ≤ n → ((machine F).stateAt d₀ σ k).receiptPending) ↔
      ∀ k, j < k → k < n → ∀ m, (σ k).IsFollowUp m →
        ((machine F).stateAt d₀ σ k).acceptsFollowUp m := by
  have hauto' : ∀ k, ((machine F).stateAt d₀ σ k).port.cfg.automotiveProfile = false := by
    intro k
    rw [(stateAt_cfg d₀ σ k).2, hauto]
  have hprio' : ∀ k, ((machine F).stateAt d₀ σ k).clock.cfg.priority1 ≠ 255 := by
    intro k
    rw [(stateAt_cfg d₀ σ k).1]
    exact hprio
  constructor
  · intro hpending k hjk hkn m hm
    exact (Daemon.receiptPending_step (hslave k hjk.le hkn.le) (hslave (k + 1) (by omega) hkn)
      hm).mp (hpending (k + 1) (by omega) hkn)
  · intro haccepts k hjk hkn
    have harmed : ((machine F).stateAt d₀ σ (j + 1)).receiptPending := by
      obtain ⟨m, hm, haccepts'⟩ := haccepted
      exact (Daemon.receiptPending_step (hslave j le_rfl (by omega))
        (hslave (j + 1) (by omega) (by omega)) hm).mpr haccepts'
    refine Machine.invariant_from (M := machine F) (P := Daemon.receiptPending) hjk harmed ?_
    intro l hjl hlk hpending
    have hstep := hslave l (by omega) (by omega)
    have hstep' := hslave (l + 1) (by omega) (by omega)
    by_cases hm : ∃ m, (σ l).IsFollowUp m
    · obtain ⟨m, hm⟩ := hm
      exact (Daemon.receiptPending_step hstep hstep' hm).mpr (haccepts l hjl (by omega) m hm)
    · rw [not_exists] at hm
      rcases Daemon.step_keepsReceiptTimer (hauto' l) (hprio' l) hstep hstep' hm with hkept | harmed'
      · -- the timer that was pending is still there, and still one of this port
        obtain ⟨t, ht, hport⟩ := hpending
        rw [← hkept] at ht
        exact ⟨t, ht, hport.trans (congrArg PortConfig.ifindex (Daemon.step_cfg _ _).2.symm)⟩
      · exact harmed'

/-- A slave receives two messages after a Sync and its Follow_Up. -/
def receiptRun (third fourth : PTPMessage) : ℕ → Input
  | 0 => .message (.sync (neighborSync 1))
  | 1 => .message (.followUp (neighborFollowUp 1))
  | 2 => .message third
  | _ => .message fourth

/-- A second Sync with its Follow_Up keeps the timer pending. -/
theorem receiptPending_of_second_sync :
    ((machine ℚ).stateAt (Start.capable (some .ptpSlave)).daemon
      (receiptRun (.sync (neighborSync 2)) (.followUp (neighborFollowUp 2))) 4).receiptPending := by
  refine (receiptPending_iff _ _ 1 4 rfl (by decide) ?_ ⟨_, ⟨_, rfl⟩, by decide +kernel⟩).mpr ?_ 4
    (by decide) (by decide)
  · intro k hk hk'
    obtain rfl | rfl | rfl | rfl : k = 1 ∨ k = 2 ∨ k = 3 ∨ k = 4 := by omega
    all_goals decide +kernel
  · rintro k hk hk' m ⟨linkSpeed, hm⟩
    obtain rfl | rfl : k = 2 ∨ k = 3 := by omega
    · cases hm
    · cases hm
      decide +kernel

/-- The third message is a Follow_Up without a Sync. -/
def orphanRun : ℕ → Input :=
  receiptRun (.followUp (neighborFollowUp 2)) (.followUp (neighborFollowUp 3))

/-- **The lost timer.** A Follow_Up without a Sync leaves a slave without its receipt timer. -/
theorem orphan_followUp_loses_receiptTimer :
    let d := (machine ℚ).stateAt (Start.capable (some .ptpSlave)).daemon orphanRun
    (d 0).port.cfg.automotiveProfile = false ∧ (d 0).clock.cfg.priority1 ≠ 255 ∧
      (d 1).acceptsFollowUp (neighborFollowUp 1) ∧ (d 1).port.portState = .ptpSlave ∧
      (d 2).port.portState = .ptpSlave ∧ (d 2).receiptPending ∧
      (d 3).port.portState = .ptpSlave ∧ ¬ (d 3).receiptPending := by
  decide +kernel

end Gptp
