import Gptp.Port.MasterOrder
import Gptp.Port.StepFootprint
import Gptp.Safety.Grandmaster

/-!
# Role changes

What a change of role does to the rest of the port and the clock.

Best master selection on a clock with one port compares the clock with the announce of that port. The
comparison of fourteen octets is the lexicographic order of the attributes (`isBetterThan_iff`), and
the outcome (`Daemon.RoleAssigned`) sets the grandmaster data set, the role, the count of Syncs and
the syntonization set point together.

A port that becomes master puts its own clock in the place of the former grandmaster, and
`updateFUPInfo` is to be called whenever the time base changes. Of the three ways into the master
state, best master selection and a Follow_Up that takes over pass through `becomeMaster`, which makes
that call once; a receipt timeout assigns the state itself and does not make it
(`Daemon.timeBase_step`).
-/

namespace Gptp

open Framework

variable {F : Type}

/-! ### Best master selection on one port -/

namespace Daemon

/-- The clock itself is better than the grandmaster of an announce. -/
def Precedes (d : Daemon F) (a : PTPMessageAnnounce) : Prop :=
  d.clock.cfg.ownGrandmaster.priorityVector < a.grandmaster.priorityVector

/-- From `d` to `d'` the port has changed its role, or it is a slave and the announce names another
grandmaster than the one before. -/
def ResetsSync (a : PTPMessageAnnounce) (d d' : Daemon F) : Prop :=
  d'.port.portState ≠ d.port.portState ∨
    d'.port.portState = .ptpSlave ∧ a.grandmasterIdentity ≠ d.clock.lastEBestIdentity

/-- The outcome of a selection with the given EBest, from `d` to `d'`. -/
structure RoleAssigned (a : PTPMessageAnnounce) (d d' : Daemon F) : Prop where
  master : d.Precedes a →
    d'.clock.grandmaster = d.clock.cfg.ownGrandmaster ∧ d'.port.portState = .ptpMaster
  slave : ¬ d.Precedes a → d'.clock.grandmaster = a.grandmaster ∧ d'.port.portState = .ptpSlave
  lastEBestIdentity : d'.clock.lastEBestIdentity = a.grandmasterIdentity
  syncCount_reset : ResetsSync a d d' → d'.port.syncCount = 0
  syncCount_keep : ¬ ResetsSync a d d' → d'.port.syncCount = d.port.syncCount
  setPoint : d'.clock.newSyntonizationSetPoint ↔
    d.clock.newSyntonizationSetPoint ∨ ResetsSync a d d' ∧ d'.port.portState = .ptpSlave

variable [Platform F]

/-! What a recommendation does, for each of the two roles. -/

theorem portState_recommendMaster (changed : Bool) (d : Daemon F) :
    (d.recommendState .ptpMaster changed).port.portState = .ptpMaster := by
  unfold recommendState
  dsimp only
  split_ifs with h
  · exact portState_becomeMaster _
  · exact not_not.mp h

theorem portState_recommendSlave (changed : Bool) (d : Daemon F) :
    (d.recommendState .ptpSlave changed).port.portState = .ptpSlave := by
  unfold recommendState
  dsimp only
  split_ifs with h
  · exact portState_becomeSlave true d
  · exact not_not.mp h
  · exact not_not.mp h

theorem syncCount_recommendMaster (changed : Bool) (d : Daemon F) :
    (d.recommendState .ptpMaster changed).port.syncCount =
      if d.port.portState = .ptpMaster then d.port.syncCount else 0 := by
  unfold recommendState
  dsimp only
  rw [ite_not]
  split_ifs <;> rfl

theorem syncCount_recommendSlave (changed : Bool) (d : Daemon F) :
    (d.recommendState .ptpSlave changed).port.syncCount =
      if d.port.portState = .ptpSlave ∧ changed = false then d.port.syncCount else 0 := by
  unfold recommendState
  dsimp only
  cases changed <;> split_ifs <;> simp_all [setSyncCount]

theorem setPoint_recommendMaster (changed : Bool) (d : Daemon F) :
    (d.recommendState .ptpMaster changed).clock.newSyntonizationSetPoint =
      d.clock.newSyntonizationSetPoint := by
  unfold recommendState
  dsimp only
  split_ifs
  · have hmaster := modifies_becomeMaster (d.setPortState .ptpMaster) true .servo (by decide)
    exact congrArg Prod.fst hmaster
  · rfl

theorem setPoint_recommendSlave (changed : Bool) (d : Daemon F) :
    (d.recommendState .ptpSlave changed).clock.newSyntonizationSetPoint =
      if d.port.portState = .ptpSlave ∧ changed = false then d.clock.newSyntonizationSetPoint
      else true := by
  unfold recommendState
  dsimp only
  cases changed <;> split_ifs <;> simp_all [setSyncCount] <;> rfl

/-- The clock is better: it is the grandmaster, and its port master. -/
theorem roleAssigned_master {a : PTPMessageAnnounce} {d : Daemon F} (h : d.Precedes a) (changed : Bool) :
    RoleAssigned a d (((d.setLastEBestIdentity a.grandmasterIdentity).setGrandmaster
      d.clock.cfg.ownGrandmaster).recommendState .ptpMaster changed) := by
  -- the data sets are written before the role is recommended, and the port is untouched until then
  generalize hd₁ : (d.setLastEBestIdentity a.grandmasterIdentity).setGrandmaster
      d.clock.cfg.ownGrandmaster = d₁
  have hport : d₁.port = d.port := by rw [← hd₁]; rfl
  have hmodifies := d₁.modifies_recommendState .ptpMaster changed
  have hstate := d₁.portState_recommendMaster changed
  have hresets : ResetsSync a d (d₁.recommendState .ptpMaster changed) ↔
      ¬ d.port.portState = .ptpMaster := by
    simp [ResetsSync, hstate, eq_comm]
  have hcount := d₁.syncCount_recommendMaster changed
  rw [hport] at hcount
  refine ⟨fun _ => ⟨?_, hstate⟩, fun hn => absurd h hn, ?_, fun hreset => ?_, fun hkeep => ?_, ?_⟩
  · exact (hmodifies .grandmaster (by decide)).trans (by rw [← hd₁]; rfl)
  · exact (hmodifies .lastEBestIdentity (by decide)).trans (by rw [← hd₁]; rfl)
  · rw [hcount, if_neg (hresets.mp hreset)]
  · rw [hcount, if_pos (not_not.mp fun hn => hkeep (hresets.mpr hn))]
  · rw [d₁.setPoint_recommendMaster, hstate, ← hd₁]
    simp [setGrandmaster, setLastEBestIdentity]

/-- The clock is not better: the announce names the grandmaster, and the port is a slave. -/
theorem roleAssigned_slave {a : PTPMessageAnnounce} {d : Daemon F} (h : ¬ d.Precedes a) :
    RoleAssigned a d (((d.setLastEBestIdentity a.grandmasterIdentity).recommendState .ptpSlave
      (decide (a.grandmasterIdentity ≠ d.clock.lastEBestIdentity))).setGrandmaster a.grandmaster) := by
  generalize hd₁ : d.setLastEBestIdentity a.grandmasterIdentity = d₁
  generalize hchanged : decide (a.grandmasterIdentity ≠ d.clock.lastEBestIdentity) = changed
  have hport : d₁.port = d.port := by rw [← hd₁]; rfl
  have hsetPoint₁ : d₁.clock.newSyntonizationSetPoint = d.clock.newSyntonizationSetPoint := by
    rw [← hd₁]
    rfl
  -- a slave is recommended before the data set is written, so `changed` is the only link between the two
  have hmodifies := d₁.modifies_recommendState .ptpSlave changed
  have hstate := d₁.portState_recommendSlave changed
  have hresets : ResetsSync a d ((d₁.recommendState .ptpSlave changed).setGrandmaster a.grandmaster) ↔
      ¬ (d.port.portState = .ptpSlave ∧ changed = false) := by
    rw [ResetsSync, show ((d₁.recommendState .ptpSlave changed).setGrandmaster
      a.grandmaster).port.portState = .ptpSlave from hstate, not_and_or, ← hchanged]
    refine or_congr (not_congr eq_comm) ?_
    simp
  have hcount := d₁.syncCount_recommendSlave changed
  have hsetPoint := d₁.setPoint_recommendSlave changed
  rw [hport] at hcount hsetPoint
  rw [hsetPoint₁] at hsetPoint
  refine ⟨fun hp => absurd hp h, fun _ => ⟨rfl, hstate⟩, ?_, fun hreset => ?_, fun hkeep => ?_, ?_⟩
  · exact (hmodifies .lastEBestIdentity (by decide)).trans (by rw [← hd₁]; rfl)
  · exact hcount.trans (if_neg (hresets.mp hreset))
  · exact hcount.trans (if_pos (not_not.mp fun hn => hkeep (hresets.mpr hn)))
  · change (d₁.recommendState .ptpSlave changed).clock.newSyntonizationSetPoint = true ↔ _
    rw [hresets, hsetPoint]
    split_ifs with hsame
    · simp [hsame]
    · simp only [hsame, not_false_eq_true, true_and, true_iff]
      exact .inr hstate

/-- **The outcome of a selection.** -/
theorem roleAssigned_assignRole (a : PTPMessageAnnounce) (d : Daemon F) :
    RoleAssigned a d (d.assignRole a) := by
  unfold assignRole
  dsimp only
  split_ifs with hbetter
  · exact roleAssigned_master ((isBetterThan_iff d.clock a).mp hbetter) _
  · exact roleAssigned_slave fun h => hbetter ((isBetterThan_iff d.clock a).mpr h)

end Daemon

/-- **Best master selection on one port.** The call returns, and the grandmaster data set, the role, the
identity of EBest, the count of Syncs and the syntonization set point are those of `RoleAssigned`. -/
theorem Bridge.processStateChange_roleAssigned [Platform F] (b : Bridge F) (a : PTPMessageAnnounce)
    (hprio : b.clock.cfg.priority1 ≠ 255) (hregistered : b.registered = [1])
    (hdisabled : (b.ports 1).portState ≠ .ptpDisabled) (hfaulty : (b.ports 1).portState ≠ .ptpFaulty)
    (hannounce : (b.ports 1).qualifiedAnnounce = some a) :
    ∃ b', b.processStateChange = some b' ∧ Daemon.RoleAssigned a (b.view 1) (b'.view 1) := by
  have helig : b.eligible 1 = true := by
    simp [Bridge.eligible, PortState.ignoresMessages, hdisabled, hfaulty]
  have hchange := Bridge.processStateChange_single hregistered (by decide) hprio helig hannounce
  obtain ⟨b', hb', hview⟩ := Option.map_eq_some_iff.mp hchange
  refine ⟨b', hb', ?_⟩
  rw [hview]
  exact Daemon.roleAssigned_assignRole a (b.view 1)

/-- A clock whose one port, a slave of another grandmaster, has received the neighbour's Announce. -/
def Bridge.onePort : Bridge ℚ where
  clock := (Start.standard localIdentity).daemon.clock
  ports _ := { (Start.standard localIdentity).daemon.port with
    portState := .ptpSlave
    qualifiedAnnounce := some neighborAnnounce
    syncCount := 7 }
  registered := [1]
  timerq := []
  effects := []

/-- A slave that changes its master starts counting anew, and asks for a new set point. -/
theorem Bridge.onePort_roleAssigned :
    (∃ b', Bridge.onePort.processStateChange = some b' ∧
      Daemon.RoleAssigned neighborAnnounce (Bridge.onePort.view 1) (b'.view 1)) ∧
      (Bridge.onePort.processStateChange.map fun b' =>
        ((b'.ports 1).syncCount, b'.clock.newSyntonizationSetPoint)) = some (0, true) :=
  ⟨Bridge.processStateChange_roleAssigned Bridge.onePort neighborAnnounce (by decide) rfl
    (by decide) (by decide) rfl, by decide +kernel⟩

/-! ### The time base indicator -/

/-- The two receipt timeouts. -/
def Event.isReceiptTimeout : Event → Bool
  | .announceReceiptTimeoutExpires | .syncReceiptTimeoutExpires => true
  | _ => false

namespace Daemon

/-- From `d` to `d'` the port has become master. -/
def EntersMaster (d d' : Daemon F) : Prop :=
  d.port.portState ≠ .ptpMaster ∧ d'.port.portState = .ptpMaster

instance (d d' : Daemon F) : Decidable (d.EntersMaster d') := inferInstanceAs (Decidable (_ ∧ _))

/-- The `gmTimeBaseIndicator` of `fup_info`. -/
def timeBase (d : Daemon F) : UInt16 := d.clock.fupInfo.gmTimeBaseIndicator

/-- The input makes the port handle a receipt timeout. -/
def TimesOut (d : Daemon F) (i : Input) : Prop :=
  ∃ e, d.handledEvent i = some e ∧ e.isReceiptTimeout

theorem not_entersMaster_of_eq {d d' : Daemon F} (h : d'.port.portState = d.port.portState) :
    ¬ d.EntersMaster d' := by
  rintro ⟨hbefore, hafter⟩
  exact hbefore (h.symm.trans hafter)

/-- The events that can change the port state. -/
theorem resumes_or_of_mem_footprint {e : Event} (h : Location.portState ∈ e.footprint) :
    e.resumes ∨ e = .stateChangeEvent ∨ e.isReceiptTimeout := by
  cases e <;> revert h <;> decide

variable [Platform F]

theorem timeBase_becomeMaster (annc : Bool) (d : Daemon F) :
    (d.becomeMaster annc).timeBase = d.timeBase + 1 := by
  unfold becomeMaster
  dsimp only
  split <;> rfl

/-- A port that resumes its role becomes master only if it is. -/
theorem not_entersMaster_resumeRole (d : Daemon F) : ¬ d.EntersMaster d.resumeRole := by
  rintro ⟨hbefore, hafter⟩
  unfold resumeRole at hafter
  split_ifs at hafter with hslave
  · exact absurd ((portState_becomeSlave true d).symm.trans hafter) (by decide)
  · exact hbefore hafter

theorem not_entersMaster_of_resumes {e : Event} (he : e.resumes) (env : Env) (d : Daemon F) :
    ¬ d.EntersMaster (d.processEvent env e) := by
  have hpowerup : (d.resumeRole.mediaPowerup env).1.port.portState = d.resumeRole.port.portState :=
    modifies_mediaPowerup _ env .portState (by decide)
  rintro ⟨hbefore, hafter⟩
  cases e with
  | powerup => exact not_entersMaster_resumeRole d ⟨hbefore, hpowerup.symm.trans hafter⟩
  | initializeEvent => exact not_entersMaster_resumeRole d ⟨hbefore, hpowerup.symm.trans hafter⟩
  | linkup =>
    -- requests are started before the role is resumed, and the automotive profile adds its own actions
    generalize hd₁ : (d.haltPdelay false).startPDelay = d₁
    have hstate₁ : d₁.port.portState = d.port.portState := by
      rw [← hd₁]
      exact modifies_startPDelay (d.haltPdelay false) .portState (by decide)
    have hlinkup : d.mediaLinkup.port.portState = d₁.resumeRole.port.portState := by
      unfold mediaLinkup
      rw [hd₁]
      dsimp only
      split
      · exact modifies_automotiveLinkup d₁.resumeRole .portState (by decide)
      · rfl
    exact not_entersMaster_resumeRole d₁ ⟨hstate₁ ▸ hbefore, hlinkup.symm.trans hafter⟩
  | _ => cases he

/-- Best master selection. -/
theorem timeBase_processStateChange {d : Daemon F} (h : d.EntersMaster d.processStateChange) :
    d.processStateChange.timeBase = d.timeBase + 1 := by
  rw [processStateChange_eq] at h ⊢
  split_ifs at h ⊢
  · exact absurd h (not_entersMaster_of_eq rfl)
  cases hannounce : d.port.qualifiedAnnounce with
  | none =>
    rw [hannounce] at h
    exact absurd h (not_entersMaster_of_eq rfl)
  | some a =>
    rw [hannounce] at h
    obtain ⟨hbefore, hafter⟩ := h
    dsimp only at hafter ⊢
    unfold assignRole at hafter ⊢
    dsimp only at hafter ⊢
    split_ifs at hafter ⊢
    · -- the own clock is better: the port was no master, so it becomes one
      generalize hd₁ : (d.setLastEBestIdentity a.grandmasterIdentity).setGrandmaster
        d.clock.cfg.ownGrandmaster = d₁
      have hbefore₁ : d₁.port.portState ≠ .ptpMaster := by rwa [← hd₁]
      have htimeBase₁ : d₁.timeBase = d.timeBase := by rw [← hd₁]; rfl
      unfold recommendState
      dsimp only
      rw [if_pos hbefore₁, ← htimeBase₁]
      exact timeBase_becomeMaster true (d₁.setPortState .ptpMaster)
    · -- the announce is better: the port ends as a slave
      have hstate := portState_recommendSlave
        (decide (a.grandmasterIdentity ≠ d.clock.lastEBestIdentity))
        (d.setLastEBestIdentity a.grandmasterIdentity)
      exact absurd (hstate.symm.trans hafter) (by decide)

/-- A Follow_Up that takes over. -/
theorem timeBase_processFollowUp {env : Env} {m : PTPMessageFollowUp} {d : Daemon F}
    (h : d.EntersMaster (d.processFollowUp env m).1) :
    (d.processFollowUp env m).1.timeBase = d.timeBase + 1 := by
  have hcase := d.processFollowUp_cases env m
  generalize d.processFollowUp env m = ended at hcase h ⊢
  cases hcase with
  | ignored => exact absurd h (not_entersMaster_of_eq rfl)
  | orphan => exact absurd h (not_entersMaster_of_eq rfl)
  | wrong =>
    unfold wrongFollowUp at h ⊢
    split_ifs at h ⊢
    · exact absurd h (not_entersMaster_of_eq rfl)
    · exact timeBase_becomeMaster true d.stopSyncReceiptTimer
  | stale => exact absurd h (not_entersMaster_of_eq rfl)
  | @used sync =>
    have hstate := d.stopSyncReceiptTimer.portState_processFollowUpAt env m sync.timestamp none
    exact absurd h (not_entersMaster_of_eq hstate)

/-- An event that makes the port master counts one time base, unless it is a receipt timeout. -/
theorem timeBase_processEvent {env : Env} {e : Event} {d : Daemon F}
    (h : d.EntersMaster (d.processEvent env e)) :
    (d.processEvent env e).timeBase = d.timeBase + if e.isReceiptTimeout then 0 else 1 := by
  have hmodifies := processEvent_modifies env e d
  -- the footprint rules out all events but a few
  have hstate : Location.portState ∈ e.footprint := by
    by_contra hnot
    exact not_entersMaster_of_eq (hmodifies .portState hnot) h
  rcases resumes_or_of_mem_footprint hstate with hresumes | rfl | htimeout
  · exact absurd h (not_entersMaster_of_resumes hresumes env d)
  · rw [if_neg (by decide)]
    rw [processEvent_stateChangeEvent] at h ⊢
    split_ifs at h ⊢
    · exact absurd h (not_entersMaster_of_eq rfl)
    · exact timeBase_processStateChange h
  · -- a receipt timeout does not write the TLV at all
    have hfup : Location.fupInfo ∉ e.footprint := by
      cases e <;> revert htimeout <;> decide
    rw [if_pos htimeout, UInt16.add_zero]
    exact congrArg FollowUpTLV.gmTimeBaseIndicator (hmodifies .fupInfo hfup)

/-- Of the messages only a Follow_Up makes the port master. -/
theorem followUp_of_entersMaster {d : Daemon F} {i : Input} (h : d.EntersMaster (d.step i))
    (hnone : d.handledEvent i = none) :
    ∃ m linkSpeed, i.stimulus = .receive (.followUp m) linkSpeed := by
  by_contra hnot
  -- no other message has the state in its footprint
  refine not_entersMaster_of_eq (read_step (l := .portState) ?_ ?_ (by decide)) h
  · intro e he
    rw [hnone] at he
    cases he
  · intro msg linkSpeed hi _
    cases msg with
    | followUp m => exact absurd ⟨m, linkSpeed, hi⟩ hnot
    | _ => dsimp only [PTPMessage.footprint]; decide

/-- **Step lemma.** A step that makes the port master adds one to the time base indicator exactly if
it does not handle a receipt timeout. -/
theorem timeBase_step {d : Daemon F} {i : Input} (h : d.EntersMaster (d.step i)) :
    (d.step i).timeBase = d.timeBase + 1 ↔ ¬ d.TimesOut i := by
  cases hhandled : d.handledEvent i with
  | some e =>
    obtain ⟨d₀, hclock, hport, hstep⟩ := step_of_handledEvent hhandled
    have htimeBase₀ : d₀.timeBase = d.timeBase := by rw [timeBase, hclock]; rfl
    have henters : d₀.EntersMaster (d₀.processEvent i.env e) := by
      rwa [EntersMaster, hport, ← hstep]
    have hevent := timeBase_processEvent henters
    rw [← hstep, htimeBase₀] at hevent
    have htimesOut : d.TimesOut i ↔ e.isReceiptTimeout := by
      simp [TimesOut, hhandled]
    rw [htimesOut, hevent]
    cases e.isReceiptTimeout <;> simp
  | none =>
    -- no event is handled, so it was a Follow_Up that took over
    obtain ⟨m, linkSpeed, hi⟩ := followUp_of_entersMaster h hhandled
    have hstep := step_of_followUp (d := d) hi
    refine iff_of_true ?_ ?_
    · rw [hstep] at h ⊢
      exact timeBase_processFollowUp (d := { d with effects := [] }) h
    · rintro ⟨e, he, -⟩
      rw [hhandled] at he
      cases he

end Daemon

/-- **The time base indicator counts the take-overs of a run exactly if none is due to a receipt
timeout.** -/
theorem timeBase_incremented_iff [Platform F] (d₀ : Daemon F) (σ : ℕ → Input) (n : ℕ) :
    (∀ k < n, let d := (machine F).stateAt d₀ σ k
      d.EntersMaster (d.step (σ k)) → (d.step (σ k)).timeBase = d.timeBase + 1) ↔
    ∀ k < n, let d := (machine F).stateAt d₀ σ k
      d.EntersMaster (d.step (σ k)) → ¬ d.TimesOut (σ k) := by
  refine forall₂_congr fun k _ => ?_
  exact forall_congr' fun h => Daemon.timeBase_step h

/-- The daemon is started and hears no Announce. -/
def silentNetwork : ℕ → Input
  | 0 => .ofEvent .powerup
  | _ => .expiry 0

/-- **A receipt timeout is not counted.** A port on a silent network becomes master with the indicator it
started with. -/
theorem silentNetwork_timeBase :
    let d := (machine ℚ).stateAt (Start.standard localIdentity).daemon silentNetwork
    (machine ℚ).Delivers (Start.standard localIdentity).daemon silentNetwork 2 ∧
      (d 1).EntersMaster (d 2) ∧ (d 2).timeBase = (d 1).timeBase := by
  decide +kernel

end Gptp
