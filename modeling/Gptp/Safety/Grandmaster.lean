import Gptp.Safety.Transmission

/-!
# The grandmaster named in Announce messages

An Announce carries the local priorities and clock quality, but the grandmaster identity is read from
the grandmaster data set. The best master clock algorithm and the receipt timeouts set that data set
before the port becomes master; a master that resumes its role at POWERUP or LINKUP, a Follow_Up that
takes over, and a Signalling message do not.

* `Role.OwnAnnounce`: Announce timers are pending only in a master whose grandmaster is itself. Every
  step keeps this except those in `Daemon.ArmsForeignAnnounce`.
-/

namespace Gptp

open Framework

variable {F : Type}

/-- Events at which a port takes up its role again. -/
def Event.resumes : Event → Bool
  | .powerup | .initializeEvent | .linkup => true
  | _ => false

/-- The grandmaster data set names another clock. -/
def Daemon.ForeignGrandmaster (d : Daemon F) : Prop :=
  d.clock.grandmaster.clockIdentity ≠ d.clock.cfg.clockIdentity

/-- The input may start the Announce timer of a port that is not master, or whose grandmaster data
set names another clock. -/
def Daemon.ArmsForeignAnnounce (d : Daemon F) (i : Input) : Prop :=
  (∃ e, d.handledEvent i = some e ∧ e.resumes ∧ d.port.portState = .ptpMaster ∧
    d.ForeignGrandmaster) ∨
  (d.FollowUpTakesOver i ∧ d.ForeignGrandmaster) ∨
  ∃ m linkSpeed, i.stimulus = .receive (.signalling m) linkSpeed ∧ armsAnnounce d.port.cfg m ∧
    (d.port.portState ≠ .ptpMaster ∨ d.ForeignGrandmaster)

/-- The grandmaster data set names the clock itself. -/
def Role.NamesItself (r : Role) : Prop := r.grandmaster.clockIdentity = r.clockCfg.clockIdentity

/-- Announce timers are pending only in a master whose grandmaster is itself. -/
def Role.OwnAnnounce (r : Role) : Prop :=
  0 < r.announceTimers → r.portState = .ptpMaster ∧ r.NamesItself

theorem Role.OwnAnnounce.becomeSlave (c : Core F) : c.becomeSlave.toRole.OwnAnnounce :=
  fun h => absurd h (lt_irrefl 0)

theorem Role.OwnAnnounce.resumeRole {c : Core F} (h : c.toRole.OwnAnnounce)
    (hresume : c.portState = .ptpMaster → c.toRole.NamesItself) :
    c.resumeRole.toRole.OwnAnnounce := by
  unfold Core.resumeRole
  split_ifs with hslave hmaster
  · exact becomeSlave c
  · exact fun _ => ⟨rfl, hresume hmaster⟩
  · exact h

variable [Platform F]

/-- Events keep `OwnAnnounce`, as long as a master that resumes its role names itself. -/
theorem EventStep.ownAnnounce {e : Event} {c c' : Core F} (h : EventStep e c c')
    (hinv : c.toRole.OwnAnnounce)
    (hresume : e.resumes → c.portState = .ptpMaster → c.toRole.NamesItself)
    (hfired : e = .announceIntervalTimeoutExpires →
      c.portState = .ptpMaster ∧ c.toRole.NamesItself) : c'.toRole.OwnAnnounce := by
  have hrole := h.role
  generalize c'.toRole = r at hrole ⊢
  cases hrole with
  | keep => exact hinv
  | resume he => exact hinv.resumeRole (hresume (by rcases he with rfl | rfl | rfl <;> rfl))
  | stateChange better m =>
    unfold Core.assignRole Core.recommendMaster Core.recommendSlave
    split_ifs with hbetter hmaster hslave
    · -- already master: the data set now names the clock itself
      exact fun _ => ⟨hmaster, rfl⟩
    · exact fun _ => ⟨rfl, rfl⟩
    · -- already slave: no Announce timer is pending
      intro htimers
      have hstate := (hinv htimers).1
      rw [show c.portState = .ptpSlave from hslave] at hstate
      cases hstate
    · exact fun h => absurd h (lt_irrefl 0)
  | receiptTimeout => exact fun _ => ⟨rfl, rfl⟩
  | announceInterval => exact fun _ => hfired rfl
  | syncInterval => exact hinv

/-- **Step lemma.** A delivered input keeps `OwnAnnounce`, unless it may start the Announce timer of a
port that does not name itself. -/
theorem Daemon.step_ownAnnounce {d : Daemon F} {i : Input} (henabled : d.enabled i)
    (hcond : ¬ d.ArmsForeignAnnounce i) (hinv : d.core.toRole.OwnAnnounce) :
    (d.step i).core.toRole.OwnAnnounce := by
  obtain ⟨hresume, htake, hsignal⟩ : _ ∧ _ ∧ _ := by
    simpa only [ArmsForeignAnnounce, not_or] using hcond
  -- a resuming master names itself
  have hown {e : Event} (he : d.label i = .event e ∨ d.label i = .timer e) (hresumes : e.resumes)
      (hmaster : d.core.portState = .ptpMaster) : d.core.toRole.NamesItself := by
    by_contra hforeign
    exact hresume ⟨e, handledEvent_eq_some.mpr he, hresumes, hmaster, hforeign⟩
  have hstep := d.step_core i
  generalize (d.step i).core = c' at hstep ⊢
  generalize hlabel : d.label i = l at hstep
  cases hstep with
  | event h =>
    refine h.ownAnnounce hinv (hown (.inl hlabel)) ?_
    rintro rfl
    cases isExternal_of_label_event henabled hlabel
  | @timer e _ c₀ _ hpop h =>
    rw [Core.toRole_of_pop hpop] at hinv hown
    refine h.ownAnnounce (fun htimers => hinv (Nat.add_pos_left htimers _)) (hown (.inr hlabel)) ?_
    rintro rfl
    -- the timer that fired was pending
    exact hinv (Nat.succ_pos _)
  | receive h =>
    rcases h.role with ⟨m, rfl, htakes, hrole⟩ | ⟨m, rfl, hrole⟩ | ⟨-, hrole⟩
    · rw [hrole]
      refine fun _ => ⟨rfl, ?_⟩
      by_contra hforeign
      exact htake ⟨(followUpTakesOver_iff d i).mpr ⟨m, hlabel, htakes⟩, hforeign⟩
    · obtain ⟨msg, linkSpeed, hi, hmsg⟩ := stimulus_of_label_receive hlabel
      rw [compensate_eq_signalling] at hmsg
      subst hmsg
      rw [hrole]
      by_cases harms : armsAnnounce d.port.cfg m
      · refine fun _ => ⟨?_, ?_⟩ <;> by_contra h
        · exact hsignal ⟨m, linkSpeed, hi, harms, .inl h⟩
        · exact hsignal ⟨m, linkSpeed, hi, harms, .inr h⟩
      · have hkeep : ¬ armsAnnounce d.core.clear.portCfg m := harms
        intro htimers
        rw [Core.signalled_announceTimers, if_neg hkeep] at htimers
        exact hinv htimers
    · rw [hrole]
      exact hinv
  | idle => exact hinv

/-- **Announces name the local clock.** In every run in which no input may start the Announce timer of
a port that is not master or does not name itself, every Announce names the local clock, with its
priorities, its quality and no steps removed. -/
theorem announce_names_local_clock (s : Start F) (σ : ℕ → Input) (n : ℕ)
    (hdelivers : (machine F).Delivers s.daemon σ n)
    (hcond : ∀ k < n, ¬ ((machine F).stateAt s.daemon σ k).ArmsForeignAnnounce (σ k)) :
    ∀ k < n, ∀ m, .send (.announce m) ∈ ((machine F).stateAt s.daemon σ (k + 1)).effects →
      m.grandmasterIdentity = s.clockConfig.clockIdentity ∧
      m.grandmasterPriority1 = s.clockConfig.priority1 ∧
      m.grandmasterPriority2 = s.clockConfig.priority2 ∧
      m.grandmasterClockQuality = s.clockConfig.clockQuality ∧ m.stepsRemoved = 0 := by
  have hinv := Machine.invariant (M := machine F) (s := s.daemon) (σ := σ) (n := n)
    (P := fun d => d.core.toRole.OwnAnnounce) (fun h => absurd h (lt_irrefl 0))
    fun k hk h => Daemon.step_ownAnnounce (hdelivers k hk) (hcond k hk) h
  intro k hk m hm
  have hcfg : ((machine F).stateAt s.daemon σ k).clock.cfg = s.clockConfig :=
    (stateAt_cfg s.daemon σ k).1.trans s.daemon_cfg.1
  obtain ⟨e, hlabel, hexplains⟩ := Daemon.step_explains _ (σ k) hm
    (Effect.not_isSilent_of_transmits (.inr rfl))
  obtain ⟨rfl, -, m', hm', hann⟩ := hexplains.announce rfl
  obtain rfl : m = m' := PTPMessage.announce.inj (Effect.send.inj hm')
  -- the interval timer has been pending, so the invariant names the own clock
  obtain ⟨-, hitself⟩ := hinv k hk.le (Daemon.pending_of_label (hdelivers k hk) hlabel rfl)
  have hconfig : ((machine F).stateAt s.daemon σ k).core.clockCfg = s.clockConfig := hcfg
  refine ⟨?_, ?_, ?_, ?_, hann.stepsRemoved⟩
  · rw [hann.identity, hitself, hconfig]
  · rw [hann.priority1, hconfig]
  · rw [hann.priority2, hconfig]
  · rw [hann.quality, hconfig]

/-- POWERUP, the announce receipt timeout, and the first Announce interval after it. -/
def timeoutRun : ℕ → Input
  | 0 => .ofEvent .powerup
  | 1 => .expiry 0
  | _ => .expiry 3

/-- A daemon that becomes master by the receipt timeout announces itself. -/
theorem timeout_master_announces_itself :
    ∃ m, .send (.announce m) ∈
        ((machine ℚ).stateAt (Start.capable none).daemon timeoutRun 3).effects ∧
      m.grandmasterIdentity = localIdentity ∧ m.grandmasterPriority1 = 248 ∧
      m.grandmasterPriority2 = 248 ∧ m.grandmasterClockQuality = ⟨248, 0x22, 0x436A⟩ ∧
      m.stepsRemoved = 0 := by
  have hannounce : ∃ x ∈ ((machine ℚ).stateAt (Start.capable none).daemon timeoutRun 3).effects,
      x.isAnnounce := by decide
  obtain ⟨x, hx, hx'⟩ := hannounce
  obtain ⟨m, rfl⟩ : ∃ m, x = .send (.announce m) := Effect.eq_send_of_isAnnounce hx'
  refine ⟨m, hx, announce_names_local_clock (Start.capable none) timeoutRun 3 (by decide) ?_ 2
    (by decide) m hx⟩
  rintro k hk (⟨e, he, hresumes, hmaster, -⟩ | ⟨⟨_, _, _, hi, -⟩, -⟩ | ⟨_, _, hi, -⟩)
  · -- only POWERUP resumes a role, and it is handled before the port is master
    match k, hk with
    | 0, _ => exact absurd hmaster (by decide)
    | 1, _ =>
      have htimer : ((machine ℚ).stateAt (Start.capable none).daemon timeoutRun 1).handledEvent
        (timeoutRun 1) = some .announceReceiptTimeoutExpires := by decide
      obtain rfl := Option.some.inj (htimer.symm.trans he)
      cases hresumes
    | 2, _ =>
      have htimer : ((machine ℚ).stateAt (Start.capable none).daemon timeoutRun 2).handledEvent
        (timeoutRun 2) = some .announceIntervalTimeoutExpires := by decide
      obtain rfl := Option.some.inj (htimer.symm.trans he)
      cases hresumes
  · unfold timeoutRun at hi
    split at hi <;> cases hi
  · unfold timeoutRun at hi
    split at hi <;> cases hi

/-- A daemon forced into the master state announces a grandmaster that is not its own clock. -/
theorem forced_master_announces_another :
    (Start.capable (some .ptpMaster)).clockConfig.priority1 ≠ 255 ∧
      (Start.capable (some .ptpMaster)).portConfig.automotiveProfile = false ∧
      (machine ℚ).Delivers (Start.capable (some .ptpMaster)).daemon forcedRun 2 ∧
      ∃ m, .send (.announce m) ∈
          ((machine ℚ).stateAt (Start.capable (some .ptpMaster)).daemon forcedRun 2).effects ∧
        m.grandmasterIdentity ≠ (Start.capable (some .ptpMaster)).clockConfig.clockIdentity := by
  refine ⟨by decide, rfl, by decide, _, .head _, by decide⟩

end Gptp
