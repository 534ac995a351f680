import Gptp.Port.Publication
import Gptp.Safety.RoleChange

/-!
# The grandmaster a slave publishes

What is published is the grandmaster data set, and only the best master selection puts the identity of
another clock into it. The selection returns at once in a clock with priority1 255, and it does not see a
port whose index is not in the port table. Such a port can still be a slave: its clients are then told
the identity the data set was constructed with.

* `Role.FollowsOnly`: as long as the port is slave, or the clock slave-only, the grandmaster is a given
  one. Every step keeps it except a state change with another announce (`Daemon.step_followsOnly_of_ne`,
  `Daemon.step_followsOnly_of_idle`), and a state change with an announce establishes it for the grandmaster
  of that announce (`Daemon.followsOnly_of_stateChange`).
* `publishedGrandmaster_iff`: what is published is the grandmaster of the announce, unless the selection
  does not run.
-/

namespace Gptp

open Framework

variable {F : Type}

/-- A slave port, and a slave-only clock in any state, has the grandmaster `g`. -/
def Role.FollowsOnly (g : GrandmasterInfo) (r : Role) : Prop :=
  r.portState = .ptpSlave ∨ r.clockCfg.priority1 = 255 → r.grandmaster = g

namespace Role.FollowsOnly

variable {g : GrandmasterInfo} {c : Core F}

theorem becomeMaster (h : c.toRole.FollowsOnly g) : c.becomeMaster.toRole.FollowsOnly g := by
  rintro (hstate | hprio)
  · cases hstate
  · exact h (.inr hprio)

theorem resumeRole (h : c.toRole.FollowsOnly g) : c.resumeRole.toRole.FollowsOnly g := by
  unfold Core.resumeRole
  split_ifs with hslave hmaster
  · exact fun _ => h hslave.symm
  · exact becomeMaster h
  · exact h

end Role.FollowsOnly

variable [Platform F]

/-- Only a state change gives a slave another grandmaster. -/
theorem EventStep.followsOnly {e : Event} {c c' : Core F} {g : GrandmasterInfo}
    (h : EventStep e c c') (he : e ≠ .stateChangeEvent) (hinv : c.toRole.FollowsOnly g) :
    c'.toRole.FollowsOnly g := by
  have hrole := h.role
  generalize c'.toRole = r at hrole ⊢
  cases hrole with
  | keep => exact hinv
  | resume => exact hinv.resumeRole
  | stateChange => exact absurd rfl he
  | receiptTimeout _ hprio =>
    -- the clock names itself, and is master
    rintro (hstate | hprio')
    · cases hstate
    · exact absurd hprio' hprio
  | announceInterval => exact hinv
  | syncInterval => exact hinv

namespace Daemon

variable {d : Daemon F} {i : Input} {g : GrandmasterInfo}

theorem step_followsOnly_of_ne (hne : d.handledEvent i ≠ some .stateChangeEvent)
    (hinv : d.core.toRole.FollowsOnly g) : (d.step i).core.toRole.FollowsOnly g := by
  have hstep := d.step_core i
  generalize (d.step i).core = c' at hstep ⊢
  generalize hlabel : d.label i = l at hstep
  cases hstep with
  | event h =>
    refine h.followsOnly ?_ hinv
    rintro rfl
    exact hne (handledEvent_eq_some.mpr (.inl hlabel))
  | timer hpop h =>
    rw [Core.toRole_of_pop hpop] at hinv
    refine h.followsOnly ?_ hinv
    rintro rfl
    exact hne (handledEvent_eq_some.mpr (.inr hlabel))
  | receive h =>
    rcases h.role with ⟨m, -, -, hrole⟩ | ⟨m, -, hrole⟩ | ⟨-, hrole⟩
    · -- a Follow_Up that takes over leaves the data set as it is
      rw [hrole]
      exact Role.FollowsOnly.becomeMaster hinv
    · rw [hrole]
      exact hinv
    · rw [hrole]
      exact hinv
  | idle => exact hinv

/-- **What a state change does to the grandmaster.** A selection that runs leaves a port that is master
or follows the announce. -/
theorem followsOnly_of_stateChange (hevent : d.handledEvent i = some .stateChangeEvent)
    (hauto : d.port.cfg.automotiveProfile = false) (hprio : d.clock.cfg.priority1 ≠ 255)
    (hindex : d.port.cfg.ifindex < maxPorts) {a : PTPMessageAnnounce}
    (ha : d.port.qualifiedAnnounce = some a) :
    (d.step i).core.toRole.FollowsOnly a.grandmaster := by
  -- the clock is not slave-only, so only a slave is of interest
  intro hfollows
  have hslave : (d.step i).port.portState = .ptpSlave := by
    refine hfollows.resolve_right fun hslaveOnly => hprio ?_
    rwa [show (d.step i).core.clockCfg = d.clock.cfg from (d.step_cfg i).1] at hslaveOnly
  obtain ⟨d₀, hclock, hport, hstep⟩ := step_of_handledEvent hevent
  rw [← hport] at hauto hindex ha
  rw [← hclock] at hprio
  change (d.step i).clock.grandmaster = a.grandmaster
  rw [hstep, processEvent_stateChangeEvent, hauto, if_neg Bool.false_ne_true,
    processStateChange_eq] at hslave ⊢
  split_ifs at hslave ⊢ with hidle
  · -- a disabled or faulty port takes no part, and is not slave
    have hignores := (hidle.resolve_left hprio).resolve_left hindex.not_ge
    rw [hslave] at hignores
    cases hignores
  · rw [ha] at hslave ⊢
    have hassigned := roleAssigned_assignRole a d₀
    refine (hassigned.slave fun hprecedes => ?_).1
    have hmaster := (hassigned.master hprecedes).2
    rw [hslave] at hmaster
    cases hmaster

/-- Where the selection does not run, no step gives a slave another grandmaster. -/
theorem step_followsOnly_of_idle
    (hidle : d.clock.cfg.priority1 = 255 ∨ maxPorts ≤ d.port.cfg.ifindex)
    (hinv : d.core.toRole.FollowsOnly g) : (d.step i).core.toRole.FollowsOnly g := by
  by_cases hevent : d.handledEvent i = some .stateChangeEvent
  · obtain ⟨d₀, hclock, hport, hstep⟩ := step_of_handledEvent hevent
    have hkeep : d₀.processEvent i.env .stateChangeEvent = d₀ := by
      rw [processEvent_stateChangeEvent, processStateChange_eq, hclock, hport,
        if_pos (hidle.imp_right .inl), ite_self]
    rw [hstep, hkeep]
    change d₀.port.portState = .ptpSlave ∨ d₀.clock.cfg.priority1 = 255 → d₀.clock.grandmaster = g
    rw [hclock, hport]
    exact hinv
  · exact step_followsOnly_of_ne hevent hinv

end Daemon

/-! ### Runs -/

/-- The state change after the announce `a` has been handled before position `k`, and every later one has
found the same announce. -/
def SettledOn (d₀ : Daemon F) (σ : ℕ → Input) (k : ℕ) (a : PTPMessageAnnounce) : Prop :=
  let d := (machine F).stateAt d₀ σ
  ∃ j < k, (d j).handledEvent (σ j) = some .stateChangeEvent ∧
    ∀ l < k, j ≤ l → (d l).handledEvent (σ l) = some .stateChangeEvent →
      (d l).port.qualifiedAnnounce = some a

/-- A slave that has settled on `a` publishes the grandmaster identity `grandmaster` at position `k`. -/
structure PublishesFor (d₀ : Daemon F) (σ : ℕ → Input) (k : ℕ) (a : PTPMessageAnnounce)
    (grandmaster : ClockIdentity) : Prop where
  settled : SettledOn d₀ σ k a
  slave : ((machine F).stateAt d₀ σ k).port.portState = .ptpSlave
  published : ∃ u, .ipcUpdate u grandmaster ∈ ((machine F).stateAt d₀ σ (k + 1)).effects

section Runs

variable {s : Start F} {σ : ℕ → Input} {k : ℕ} {a : PTPMessageAnnounce} {grandmaster : ClockIdentity}

/-- A slave publishes the one grandmaster it follows. -/
theorem PublishesFor.eq_of_followsOnly {d₀ : Daemon F} (h : PublishesFor d₀ σ k a grandmaster)
    {g : GrandmasterInfo} (hinv : ((machine F).stateAt d₀ σ k).core.toRole.FollowsOnly g) :
    grandmaster = g.clockIdentity := by
  obtain ⟨u, hu⟩ := h.published
  rw [Daemon.publications_step _ hu]
  exact congrArg GrandmasterInfo.clockIdentity (hinv (.inl h.slave))

/-- With the selection running, a port that has settled on `a` follows its grandmaster. -/
theorem SettledOn.followsOnly (h : SettledOn s.daemon σ k a)
    (hauto : s.portConfig.automotiveProfile = false) (hprio : s.clockConfig.priority1 ≠ 255)
    (hindex : s.portConfig.ifindex < maxPorts) :
    ((machine F).stateAt s.daemon σ k).core.toRole.FollowsOnly a.grandmaster := by
  obtain ⟨j, hjk, hevent, hannounce⟩ := h
  have hselect (l : ℕ) (hjl : j ≤ l) (hlk : l < k)
      (hl : ((machine F).stateAt s.daemon σ l).handledEvent (σ l) = some .stateChangeEvent) :
      ((machine F).stateAt s.daemon σ (l + 1)).core.toRole.FollowsOnly a.grandmaster := by
    obtain ⟨hclock, hport⟩ := stateAt_cfg s.daemon σ l
    refine Daemon.followsOnly_of_stateChange hl ?_ ?_ ?_ (hannounce l hlk hjl hl)
    · rwa [hport, s.daemon_cfg.2]
    · rwa [hclock, s.daemon_cfg.1]
    · rwa [hport, s.daemon_cfg.2]
  -- established by the state change, and kept or established anew by every later step
  refine Machine.invariant_from (M := machine F)
    (P := fun d => d.core.toRole.FollowsOnly a.grandmaster) hjk (hselect j le_rfl hjk hevent) ?_
  intro l hjl hlk hinv
  by_cases hl : ((machine F).stateAt s.daemon σ l).handledEvent (σ l) = some .stateChangeEvent
  · exact hselect l ((Nat.le_succ j).trans hjl) hlk hl
  · exact Daemon.step_followsOnly_of_ne hl hinv

/-- Without the selection, a slave follows the grandmaster the clock was constructed with. -/
theorem followsOnly_of_idle (σ : ℕ → Input) (k : ℕ)
    (hidle : s.clockConfig.priority1 = 255 ∨ maxPorts ≤ s.portConfig.ifindex) :
    ((machine F).stateAt s.daemon σ k).core.toRole.FollowsOnly s.daemon.clock.grandmaster := by
  refine Machine.invariant (M := machine F) (n := k)
    (P := fun d => d.core.toRole.FollowsOnly s.daemon.clock.grandmaster) (fun _ => rfl) ?_ k le_rfl
  intro l _ hinv
  refine Daemon.step_followsOnly_of_idle ?_ hinv
  obtain ⟨hclock, hport⟩ := stateAt_cfg s.daemon σ l
  rwa [hclock, hport, s.daemon_cfg.1, s.daemon_cfg.2]

theorem Start.grandmaster_daemon (s : Start F) :
    s.daemon.clock.grandmaster.clockIdentity = ClockIdentity.zero := by
  unfold Start.daemon
  cases s.restored <;> rfl

end Runs

/-- **The grandmaster a slave publishes.** In a run of a non-automotive daemon, what a slave publishes
after the state change that follows an announce is the grandmaster identity of the announce, exactly if
the clock is not slave-only and the port is in the port table, or every such announce happens to carry
the identity the data set is constructed with. -/
theorem publishedGrandmaster_iff (s : Start F) (hauto : s.portConfig.automotiveProfile = false)
    (σ : ℕ → Input) (n : ℕ) :
    (∀ k < n, ∀ a grandmaster, PublishesFor s.daemon σ k a grandmaster →
      grandmaster = a.grandmasterIdentity) ↔
    (s.clockConfig.priority1 ≠ 255 ∧ s.portConfig.ifindex < maxPorts) ∨
      ∀ k < n, ∀ a grandmaster, PublishesFor s.daemon σ k a grandmaster →
        a.grandmasterIdentity = ClockIdentity.zero := by
  by_cases hselects : s.clockConfig.priority1 ≠ 255 ∧ s.portConfig.ifindex < maxPorts
  · refine iff_of_true ?_ (.inl hselects)
    intro k hk a grandmaster h
    exact h.eq_of_followsOnly (h.settled.followsOnly hauto hselects.1 hselects.2)
  · have hidle : s.clockConfig.priority1 = 255 ∨ maxPorts ≤ s.portConfig.ifindex := by
      rwa [not_and_or, not_not, not_lt] at hselects
    -- whatever the announces say, the identity of all zeros is published
    have hzero {k : ℕ} {a : PTPMessageAnnounce} {grandmaster : ClockIdentity}
        (h : PublishesFor s.daemon σ k a grandmaster) : grandmaster = ClockIdentity.zero :=
      (h.eq_of_followsOnly (followsOnly_of_idle σ k hidle)).trans s.grandmaster_daemon
    rw [or_iff_right hselects]
    constructor
    · intro hclaim k hk a grandmaster h
      rw [← hclaim k hk a grandmaster h, hzero h]
    · intro hannounce k hk a grandmaster h
      rw [hannounce k hk a grandmaster h, hzero h]

/-- A neighbour announces itself; the state change timer, at the given place in the queue, expires; the
neighbour sends a Sync and its Follow_Up. -/
def announcedSlave (stateChange : ℕ) : ℕ → Input
  | 0 => .ofEvent .powerup
  | 1 => .message (.announce neighborAnnounce)
  | 2 => .expiry stateChange
  | 3 => .message (.sync (neighborSync 1))
  | _ => .message (.followUp (neighborFollowUp 1))

/-- The clock that `-R 255` configures, on a link known to be capable. -/
def slaveOnlyClock : Start ℚ :=
  { Start.capable none with
    clockConfig := { ClockConfig.standard localIdentity with priority1 := 255 } }

/-- **A slave-only clock publishes no grandmaster.** It follows the neighbour, whose announce it has
qualified and whose state change it has handled, and publishes the identity of all zeros. -/
theorem slaveOnlyClock_publishes_zero :
    slaveOnlyClock.portConfig.automotiveProfile = false ∧
      (machine ℚ).Delivers slaveOnlyClock.daemon (announcedSlave 0) 5 ∧
      PublishesFor slaveOnlyClock.daemon (announcedSlave 0) 4 neighborAnnounce ClockIdentity.zero ∧
      ClockIdentity.zero ≠ neighborAnnounce.grandmasterIdentity := by
  have hpublished : ((machine ℚ).stateAt slaveOnlyClock.daemon (announcedSlave 0)
      5).publications.map Prod.snd = [ClockIdentity.zero] := by decide +kernel
  refine ⟨rfl, by decide +kernel, ⟨?_, by decide +kernel, ?_⟩, by decide⟩
  · exact ⟨2, by decide +kernel⟩
  · exact Daemon.exists_ipcUpdate hpublished

/-- With the standard priority the same neighbour's identity is published. -/
theorem announcedSlave_publishes_neighbor :
    ∃ grandmaster,
      PublishesFor (Start.capable none).daemon (announcedSlave 1) 4 neighborAnnounce grandmaster ∧
        grandmaster = neighborAnnounce.grandmasterIdentity := by
  have hpublished : ((machine ℚ).stateAt (Start.capable none).daemon (announcedSlave 1)
      5).publications.map Prod.snd = [neighborIdentity] := by decide +kernel
  have hpublishes : PublishesFor (Start.capable none).daemon (announcedSlave 1) 4 neighborAnnounce
      neighborIdentity :=
    ⟨⟨2, by decide +kernel⟩, by decide +kernel, Daemon.exists_ipcUpdate hpublished⟩
  have hall := (publishedGrandmaster_iff (Start.capable none) rfl (announcedSlave 1) 5).mpr
    (.inl (by decide))
  exact ⟨_, hpublishes, hall 4 (by decide) _ _ hpublishes⟩

end Gptp
