import Gptp.Port.CoreStep

/-!
# Mastership

When does a port become master? The two receipt timeouts and the best master clock algorithm look at
`priority1`, and in the automotive profile they are not used. A Follow_Up that does not belong to the
stored Sync looks at neither: it counts, and when the count reaches the threshold the port becomes
master (`Daemon.FollowUpTakesOver`).

* `MessageStep.role`: what a received message does to the role.
* `slaveOnly_never_master_iff`: a slave-only port in the slave state stays out of the master state for
  exactly as long as no Follow_Up takes over.
* `slaveOnly_becomes_master`: a run in which one does.
-/

namespace Gptp

open Framework

variable {F : Type}

/-! ### The Follow_Up that takes over -/

/-- A Follow_Up makes the port master: it does not belong to the stored Sync, and the counter of such
messages reaches the threshold. -/
def Core.TakesOver (c : Core F) (m : PTPMessageFollowUp) : Prop :=
  c.portState.ignoresMessages = false ∧
    ∃ sync, c.lastSync = some sync ∧ Daemon.syncMatches sync m = false ∧
      ¬ c.nextWrongSeqID < c.portCfg.syncReceiptThresh

/-- The input is a Follow_Up that makes the port master. -/
def Daemon.FollowUpTakesOver (d : Daemon F) (i : Input) : Prop :=
  ∃ m linkSpeed sync, i.stimulus = .receive (.followUp m) linkSpeed ∧
    d.port.portState.ignoresMessages = false ∧ d.port.lastSync = some sync ∧
    syncMatches sync m = false ∧ ¬ d.nextWrongSeqID < d.port.cfg.syncReceiptThresh

theorem FollowUpStep.role {m : PTPMessageFollowUp} {c c' : Core F} (h : FollowUpStep m c c') :
    c.TakesOver m ∧ c'.toRole = c.becomeMaster.toRole ∨
      ¬ c.TakesOver m ∧ c'.toRole = c.toRole := by
  cases h with
  -- only a mismatch with a stored Sync can take over
  | ignored h =>
    refine .inr ⟨?_, rfl⟩
    rintro ⟨hstate, sync, hsync, -⟩
    rcases h with h | h
    · rw [hstate] at h
      cases h
    · rw [hsync] at h
      cases h
  | mismatch _ _ _ hcount => exact .inr ⟨fun ⟨_, _, _, _, h⟩ => h hcount, rfl⟩
  | takeOver hstate hsync hmatch hcount =>
    exact .inl ⟨⟨hstate, _, hsync, hmatch, hcount⟩, rfl⟩
  -- the remaining cases are those of a Follow_Up that matches
  | unused hsync hmatch =>
    refine .inr ⟨?_, rfl⟩
    rintro ⟨-, sync', hsync', hmatch', -⟩
    obtain rfl := Option.some.inj (hsync.symm.trans hsync')
    rw [hmatch] at hmatch'
    cases hmatch'
  | offset hsync hmatch =>
    refine .inr ⟨?_, rfl⟩
    rintro ⟨-, sync', hsync', hmatch', -⟩
    obtain rfl := Option.some.inj (hsync.symm.trans hsync')
    rw [hmatch] at hmatch'
    cases hmatch'

variable [Platform F]

/-- **What a received message does to the role.** A Follow_Up may make the port master, a Signalling
message may arm timers, and nothing else touches the role. -/
theorem MessageStep.role {msg : PTPMessage} {c c' : Core F} (h : MessageStep msg c c') :
    (∃ m, msg = .followUp m ∧ c.TakesOver m ∧ c'.toRole = c.becomeMaster.toRole) ∨
    (∃ m, msg = .signalling m ∧ c'.toRole = (c.signalled m).toRole) ∨
    (∀ m, msg = .followUp m → ¬ c.TakesOver m) ∧ c'.toRole = c.toRole := by
  cases h with
  | followUp h =>
    rcases h.role with ⟨htake, hrole⟩ | ⟨htake, hrole⟩
    · exact .inl ⟨_, rfl, htake, hrole⟩
    · refine .inr (.inr ⟨?_, hrole⟩)
      rintro _ ⟨rfl⟩
      exact htake
  | signalling => exact .inr (.inl ⟨_, rfl, rfl⟩)
  | sync | syncIgnored | pathDelayReq | pathDelayResp | pathDelayRespIgnored | announce =>
    exact .inr (.inr ⟨nofun, rfl⟩)
  | pathDelayRespFollowUp h => exact .inr (.inr ⟨nofun, h.toRole⟩)

namespace Daemon

omit [Platform F] in
theorem compensate_eq_followUp {cfg : PortConfig} {linkSpeed : UInt32} {msg : PTPMessage}
    {m : PTPMessageFollowUp} : compensate cfg linkSpeed msg = .followUp m ↔ msg = .followUp m := by
  cases msg <;> simp [compensate]

omit [Platform F] in
/-- The label of a Follow_Up that takes over. -/
theorem followUpTakesOver_iff (d : Daemon F) (i : Input) :
    d.FollowUpTakesOver i ↔ ∃ m, d.label i = .receive (.followUp m) ∧ d.core.TakesOver m := by
  constructor
  · rintro ⟨m, linkSpeed, sync, hi, hstate, hsync, hmatch, hcount⟩
    exact ⟨m, label_of_receive hi rfl, hstate, sync, hsync, hmatch, hcount⟩
  · rintro ⟨m, hlabel, hstate, sync, hsync, hmatch, hcount⟩
    obtain ⟨msg, linkSpeed, hi, hmsg⟩ := stimulus_of_label_receive hlabel
    rw [compensate_eq_followUp] at hmsg
    subst hmsg
    exact ⟨m, linkSpeed, sync, hi, hstate, hsync, hmatch, hcount⟩

end Daemon

/-! ### Slave-only ports -/

/-- The clock is slave-only, or the port is automotive and not to be grandmaster. -/
def Role.SlaveOnly (r : Role) : Prop :=
  r.clockCfg.priority1 = 255 ∨ r.portCfg.automotiveProfile = true ∧ r.portCfg.isGM = false

/-- The invariant of a slave-only port: it is in the slave state. -/
structure Role.IsSlave (r : Role) : Prop where
  slaveOnly : r.SlaveOnly
  portState : r.portState = .ptpSlave

omit [Platform F] in
theorem Role.IsSlave.resumeRole {c : Core F} (h : c.toRole.IsSlave) :
    c.resumeRole.toRole.IsSlave := by
  unfold Core.resumeRole
  rw [if_pos (.inr h.portState)]
  exact ⟨h.slaveOnly, rfl⟩

/-- No event takes a slave-only port out of the slave state. -/
theorem EventStep.isSlave {e : Event} {c c' : Core F} (h : EventStep e c c')
    (hinv : c.toRole.IsSlave) : c'.toRole.IsSlave := by
  have hrole := h.role
  generalize c'.toRole = r at hrole ⊢
  cases hrole with
  | keep => exact hinv
  | resume => exact hinv.resumeRole
  | stateChange _ _ hauto hprio =>
    -- the best master clock algorithm runs for none of these ports
    rcases hinv.slaveOnly with h | ⟨h, -⟩
    · exact absurd h hprio
    · rw [hauto] at h
      cases h
  | receiptTimeout hauto hprio =>
    rcases hinv.slaveOnly with h | ⟨h, -⟩
    · exact absurd h hprio
    · rw [hauto] at h
      cases h
  | announceInterval => exact ⟨hinv.slaveOnly, hinv.portState⟩
  | syncInterval => exact ⟨hinv.slaveOnly, hinv.portState⟩

/-- A received message makes a slave-only port master, or leaves it a slave. -/
theorem MessageStep.isSlave {msg : PTPMessage} {c c' : Core F} (h : MessageStep msg c c')
    (hinv : c.toRole.IsSlave) :
    (∃ m, msg = .followUp m ∧ c.TakesOver m) ∧ c'.portState = .ptpMaster ∨
      ¬ (∃ m, msg = .followUp m ∧ c.TakesOver m) ∧ c'.toRole.IsSlave := by
  rcases h.role with ⟨m, hm, htake, hrole⟩ | ⟨m, hm, hrole⟩ | ⟨hnot, hrole⟩
  · refine .inl ⟨⟨m, hm, htake⟩, ?_⟩
    rw [hrole]
    rfl
  · refine .inr ⟨?_, ?_⟩
    · rintro ⟨m', hm', -⟩
      rw [hm] at hm'
      cases hm'
    · rw [hrole]
      exact ⟨hinv.slaveOnly, hinv.portState⟩
  · refine .inr ⟨fun ⟨m, hm, htake⟩ => hnot m hm htake, ?_⟩
    rw [hrole]
    exact hinv

/-- **Step lemma.** A step of a slave-only port in the slave state makes it master if the input is a
Follow_Up that takes over, and leaves it in the slave state otherwise. -/
theorem Daemon.step_isSlave (d : Daemon F) (i : Input) (hinv : d.core.toRole.IsSlave) :
    d.FollowUpTakesOver i ∧ (d.step i).port.portState = .ptpMaster ∨
      ¬ d.FollowUpTakesOver i ∧ (d.step i).core.toRole.IsSlave := by
  rw [followUpTakesOver_iff]
  have hstep := d.step_core i
  generalize d.label i = l at hstep ⊢
  have hstate : (d.step i).port.portState = (d.step i).core.portState := rfl
  rw [hstate]
  generalize (d.step i).core = c' at hstep ⊢
  -- what takes over is a message, so in the other cases the port stays a slave
  cases hstep with
  | event h =>
    refine .inr ⟨?_, h.isSlave hinv⟩
    rintro ⟨m, hm, -⟩
    cases hm
  | timer hpop h =>
    rw [Core.toRole_of_pop hpop] at hinv
    refine .inr ⟨?_, h.isSlave ⟨hinv.slaveOnly, hinv.portState⟩⟩
    rintro ⟨m, hm, -⟩
    cases hm
  | receive h =>
    simp only [Label.receive.injEq]
    exact h.isSlave hinv
  | idle =>
    refine .inr ⟨?_, hinv⟩
    rintro ⟨m, hm, -⟩
    cases hm

/-- **Slave-only ports and mastership.** A port that is slave-only, or automotive and not to be
grandmaster, and that starts in the slave state, stays out of the master state for exactly as long
as no Follow_Up takes over. -/
theorem slaveOnly_never_master_iff (d₀ : Daemon F) (σ : ℕ → Input) (n : ℕ)
    (hslaveOnly : d₀.clock.cfg.priority1 = 255 ∨
      d₀.port.cfg.automotiveProfile = true ∧ d₀.port.cfg.isGM = false)
    (hstart : d₀.port.portState = .ptpSlave) :
    (∀ k ≤ n, ((machine F).stateAt d₀ σ k).port.portState ≠ .ptpMaster) ↔
      ∀ k < n, ¬ ((machine F).stateAt d₀ σ k).FollowUpTakesOver (σ k) := by
  have hinit : d₀.core.toRole.IsSlave := ⟨hslaveOnly, hstart⟩
  constructor
  · intro hnever
    -- a takeover would be seen as a master state right after it
    have hstep : ∀ k < n, ((machine F).stateAt d₀ σ k).core.toRole.IsSlave →
        ¬ ((machine F).stateAt d₀ σ k).FollowUpTakesOver (σ k) ∧
          ((machine F).stateAt d₀ σ (k + 1)).core.toRole.IsSlave := by
      intro k hk hinv
      rcases Daemon.step_isSlave _ (σ k) hinv with ⟨-, hmaster⟩ | h
      · exact absurd hmaster (hnever (k + 1) hk)
      · exact h
    have hinv := Machine.invariant (M := machine F)
      (P := fun d => d.core.toRole.IsSlave) hinit fun k hk h => (hstep k hk h).2
    exact fun k hk => (hstep k hk (hinv k hk.le)).1
  · intro hcond
    have hinv := Machine.invariant (M := machine F) (σ := σ) (n := n)
      (P := fun d => d.core.toRole.IsSlave) hinit fun k hk h => by
        rcases Daemon.step_isSlave _ (σ k) h with ⟨htake, -⟩ | h'
        · exact absurd htake (hcond k hk)
        · exact h'.2
    intro k hk hmaster
    have hslave := (hinv k hk).portState
    rw [show ((machine F).stateAt d₀ σ k).core.portState = .ptpMaster from hmaster] at hslave
    cases hslave

/-- A slave-only daemon on a capable link, forced into the slave state. -/
def slaveOnlyStart : Start ℚ :=
  { Start.capable (some .ptpSlave) with
    clockConfig := { ClockConfig.standard localIdentity with priority1 := 255 } }

/-- Syncs and Follow_Ups in turn, where no Follow_Up belongs to the Sync before it. -/
def mismatchedFollowUps (k : ℕ) : Input :=
  if k % 2 = 0 then .message (.sync (neighborSync 1)) else .message (.followUp (neighborFollowUp 2))

/-- Link up events do not make the slave-only daemon master. -/
theorem slaveOnly_linkup_never_master :
    ((machine ℚ).stateAt slaveOnlyStart.daemon (fun _ => .ofEvent .linkup) 3).port.portState ≠
      .ptpMaster := by
  refine (slaveOnly_never_master_iff slaveOnlyStart.daemon (fun _ => .ofEvent .linkup) 3 (.inl rfl)
    rfl).mpr ?_ 3 le_rfl
  rintro k - ⟨_, _, _, hi, -⟩
  cases hi

/-- The fifth Follow_Up that does not belong to the stored Sync makes the slave-only port master. -/
theorem slaveOnly_becomes_master :
    slaveOnlyStart.daemon.clock.cfg.priority1 = 255 ∧
      slaveOnlyStart.daemon.port.portState = .ptpSlave ∧
      ((machine ℚ).stateAt slaveOnlyStart.daemon mismatchedFollowUps 10).port.portState =
        .ptpMaster := by
  refine ⟨rfl, rfl, ?_⟩
  decide

end Gptp
