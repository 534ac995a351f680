import Gptp.Port.CoreStep

/-!
# Pairing of Sync and Follow_Up

The clock offset is computed from the arrival time of a Sync and the origin time in its Follow_Up. The
port keeps one Sync (`last_sync`), and five exits of two handlers replace it, use it or drop it. This
module shows that over any run the uses are well paired: an offset is only ever computed from the
compensated arrival time of a Sync received earlier, of the same sequence number and source as the
Follow_Up, taken with the current version of the timestamper, and no received Sync is used twice.

The argument is that of a one-place slot (`Machine.slot_pairing`): only the reception of a Sync fills
it (`Daemon.step_lastSync`), and the Follow_Up that uses it empties it (`FollowUpStep.of_offset`).
-/

namespace Gptp

open Framework

variable {F : Type}

/-- A call of `setMasterOffset`. -/
def Effect.isMasterOffset : Effect F → Bool
  | .setMasterOffset _ => true
  | _ => false

theorem exists_masterOffset {d : Daemon F} (h : ∃ x ∈ d.effects, x.isMasterOffset = true) :
    ∃ u, .setMasterOffset u ∈ d.effects := by
  obtain ⟨x, hx, hu⟩ := h
  cases x with
  | setMasterOffset u => exact ⟨u, hx⟩
  | _ => cases hu

/-- The input is the reception of a Sync that is stored as `stored`. -/
def Daemon.ReceivesSync (d : Daemon F) (i : Input) (stored : PTPMessageSync) : Prop :=
  ∃ sync linkSpeed, i.stimulus = .receive (.sync sync) linkSpeed ∧
    stored = { sync with timestamp := rxCompensate d.port.cfg linkSpeed sync.timestamp }

/-- Compensation keeps the version of a timestamp. -/
theorem Daemon.rxCompensate_version (cfg : PortConfig) (linkSpeed : UInt32) (ts : Timestamp) :
    (rxCompensate cfg linkSpeed ts).version = ts.version := by
  simp only [rxCompensate, Timestamp.sub, if_true]

/-- An offset computed from a Follow_Up is the only one of its step, uses the stored Sync, and empties
the slot. -/
theorem FollowUpStep.of_offset {m : PTPMessageFollowUp} {c c' : Core F} (h : FollowUpStep m c c')
    (hlog : c.log = []) {u : MasterOffset F} (hu : .setMasterOffset u ∈ c'.log) :
    c'.log = [.setMasterOffset u] ∧ c'.lastSync = none ∧
      ∃ sync, c.lastSync = some sync ∧ Daemon.syncMatches sync m ∧
        sync.timestamp.version = c.timestampVersion ∧ u.localTime = sync.timestamp := by
  have hsilent (hsame : c'.log = c.log) : False := by
    rw [hsame, hlog] at hu
    cases hu
  cases h with
  | ignored => exact (hsilent rfl).elim
  | mismatch => exact (hsilent rfl).elim
  | takeOver => exact (hsilent rfl).elim
  | unused => exact (hsilent rfl).elim
  | @offset sync hsync hmatch hversion stepped u' hu' =>
    have hc' : ((c.setMasterOffset stepped u').setLastSync none).log = [.setMasterOffset u'] := by
      simp [Core.setLastSync, Core.setMasterOffset, hlog]
    rw [hc', List.mem_singleton] at hu
    obtain rfl := Effect.setMasterOffset.inj hu
    exact ⟨hc', rfl, sync, hsync, hmatch, hversion, hu'⟩

variable [Platform F]

/-- A received message leaves the stored Sync, drops it, or is a Sync and replaces it. -/
theorem MessageStep.lastSync {msg : PTPMessage} {c c' : Core F} (h : MessageStep msg c c') :
    c'.lastSync = c.lastSync ∨ c'.lastSync = none ∨
      ∃ m, msg = .sync m ∧ c'.lastSync = some m := by
  cases h with
  | sync => exact .inr (.inr ⟨_, rfl, rfl⟩)
  | followUp h =>
    cases h with
    | ignored => exact .inl rfl
    | _ => exact .inr (.inl rfl)
  | pathDelayRespFollowUp h => exact .inl h.sync.1
  | _ => exact .inl rfl

namespace Daemon

omit [Platform F] in
theorem receivesSync_of_label {d : Daemon F} {i : Input} {m : PTPMessageSync}
    (h : d.label i = .receive (.sync m)) : d.ReceivesSync i m := by
  obtain ⟨msg, linkSpeed, hi, hmsg⟩ := stimulus_of_label_receive h
  cases msg with
  | sync sync => exact ⟨sync, linkSpeed, hi, (PTPMessage.sync.inj hmsg).symm⟩
  | _ => cases hmsg

/-- **The slot.** A step leaves a Sync in the slot only if it was there before or has been received. -/
theorem step_lastSync (d : Daemon F) (i : Input) (stored : PTPMessageSync)
    (h : (d.step i).port.lastSync = some stored) :
    d.port.lastSync = some stored ∨ d.ReceivesSync i stored := by
  have hstep := d.step_core i
  have hcore : (d.step i).core.lastSync = some stored := h
  generalize (d.step i).core = c' at hstep hcore
  generalize hlabel : d.label i = l at hstep
  cases hstep with
  | event h => exact .inl (h.sync.1.symm.trans hcore)
  | @timer _ _ c₀ _ hpop h =>
    have hpop' : c₀.lastSync = d.core.lastSync := (congrArg Core.lastSync hpop).symm
    exact .inl (hpop'.symm.trans (h.sync.1.symm.trans hcore))
  | receive h =>
    rcases h.lastSync with hsame | hnone | ⟨m, rfl, hsome⟩
    · exact .inl (hsame.symm.trans hcore)
    · rw [hnone] at hcore
      cases hcore
    · obtain rfl := Option.some.inj (hsome.symm.trans hcore)
      exact .inr (receivesSync_of_label hlabel)
  | idle => exact .inl hcore

/-- An offset computed from a received Follow_Up, in terms of the daemon. -/
theorem step_offset {d : Daemon F} {i : Input} {m : PTPMessageFollowUp} {linkSpeed : UInt32}
    {u : MasterOffset F} (hi : i.stimulus = .receive (.followUp m) linkSpeed)
    (hu : .setMasterOffset u ∈ (d.step i).effects) :
    (d.step i).effects.countP Effect.isMasterOffset = 1 ∧ (d.step i).port.lastSync = none ∧
      ∃ sync, d.port.lastSync = some sync ∧ syncMatches sync m ∧
        sync.timestamp.version = d.port.timestampVersion ∧ u.localTime = sync.timestamp := by
  have hstep := d.step_core i
  have hlabel : d.label i = .receive (.followUp m) := label_of_receive hi rfl
  rw [hlabel] at hstep
  have hlog : .setMasterOffset u ∈ (d.step i).core.log := List.mem_filter.mpr ⟨hu, rfl⟩
  -- the offsets among the effects are those of the log
  have hcount : (d.step i).effects.countP Effect.isMasterOffset =
      (d.step i).core.log.countP Effect.isMasterOffset := by
    change _ = ((d.step i).effects.filter Effect.isSalient).countP Effect.isMasterOffset
    rw [List.countP_filter]
    refine List.countP_congr fun x _ => ?_
    cases x <;> simp [Effect.isMasterOffset, Effect.isSalient]
  suffices h : (d.step i).core.log = [.setMasterOffset u] ∧ (d.step i).core.lastSync = none ∧
      ∃ sync, d.core.lastSync = some sync ∧ syncMatches sync m ∧
        sync.timestamp.version = d.core.timestampVersion ∧ u.localTime = sync.timestamp by
    obtain ⟨hone, hnone, hsync⟩ := h
    rw [hcount, hone]
    exact ⟨rfl, hnone, hsync⟩
  cases hstep with
  | receive h =>
    cases h with
    | followUp h => exact h.of_offset rfl hlog

end Daemon

/-- **Offsets are computed from paired messages.** In every run each offset computed from a Follow_Up
can be paired with an earlier received Sync: it is the only offset of its step, it is computed from
the compensated arrival time of that Sync, the Sync has the sequence number and source of the
Follow_Up and the current timestamp version, and no Sync is paired with two offsets. -/
theorem offset_pairs_sync (s : Start F) (σ : ℕ → Input) :
    ∃ pairing : ℕ → ℕ, ∀ k m linkSpeed u, (σ k).stimulus = .receive (.followUp m) linkSpeed →
      .setMasterOffset u ∈ ((machine F).stateAt s.daemon σ (k + 1)).effects →
      ((machine F).stateAt s.daemon σ (k + 1)).effects.countP Effect.isMasterOffset = 1 ∧
      pairing k < k ∧
      (∃ sync linkSpeed', (σ (pairing k)).stimulus = .receive (.sync sync) linkSpeed' ∧
        sync.sequenceId = m.sequenceId ∧ sync.sourcePortIdentity = m.sourcePortIdentity ∧
        u.localTime = Daemon.rxCompensate s.portConfig linkSpeed' sync.timestamp ∧
        sync.timestamp.version = ((machine F).stateAt s.daemon σ k).port.timestampVersion) ∧
      ∀ k' m' linkSpeed' u', (σ k').stimulus = .receive (.followUp m') linkSpeed' →
        .setMasterOffset u' ∈ ((machine F).stateAt s.daemon σ (k' + 1)).effects →
        pairing k = pairing k' → k = k' := by
  obtain ⟨pairing, hpairs, hinj⟩ := Machine.slot_pairing (M := machine F) (σ := σ)
    (fun d => d.port.lastSync) Daemon.ReceivesSync
    (fun k => ∃ m linkSpeed u, (σ k).stimulus = .receive (.followUp m) linkSpeed ∧
      .setMasterOffset u ∈ ((machine F).stateAt s.daemon σ (k + 1)).effects)
    s.hasReceivedNothing_daemon.lastSync (fun d i stored => d.step_lastSync i stored)
    (by
      rintro k ⟨m, linkSpeed, u, hi, hu⟩
      -- an offset uses the stored Sync up, so no two offsets share one
      obtain ⟨-, hnone, sync, hsync, -⟩ := Daemon.step_offset hi hu
      exact ⟨⟨sync, hsync⟩, hnone⟩)
  refine ⟨pairing, fun k m linkSpeed u hi hu => ?_⟩
  obtain ⟨hone, -, stored, hstored, hmatch, hversion, harrival⟩ := Daemon.step_offset hi hu
  obtain ⟨hlt, sync, linkSpeed', hreceived, rfl⟩ := hpairs k stored ⟨m, linkSpeed, u, hi, hu⟩ hstored
  have hcfg : ((machine F).stateAt s.daemon σ (pairing k)).port.cfg = s.portConfig :=
    (stateAt_cfg s.daemon σ _).2.trans s.daemon_cfg.2
  simp only [Daemon.syncMatches, Bool.and_eq_true, decide_eq_true_eq] at hmatch
  rw [hcfg] at harrival
  refine ⟨hone, hlt, ⟨sync, linkSpeed', hreceived, hmatch.1, hmatch.2, harrival, ?_⟩, ?_⟩
  · rw [← hversion]
    exact (Daemon.rxCompensate_version _ _ _).symm
  · intro k' m' linkSpeed'' u' hi' hu' heq
    exact hinj ⟨m, linkSpeed, u, hi, hu⟩ ⟨m', linkSpeed'', u', hi', hu'⟩ heq

/-- A Sync and its Follow_Up. -/
def pairedFollowUp : ℕ → Input
  | 0 => .message (.sync (neighborSync 1))
  | _ => .message (.followUp (neighborFollowUp 1))

/-- A slave computes an offset from a Sync and its Follow_Up, at the arrival time of the Sync. -/
theorem slave_offset_pairs_sync :
    ∃ u, .setMasterOffset u ∈ ((machine ℚ).stateAt (Start.capable (some .ptpSlave)).daemon
        pairedFollowUp 2).effects ∧
      u.localTime = Daemon.rxCompensate (PortConfig.standard localIdentity) invalidLinkSpeed
        (neighborSync 1).timestamp := by
  obtain ⟨pairing, h⟩ := offset_pairs_sync (Start.capable (some .ptpSlave)) pairedFollowUp
  have hoffset : ∃ x ∈ ((machine ℚ).stateAt (Start.capable (some .ptpSlave)).daemon
      pairedFollowUp 2).effects, x.isMasterOffset := by decide +kernel
  obtain ⟨x, hx, hu⟩ := hoffset
  cases x with
  | setMasterOffset u =>
    obtain ⟨-, hlt, ⟨sync, linkSpeed, hsync, -, -, harrival, -⟩, -⟩ := h 1 _ _ u rfl hx
    -- the only earlier input is the Sync
    rw [Nat.lt_one_iff.mp hlt] at hsync
    cases hsync
    exact ⟨u, hx, harrival⟩
  | _ => cases hu

end Gptp
