import Gptp.Safety.Deferral

/-!
# When a link is capable

Outside the automotive profile `asCapable` is a latch. A completed peer delay measurement sets it or
clears it, depending on the measured delay; LINKDOWN, FAULT_DETECTED and the response timeout clear it;
everything else leaves it alone. `CapabilityStep` says which of these a step is, and the latch rule
`latch_iff` turns that into a statement about the whole history.

The source compares the delay with the threshold after negating a negative delay in 64-bit
arithmetic, which would go wrong for the least 64-bit integer. A measured delay is half of a 64-bit
integer, so this does not happen (`Daemon.withinThresh_iff`).
-/

namespace Gptp

open Framework

variable {F : Type}

/-! ### The threshold -/

namespace Daemon

/-- Half of a 64-bit integer is not the least one. -/
theorem half_ne_minValue (x : Int64) : x / 2 ≠ Int64.minValue := by
  intro h
  have hdiv : (x / 2).toInt = x.toInt.tdiv 2 := Int64.toInt_div_of_ne_right x 2 (by decide)
  -- the absolute value is halved, and 2 ^ 63 is not half of anything in range
  have habs : (x.toInt.tdiv 2).natAbs = x.toInt.natAbs / 2 := Int.natAbs_tdiv x.toInt 2
  have hmin : Int64.minValue.toInt = -2 ^ 63 := rfl
  have hlower := x.le_toInt
  have hupper := x.toInt_lt
  rw [← hdiv, h, hmin] at habs
  omega

/-- For a delay that can be negated, the comparison of the source is that of absolute values. -/
theorem withinThresh_iff {cfg : PortConfig} {delay : Int64} (h : delay ≠ Int64.minValue) :
    withinThresh cfg delay ↔ |delay.toInt| ≤ cfg.neighborPropDelayThresh.toInt := by
  have hne : delay.toInt ≠ -2 ^ 63 := fun heq => h (Int64.toInt_inj.mp heq)
  have hlower := delay.le_toInt
  have hupper := delay.toInt_lt
  unfold withinThresh
  rw [decide_eq_true_iff, Int64.le_iff_toInt_le]
  by_cases hneg : delay < 0
  · have hlt : delay.toInt < 0 := Int64.lt_iff_toInt_lt.mp hneg
    -- the negation does not wrap, because the least integer is excluded
    rw [if_pos hneg, abs_of_neg hlt, Int64.toInt_neg, Int.bmod_eq_of_le (by omega) (by omega)]
  · have hle : 0 ≤ delay.toInt := by
      rw [Int64.lt_iff_toInt_lt] at hneg
      exact not_lt.mp hneg
    rw [if_neg hneg, abs_of_nonneg hle]

/-- The input makes the port handle an event that takes the capability away. -/
def HandlesLoss (d : Daemon F) (i : Input) : Prop :=
  d.handledEvent i = some .linkdown ∨ d.handledEvent i = some .faultDetected ∨
    d.handledEvent i = some .pdelayRespReceiptTimeoutExpires

variable [Platform F]

/-- A completed measurement within the threshold. -/
def MeasuresWithin (d : Daemon F) (i : Input) : Prop :=
  ∃ delay, .setLinkDelay delay ∈ (d.step i).effects ∧
    |delay.toInt| ≤ d.port.cfg.neighborPropDelayThresh.toInt

/-- A completed measurement beyond the threshold, or an event that takes the capability away. -/
def LosesCapability (d : Daemon F) (i : Input) : Prop :=
  (∃ delay, .setLinkDelay delay ∈ (d.step i).effects ∧
    d.port.cfg.neighborPropDelayThresh.toInt < |delay.toInt|) ∨ d.HandlesLoss i

end Daemon

/-! ### One step -/

/-- What a step does to `asCapable`, and what it records about it. `loses` says whether the step
handles an event that takes the capability away. -/
inductive CapabilityStep (loses : Prop) (c c' : Core F) : Prop
  | measured (delay : Int64) (hdelay : delay ≠ Int64.minValue)
      (hlog : ∀ delay', .setLinkDelay delay' ∈ c'.log ↔ delay' = delay)
      (hcapable : c'.link.asCapable = Daemon.withinThresh c.portCfg delay) (hloses : ¬ loses)
  | lost (hlog : ∀ delay, .setLinkDelay delay ∉ c'.log) (hcapable : c'.link.asCapable = false)
      (hloses : loses)
  | kept (hlog : ∀ delay, .setLinkDelay delay ∉ c'.log)
      (hcapable : c'.link.asCapable = c.link.asCapable) (hloses : ¬ loses)

namespace CapabilityStep

variable {loses : Prop} {c c' : Core F}

/-- A step that records nothing and leaves the flag alone. -/
theorem of_same (hloses : ¬ loses) (hlog : c.log = []) (hsame : c'.log = c.log)
    (hcapable : c'.link.asCapable = c.link.asCapable) : CapabilityStep loses c c' := by
  refine .kept (fun delay h => ?_) hcapable hloses
  rw [hsame, hlog] at h
  cases h

/-- Only the log, the flag, the link and the port configuration matter. -/
theorem congr {loses' : Prop} {c₀ c₁ : Core F} (h : CapabilityStep loses c₀ c₁)
    (hloses : loses' ↔ loses) (hlink : c.link = c₀.link) (hcfg : c.portCfg = c₀.portCfg)
    (hlog : c'.log = c₁.log) (hlink' : c'.link = c₁.link) : CapabilityStep loses' c c' := by
  cases h with
  | measured delay hdelay h hcapable hnot =>
    refine .measured delay hdelay (hlog ▸ h) ?_ (hloses.not.mpr hnot)
    rw [hlink', hcapable, hcfg]
  | lost h hcapable hlost => exact .lost (hlog ▸ h) (hlink' ▸ hcapable) (hloses.mpr hlost)
  | kept h hcapable hnot =>
    refine .kept (hlog ▸ h) ?_ (hloses.not.mpr hnot)
    rw [hlink', hcapable, hlink]

end CapabilityStep

theorem Event.not_losesCapability_of_mayBeIdle {e : Event} (h : e.mayBeIdle) :
    ¬ e.losesCapability := by
  revert h
  cases e <;> decide

variable [Platform F]

theorem RespFollowUpStep.capability {m : PTPMessagePathDelayRespFollowUp} {c c' : Core F} {gc : Bool}
    (h : RespFollowUpStep m c c' gc) (hauto : c.portCfg.automotiveProfile = false)
    (hlog : c.log = []) : CapabilityStep False c c' := by
  cases h with
  | ignored => exact .of_same id hlog rfl rfl
  | dropped => exact .of_same id hlog rfl rfl
  | deferred => exact .of_same id hlog rfl rfl
  | @measured req resp _ _ _ _ =>
    have hcapable := c.asCapable_measure req resp m
    have hmeasured := c.log_measure req resp m
    rw [hauto] at hcapable
    rw [hlog] at hmeasured
    -- a delay is a half, so its negation does not wrap
    refine .measured (Daemon.linkDelay req resp m c.link.peerRateOffset)
      (Daemon.half_ne_minValue _) (fun delay => ?_) hcapable id
    change _ ∈ (c.measure req resp m).log ↔ _
    rw [hmeasured, List.nil_append, List.mem_singleton, Effect.setLinkDelay.injEq]

/-- **Events and `asCapable`.** -/
theorem EventStep.capability {e : Event} {c c' : Core F} (h : EventStep e c c')
    (hauto : c.portCfg.automotiveProfile = false) (hlog : c.log = []) :
    CapabilityStep (e.losesCapability = true) c c' := by
  have hrole := c.changesRole_resumeRole
  cases h with
  | idle he => exact .of_same (Event.not_losesCapability_of_mayBeIdle he) hlog rfl rfl
  | powerup he =>
    refine .of_same (fun hloses => ?_) hlog hrole.log (congrArg LinkState.asCapable hrole.link)
    rcases he with rfl | rfl <;> cases hloses
  | linkup =>
    unfold Core.linkup
    -- outside the automotive profile LINKUP does not set the flag
    rw [hauto]
    exact .of_same Bool.false_ne_true hlog hrole.log (congrArg LinkState.asCapable hrole.link)
  | loseCapability he =>
    unfold Core.loseCapability
    rw [hauto, if_neg Bool.false_ne_true]
    refine .lost (fun delay h => ?_) rfl he
    rw [show (c.setAsCapable false).log = [] from hlog] at h
    cases h
  | stateChange better m =>
    have hassign := c.changesRole_assignRole better m
    exact .of_same Bool.false_ne_true hlog hassign.log (congrArg LinkState.asCapable hassign.link)
  | receiptTimeout he =>
    refine .of_same (fun hloses => ?_) hlog rfl rfl
    rcases he with rfl | rfl <;> cases hloses
  | pdelayInterval => exact .of_same Bool.false_ne_true hlog rfl rfl
  | abort =>
    refine .kept (fun delay h => ?_) rfl Bool.false_ne_true
    simp [Core.record, hlog] at h
  | deferred _ h =>
    refine (h.capability hauto hlog).congr (iff_of_false Bool.false_ne_true id) rfl rfl ?_ ?_ <;>
      split <;> rfl
  | announceInterval m =>
    unfold Core.announceInterval
    split
    · refine .kept (fun delay h => ?_) rfl Bool.false_ne_true
      simp [Core.record, hlog] at h
    · exact .of_same Bool.false_ne_true hlog rfl rfl
  | syncInterval sent stepped u _ hsent =>
    refine .kept (fun delay h => ?_) rfl Bool.false_ne_true
    simp only [Core.syncInterval, Core.setMasterOffset, Core.record, hlog, List.nil_append,
      List.mem_append, List.mem_singleton, reduceCtorEq, or_false] at h
    cases hsent _ h

/-- No message but the follow-up of a peer delay exchange touches `asCapable`. -/
theorem MessageStep.capability {msg : PTPMessage} {c c' : Core F} (h : MessageStep msg c c')
    (hauto : c.portCfg.automotiveProfile = false) (hlog : c.log = []) :
    CapabilityStep False c c' := by
  cases h with
  | pathDelayRespFollowUp h => exact h.capability hauto hlog
  | followUp h =>
    cases h with
    | offset _ _ _ stepped u _ =>
      refine .kept (fun delay h => ?_) rfl id
      simp [Core.setLastSync, Core.setMasterOffset, hlog] at h
    | _ => exact .of_same id hlog rfl rfl
  | _ => exact .of_same id hlog rfl rfl

namespace Daemon

omit [Platform F] in
theorem handlesLoss_iff {d : Daemon F} {i : Input} {e : Event} (h : d.handledEvent i = some e) :
    d.HandlesLoss i ↔ e.losesCapability = true := by
  unfold HandlesLoss
  rw [h]
  cases e <;> simp [Event.losesCapability]

omit [Platform F] in
theorem not_handlesLoss {d : Daemon F} {i : Input} (h : d.handledEvent i = none) :
    ¬ d.HandlesLoss i := by
  unfold HandlesLoss
  rw [h]
  simp

/-- Every step of the daemon is a `CapabilityStep`. -/
theorem step_capability (d : Daemon F) (i : Input)
    (hauto : d.port.cfg.automotiveProfile = false) :
    CapabilityStep (d.HandlesLoss i) d.core (d.step i).core := by
  have hstep := d.step_core i
  generalize (d.step i).core = c' at hstep ⊢
  generalize hlabel : d.label i = l at hstep
  -- messages and idle inputs handle no event
  have hnone (hl : ∀ e, d.label i ≠ .event e ∧ d.label i ≠ .timer e) : ¬ d.HandlesLoss i := by
    refine not_handlesLoss ?_
    cases h : d.handledEvent i with
    | none => rfl
    | some e =>
      rcases handledEvent_eq_some.mp h with h | h
      · exact absurd h (hl e).1
      · exact absurd h (hl e).2
  cases hstep with
  | event h =>
    exact (h.capability hauto rfl).congr
      (handlesLoss_iff (handledEvent_eq_some.mpr (.inl hlabel))) rfl rfl rfl rfl
  -- the event is handled without its timer, which none of the three cares about
  | timer hpop h =>
    have hsame := Core.sameInput_of_pop hpop
    exact (h.capability (hsame.portCfg ▸ hauto) hsame.log).congr
      (handlesLoss_iff (handledEvent_eq_some.mpr (.inr hlabel))) hsame.link.symm
      hsame.portCfg.symm rfl rfl
  | receive h =>
    refine (h.capability hauto rfl).congr (iff_of_false (hnone fun e => ?_) id) rfl rfl rfl rfl
    rw [hlabel]
    exact ⟨nofun, nofun⟩
  | idle =>
    refine .kept (fun delay h => by cases h) rfl (hnone fun e => ?_)
    rw [hlabel]
    exact ⟨nofun, nofun⟩

omit [Platform F] in
theorem mem_effects_iff (d : Daemon F) (delay : Int64) :
    .setLinkDelay delay ∈ d.effects ↔ .setLinkDelay delay ∈ d.core.log := by
  change _ ↔ _ ∈ d.effects.filter Effect.isSalient
  rw [List.mem_filter]
  exact (and_iff_left rfl).symm

/-- **Step lemma.** A measurement within the threshold sets `asCapable`; a measurement beyond it and
the events that take the capability away clear it; every other step keeps it. -/
theorem step_asCapable (d : Daemon F) (i : Input) (hauto : d.port.cfg.automotiveProfile = false) :
    (d.MeasuresWithin i → (d.step i).port.link.asCapable = true) ∧
    (d.LosesCapability i → ¬ (d.step i).port.link.asCapable = true) ∧
    (¬ d.MeasuresWithin i → ¬ d.LosesCapability i →
      ((d.step i).port.link.asCapable = true ↔ d.port.link.asCapable = true)) := by
  unfold MeasuresWithin LosesCapability
  simp only [mem_effects_iff]
  change (_ → (d.step i).core.link.asCapable = true) ∧ (_ → ¬ (d.step i).core.link.asCapable = true) ∧
    (_ → _ → ((d.step i).core.link.asCapable = true ↔ d.core.link.asCapable = true))
  cases d.step_capability i hauto with
  | measured delay hdelay hlog hcapable hnot =>
    -- a measurement decides alone: the flag is whether its delay is within the threshold
    have hwithin : (d.step i).core.link.asCapable = true ↔
        |delay.toInt| ≤ d.port.cfg.neighborPropDelayThresh.toInt := by
      rw [hcapable]
      exact withinThresh_iff hdelay
    simp only [hlog, exists_eq_left, hwithin]
    refine ⟨id, ?_, ?_⟩
    · rintro (hbeyond | hloss)
      · exact not_le.mpr hbeyond
      · exact absurd hloss hnot
    · intro hnotWithin hnotLoses
      exact absurd (.inl (not_le.mp hnotWithin)) hnotLoses
  | lost hlog hcapable hlost =>
    rw [hcapable]
    refine ⟨?_, fun _ => Bool.false_ne_true, fun _ hnotLoses => absurd (.inr hlost) hnotLoses⟩
    rintro ⟨delay, hdelay, -⟩
    exact absurd hdelay (hlog delay)
  | kept hlog hcapable hnot =>
    rw [hcapable]
    refine ⟨?_, ?_, fun _ _ => Iff.rfl⟩
    · rintro ⟨delay, hdelay, -⟩
      exact absurd hdelay (hlog delay)
    · rintro (⟨delay, hdelay, -⟩ | hloss)
      · exact absurd hdelay (hlog delay)
      · exact absurd hloss hnot

end Daemon

/-! ### Whole runs -/

/-- **`asCapable` over a run.** In a run of a non-automotive daemon without restored state, `asCapable`
holds exactly if a measurement within the threshold has completed and neither a measurement beyond it
nor an event that takes the capability away has been handled since; and no Sync, Follow_Up or Announce
is transmitted while it does not hold. -/
theorem asCapable_iff (s : Start F) (hauto : s.portConfig.automotiveProfile = false)
    (hrestored : s.restored = none) (σ : ℕ → Input) (k : ℕ) :
    (((machine F).stateAt s.daemon σ k).port.link.asCapable = true ↔
      ∃ j < k, ((machine F).stateAt s.daemon σ j).MeasuresWithin (σ j) ∧
        ∀ l, j < l → l < k → ¬ ((machine F).stateAt s.daemon σ l).LosesCapability (σ l)) ∧
    ∀ x ∈ ((machine F).stateAt s.daemon σ (k + 1)).effects, x.isSyncMessage ∨ x.isAnnounce →
      ((machine F).stateAt s.daemon σ k).port.link.asCapable = true := by
  have hcfg (k : ℕ) : ((machine F).stateAt s.daemon σ k).port.cfg.automotiveProfile = false := by
    rw [(stateAt_cfg s.daemon σ k).2, s.daemon_cfg.2]
    exact hauto
  have hstep (k : ℕ) := Daemon.step_asCapable ((machine F).stateAt s.daemon σ k) (σ k) (hcfg k)
  -- without restored state the flag starts as the profile has it
  have hinit : ¬ s.daemon.port.link.asCapable = true := by
    unfold Start.daemon
    rw [hrestored]
    change ¬ s.portConfig.automotiveProfile = true
    rw [hauto]
    exact Bool.false_ne_true
  constructor
  · -- the flag is a latch: set, cleared or kept by every step
    exact latch_iff (p := fun k => ((machine F).stateAt s.daemon σ k).port.link.asCapable = true)
      hinit (fun k => (hstep k).1) (fun k => (hstep k).2.1) (fun k => (hstep k).2.2) k
  · intro x hx htrans
    obtain ⟨e, -, hexplains⟩ := Daemon.step_explains _ (σ k) hx
      (Effect.not_isSilent_of_transmits htrans)
    rcases htrans with h | h
    · exact (hexplains.sync h).2
    · exact (hexplains.announce h).2.1

/-- POWERUP, a request, its response and the follow-up. -/
def completedExchange : ℕ → Input
  | 0 => .ofEvent .powerup
  | 1 => .expiry 1
  | 2 => .message (.pathDelayResp (neighborResp 0))
  | _ => .message (.pathDelayRespFollowUp (neighborRespFollowUp 0))

/-- After one exchange with a delay within the threshold the link is capable. -/
theorem completedExchange_asCapable :
    ∃ j < 4, ((machine ℚ).stateAt (Start.standard localIdentity).daemon completedExchange
        j).MeasuresWithin (completedExchange j) ∧
      ∀ l, j < l → l < 4 → ¬ ((machine ℚ).stateAt (Start.standard localIdentity).daemon
        completedExchange l).LosesCapability (completedExchange l) :=
  (asCapable_iff (Start.standard localIdentity) rfl rfl completedExchange 4).1.mp (by decide +kernel)

end Gptp
