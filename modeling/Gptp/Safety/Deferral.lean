import Gptp.Safety.Transmission

/-!
# Deferred follow-ups

A follow-up that arrives while its request has no timestamp yet is stored, and a timer is armed to
process it again. There is one slot for it but no bound on the timers: every deferral arms one, and
the first that processes the follow-up to its end frees the slot. The next one finds it empty, and
the handler calls `abort`.

* `Exchange.Deferral`: at most one timer is pending, and only with a follow-up in the slot. Every step
  keeps this, except a follow-up that is deferred while a timer is pending (`Daemon.DefersTwice`).
-/

namespace Gptp

open Framework

variable {F : Type}

/-- A follow-up is deferred while the timer of an earlier deferral is pending. -/
def Daemon.DefersTwice (d : Daemon F) (i : Input) : Prop :=
  ∃ m linkSpeed req resp, i.stimulus = .receive (.pathDelayRespFollowUp m) linkSpeed ∧
    i.env.pdelayRxLock = true ∧ d.port.portState.ignoresMessages = false ∧
    d.port.pdelay.lastPDelayReq = some req ∧ d.port.pdelay.lastPDelayResp = some resp ∧
    defers req resp m ∧ 0 < armed d.timerq .pdelayDeferredProcessing

/-- At most one deferral timer is pending, and only with a follow-up in the slot. -/
def Exchange.Deferral (x : Exchange) : Prop :=
  x.deferredTimers ≤ if x.lastPDelayRespFollowUp.isSome then 1 else 0

theorem Exchange.Deferral.of_eq_zero {x : Exchange} (h : x.deferredTimers = 0) : x.Deferral := by
  rw [Deferral, h]
  exact Nat.zero_le _

namespace Daemon

theorem compensate_eq_pathDelayRespFollowUp {cfg : PortConfig} {linkSpeed : UInt32}
    {msg : PTPMessage} {m : PTPMessagePathDelayRespFollowUp} :
    compensate cfg linkSpeed msg = .pathDelayRespFollowUp m ↔ msg = .pathDelayRespFollowUp m := by
  cases msg <;> simp [compensate]

end Daemon

variable [Platform F]

/-- The exchange after follow-up processing: unchanged in what `Deferral` is about, or deferred. -/
theorem RespFollowUpStep.deferral {m : PTPMessagePathDelayRespFollowUp} {c c' : Core F} {gc : Bool}
    (h : RespFollowUpStep m c c' gc) :
    (c'.deferredTimers = c.deferredTimers ∧
        c'.lastPDelayRespFollowUp = c.lastPDelayRespFollowUp) ∨
      gc = false ∧ c'.deferredTimers = c.deferredTimers + 1 ∧
        c'.lastPDelayRespFollowUp = some m ∧ c.portState.ignoresMessages = false ∧
        ∃ req resp, c.lastPDelayReq = some req ∧ c.lastPDelayResp = some resp ∧
          Daemon.defers req resp m := by
  cases h with
  | ignored => exact .inl ⟨rfl, rfl⟩
  | dropped => exact .inl ⟨rfl, rfl⟩
  | deferred hstate hreq hresp hdefers =>
    exact .inr ⟨rfl, rfl, rfl, hstate, _, _, hreq, hresp, hdefers⟩
  | @measured req resp _ _ _ _ =>
    have h := c.toExchange_measure req resp m
    have htimers : (c.measure req resp m).deferredTimers = c.deferredTimers :=
      congrArg Exchange.deferredTimers h
    have hstored : (c.measure req resp m).lastPDelayRespFollowUp = c.lastPDelayRespFollowUp :=
      congrArg Exchange.lastPDelayRespFollowUp h
    exact .inl ⟨htimers, hstored⟩

/-- A deferral that is handled uses up its timer, and arms another one if the follow-up is deferred again. -/
theorem EventStep.deferral_of_deferred {c₀ c' : Core F}
    (h : EventStep .pdelayDeferredProcessing c₀ c')
    (hinv : (c₀.arm .pdelayDeferredProcessing).toExchange.Deferral) : c'.toExchange.Deferral := by
  -- the timer that fired was the only one, so none is left
  have hzero : c₀.deferredTimers = 0 := by
    have hle : c₀.deferredTimers + 1 ≤ 1 := hinv.trans (by split <;> omega)
    omega
  rcases h.of_deferred with ⟨-, rfl⟩ | ⟨m, c₁, gc, -, hprocess, rfl⟩
  · exact .of_eq_zero hzero
  · rcases hprocess.deferral with ⟨htimers, -⟩ | ⟨rfl, htimers, hstored, -⟩
    · -- processed to its end: the slot may be freed
      refine .of_eq_zero ?_
      have h₁ : c₁.deferredTimers = 0 := htimers.trans hzero
      split <;> exact h₁
    · -- deferred again: the new timer has the follow-up
      rw [hzero] at htimers
      change c₁.deferredTimers ≤ if c₁.lastPDelayRespFollowUp.isSome then 1 else 0
      rw [htimers, hstored]
      exact le_rfl

/-- The expiry of another timer leaves the deferral timers and the slot alone. -/
theorem EventStep.deferral_of_ne {e : Event} {c₀ c' : Core F} (h : EventStep e c₀ c')
    (he : e ≠ .pdelayDeferredProcessing) (hinv : (c₀.arm e).toExchange.Deferral) :
    c'.toExchange.Deferral := by
  have hcounts : (c₀.arm e).deferredTimers = c₀.deferredTimers := by
    simp only [Core.arm, he, if_false, add_zero]
  have hinv₀ : c₀.toExchange.Deferral := by
    change (c₀.arm e).deferredTimers ≤ _ at hinv
    rw [hcounts] at hinv
    exact hinv
  by_cases hrequest : e = .pdelayIntervalTimeoutExpires
  · -- a new request replaces the stored one, which `Deferral` does not look at
    subst hrequest
    obtain ⟨req, -, rfl⟩ := h.of_pdelayInterval
    exact hinv₀
  · rw [h.toExchange hrequest he]
    exact hinv₀

/-- **Step lemma.** A delivered input keeps `Deferral`, unless it defers a follow-up while a deferral
timer is pending. -/
theorem Daemon.step_deferral {d : Daemon F} {i : Input} (henabled : d.enabled i)
    (hcond : ¬ d.DefersTwice i) (hinv : d.core.toExchange.Deferral) :
    (d.step i).core.toExchange.Deferral := by
  have hstep := d.step_core i
  generalize (d.step i).core = c' at hstep ⊢
  generalize hlabel : d.label i = l at hstep
  cases hstep with
  | event h =>
    -- neither a request nor a deferral is raised outside the timer queue
    have hexternal := isExternal_of_label_event henabled hlabel
    rw [h.toExchange (by rintro rfl; cases hexternal) (by rintro rfl; cases hexternal)]
    exact hinv
  | @timer e _ c₀ _ hpop h =>
    rw [Core.toExchange_of_pop hpop] at hinv
    by_cases hdeferred : e = .pdelayDeferredProcessing
    · subst hdeferred
      exact h.deferral_of_deferred hinv
    · exact h.deferral_of_ne hdeferred hinv
  | receive h =>
    cases h with
    | pathDelayRespFollowUp h =>
      rcases h.deferral with ⟨htimers, hstored⟩ |
        ⟨-, htimers, hstored, hstate, req, resp, hreq, hresp, hdefers⟩
      · unfold Exchange.Deferral
        rw [htimers, hstored]
        exact hinv
      · -- no deferral timer was pending, or this would be the second
        obtain ⟨msg, linkSpeed, hi, hmsg⟩ := stimulus_of_label_receive hlabel
        rw [compensate_eq_pathDelayRespFollowUp] at hmsg
        subst hmsg
        have hlock := lock_of_not_drops rfl (drops_of_label_receive hlabel)
        have hzero : ¬ 0 < armed d.timerq .pdelayDeferredProcessing :=
          fun h => hcond ⟨_, linkSpeed, req, resp, hi, hlock, hstate, hreq, hresp, hdefers, h⟩
        have hnone : d.core.clear.deferredTimers = 0 := Nat.eq_zero_of_not_pos hzero
        unfold Exchange.Deferral
        rw [htimers, hstored, hnone]
        exact le_rfl
    | followUp h => cases h <;> exact hinv
    | _ => exact hinv
  | idle => exact hinv

/-- **Deferred follow-ups.** In every run in which no follow-up is deferred while a deferral timer is
pending, a follow-up is stored whenever a deferral is handled, and the process never aborts. -/
theorem deferral_never_aborts (s : Start F) (σ : ℕ → Input) (n : ℕ)
    (hdelivers : (machine F).Delivers s.daemon σ n)
    (hcond : ∀ k < n, ¬ ((machine F).stateAt s.daemon σ k).DefersTwice (σ k)) :
    ∀ k < n,
      (((machine F).stateAt s.daemon σ k).handledEvent (σ k) = some .pdelayDeferredProcessing →
        ((machine F).stateAt s.daemon σ k).port.pdelay.lastPDelayRespFollowUp ≠ none) ∧
      .abort ∉ ((machine F).stateAt s.daemon σ (k + 1)).effects := by
  have hinv := Machine.invariant (M := machine F) (s := s.daemon) (σ := σ) (n := n)
    (P := fun d => d.core.toExchange.Deferral) (.of_eq_zero rfl)
    fun k hk h => Daemon.step_deferral (hdelivers k hk) (hcond k hk) h
  intro k hk
  -- a deferral that is handled was pending, and each pending one has its follow-up
  have hstored (hlabel : ((machine F).stateAt s.daemon σ k).label (σ k) =
        .event .pdelayDeferredProcessing ∨
      ((machine F).stateAt s.daemon σ k).label (σ k) = .timer .pdelayDeferredProcessing) :
      ((machine F).stateAt s.daemon σ k).port.pdelay.lastPDelayRespFollowUp ≠ none := by
    intro hnone
    have hpending := Daemon.pending_of_label (hdelivers k hk) hlabel rfl
    have hle := hinv k hk.le
    unfold Exchange.Deferral at hle
    rw [show ((machine F).stateAt s.daemon σ k).core.lastPDelayRespFollowUp = none from hnone] at hle
    exact absurd hle (Nat.not_le.mpr hpending)
  refine ⟨fun h => hstored (Daemon.handledEvent_eq_some.mp h), fun habort => ?_⟩
  obtain ⟨e, hlabel, hexplains⟩ := Daemon.step_explains _ (σ k) habort fun h => h.abort rfl
  obtain ⟨rfl, hnone⟩ := hexplains.abort rfl
  exact hstored hlabel hnone

/-- The link goes down, which halts requests; a Signalling message starts the request timer all the
same; the request it triggers is not sent and keeps its pending timestamp; the response and its
follow-up arrive, and the follow-up is deferred. Then the deferral timer expires. -/
def singleDeferral : ℕ → Input
  | 0 => .ofEvent .powerup
  | 1 => .ofEvent .linkdown
  | 2 => .message (.signalling (neighborSignalling 0 127 127))
  | 3 => .expiry 1
  | 4 => .message (.pathDelayResp (neighborResp 0))
  | 5 => .message (.pathDelayRespFollowUp (neighborRespFollowUp 0))
  | _ => .expiry 2

/-- The same, but the follow-up arrives twice, and then another response does. -/
def duplicateDeferral : ℕ → Input
  | 6 => .message (.pathDelayRespFollowUp (neighborRespFollowUp 0))
  | 7 => .message (.pathDelayResp (neighborResp 1))
  | k => singleDeferral k

/-- With a single follow-up the deferral finds it stored. -/
theorem singleDeferral_never_aborts :
    ((machine ℚ).stateAt (Start.standard localIdentity).daemon singleDeferral 6).handledEvent
        (singleDeferral 6) = some .pdelayDeferredProcessing ∧
      ((machine ℚ).stateAt (Start.standard localIdentity).daemon singleDeferral
        6).port.pdelay.lastPDelayRespFollowUp ≠ none ∧
      .abort ∉ ((machine ℚ).stateAt (Start.standard localIdentity).daemon singleDeferral
        7).effects := by
  have hhandled : ((machine ℚ).stateAt (Start.standard localIdentity).daemon singleDeferral
      6).handledEvent (singleDeferral 6) = some .pdelayDeferredProcessing := by decide
  obtain ⟨hstored, habort⟩ := deferral_never_aborts (Start.standard localIdentity) singleDeferral 7
    (by decide) (by
      rintro k hk ⟨m, linkSpeed, req, resp, hi, -, -, -, -, -, hpending⟩
      -- only input 5 is a follow-up, and no deferral timer is pending when it arrives
      match k, hk with
      | 5, _ => exact absurd hpending (by decide)
      | 0, _ | 1, _ | 2, _ | 3, _ | 4, _ | 6, _ => cases hi) 6 (by decide)
  exact ⟨hhandled, hstored hhandled, habort⟩

/-- The second deferral timer finds no follow-up, and the process aborts. -/
theorem duplicateDeferral_aborts :
    (machine ℚ).Delivers (Start.standard localIdentity).daemon duplicateDeferral 10 ∧
      ((machine ℚ).stateAt (Start.standard localIdentity).daemon duplicateDeferral 9).handledEvent
        (duplicateDeferral 9) = some .pdelayDeferredProcessing ∧
      ((machine ℚ).stateAt (Start.standard localIdentity).daemon duplicateDeferral
        9).port.pdelay.lastPDelayRespFollowUp = none ∧
      .abort ∈ ((machine ℚ).stateAt (Start.standard localIdentity).daemon duplicateDeferral
        10).effects :=
  ⟨by decide, by decide, by decide, .head _⟩

end Gptp
