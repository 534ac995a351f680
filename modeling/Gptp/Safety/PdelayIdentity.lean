import Gptp.Port.StepFootprint
import Gptp.Safety.Deferral

/-!
# Who a peer delay measurement is with

A measurement combines the stored request, the stored response and a follow-up. `followUpMatches`
compares their sequence numbers, the port number of the two requesting identities, and the source of
response and follow-up. It is written to compare the requesting clock identities as well, but at that
point both of its local copies are still zero, and it never compares the requesting identities with
the identity of the port. So a response that was meant for another port of the network is used if its
sequence number fits.

* `Daemon.step_followUp`: a follow-up, received or deferred, is processed by one `RespFollowUpStep`.
* `Core.OwnRequest`: the stored request carries the identity of the port.
* `exchange_matches_iff`: the measurements of a run are with the right peer exactly if every exchange
  that passes the checks of the code names this port as the requester.
-/

namespace Gptp

open Framework

variable {F : Type}

namespace Daemon

/-- The follow-up an input makes the port process: one that is received and gets the receive lock, or the
stored one when a deferral is handled. -/
def handledFollowUp (d : Daemon F) (i : Input) : Option PTPMessagePathDelayRespFollowUp :=
  match i.stimulus with
  | .receive (.pathDelayRespFollowUp m) _ => if i.env.pdelayRxLock then some m else none
  | _ =>
    if d.handledEvent i = some .pdelayDeferredProcessing then d.port.pdelay.lastPDelayRespFollowUp
    else none

/-- The request, the response and the follow-up of one exchange started by the port `id`. -/
structure ExchangeMatches (id : PortIdentity) (req : PTPMessagePathDelayReq)
    (resp : PTPMessagePathDelayResp) (m : PTPMessagePathDelayRespFollowUp) : Prop where
  request : req.sourcePortIdentity = id
  requestSequence : req.sequenceId = m.sequenceId
  responseSequence : resp.sequenceId = m.sequenceId
  responseRequester : resp.requestingPortIdentity = id
  followUpRequester : m.requestingPortIdentity = id
  source : resp.sourcePortIdentity = m.sourcePortIdentity

variable [Platform F]

/-- The step stores a link delay or changes what is known about the link. -/
def UpdatesLink (d : Daemon F) (i : Input) : Prop :=
  (∃ delay, .setLinkDelay delay ∈ (d.step i).effects) ∨ (d.step i).port.link ≠ d.port.link

end Daemon

/-! ### Follow-up processing -/

variable [Platform F]

/-- A follow-up that changes something about the link passed all checks. -/
theorem RespFollowUpStep.completes_of_updates {m : PTPMessagePathDelayRespFollowUp} {c c' : Core F}
    {gc : Bool} (h : RespFollowUpStep m c c' gc) (hupdate : c'.log ≠ c.log ∨ c'.link ≠ c.link) :
    c.portState.ignoresMessages = false ∧ ∃ req resp, c.lastPDelayReq = some req ∧
      c.lastPDelayResp = some resp ∧ Daemon.completes req resp m := by
  have hsame (hlog : c'.log = c.log) (hlink : c'.link = c.link) : False :=
    hupdate.elim (· hlog) (· hlink)
  cases h with
  | ignored => exact (hsame rfl rfl).elim
  | dropped => exact (hsame rfl rfl).elim
  | deferred => exact (hsame rfl rfl).elim
  | measured hstate hreq hresp hcompletes => exact ⟨hstate, _, _, hreq, hresp, hcompletes⟩

/-- A follow-up that passes all checks completes a measurement. -/
theorem RespFollowUpStep.log_of_completes {m : PTPMessagePathDelayRespFollowUp} {c c' : Core F}
    {gc : Bool} (h : RespFollowUpStep m c c' gc) (hstate : c.portState.ignoresMessages = false)
    {req : PTPMessagePathDelayReq} {resp : PTPMessagePathDelayResp}
    (hreq : c.lastPDelayReq = some req) (hresp : c.lastPDelayResp = some resp)
    (hcompletes : Daemon.completes req resp m) :
    ∃ delay, .setLinkDelay delay ∈ c'.log := by
  refine ⟨Daemon.linkDelay req resp m c.link.peerRateOffset, ?_⟩
  rw [h.eq_of_completes hstate hreq hresp hcompletes]
  change _ ∈ (c.measure req resp m).log
  rw [c.log_measure req resp m]
  exact List.mem_append_right _ (List.mem_singleton_self _)

namespace Daemon

omit [Platform F] in
theorem handledFollowUp_eq_some_iff {d : Daemon F} {i : Input} {m : PTPMessagePathDelayRespFollowUp} :
    d.handledFollowUp i = some m ↔
      (∃ linkSpeed, i.stimulus = .receive (.pathDelayRespFollowUp m) linkSpeed ∧
        i.env.pdelayRxLock = true) ∨
        d.handledEvent i = some .pdelayDeferredProcessing ∧
          d.port.pdelay.lastPDelayRespFollowUp = some m := by
  unfold handledFollowUp
  split
  case h_1 m' linkSpeed hi =>
    -- a received message is no event
    have hnone : d.handledEvent i = none := by simp only [handledEvent, hi]
    cases hlock : i.env.pdelayRxLock <;> simp [hi, hnone]
  case h_2 hi =>
    split
    case isTrue hdeferred =>
      simp only [hdeferred, true_and]
      refine ⟨.inr, ?_⟩
      rintro (⟨linkSpeed, hi', -⟩ | hstored)
      · exact absurd hi' (hi m linkSpeed)
      · exact hstored
    case isFalse hdeferred =>
      refine iff_of_false (Option.some_ne_none m).symm ?_
      rintro (⟨linkSpeed, hi', -⟩ | ⟨hdeferred', -⟩)
      · exact hi m linkSpeed hi'
      · exact hdeferred hdeferred'

omit [Platform F] in
/-- A received follow-up that gets the lock is handled. -/
theorem handledFollowUp_of_received {d : Daemon F} {i : Input} {m : PTPMessagePathDelayRespFollowUp}
    {linkSpeed : UInt32} (hi : i.stimulus = .receive (.pathDelayRespFollowUp m) linkSpeed)
    (hgot : i.env.drops (.pathDelayRespFollowUp m) = false) : d.handledFollowUp i = some m :=
  handledFollowUp_eq_some_iff.mpr (.inl ⟨linkSpeed, hi, lock_of_not_drops rfl hgot⟩)

omit [Platform F] in
theorem handledFollowUp_of_label {d : Daemon F} {i : Input} {m : PTPMessagePathDelayRespFollowUp}
    (hlabel : d.label i = .receive (.pathDelayRespFollowUp m)) : d.handledFollowUp i = some m := by
  obtain ⟨msg, linkSpeed, hi, hmsg⟩ := stimulus_of_label_receive hlabel
  rw [compensate_eq_pathDelayRespFollowUp] at hmsg
  subst hmsg
  exact handledFollowUp_of_received hi (drops_of_label_receive hlabel)

omit [Platform F] in
/-- A deferral that handles no follow-up has found none. -/
theorem lastPDelayRespFollowUp_of_deferred {d : Daemon F} {i : Input}
    (hdeferred : d.handledEvent i = some .pdelayDeferredProcessing)
    (h : d.handledFollowUp i = none) : d.port.pdelay.lastPDelayRespFollowUp = none := by
  by_contra hstored
  obtain ⟨m, hm⟩ := Option.ne_none_iff_exists'.mp hstored
  have hsome := handledFollowUp_eq_some_iff.mpr (.inr ⟨hdeferred, hm⟩)
  rw [h] at hsome
  cases hsome

/-- A deferral that handles no follow-up aborts. -/
theorem step_of_deferredNone {d : Daemon F} {i : Input}
    (hdeferred : d.handledEvent i = some .pdelayDeferredProcessing)
    (h : d.handledFollowUp i = none) :
    ∃ d₀ : Daemon F, d₀.port = d.port ∧ d.step i = d₀.emit .abort := by
  obtain ⟨d₀, -, hport, hstep⟩ := step_of_handledEvent hdeferred
  have hnone := lastPDelayRespFollowUp_of_deferred hdeferred h
  rw [← hport] at hnone
  refine ⟨d₀, hport, hstep.trans ?_⟩
  change d₀.mediaPdelayDeferred = _
  rw [mediaPdelayDeferred, hnone]

/-- A deferral that finds a follow-up processes it, and drops it if the processing has finished. -/
theorem mediaPdelayDeferred_of_some {d : Daemon F} {m : PTPMessagePathDelayRespFollowUp}
    (h : d.port.pdelay.lastPDelayRespFollowUp = some m) :
    d.mediaPdelayDeferred = (d.processPathDelayRespFollowUp m).1 ∨
      d.mediaPdelayDeferred = (d.processPathDelayRespFollowUp m).1.setLastPDelayRespFollowUp none := by
  unfold mediaPdelayDeferred
  rw [h]
  dsimp only
  split
  · exact .inr rfl
  · exact .inl rfl

theorem step_of_receivedFollowUp {d : Daemon F} {i : Input} {m : PTPMessagePathDelayRespFollowUp}
    {linkSpeed : UInt32} (hi : i.stimulus = .receive (.pathDelayRespFollowUp m) linkSpeed)
    (hlock : i.env.pdelayRxLock = true) :
    d.step i = (processPathDelayRespFollowUp m { d with effects := [] }).1 := by
  simp only [step, hi, receive, compensate, processMessage_pathDelayRespFollowUp hlock]

/-- A deferral that finds a follow-up processes it. -/
theorem eventStep_followUp {c c' : Core F} {m : PTPMessagePathDelayRespFollowUp}
    (h : EventStep .pdelayDeferredProcessing c c') (hstored : c.lastPDelayRespFollowUp = some m) :
    ∃ c₁ gc, RespFollowUpStep m c c₁ gc ∧ c'.log = c₁.log ∧ c'.link = c₁.link := by
  rcases h.of_deferred with ⟨hnone, -⟩ | ⟨m', c₁, gc, hstored', hprocess, rfl⟩
  · rw [hstored] at hnone
    cases hnone
  · obtain rfl := Option.some.inj (hstored.symm.trans hstored')
    refine ⟨c₁, gc, hprocess, ?_, ?_⟩ <;> split <;> rfl

/-- **Follow-up processing.** A follow-up, received or deferred, is processed in one step from what
the core held before; the step does nothing else to the link or the log. -/
theorem step_followUp {d : Daemon F} {i : Input} {m : PTPMessagePathDelayRespFollowUp}
    (h : d.handledFollowUp i = some m) :
    ∃ c₀ c₁ gc, d.core.SameInput c₀ ∧ RespFollowUpStep m c₀ c₁ gc ∧
      (d.step i).core.log = c₁.log ∧ (d.step i).core.link = c₁.link := by
  -- three labels process a follow-up: its reception, and a deferral raised or timed
  have hlabel : d.label i = .receive (.pathDelayRespFollowUp m) ∨
      (d.label i = .event .pdelayDeferredProcessing ∨
        d.label i = .timer .pdelayDeferredProcessing) ∧
        d.core.lastPDelayRespFollowUp = some m := by
    rcases handledFollowUp_eq_some_iff.mp h with ⟨linkSpeed, hi, hlock⟩ | ⟨hevent, hstored⟩
    · exact .inl (label_of_receive hi (not_drops_of_lock hlock _))
    · exact .inr ⟨handledEvent_eq_some.mp hevent, hstored⟩
  have hstep := d.step_core i
  generalize (d.step i).core = c' at hstep ⊢
  rcases hlabel with hlabel | ⟨hlabel | hlabel, hstored⟩ <;> rw [hlabel] at hstep
  · cases hstep with
    | receive h =>
      cases h with
      | pathDelayRespFollowUp h => exact ⟨_, _, _, d.core.sameInput_clear, h, rfl, rfl⟩
  · cases hstep with
    | event h =>
      obtain ⟨c₁, gc, hprocess, hlog, hlink⟩ := eventStep_followUp h hstored
      exact ⟨_, c₁, gc, d.core.sameInput_clear, hprocess, hlog, hlink⟩
  · cases hstep with
    | @timer _ _ c₀ _ hpop h =>
      have hstored₀ : c₀.lastPDelayRespFollowUp = some m :=
        (congrArg Exchange.lastPDelayRespFollowUp (Core.toExchange_of_pop hpop)).symm.trans hstored
      obtain ⟨c₁, gc, hprocess, hlog, hlink⟩ := eventStep_followUp h hstored₀
      exact ⟨c₀, c₁, gc, Core.sameInput_of_pop hpop, hprocess, hlog, hlink⟩

/-- A follow-up that passes all checks stores a link delay. -/
theorem measures_of_completes {d : Daemon F} {i : Input} {m : PTPMessagePathDelayRespFollowUp}
    (h : d.handledFollowUp i = some m) (hstate : d.port.portState.ignoresMessages = false)
    {req : PTPMessagePathDelayReq} {resp : PTPMessagePathDelayResp}
    (hreq : d.port.pdelay.lastPDelayReq = some req)
    (hresp : d.port.pdelay.lastPDelayResp = some resp) (hcompletes : completes req resp m) :
    ∃ delay, .setLinkDelay delay ∈ (d.step i).effects := by
  obtain ⟨c₀, c₁, gc, hsame, hprocess, hlog, -⟩ := step_followUp h
  have hstate₀ : c₀.portState.ignoresMessages = false := by
    rw [hsame.portState]
    exact hstate
  obtain ⟨delay, hdelay⟩ := hprocess.log_of_completes hstate₀ (hsame.lastPDelayReq.trans hreq)
    (hsame.lastPDelayResp.trans hresp) hcompletes
  rw [← hlog] at hdelay
  exact ⟨delay, (List.mem_filter.mp hdelay).1⟩

/-- An update of the link while a follow-up is processed is a completed measurement, and the other way
round. -/
theorem updatesLink_iff {d : Daemon F} {i : Input} {m : PTPMessagePathDelayRespFollowUp}
    (h : d.handledFollowUp i = some m) :
    d.UpdatesLink i ↔ d.port.portState.ignoresMessages = false ∧
      ∃ req resp, d.port.pdelay.lastPDelayReq = some req ∧
        d.port.pdelay.lastPDelayResp = some resp ∧ completes req resp m := by
  constructor
  · intro hupdate
    obtain ⟨c₀, c₁, gc, hsame, hprocess, hlog, hlink⟩ := step_followUp h
    have hupdate₀ : c₁.log ≠ c₀.log ∨ c₁.link ≠ c₀.link := by
      -- the log starts empty, so a stored delay is one that this processing has added
      rcases hupdate with ⟨delay, hdelay⟩ | hne
      · left
        intro hempty
        have hmem : .setLinkDelay delay ∈ (d.step i).core.log :=
          List.mem_filter.mpr ⟨hdelay, rfl⟩
        rw [hlog, hempty, hsame.log] at hmem
        cases hmem
      · right
        intro heq
        exact hne (hlink.trans (heq.trans hsame.link))
    obtain ⟨hstate, req, resp, hreq, hresp, hcompletes⟩ := hprocess.completes_of_updates hupdate₀
    rw [hsame.portState] at hstate
    exact ⟨hstate, req, resp, hsame.lastPDelayReq.symm.trans hreq,
      hsame.lastPDelayResp.symm.trans hresp, hcompletes⟩
  · rintro ⟨hstate, req, resp, hreq, hresp, hcompletes⟩
    exact .inl (measures_of_completes h hstate hreq hresp hcompletes)

end Daemon

/-! ### The stored request -/

/-- The stored request carries the identity of the port. -/
def Core.OwnRequest (c : Core F) : Prop :=
  ∀ req, c.lastPDelayReq = some req → req.sourcePortIdentity = c.portCfg.portIdentity

omit [Platform F] in
theorem Core.OwnRequest.congr {c c' : Core F} (h : c.OwnRequest)
    (hreq : c'.lastPDelayReq = c.lastPDelayReq) (hcfg : c'.portCfg = c.portCfg) :
    c'.OwnRequest := by
  intro req hreq'
  rw [hcfg]
  exact h req (hreq.symm.trans hreq')

theorem RespFollowUpStep.lastPDelayReq {m : PTPMessagePathDelayRespFollowUp} {c c' : Core F}
    {gc : Bool} (h : RespFollowUpStep m c c' gc) : c'.lastPDelayReq = c.lastPDelayReq := by
  cases h with
  | ignored | dropped | deferred => rfl
  | @measured req resp _ _ _ _ =>
    have h := congrArg Exchange.lastPDelayReq (c.toExchange_measure req resp m)
    exact h

theorem MessageStep.lastPDelayReq {msg : PTPMessage} {c c' : Core F} (h : MessageStep msg c c') :
    c'.lastPDelayReq = c.lastPDelayReq := by
  cases h with
  | pathDelayRespFollowUp h => exact h.lastPDelayReq
  | followUp h => cases h <;> rfl
  | _ => rfl

/-- A new request carries the identity of the port, and no other event replaces the stored one. -/
theorem EventStep.ownRequest {e : Event} {c c' : Core F} (h : EventStep e c c')
    (hinv : c.OwnRequest) : c'.OwnRequest := by
  by_cases hrequest : e = .pdelayIntervalTimeoutExpires
  · subst hrequest
    obtain ⟨req, hsource, rfl⟩ := h.of_pdelayInterval
    intro req' hreq'
    obtain rfl := Option.some.inj hreq'
    exact hsource
  by_cases hdeferred : e = .pdelayDeferredProcessing
  · subst hdeferred
    rcases h.of_deferred with ⟨-, rfl⟩ | ⟨m, c₁, gc, -, hprocess, rfl⟩
    · exact hinv
    · have hcfg := congrArg Role.portCfg hprocess.toRole
      split <;> exact hinv.congr hprocess.lastPDelayReq hcfg
  · exact hinv.congr (congrArg Exchange.lastPDelayReq (h.toExchange hrequest hdeferred)) h.cfg.2

theorem Daemon.step_ownRequest (d : Daemon F) (i : Input) (hinv : d.core.OwnRequest) :
    (d.step i).core.OwnRequest := by
  have hstep := d.step_core i
  generalize (d.step i).core = c' at hstep ⊢
  generalize d.label i = l at hstep
  cases hstep with
  | event h => exact h.ownRequest hinv
  | timer hpop h =>
    have hsame := Core.sameInput_of_pop hpop
    exact h.ownRequest (hinv.congr hsame.lastPDelayReq hsame.portCfg)
  | receive h => exact hinv.congr h.lastPDelayReq h.cfg.2
  | idle => exact hinv

/-! ### The measurements of a run -/

/-- Whenever an exchange passes the checks of the code, the response and the follow-up name this port
as the requester. -/
def Daemon.NamesRequester (d : Daemon F) (i : Input) : Prop :=
  ∀ m req resp, d.handledFollowUp i = some m → d.port.portState.ignoresMessages = false →
    d.port.pdelay.lastPDelayReq = some req → d.port.pdelay.lastPDelayResp = some resp →
    completes req resp m →
      resp.requestingPortIdentity = d.port.cfg.portIdentity ∧
        m.requestingPortIdentity = d.port.cfg.portIdentity

omit [Platform F] in
/-- What the checks of the code do establish. -/
theorem Daemon.of_completes {req : PTPMessagePathDelayReq} {resp : PTPMessagePathDelayResp}
    {m : PTPMessagePathDelayRespFollowUp} (h : completes req resp m) :
    req.sequenceId = m.sequenceId ∧ resp.sequenceId = m.sequenceId ∧
      resp.sourcePortIdentity = m.sourcePortIdentity := by
  simp only [completes, followUpMatches, Bool.and_eq_true, decide_eq_true_eq] at h
  obtain ⟨⟨⟨⟨⟨⟨⟨hreq, hresp⟩, -⟩, -⟩, hsource⟩, -⟩, -⟩, -⟩ := h
  exact ⟨hreq, hresp, hsource.symm⟩

/-- **Peer delay measurements.** In a run, every update of the link by a peer delay exchange is with
one exchange started by this port, exactly if every exchange that passes the checks of the code names
this port as the requester. -/
theorem exchange_matches_iff (s : Start F) (σ : ℕ → Input) (n : ℕ) :
    (∀ k < n, ∀ m, ((machine F).stateAt s.daemon σ k).handledFollowUp (σ k) = some m →
      ((machine F).stateAt s.daemon σ k).UpdatesLink (σ k) →
      ∃ req resp, ((machine F).stateAt s.daemon σ k).port.pdelay.lastPDelayReq = some req ∧
        ((machine F).stateAt s.daemon σ k).port.pdelay.lastPDelayResp = some resp ∧
        Daemon.ExchangeMatches s.portConfig.portIdentity req resp m) ↔
    ∀ k < n, ((machine F).stateAt s.daemon σ k).NamesRequester (σ k) := by
  have hinit : s.daemon.core.OwnRequest := by
    intro req hreq
    have hnone : s.daemon.core.lastPDelayReq = none := s.hasReceivedNothing_daemon.lastPDelayReq
    rw [hnone] at hreq
    cases hreq
  have hown (k : ℕ) : ((machine F).stateAt s.daemon σ k).core.OwnRequest :=
    Machine.invariant_all (M := machine F) (P := fun d => d.core.OwnRequest) hinit
      (fun d i => d.step_ownRequest i) k
  have hcfg (k : ℕ) : ((machine F).stateAt s.daemon σ k).port.cfg = s.portConfig :=
    (stateAt_cfg s.daemon σ k).2.trans s.daemon_cfg.2
  constructor
  · intro hmatches k hk m req resp hm hstate hreq hresp hcompletes
    obtain ⟨req', resp', hreq', hresp', h⟩ := hmatches k hk m hm
      ((Daemon.updatesLink_iff hm).mpr ⟨hstate, req, resp, hreq, hresp, hcompletes⟩)
    obtain rfl := Option.some.inj (hresp.symm.trans hresp')
    rw [hcfg k]
    exact ⟨h.responseRequester, h.followUpRequester⟩
  · -- the sequence numbers and the peer are compared by the code; the request is the port's own
    intro hnames k hk m hm hupdates
    obtain ⟨hstate, req, resp, hreq, hresp, hcompletes⟩ := (Daemon.updatesLink_iff hm).mp hupdates
    obtain ⟨hrespId, hmId⟩ := hnames k hk m req resp hm hstate hreq hresp hcompletes
    have hsource := hown k req hreq
    rw [show ((machine F).stateAt s.daemon σ k).core.portCfg = s.portConfig from hcfg k] at hsource
    rw [hcfg k] at hrespId hmId
    obtain ⟨hreqSeq, hrespSeq, hpeer⟩ := Daemon.of_completes hcompletes
    exact ⟨req, resp, hreq, hresp, hsource, hreqSeq, hrespSeq, hrespId, hmId, hpeer⟩

/-- An exchange whose response and follow-up were meant for another clock. -/
def foreignExchange : ℕ → Input
  | 0 => .ofEvent .powerup
  | 1 => .expiry 1
  | 2 => .message (.pathDelayResp
      { neighborResp 0 with requestingPortIdentity := ⟨neighborIdentity, 1⟩ })
  | _ => .message (.pathDelayRespFollowUp
      { neighborRespFollowUp 0 with requestingPortIdentity := ⟨neighborIdentity, 1⟩ })

/-- The port stores a link delay from an exchange that names another clock as the requester. -/
theorem foreign_exchange_measured :
    (machine ℚ).Delivers (Start.standard localIdentity).daemon foreignExchange 4 ∧
    ∃ m, ((machine ℚ).stateAt (Start.standard localIdentity).daemon foreignExchange
        3).handledFollowUp (foreignExchange 3) = some m ∧
      ((machine ℚ).stateAt (Start.standard localIdentity).daemon foreignExchange 3).UpdatesLink
        (foreignExchange 3) ∧
      ∀ req resp, ¬ Daemon.ExchangeMatches
        (Start.standard localIdentity).portConfig.portIdentity req resp m := by
  refine ⟨by decide, _, rfl, .inl ⟨_, .head _⟩, ?_⟩
  rintro req resp ⟨-, -, -, -, hrequester, -⟩
  exact absurd hrequester (by decide)

end Gptp
