import Gptp.Safety.PdelayIdentity
import Gptp.Safety.PeerRate
import Gptp.Segment.Transmission

/-!
# The peer delay exchange across a link

A link delay is computed from four times: those at which a request left and arrived, and those at which
its response left and arrived. Two of them are taken by the requester and two by the responder, which
returns them in the response and in its follow-up.

* `Daemon.LinkTurn`: what a step does to what is known about the link.
* `pdelayExchange`: between two stations the four times of every measurement belong to one request and one
  response.
-/

namespace Gptp

open Framework

variable {F : Type}

/-! ### What a step does to the link -/

/-- The link after a measurement. -/
structure Daemon.Measured [Platform F] (req : PTPMessagePathDelayReq) (resp : PTPMessagePathDelayResp)
    (m : PTPMessagePathDelayRespFollowUp) (l l' : LinkState F) : Prop where
  oneWayDelay : l'.oneWayDelay = linkDelay req resp m l.peerRateOffset
  peerRateOffset : l'.peerRateOffset =
    peerRate req resp (linkDelay req resp m l.peerRateOffset) l
  peerOffsetTsMine : l'.peerOffsetTsMine = req.timestamp
  peerOffsetTsTheirs : l'.peerOffsetTsTheirs = resp.requestReceiptTimestamp

/-- The link is left as it is, but for its capability, and a baseline may be dropped. -/
structure LinkState.Kept (l l' : LinkState F) : Prop where
  oneWayDelay : l'.oneWayDelay = l.oneWayDelay
  peerRateOffset : l'.peerRateOffset = l.peerRateOffset
  peerOffsetTsMine : l'.peerOffsetTsMine = l.peerOffsetTsMine
  peerOffsetTsTheirs : l'.peerOffsetTsTheirs = l.peerOffsetTsTheirs
  peerOffsetInit : l'.peerOffsetInit = true → l.peerOffsetInit = true

theorem LinkState.Kept.refl (l : LinkState F) : l.Kept l := ⟨rfl, rfl, rfl, rfl, id⟩

theorem Core.kept_setAsCapable (c : Core F) (ascap : Bool) :
    c.link.Kept (c.setAsCapable ascap).link := by
  refine ⟨rfl, rfl, rfl, rfl, fun h => ?_⟩
  exact (Bool.and_eq_true_iff.mp h).2

variable [Platform F]

theorem Core.measured_measure (req : PTPMessagePathDelayReq) (resp : PTPMessagePathDelayResp)
    (m : PTPMessagePathDelayRespFollowUp) (c : Core F) :
    Daemon.Measured req resp m c.link (c.measure req resp m).link := by
  unfold measure measured
  dsimp only
  split <;> exact ⟨rfl, rfl, rfl, rfl⟩

/-- The link is kept, and nothing is measured. -/
def Core.NoMeasurement (c c' : Core F) : Prop :=
  c.link.Kept c'.link ∧ ∀ delay, .setLinkDelay delay ∉ c'.log

omit [Platform F] in
theorem Core.NoMeasurement.of_eq {c c' : Core F} (hlink : c'.link = c.link) (hlog : c'.log = []) :
    c.NoMeasurement c' := by
  refine ⟨hlink ▸ .refl _, fun delay => ?_⟩
  rw [hlog]
  exact List.not_mem_nil

omit [Platform F] in
theorem Core.noMeasurement_setMasterOffset (c : Core F) (stepped : Bool) (u : MasterOffset F)
    (hlog : ∀ delay, .setLinkDelay delay ∉ c.log) : c.NoMeasurement (c.setMasterOffset stepped u) := by
  refine ⟨?_, fun delay h => ?_⟩
  · unfold setMasterOffset
    cases stepped with
    | true => exact ⟨rfl, rfl, rfl, rfl, nofun⟩
    | false => exact .refl _
  · have hmem : .setLinkDelay delay ∈ c.log ++ [.setMasterOffset u] := by
      unfold setMasterOffset at h
      cases stepped <;> exact h
    rcases List.mem_append.mp hmem with hold | hnew
    · exact hlog delay hold
    · cases List.mem_singleton.mp hnew

/-- An event that is no deferred follow-up measures nothing. -/
theorem EventStep.noMeasurement {e : Event} {c c' : Core F} (h : EventStep e c c') (hlog : c.log = [])
    (hdeferred : e = .pdelayDeferredProcessing → c.lastPDelayRespFollowUp = none) :
    c.NoMeasurement c' := by
  have hresume := c.changesRole_resumeRole
  cases h with
  | idle => exact .of_eq rfl hlog
  | powerup => exact .of_eq hresume.link (hresume.log.trans hlog)
  | linkup =>
    unfold Core.linkup
    split
    · refine ⟨hresume.link ▸ c.resumeRole.kept_setAsCapable true, fun delay => ?_⟩
      change _ ∉ c.resumeRole.log
      rw [hresume.log, hlog]
      exact List.not_mem_nil
    · exact .of_eq hresume.link (hresume.log.trans hlog)
  | loseCapability =>
    unfold Core.loseCapability
    split
    · exact .of_eq rfl hlog
    · have hnone : c.NoMeasurement c := .of_eq rfl hlog
      exact ⟨c.kept_setAsCapable false, hnone.2⟩
  | stateChange better m =>
    have hassign := c.changesRole_assignRole better m
    exact .of_eq hassign.link (hassign.log.trans hlog)
  | receiptTimeout => exact .of_eq rfl hlog
  | pdelayInterval => exact .of_eq rfl hlog
  | abort =>
    refine ⟨.refl _, fun delay h => ?_⟩
    change _ ∈ c.log ++ [Effect.abort] at h
    rw [hlog] at h
    cases List.mem_singleton.mp h
  | deferred hstored => exact absurd ((hdeferred rfl).symm.trans hstored) nofun
  | announceInterval m =>
    unfold Core.announceInterval
    split
    · refine ⟨.refl _, fun delay h => ?_⟩
      change _ ∈ c.log ++ [Effect.send (.announce m)] at h
      rw [hlog] at h
      cases List.mem_singleton.mp h
    · exact .of_eq rfl hlog
  | syncInterval sent stepped u hcapable hsent =>
    refine (c.record sent).noMeasurement_setMasterOffset stepped u fun delay h => ?_
    change _ ∈ c.log ++ sent at h
    rw [hlog] at h
    cases hsent _ h

/-- A message that is no follow-up of a response measures nothing. -/
theorem MessageStep.noMeasurement {msg : PTPMessage} {c c' : Core F} (h : MessageStep msg c c')
    (hlog : c.log = []) (hmsg : ∀ m, msg ≠ .pathDelayRespFollowUp m) : c.NoMeasurement c' := by
  cases h with
  | followUp h =>
    cases h with
    | ignored | mismatch | takeOver | unused => exact .of_eq rfl hlog
    | offset hsync hmatch hversion stepped u hu =>
      refine c.noMeasurement_setMasterOffset stepped u fun delay => ?_
      rw [hlog]
      exact List.not_mem_nil
  | pathDelayRespFollowUp => exact absurd rfl (hmsg _)
  | sync | syncIgnored | pathDelayReq | pathDelayResp | pathDelayRespIgnored | announce | signalling =>
    exact .of_eq rfl hlog

namespace Daemon

/-- What a step does to the link: nothing but a completed exchange measures anything. -/
inductive LinkTurn (d : Daemon F) (i : Input) : Prop
  | keep (hlink : d.port.link.Kept (d.step i).port.link)
      (hnone : ∀ delay, .setLinkDelay delay ∉ (d.step i).effects)
  | measure (m : PTPMessagePathDelayRespFollowUp) (req : PTPMessagePathDelayReq)
      (resp : PTPMessagePathDelayResp) (hm : d.handledFollowUp i = some m)
      (hreq : d.port.pdelay.lastPDelayReq = some req)
      (hresp : d.port.pdelay.lastPDelayResp = some resp) (hcompletes : completes req resp m)
      (hlink : Measured req resp m d.port.link (d.step i).port.link)
      (hdelay : ∀ delay, .setLinkDelay delay ∈ (d.step i).effects →
        delay = linkDelay req resp m d.port.link.peerRateOffset)

theorem LinkTurn.of_noMeasurement {d : Daemon F} {i : Input} {c₀ : Core F} (hsame : d.core.SameInput c₀)
    (h : c₀.NoMeasurement (d.step i).core) : LinkTurn d i := by
  have hkept := h.1
  rw [hsame.link] at hkept
  refine .keep hkept fun delay hmem => h.2 delay ?_
  exact List.mem_filter.mpr ⟨hmem, rfl⟩

/-- **What a step does to the link.** -/
theorem linkTurn_step (d : Daemon F) (i : Input) : LinkTurn d i := by
  cases hm : d.handledFollowUp i with
  | some m =>
    obtain ⟨c₀, c₁, gc, hsame, hprocess, hlog, hlink⟩ := step_followUp hm
    have hkeep (hlink₁ : c₁.link = c₀.link) (hlog₁ : c₁.log = c₀.log) : LinkTurn d i :=
      .of_noMeasurement hsame (.of_eq (hlink.trans hlink₁) (hlog.trans (hlog₁.trans hsame.log)))
    cases hprocess with
    | ignored | dropped | deferred => exact hkeep rfl rfl
    | @measured req resp hstate hreq hresp hcompletes =>
      refine .measure m req resp hm (hsame.lastPDelayReq.symm.trans hreq)
        (hsame.lastPDelayResp.symm.trans hresp) hcompletes ?_ fun delay hmem => ?_
      · have hmeasured := Core.measured_measure req resp m c₀
        rw [hsame.link] at hmeasured
        change Measured req resp m d.port.link (d.step i).core.link
        rw [hlink]
        exact hmeasured
      · have hmem' : .setLinkDelay delay ∈ (d.step i).core.log := List.mem_filter.mpr ⟨hmem, rfl⟩
        rw [hlog] at hmem'
        change _ ∈ (c₀.measure req resp m).log at hmem'
        rw [c₀.log_measure, hsame.log, hsame.link] at hmem'
        exact Effect.setLinkDelay.inj (List.mem_singleton.mp hmem')
  | none =>
    have hdeferred (e : Event) (he : d.handledEvent i = some e) (hde : e = .pdelayDeferredProcessing) :
        d.port.pdelay.lastPDelayRespFollowUp = none :=
      lastPDelayRespFollowUp_of_deferred (hde ▸ he) hm
    have hstep := d.step_core i
    generalize hlabel : d.label i = l at hstep
    generalize hc' : (d.step i).core = c' at hstep
    cases hstep with
    | event h =>
      have he := handledEvent_eq_some.mpr (.inl hlabel)
      refine .of_noMeasurement d.core.sameInput_clear ?_
      rw [hc']
      exact h.noMeasurement rfl (hdeferred _ he)
    | @timer e c c₀ c' hpop h =>
      have he := handledEvent_eq_some.mpr (.inr hlabel)
      have hstored : c₀.lastPDelayRespFollowUp = d.port.pdelay.lastPDelayRespFollowUp :=
        (congrArg Exchange.lastPDelayRespFollowUp (Core.toExchange_of_pop hpop)).symm
      have hsame := Core.sameInput_of_pop hpop
      refine .of_noMeasurement hsame ?_
      rw [hc']
      exact h.noMeasurement hsame.log fun hde => hstored.trans (hdeferred _ he hde)
    | @receive msg c c' h =>
      refine .of_noMeasurement d.core.sameInput_clear ?_
      rw [hc']
      refine h.noMeasurement rfl ?_
      rintro m rfl
      -- its reception would be handled
      cases (handledFollowUp_of_label hlabel).symm.trans hm
    | idle =>
      refine .of_noMeasurement d.core.sameInput_clear ?_
      rw [hc']
      exact .of_eq rfl rfl

/-! ### The stored messages -/

/-- The stored request was stored before, or it is the one of this step. -/
theorem lastPDelayReq_origin (d : Daemon F) (i : Input) (req : PTPMessagePathDelayReq)
    (h : (d.step i).port.pdelay.lastPDelayReq = some req) :
    d.port.pdelay.lastPDelayReq = some req ∨
      d.handledEvent i = some .pdelayIntervalTimeoutExpires ∧ req = { d.pathDelayReqMessage with
        timestamp := if d.port.pdelay.pdelayHalted then Timestamp.pdelayPending
          else (d.getTxTimestamp i.env).1 } := by
  by_cases hevent : d.handledEvent i = some .pdelayIntervalTimeoutExpires
  · obtain ⟨d₀, hclock, hport, hstep⟩ := step_of_handledEvent hevent
    have hstored := storedRequest_mediaPdelayInterval i.env d₀
    have hmessage : d₀.pathDelayReqMessage = d.pathDelayReqMessage := by
      unfold pathDelayReqMessage commonFields
      rw [hclock, hport]
    rw [hport, getTxTimestamp_congr hport, hmessage] at hstored
    rw [hstep] at h
    exact .inr ⟨hevent, Option.some.inj (h.symm.trans hstored)⟩
  · exact .inl (storedRequest_step.2 hevent ▸ h)

/-- A request with a time of transmission has been sent. -/
theorem sends_request {d : Daemon F} {i : Input}
    (he : d.handledEvent i = some .pdelayIntervalTimeoutExpires)
    (hhalted : d.port.pdelay.pdelayHalted = false) :
    (d.step i).sends[0]? =
      some (.pathDelayReq { d.pathDelayReqMessage with timestamp := (d.getTxTimestamp i.env).1 }) := by
  have htransmits := d.transmits_step i
  change (d.step i).wire.1[0]? = _
  generalize (d.step i).wire = w at htransmits ⊢
  cases htransmits with
  | silent he' => cases he.symm.trans he'
  | response hi =>
    rw [handledEvent, hi] at he
    cases he
  | event he' h =>
    obtain rfl := Option.some.inj (he.symm.trans he')
    cases h with
    | silent hpdelay => exact absurd rfl hpdelay
    | signalling hsignal => cases hsignal
    | halted h => cases hhalted.symm.trans h
    | request => rfl

omit [Platform F] in
theorem isMeasurable_of_completes {req : PTPMessagePathDelayReq} {resp : PTPMessagePathDelayResp}
    {m : PTPMessagePathDelayRespFollowUp} (h : completes req resp m) : IsMeasurable req.timestamp := by
  simp only [completes, Bool.and_eq_true, decide_eq_true_eq] at h
  exact ⟨h.1.1.2, h.1.2⟩

/-- The input is the reception of a response that is stored as `stored`. -/
def ReceivesResp (d : Daemon F) (i : Input) (stored : PTPMessagePathDelayResp) : Prop :=
  ∃ resp linkSpeed, i.stimulus = .receive (.pathDelayResp resp) linkSpeed ∧
    stored = { resp with timestamp := rxCompensate d.port.cfg linkSpeed resp.timestamp }

end Daemon

/-- Processing a follow-up stores no response, and no other follow-up. -/
theorem RespFollowUpStep.slots {m : PTPMessagePathDelayRespFollowUp} {c c' : Core F} {gc : Bool}
    (h : RespFollowUpStep m c c' gc) :
    (c'.lastPDelayResp = c.lastPDelayResp ∨ c'.lastPDelayResp = none) ∧
      (c'.lastPDelayRespFollowUp = c.lastPDelayRespFollowUp ∨ c'.lastPDelayRespFollowUp = some m) := by
  cases h with
  | ignored => exact ⟨.inl rfl, .inl rfl⟩
  | dropped => exact ⟨.inr rfl, .inl rfl⟩
  | deferred => exact ⟨.inl rfl, .inr rfl⟩
  | @measured req resp _ _ _ _ =>
    have h := congrArg Exchange.lastPDelayRespFollowUp (c.toExchange_measure req resp m)
    exact ⟨.inr rfl, .inl h⟩

/-- No event stores a response or a follow-up that was not stored before. -/
theorem EventStep.slots {e : Event} {c c' : Core F} (h : EventStep e c c') :
    (c'.lastPDelayResp = c.lastPDelayResp ∨ c'.lastPDelayResp = none) ∧
      (c'.lastPDelayRespFollowUp = c.lastPDelayRespFollowUp ∨ c'.lastPDelayRespFollowUp = none) := by
  by_cases hrequest : e = .pdelayIntervalTimeoutExpires
  · subst hrequest
    obtain ⟨req, -, rfl⟩ := h.of_pdelayInterval
    exact ⟨.inl rfl, .inl rfl⟩
  by_cases hdeferred : e = .pdelayDeferredProcessing
  · subst hdeferred
    rcases h.of_deferred with ⟨-, rfl⟩ | ⟨m, c₁, gc, hstored, hprocess, rfl⟩
    · exact ⟨.inl rfl, .inl rfl⟩
    · obtain ⟨hresp, hfollowUp⟩ := hprocess.slots
      rw [← hstored, or_self] at hfollowUp
      split
      · exact ⟨hresp, .inr rfl⟩
      · exact ⟨hresp, .inl hfollowUp⟩
  · have hexchange := h.toExchange hrequest hdeferred
    exact ⟨.inl (congrArg Exchange.lastPDelayResp hexchange),
      .inl (congrArg Exchange.lastPDelayRespFollowUp hexchange)⟩

/-- What the slots of the response and its follow-up may hold after a step. -/
structure Core.SlotTurn (l : Label) (c c' : Core F) : Prop where
  resp : c'.lastPDelayResp = c.lastPDelayResp ∨ c'.lastPDelayResp = none ∨
    ∃ m, l = .receive (.pathDelayResp m) ∧ c'.lastPDelayResp = some m
  followUp : c'.lastPDelayRespFollowUp = c.lastPDelayRespFollowUp ∨ c'.lastPDelayRespFollowUp = none ∨
    ∃ m, l = .receive (.pathDelayRespFollowUp m) ∧ c'.lastPDelayRespFollowUp = some m

theorem MessageStep.slotTurn {msg : PTPMessage} {c c' : Core F} (h : MessageStep msg c c') :
    Core.SlotTurn (.receive msg) c c' := by
  cases h with
  | pathDelayResp => exact ⟨.inr (.inr ⟨_, rfl, rfl⟩), .inl rfl⟩
  | pathDelayRespFollowUp h =>
    obtain ⟨hresp, hfollowUp⟩ := h.slots
    exact ⟨hresp.imp_right .inl, hfollowUp.imp_right fun hstored => .inr ⟨_, rfl, hstored⟩⟩
  | followUp h => cases h <;> exact ⟨.inl rfl, .inl rfl⟩
  | sync | syncIgnored | pathDelayReq | pathDelayRespIgnored | announce | signalling =>
    exact ⟨.inl rfl, .inl rfl⟩

theorem CoreStep.slotTurn {l : Label} {c c' : Core F} (h : CoreStep l c c') : c.SlotTurn l c' := by
  cases h with
  | event h =>
    obtain ⟨hresp, hfollowUp⟩ := h.slots
    exact ⟨hresp.imp_right .inl, hfollowUp.imp_right .inl⟩
  | timer hpop h =>
    obtain ⟨hresp, hfollowUp⟩ := h.slots
    have hexchange := Core.toExchange_of_pop hpop
    have hresp₀ := congrArg Exchange.lastPDelayResp hexchange
    have hfollowUp₀ := congrArg Exchange.lastPDelayRespFollowUp hexchange
    exact ⟨hresp.imp (·.trans hresp₀.symm) .inl, hfollowUp.imp (·.trans hfollowUp₀.symm) .inl⟩
  | receive h => exact ⟨h.slotTurn.resp, h.slotTurn.followUp⟩
  | idle => exact ⟨.inl rfl, .inl rfl⟩

namespace Daemon

/-- The stored response was stored before, or it has just been received. -/
theorem lastPDelayResp_origin (d : Daemon F) (i : Input) (resp : PTPMessagePathDelayResp)
    (h : (d.step i).port.pdelay.lastPDelayResp = some resp) :
    d.port.pdelay.lastPDelayResp = some resp ∨ d.ReceivesResp i resp := by
  rcases (d.step_core i).slotTurn.resp with hkept | hnone | ⟨m, hlabel, hstored⟩
  · exact .inl (hkept.symm.trans h)
  · cases hnone.symm.trans h
  · obtain rfl := Option.some.inj (hstored.symm.trans h)
    obtain ⟨msg, linkSpeed, hi, hmsg⟩ := stimulus_of_label_receive hlabel
    cases msg with
    | pathDelayResp resp => exact .inr ⟨resp, linkSpeed, hi, (PTPMessage.pathDelayResp.inj hmsg).symm⟩
    | _ => cases hmsg

/-- The stored follow-up was stored before, or it has just been received. -/
theorem lastPDelayRespFollowUp_origin (d : Daemon F) (i : Input) (m : PTPMessagePathDelayRespFollowUp)
    (h : (d.step i).port.pdelay.lastPDelayRespFollowUp = some m) :
    d.port.pdelay.lastPDelayRespFollowUp = some m ∨
      ∃ linkSpeed, i.stimulus = .receive (.pathDelayRespFollowUp m) linkSpeed := by
  rcases (d.step_core i).slotTurn.followUp with hkept | hnone | ⟨m', hlabel, hstored⟩
  · exact .inl (hkept.symm.trans h)
  · cases hnone.symm.trans h
  · obtain rfl := Option.some.inj (hstored.symm.trans h)
    obtain ⟨msg, linkSpeed, hi, hmsg⟩ := stimulus_of_label_receive hlabel
    cases msg with
    | pathDelayRespFollowUp m =>
      obtain rfl := PTPMessage.pathDelayRespFollowUp.inj hmsg
      exact .inr ⟨linkSpeed, hi⟩
    | _ => cases hmsg

end Daemon

/-- No stored message survives a restart. -/
theorem Start.lastPDelay_daemon (s : Start F) : s.daemon.port.pdelay.lastPDelayResp = none ∧
    s.daemon.port.pdelay.lastPDelayRespFollowUp = none := by
  unfold daemon
  cases s.restored <;> exact ⟨rfl, rfl⟩

/-! ### Runs -/

section Runs

variable {ι : Type} [DecidableEq ι] {s : ι → Start F} {σ : ℕ → SegmentInput ι} {n k : ℕ} {i c : ι}

/-- In step `p` station `i` numbers a request with `sequenceId`. -/
structure RequestRound (s : ι → Start F) (σ : ℕ → SegmentInput ι) (p : ℕ) (i : ι)
    (sequenceId : UInt16) : Prop where
  event : Segment.handledEvent (Segment.run s σ p) (σ p) = some (i, .pdelayIntervalTimeoutExpires)
  sequenceId : sequenceId = ((Segment.run s σ p).node i).port.seq.pdelay

/-- No copy of a request reaches a station twice. -/
def RequestsArriveOnce (s : ι → Start F) (σ : ℕ → SegmentInput ι) (n : ℕ) : Prop :=
  ∀ j < n, ∀ j' < n, ∀ e ∈ (σ j).delivery, (σ j').delivery = some e →
    (∃ sent ∈ (Segment.run s σ j).sent[e.2]?, sent.2.message.messageType = .pathDelayReq) → j = j'

/-- A request of station `i` leaves at `t₁` and reaches station `c` at `t₂`; the response that `c` sends in
the same step leaves at `t₃`, as far as the platform tells, and reaches `i` at `t₄`, before step `k`. -/
def PdelayTimes (s : ι → Start F) (σ : ℕ → SegmentInput ι) (k : ℕ) (i c : ι) (t₁ t₂ : Timestamp)
    (t₃ : Timestamp × Bool) (t₄ : Timestamp) : Prop :=
  ∃ p q r t t' req resp, p < q ∧ q < r ∧ r < k ∧
    Departs s σ p t i (.pathDelayReq req) (t₁, true) ∧ Lands s σ q t c t₂ ∧
    Departs s σ q t' c (.pathDelayResp resp) t₃ ∧ Lands s σ r t' i t₄

theorem PdelayTimes.invalid_of_failed {t₁ t₂ t₄ : Timestamp} {t₃ : Timestamp × Bool}
    (h : PdelayTimes s σ k i c t₁ t₂ t₃ t₄) (hfailed : t₃.2 = false) : t₃.1 = Timestamp.invalid := by
  obtain ⟨p, q, r, t, t', req, resp, -, -, -, -, -, hdeparts, -⟩ := h
  exact hdeparts.tx_of_failed hfailed

/-- The three messages from which a delay is computed report these times. -/
structure ReportsTimes (req : PTPMessagePathDelayReq) (resp : PTPMessagePathDelayResp)
    (m : PTPMessagePathDelayRespFollowUp) (t₁ t₂ : Timestamp) (t₃ : Timestamp × Bool) (t₄ : Timestamp) :
    Prop where
  requestOrigin : req.timestamp = t₁
  requestReceipt : SameTime t₂ resp.requestReceiptTimestamp
  responseOrigin : SameTime t₃.1 m.responseOriginTimestamp
  responseReceipt : resp.timestamp = t₄

/-- A request that is stored with a time of transmission has left at that time. -/
theorem request_departs {p : ℕ} {input : Input} {req : PTPMessagePathDelayReq}
    (h : Handles (Segment.run s σ p) (σ p) i input)
    (he : ((Segment.run s σ p).node i).handledEvent input = some .pdelayIntervalTimeoutExpires)
    (hreq : req = { ((Segment.run s σ p).node i).pathDelayReqMessage with
      timestamp := if ((Segment.run s σ p).node i).port.pdelay.pdelayHalted then Timestamp.pdelayPending
        else (((Segment.run s σ p).node i).getTxTimestamp input.env).1 })
    (hmeasurable : Daemon.IsMeasurable req.timestamp) :
    Departs s σ p (Segment.run s σ p).sent.length i (.pathDelayReq req) (req.timestamp, true) ∧
      RequestRound s σ p i req.sequenceId := by
  have hevent : Segment.handledEvent (Segment.run s σ p) (σ p) =
      some (i, .pdelayIntervalTimeoutExpires) := by
    rw [h.handledEvent, he]
    rfl
  have htimestamp := congrArg (fun m : PTPMessagePathDelayReq => m.timestamp) hreq
  cases hhalted : ((Segment.run s σ p).node i).port.pdelay.pdelayHalted with
  | true =>
    -- a request that is not sent has no time
    rw [hhalted] at htimestamp
    exact absurd (congrArg Timestamp.nanoseconds htimestamp) hmeasurable.2
  | false =>
    rw [hhalted] at hreq
    have hsent := Daemon.sends_request he hhalted
    obtain rfl := hreq
    refine ⟨departs_of_handles h hsent (Prod.ext rfl ?_), hevent, rfl⟩
    by_contra hfailed
    refine hmeasurable.1 (congrArg Timestamp.nanoseconds ?_)
    exact Daemon.getTxTimestamp_of_failed (Bool.eq_false_iff.mpr hfailed)

variable (hdelivers : (segment F ι).Delivers (Segment.start s) σ n)

include hdelivers

theorem RequestRound.unique {p p' : ℕ} {sequenceId : UInt16} (hp : p < n) (hp' : p' < n)
    (hcount : Nat.count (fun k => Segment.handledEvent (Segment.run s σ k) (σ k) =
      some (i, .pdelayIntervalTimeoutExpires)) n ≤ 65536)
    (h : RequestRound s σ p i sequenceId) (h' : RequestRound s σ p' i sequenceId) : p = p' := by
  -- every request is numbered, whether or not the port is capable
  refine eq_of_sequenceId hdelivers (fun d => d.port.seq.pdelay) (fun _ => true) (fun d input => ?_)
    ((Nat.count_mono_left fun k _ h => h.1).trans hcount) hp hp' ⟨h.event, rfl⟩ ⟨h'.event, rfl⟩
    (h.sequenceId.symm.trans h'.sequenceId)
  rw [d.seq_pdelay_step]
  exact if_congr (and_iff_left rfl).symm rfl rfl

/-- A request on the wire belongs to a round of its sender. -/
theorem request_origin (hk : k ≤ n) {t : ℕ} {m : PTPMessagePathDelayReq} {time : Timestamp}
    (ht : (Segment.run s σ k).sent[t]? = some (i, ⟨.pathDelayReq m, time⟩)) :
    ∃ p < k, RequestRound s σ p i m.sequenceId ∧ t = (Segment.run s σ p).sent.length := by
  obtain ⟨p, hp, input, q, h, hq, rfl⟩ := sent_origin hdelivers hk ht
  cases Daemon.sends_of_getElem? hq with
  | request he => exact ⟨p, hp, ⟨by rw [h.handledEvent, he]; rfl, rfl⟩, rfl⟩

/-- Between two stations, a request that is answered is one of the other station. -/
theorem answers_origin (hpair : ∀ a b c : ι, a ≠ c → b ≠ c → a = b) (hother : c ≠ i) {q : ℕ} (hq : q < n)
    {input : Input} {m : PTPMessagePathDelayReq} {linkSpeed : UInt32}
    (h : Handles (Segment.run s σ q) (σ q) c input)
    (hinput : input.stimulus = .receive (.pathDelayReq m) linkSpeed) :
    ∃ p < q, RequestRound s σ p i m.sequenceId ∧
      Lands s σ q (Segment.run s σ p).sent.length c
        (Daemon.rxCompensate ((Segment.run s σ q).node c).port.cfg linkSpeed m.timestamp) ∧
      ∃ req time, (Segment.run s σ q).sent[(Segment.run s σ p).sent.length]? =
        some (i, ⟨.pathDelayReq req, time⟩) := by
  obtain ⟨hspeed, c', t, a, sent, ⟨hdeliver, ⟨time, hsent⟩, hc', harrives⟩, -⟩ :=
    hears_of_handles hdelivers hq h hinput
  obtain rfl : c' = i := hpair c' i c hc' hother.symm
  cases harrives with
  | @pathDelayReq Q _ horigin hrx =>
    obtain ⟨p, hp, hround, rfl⟩ := request_origin hdelivers hq.le hsent
    rw [← horigin.sequenceId] at hround
    refine ⟨p, hp, hround, ?_, Q, time, hsent⟩
    rw [hspeed]
    exact lands_of_deliver hdeliver hrx

/-- A follow-up that is processed has been heard, in this step or before. -/
theorem handledFollowUp_heard (hk : k < n) {input : Input} {m : PTPMessagePathDelayRespFollowUp}
    (h : Handles (Segment.run s σ k) (σ k) i input)
    (hm : ((Segment.run s σ k).node i).handledFollowUp input = some m) :
    ∃ r ≤ k, ∃ input' linkSpeed, Handles (Segment.run s σ r) (σ r) i input' ∧
      input'.stimulus = .receive (.pathDelayRespFollowUp m) linkSpeed := by
  rcases Daemon.handledFollowUp_eq_some_iff.mp hm with ⟨linkSpeed, hinput, -⟩ | ⟨-, hstored⟩
  · exact ⟨k, le_rfl, input, linkSpeed, h, hinput⟩
  · obtain ⟨r, hr, ⟨input', h', linkSpeed, hinput⟩, -⟩ := slot_run hdelivers
      (fun d : Daemon F => d.port.pdelay.lastPDelayRespFollowUp)
      (fun _ input m => ∃ linkSpeed,
        input.stimulus = .receive (.pathDelayRespFollowUp m) linkSpeed)
      (s i).lastPDelay_daemon.2 Daemon.lastPDelayRespFollowUp_origin hk.le hstored
    exact ⟨r, hr.le, input', linkSpeed, h', hinput⟩

/-- **The four times of a measurement** belong to one request and one response. -/
theorem pdelayTimes_of_completes (hpair : ∀ a b c : ι, a ≠ c → b ≠ c → a = b)
    (honce : RequestsArriveOnce s σ n)
    (hcount : Nat.count (fun k => Segment.handledEvent (Segment.run s σ k) (σ k) =
      some (i, .pdelayIntervalTimeoutExpires)) n ≤ 65536)
    (hk : k < n) {input : Input} (h : Handles (Segment.run s σ k) (σ k) i input)
    {m : PTPMessagePathDelayRespFollowUp} {req : PTPMessagePathDelayReq} {resp : PTPMessagePathDelayResp}
    (hm : ((Segment.run s σ k).node i).handledFollowUp input = some m)
    (hreq : ((Segment.run s σ k).node i).port.pdelay.lastPDelayReq = some req)
    (hresp : ((Segment.run s σ k).node i).port.pdelay.lastPDelayResp = some resp)
    (hcompletes : Daemon.completes req resp m) :
    ∃ c ≠ i, ∃ t₁ t₂ t₃ t₄, PdelayTimes s σ k i c t₁ t₂ t₃ t₄ ∧ ReportsTimes req resp m t₁ t₂ t₃ t₄ := by
  obtain ⟨hseqReq, hseqResp, -⟩ := Daemon.of_completes hcompletes
  -- the request is one that was sent, in step `p`
  obtain ⟨p, hp, ⟨input₁, h₁, he₁, hstored⟩, -⟩ := slot_run hdelivers
    (fun d : Daemon F => d.port.pdelay.lastPDelayReq)
    (fun d i req => d.handledEvent i = some .pdelayIntervalTimeoutExpires ∧
      req = { d.pathDelayReqMessage with
        timestamp := if d.port.pdelay.pdelayHalted then Timestamp.pdelayPending
          else (d.getTxTimestamp i.env).1 })
    (s i).hasReceivedNothing_daemon.lastPDelayReq Daemon.lastPDelayReq_origin hk.le hreq
  obtain ⟨hdeparts, hround⟩ := request_departs h₁ he₁ hstored (Daemon.isMeasurable_of_completes hcompletes)
  -- the response was heard in step `r`, and sent in step `q`
  obtain ⟨r, hr, ⟨input₄, h₄, heard, linkSpeed, hinput₄, hheard⟩, -⟩ := slot_run hdelivers
    (fun d : Daemon F => d.port.pdelay.lastPDelayResp) Daemon.ReceivesResp
    (s i).lastPDelay_daemon.1 Daemon.lastPDelayResp_origin hk.le hresp
  obtain ⟨hspeed, c, t', a, sent, ⟨hdeliver, ⟨time, hsent⟩, hother, harrives⟩, -⟩ :=
    hears_of_handles hdelivers (hr.trans hk) h₄ hinput₄
  -- so was its follow-up, by the same station
  obtain ⟨r', hr', input₅, linkSpeed', h₅, hinput₅⟩ := handledFollowUp_heard hdelivers hk h hm
  obtain ⟨-, c', t'', a', sent', ⟨-, ⟨time', hsent'⟩, hother', harrives'⟩, -⟩ :=
    hears_of_handles hdelivers (hr'.trans_lt hk) h₅ hinput₅
  obtain rfl : c' = c := hpair c' c i hother' hother
  cases harrives with
  | @pathDelayResp R _ horigin hrx hrequester htime =>
    cases harrives' with
    | @pathDelayRespFollowUp R' _ horigin' hrequester' htime' =>
      obtain ⟨q, hq, input₂, x, h₂, hx, rfl⟩ := sent_origin hdelivers (hr.trans hk).le hsent
      obtain ⟨q', hq', input₃, x', h₃, hx', -⟩ := sent_origin hdelivers (hr'.trans hk.le) hsent'
      have hqn : q < n := hq.trans (hr.trans hk)
      have hqn' : q' < n := hq'.trans (hr'.trans_lt hk)
      cases Daemon.sends_of_getElem? hx with
      | @response Q Qc speed hi hQ =>
        cases Daemon.sends_of_getElem? hx' with
        | @responseFollowUp Q' Qc' speed' hi' hQ' hresp' =>
          obtain ⟨p₂, hp₂, hround₂, hlands, req₂, time₂, hsent₂⟩ :=
            answers_origin hdelivers hpair hother hqn h₂ hi
          obtain ⟨p₃, hp₃, hround₃, hlands', -⟩ :=
            answers_origin hdelivers hpair hother hqn' h₃ hi'
          -- the three numbers are the same, and so are the steps in which they were given
          have hsequence : Q.sequenceId = req.sequenceId := by
            calc Q.sequenceId = heard.sequenceId := by rw [horigin.sequenceId, hQ]; rfl
              _ = resp.sequenceId := by rw [hheard]
              _ = req.sequenceId := hseqResp.trans hseqReq.symm
          have hsequence' : Q'.sequenceId = req.sequenceId := by
            calc Q'.sequenceId = m.sequenceId := by rw [horigin'.sequenceId, hQ']; rfl
              _ = req.sequenceId := hseqReq.symm
          rw [hsequence] at hround₂
          rw [hsequence'] at hround₃
          obtain rfl := hround.unique hdelivers (hp.trans hk) (hp₂.trans hqn) hcount hround₂
          obtain rfl := hround.unique hdelivers (hp.trans hk) (hp₃.trans hqn') hcount hround₃
          -- the request arrives once, so both messages were sent in one step
          obtain rfl : q = q' := by
            exact honce q hqn q' hqn' _ hlands.delivery hlands'.delivery ⟨_, hsent₂, rfl⟩
          obtain rfl := h₂.unique h₃
          obtain ⟨hmsg, rfl⟩ := Stimulus.receive.inj (hi.symm.trans hi')
          obtain rfl := PTPMessage.pathDelayReq.inj hmsg
          refine ⟨c', hother, req.timestamp, _, _, resp.timestamp, ⟨p, q, r, _, _, req, _, hp₂, hq, hr,
            hdeparts, hlands, departs_of_handles h₂ hx rfl, ?_⟩, rfl, ?_, ?_, rfl⟩
          · rw [hheard, hspeed]
            exact lands_of_deliver hdeliver hrx
          · rw [hQ] at htime
            rw [hheard]
            exact htime
          · exact htime'

/-- **One request, one response.** Between two stations, whatever is lost, delayed or reordered: the link
delay that a step stores is computed from the times at which a request of the station has left and
arrived and the times at which the answer to that same request has left and arrived, provided that no
request arrives twice and the station has numbered at most 65536 of them. A responder that does not obtain
the time at which its answer has left reports INVALID_TIMESTAMP in its place, and the delay is computed
from that. -/
theorem pdelayExchange (hpair : ∀ a b c : ι, a ≠ c → b ≠ c → a = b)
    (honce : RequestsArriveOnce s σ n)
    (hcount : Nat.count (fun k => Segment.handledEvent (Segment.run s σ k) (σ k) =
      some (i, .pdelayIntervalTimeoutExpires)) n ≤ 65536)
    (hk : k < n) {input : Input} {delay : Int64} (h : Handles (Segment.run s σ k) (σ k) i input)
    (hdelay : .setLinkDelay delay ∈ ((Segment.run s σ (k + 1)).node i).effects) :
    ∃ c ≠ i, ∃ t₁ t₂ t₃ t₄, PdelayTimes s σ k i c t₁ t₂ t₃ t₄ ∧
      (t₃.2 = false → t₃.1 = Timestamp.invalid) ∧
      ∃ req resp m, ReportsTimes req resp m t₁ t₂ t₃ t₄ ∧
        delay = Daemon.linkDelay req resp m ((Segment.run s σ k).node i).port.link.peerRateOffset := by
  rw [node_run_of_handles h] at hdelay
  cases Daemon.linkTurn_step ((Segment.run s σ k).node i) input with
  | keep hlink hnone => exact absurd hdelay (hnone delay)
  | measure m req resp hm hreq hresp hcompletes hlink hvalue =>
    obtain ⟨c, hother, t₁, t₂, t₃, t₄, htimes, hreports⟩ :=
      pdelayTimes_of_completes hdelivers hpair honce hcount hk h hm hreq hresp hcompletes
    exact ⟨c, hother, t₁, t₂, t₃, t₄, htimes, htimes.invalid_of_failed, req, resp, m, hreports,
      hvalue delay hdelay⟩

end Runs

/-- A link delay is stored in the step. -/
def Effect.isDelay : Effect F → Bool
  | .setLinkDelay _ => true
  | _ => false

theorem exists_delay_twoStations : ∃ delay : Int64,
    .setLinkDelay delay ∈ ((Segment.run twoStations twoStationsRun 11).node false).effects := by
  have hany : (((messageStation ℚ).network.stateAt (Segment.start twoStations) twoStationsRun
      11).node false).effects.any Effect.isDelay = true := by decide +kernel
  rw [← run_eq_messageStation] at hany
  obtain ⟨e, he, hdelay⟩ := List.any_eq_true.mp hany
  cases e with
  | setLinkDelay delay => exact ⟨delay, he⟩
  | _ => cases hdelay

theorem exists_responseFollowUp_twoStations : ∃ input,
    Handles (Segment.run twoStations twoStationsRun 10) (twoStationsRun 10) false input := by
  obtain ⟨input, msg, linkSpeed, hhandles, -⟩ := exists_handles_of_messageType (k := 10) (i := false)
    .pathDelayFollowup delivers_twoStations (by decide) (by decide +kernel)
  exact ⟨input, hhandles⟩

theorem requestsArriveOnce_twoStations : RequestsArriveOnce twoStations twoStationsRun 11 := by
  -- nothing arrives twice
  have honce : ∀ j < 11, ∀ j' < 11, ∀ e ∈ (twoStationsRun j).delivery,
      (twoStationsRun j').delivery = some e → j = j' := by decide +kernel
  intro j hj j' hj' e he he' _
  exact honce j hj j' hj' e he he'

theorem pdelayExchange_twoStations : ∃ (delay : Int64) (t₁ t₂ t₄ : Timestamp)
    (t₃ : Timestamp × Bool), PdelayTimes twoStations twoStationsRun 10 false true t₁ t₂ t₃ t₄ ∧
      ∃ req resp m, ReportsTimes req resp m t₁ t₂ t₃ t₄ ∧
        delay = Daemon.linkDelay req resp m (1 : ℚ) := by
  obtain ⟨delay, hdelay⟩ := exists_delay_twoStations
  obtain ⟨input, hhandles⟩ := exists_responseFollowUp_twoStations
  obtain ⟨c, hc, t₁, t₂, t₃, t₄, htimes, -, req, resp, m, hreports, heq⟩ :=
    pdelayExchange delivers_twoStations (by decide) requestsArriveOnce_twoStations
      ((Nat.count_le _).trans (by decide)) (by decide) hhandles hdelay
  obtain rfl : c = true := Bool.eq_true_of_not_eq_false hc
  have hrate : ((Segment.run twoStations twoStationsRun 10).node false).port.link.peerRateOffset =
      1 := by
    rw [run_eq_messageStation]
    decide +kernel
  rw [hrate] at heq
  exact ⟨delay, t₁, t₂, t₄, t₃, htimes, req, resp, m, hreports, heq⟩

end Gptp
