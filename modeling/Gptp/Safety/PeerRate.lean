import Gptp.Safety.PdelayIdentity

/-!
# The times a peer rate is computed from

A completed peer delay exchange computes the peer rate from two local times: the transmit time of its
own request, and that of the request of an earlier exchange, the baseline. Between the two the clock
must not have been stepped, so a phase step invalidates the baseline and starts a new version of the
timestamper. An exchange that is in flight when the clock is stepped is not invalidated: request and
response both carry the old version, and if only the follow-up arrives after the step, the exchange
completes and leaves a baseline of the old version.

* `Daemon.completedRequest`, `LinkState.baseline`, `Daemon.rateTimestamps`: the two times.
* `Daemon.linkChange_step`: the steps that complete no exchange.
* `Daemon.baseline_step`: what a step does to the baseline and to the version of the timestamper.
* `Daemon.OfBaselineOrCurrent`: the stored request is of the version of the baseline, or of the
  current one.
* `rateTimestamps_version_iff`: the rates of a run are computed within one version exactly if no
  exchange that was in flight at a phase step leaves the baseline for an exchange begun after it.
-/

namespace Gptp

open Framework

variable {F : Type}

/-- The baseline of the peer rate: the transmit time of the request it was last measured with. -/
def LinkState.baseline (l : LinkState F) : Option Timestamp :=
  if l.peerOffsetInit then some l.peerOffsetTsMine else none

namespace Daemon

/-- The request of the peer delay exchange that an input completes. -/
def completedRequest (d : Daemon F) (i : Input) : Option PTPMessagePathDelayReq :=
  match d.handledFollowUp i, d.port.pdelay.lastPDelayReq, d.port.pdelay.lastPDelayResp with
  | some m, some req, some resp =>
    if d.port.portState.ignoresMessages = false ∧ completes req resp m then some req else none
  | _, _, _ => none

/-- The local times from which an input makes the port compute a peer rate: the baseline, and the
transmit time of the request. -/
def rateTimestamps (d : Daemon F) (i : Input) : Option (Timestamp × Timestamp) :=
  (d.completedRequest i).bind fun req =>
    d.port.link.baseline.map fun base => (base, req.timestamp)

theorem completedRequest_eq_some_iff {d : Daemon F} {i : Input} {req : PTPMessagePathDelayReq} :
    d.completedRequest i = some req ↔
      ∃ m resp, d.handledFollowUp i = some m ∧ d.port.portState.ignoresMessages = false ∧
        d.port.pdelay.lastPDelayReq = some req ∧ d.port.pdelay.lastPDelayResp = some resp ∧
        completes req resp m := by
  unfold completedRequest
  constructor
  · intro h
    split at h
    case h_1 m req' resp hm hreq hresp =>
      split at h
      case isTrue hchecks =>
        obtain rfl := Option.some.inj h
        exact ⟨m, resp, hm, hchecks.1, hreq, hresp, hchecks.2⟩
      case isFalse => cases h
    case h_2 => cases h
  · rintro ⟨m, resp, hm, hstate, hreq, hresp, hcompletes⟩
    simp [hm, hreq, hresp, hstate, hcompletes]

theorem rateTimestamps_eq_some_iff {d : Daemon F} {i : Input} {base cur : Timestamp} :
    d.rateTimestamps i = some (base, cur) ↔
      ∃ req, d.completedRequest i = some req ∧ d.port.link.baseline = some base ∧
        req.timestamp = cur := by
  unfold rateTimestamps
  simp only [Option.bind_eq_some_iff, Option.map_eq_some_iff, Prod.mk.injEq]
  constructor
  · rintro ⟨req, hreq, base', hbase, rfl, hcur⟩
    exact ⟨req, hreq, hbase, hcur⟩
  · rintro ⟨req, hreq, hbase, hcur⟩
    exact ⟨req, hreq, base, hbase, rfl, hcur⟩

end Daemon

/-! ### The baseline under the steps of the core -/

/-- What a step that measures nothing does: the peer rate stays, and the baseline is dropped or stays
together with the version of the timestamper. -/
structure Core.KeepsRate (c c' : Core F) : Prop where
  rate : c'.link.peerRateOffset = c.link.peerRateOffset
  baseline : c'.link.baseline = none ∨
    c'.link.baseline = c.link.baseline ∧ c'.timestampVersion = c.timestampVersion

/-- What can happen to the link and the version of the timestamper without a measurement: nothing, a
phase step of the local clock, which drops the baseline, or, if `sets`, an assignment to `asCapable`. -/
inductive Core.LinkChange (sets : Prop) (c c' : Core F) : Prop
  | keep (hlink : c'.link = c.link) (hversion : c'.timestampVersion = c.timestampVersion)
  | phaseStep (hlink : c'.link = { c.link with peerOffsetInit := false })
  | setAsCapable (ascap : Bool) (hsets : sets) (hlink : c'.link = (c.setAsCapable ascap).link)
      (hversion : c'.timestampVersion = c.timestampVersion)

namespace Core

variable {c c₀ c' : Core F} {sets sets' : Prop}

/-- Only the link and the version of the timestamper matter at the start. -/
theorem LinkChange.of_start (h : c₀.LinkChange sets' c') (hsets : sets' → sets)
    (hlink₀ : c₀.link = c.link) (hversion₀ : c₀.timestampVersion = c.timestampVersion) :
    c.LinkChange sets c' := by
  cases h with
  | keep hlink hversion => exact .keep (hlink.trans hlink₀) (hversion.trans hversion₀)
  | phaseStep hlink =>
    rw [hlink₀] at hlink
    exact .phaseStep hlink
  | setAsCapable ascap h hlink hversion =>
    refine .setAsCapable ascap (hsets h) (hlink.trans ?_) (hversion.trans hversion₀)
    unfold Core.setAsCapable
    rw [hlink₀]

/-- Gaining `asCapable` keeps the baseline, losing it drops it. -/
theorem LinkChange.keepsRate (h : c.LinkChange sets c') : c.KeepsRate c' := by
  cases h with
  | keep hlink hversion =>
    exact ⟨congrArg LinkState.peerRateOffset hlink,
      .inr ⟨congrArg LinkState.baseline hlink, hversion⟩⟩
  | phaseStep hlink =>
    refine ⟨?_, .inl ?_⟩
    · rw [hlink]
    · rw [hlink]
      rfl
  | setAsCapable ascap _ hlink hversion =>
    refine ⟨?_, ?_⟩ <;> rw [hlink]
    · rfl
    · cases ascap with
      | false => exact .inl rfl
      | true => exact .inr ⟨rfl, hversion⟩

end Core

variable [Platform F]

/-- The peer rate after a measurement. -/
theorem Core.peerRateOffset_measure (req : PTPMessagePathDelayReq) (resp : PTPMessagePathDelayResp)
    (m : PTPMessagePathDelayRespFollowUp) (c : Core F) :
    (c.measure req resp m).link.peerRateOffset =
      Daemon.peerRate req resp (Daemon.linkDelay req resp m c.link.peerRateOffset) c.link := by
  unfold measure measured
  dsimp only
  split <;> rfl

theorem EventStep.linkChange {e : Event} {c c' : Core F} (h : EventStep e c c')
    (he : e ≠ .pdelayDeferredProcessing) :
    c.LinkChange (c.portCfg.automotiveProfile = true ∨ e.losesCapability = true) c' := by
  have hrole := c.changesRole_resumeRole
  cases h with
  | idle => exact .keep rfl rfl
  | powerup => exact .keep hrole.link hrole.timestampVersion
  | linkup =>
    unfold Core.linkup
    split_ifs with hauto
    · refine .setAsCapable true (.inl hauto) ?_ hrole.timestampVersion
      unfold Core.setAsCapable
      rw [hrole.link]
    · exact .keep hrole.link hrole.timestampVersion
  | loseCapability hloses =>
    unfold Core.loseCapability
    split_ifs
    · exact .keep rfl rfl
    · exact .setAsCapable false (.inr hloses) rfl rfl
  | stateChange better m =>
    have hassign := c.changesRole_assignRole better m
    exact .keep hassign.link hassign.timestampVersion
  | receiptTimeout => exact .keep rfl rfl
  | pdelayInterval => exact .keep rfl rfl
  -- only a deferral measures
  | abort => exact absurd rfl he
  | deferred => exact absurd rfl he
  | announceInterval m =>
    unfold Core.announceInterval
    split <;> exact .keep rfl rfl
  | syncInterval sent stepped u =>
    cases stepped with
    | false => exact .keep rfl rfl
    | true => exact .phaseStep rfl

omit [Platform F] in
theorem FollowUpStep.linkChange {m : PTPMessageFollowUp} {c c' : Core F} (h : FollowUpStep m c c')
    {sets : Prop} : c.LinkChange sets c' := by
  cases h with
  | ignored | mismatch | takeOver | unused => exact .keep rfl rfl
  | offset _ _ _ stepped u =>
    cases stepped with
    | false => exact .keep rfl rfl
    | true => exact .phaseStep rfl

theorem MessageStep.linkChange {msg : PTPMessage} {c c' : Core F} (h : MessageStep msg c c')
    (hmsg : ∀ m, msg ≠ .pathDelayRespFollowUp m) {sets : Prop} : c.LinkChange sets c' := by
  cases h with
  | followUp h => exact h.linkChange
  | pathDelayRespFollowUp => exact absurd rfl (hmsg _)
  | _ => exact .keep rfl rfl

/-! ### The baseline under the steps of the daemon -/

namespace Daemon

variable {d : Daemon F} {i : Input}

/-- Processing a follow-up leaves the timestamper and the stored request alone. -/
theorem read_step_of_followUp {m : PTPMessagePathDelayRespFollowUp} (h : d.handledFollowUp i = some m)
    {l : Location} (hl : l ∉ respFollowUpFootprint) (htimer : ∀ e, l ≠ .timer e)
    (hspeed : l ≠ .linkSpeed) : (d.step i).read l = d.read l := by
  rcases handledFollowUp_eq_some_iff.mp h with ⟨linkSpeed, hi, -⟩ | ⟨hdeferred, -⟩
  · refine read_step (fun e he => ?_) (fun msg ls hi' _ => ?_) hspeed
    · simp [handledEvent, hi] at he
    · rw [hi] at hi'
      cases hi'
      exact hl
  · refine read_step (fun e he => ?_) (fun msg ls hi' _ => ?_) hspeed
    · obtain rfl := Option.some.inj (hdeferred.symm.trans he)
      exact ⟨htimer _, hl⟩
    · simp [handledEvent, hi'] at hdeferred

/-- **Steps that complete no exchange.** Such a step sets `asCapable` in the automotive profile only, or
for an event that takes it away. -/
theorem linkChange_step (h : d.completedRequest i = none) :
    d.core.LinkChange (d.port.cfg.automotiveProfile = true ∨
      ∃ e, d.handledEvent i = some e ∧ e.losesCapability = true) (d.step i).core := by
  cases hm : d.handledFollowUp i with
  | some m =>
    -- the follow-up fails a check
    obtain ⟨c₀, c₁, gc, hsameInput, hprocess, -, hlink⟩ := step_followUp hm
    have hversion : (d.step i).core.timestampVersion = d.core.timestampVersion :=
      read_step_of_followUp hm (l := .timestampVersion) (by decide) nofun nofun
    refine .keep ?_ hversion
    rw [hlink, ← hsameInput.link]
    cases hprocess with
    | ignored | dropped | deferred => rfl
    | measured hstate hreq hresp hcompletes =>
      rw [hsameInput.portState] at hstate
      have hsome := completedRequest_eq_some_iff.mpr ⟨m, _, hm, hstate,
        hsameInput.lastPDelayReq.symm.trans hreq, hsameInput.lastPDelayResp.symm.trans hresp,
        hcompletes⟩
      cases h.symm.trans hsome
  | none =>
    have hstep := d.step_core i
    have hany : ∀ (e : Event) (c₀ c' : Core F), d.handledEvent i = some e →
        c₀.lastPDelayRespFollowUp = d.port.pdelay.lastPDelayRespFollowUp →
        c₀.portCfg = d.port.cfg → EventStep e c₀ c' →
        c₀.LinkChange (d.port.cfg.automotiveProfile = true ∨
          ∃ e, d.handledEvent i = some e ∧ e.losesCapability = true) c' := by
      intro e c₀ c' he hstored hcfg hevent
      by_cases hdeferred : e = .pdelayDeferredProcessing
      · -- a deferral finds no follow-up
        subst hdeferred
        rcases hevent.of_deferred with ⟨-, rfl⟩ | ⟨m, c₁, gc, hsome, -, -⟩
        · exact .keep rfl rfl
        · rw [hstored, lastPDelayRespFollowUp_of_deferred he hm] at hsome
          cases hsome
      · refine (hevent.linkChange hdeferred).of_start ?_ rfl rfl
        rw [hcfg]
        exact .imp_right fun hloses => ⟨e, he, hloses⟩
    generalize (d.step i).core = c' at hstep ⊢
    cases hlabel : d.label i with
    | event e =>
      rw [hlabel] at hstep
      cases hstep with
      | event h =>
        have hchange := hany e d.core.clear _ (handledEvent_eq_some.mpr (.inl hlabel)) rfl rfl h
        exact hchange.of_start id rfl rfl
    | timer e =>
      rw [hlabel] at hstep
      cases hstep with
      | @timer _ _ c₀ _ hpop h =>
        have hsameInput := Core.sameInput_of_pop hpop
        have hstored : c₀.lastPDelayRespFollowUp = d.port.pdelay.lastPDelayRespFollowUp :=
          (congrArg Exchange.lastPDelayRespFollowUp (Core.toExchange_of_pop hpop)).symm
        have hversion : c₀.timestampVersion = d.core.timestampVersion :=
          (congrArg Core.timestampVersion hpop).symm
        have hchange := hany e c₀ _ (handledEvent_eq_some.mpr (.inr hlabel)) hstored
          hsameInput.portCfg h
        exact hchange.of_start id hsameInput.link hversion
    | receive msg =>
      rw [hlabel] at hstep
      cases hstep with
      | receive h =>
        have hmsg : ∀ m, msg ≠ .pathDelayRespFollowUp m := by
          rintro m rfl
          rw [handledFollowUp_of_label hlabel] at hm
          cases hm
        exact (h.linkChange hmsg).of_start id rfl rfl
    | idle =>
      rw [hlabel] at hstep
      cases hstep with
      | idle => exact .keep rfl rfl

/-- A step that completes no exchange keeps the peer rate. -/
theorem keepsRate_step (h : d.completedRequest i = none) : d.core.KeepsRate (d.step i).core :=
  (linkChange_step h).keepsRate

/-- An exchange that passes the checks is measured. -/
theorem link_step_of_completedRequest {req : PTPMessagePathDelayReq}
    (h : d.completedRequest i = some req) :
    ∃ (resp : PTPMessagePathDelayResp) (m : PTPMessagePathDelayRespFollowUp) (c₀ : Core F),
      c₀.link = d.port.link ∧ (d.step i).port.link = (c₀.measure req resp m).link := by
  obtain ⟨m, resp, hm, hstate, hreq, hresp, hcompletes⟩ := completedRequest_eq_some_iff.mp h
  obtain ⟨c₀, c₁, gc, hsame, hprocess, -, hlink⟩ := step_followUp hm
  have hstate₀ : c₀.portState.ignoresMessages = false := by
    rw [hsame.portState]
    exact hstate
  refine ⟨resp, m, c₀, hsame.link, hlink.trans ?_⟩
  rw [hprocess.eq_of_completes hstate₀ (hsame.lastPDelayReq.trans hreq)
    (hsame.lastPDelayResp.trans hresp) hcompletes]
  rfl

/-- **Completing an exchange.** The transmit time of its request becomes the baseline; the version of
the timestamper and the stored request stay. -/
theorem step_of_completedRequest {req : PTPMessagePathDelayReq} (h : d.completedRequest i = some req) :
    (d.step i).port.link.baseline = some req.timestamp ∧
      (d.step i).port.timestampVersion = d.port.timestampVersion ∧
      (d.step i).port.pdelay.lastPDelayReq = d.port.pdelay.lastPDelayReq := by
  obtain ⟨m, -, hm, -⟩ := completedRequest_eq_some_iff.mp h
  refine ⟨?_, read_step_of_followUp hm (l := .timestampVersion) (by decide) nofun nofun,
    read_step_of_followUp hm (l := .lastPDelayReq) (by decide) nofun nofun⟩
  obtain ⟨resp, m, c₀, -, hlink⟩ := link_step_of_completedRequest h
  rw [hlink]
  rfl

/-- **The baseline after a step** is the transmit time of the request of an exchange the step
completes, or none, or what it was; in the last case the timestamper is of the same version. -/
theorem baseline_step :
    (∃ req, d.completedRequest i = some req ∧ (d.step i).port.link.baseline = some req.timestamp ∧
      (d.step i).port.timestampVersion = d.port.timestampVersion) ∨
    (d.step i).port.link.baseline = none ∨
    (d.step i).port.link.baseline = d.port.link.baseline ∧
      (d.step i).port.timestampVersion = d.port.timestampVersion := by
  cases h : d.completedRequest i with
  | some req =>
    have hstep := step_of_completedRequest h
    exact .inl ⟨req, rfl, hstep.1, hstep.2.1⟩
  | none => exact .inr (keepsRate_step h).baseline

/-- The peer rate stays, or there is a baseline and it becomes the ratio of two elapsed times. -/
theorem peerRate_eq (req : PTPMessagePathDelayReq) (resp : PTPMessagePathDelayResp)
    (delay : Int64) (l : LinkState F) :
    peerRate req resp delay l = l.peerRateOffset ∨
      l.peerOffsetInit = true ∧ ∃ theirs : UInt64, peerRate req resp delay l = Platform.div
        (Platform.ofRat (req.timestamp.toNs - l.peerOffsetTsMine.toNs).toNat)
        (Platform.ofRat theirs.toNat) := by
  unfold peerRate
  by_cases hinit : l.peerOffsetInit = true
  · rw [if_pos hinit]
    generalize (resp.requestReceiptTimestamp.toNs - l.peerOffsetTsTheirs.toNs - l.getLinkDelay +
      if delay < 0 then 0 else delay.toUInt64) = theirs
    dsimp only
    split
    · exact .inr ⟨hinit, theirs, rfl⟩
    · exact .inl rfl
  · exact .inl (if_neg hinit)

/-- **Peer rates.** When a step changes the peer rate, it has completed an exchange with a baseline, and
the new rate is the time between the two local times, divided by the time the peer measured. -/
theorem peerRateOffset_step
    (h : (d.step i).port.link.peerRateOffset ≠ d.port.link.peerRateOffset) :
    ∃ base cur, d.rateTimestamps i = some (base, cur) ∧ ∃ theirs : UInt64,
      (d.step i).port.link.peerRateOffset = Platform.div
        (Platform.ofRat (cur.toNs - base.toNs).toNat) (Platform.ofRat theirs.toNat) := by
  cases hreq : d.completedRequest i with
  | none => exact absurd (keepsRate_step hreq).rate h
  | some req =>
    obtain ⟨resp, m, c₀, hlink₀, hlink⟩ := link_step_of_completedRequest hreq
    rw [hlink, Core.peerRateOffset_measure, hlink₀] at h ⊢
    rcases peerRate_eq req resp (linkDelay req resp m d.port.link.peerRateOffset) d.port.link with
      hsame | ⟨hinit, theirs, hrate⟩
    · exact absurd hsame h
    · refine ⟨d.port.link.peerOffsetTsMine, req.timestamp, ?_, theirs, hrate⟩
      refine rateTimestamps_eq_some_iff.mpr ⟨req, hreq, ?_, rfl⟩
      unfold LinkState.baseline
      rw [if_pos hinit]

/-! ### The stored request -/

/-- The transmit timestamps of a step are of the current version of the timestamper. -/
def StampsCurrent (d : Daemon F) (i : Input) : Prop :=
  ∀ ts, i.env.txTimestamp = some ts → ts.version = d.port.timestampVersion

omit [Platform F] in
/-- A transmit timestamp that was obtained is of the version the timestamper gave it. -/
theorem version_getTxTimestamp (env : Env) (d : Daemon F) :
    (d.getTxTimestamp env).1 = Timestamp.invalid ∨
      ∃ ts, env.txTimestamp = some ts ∧ (d.getTxTimestamp env).1.version = ts.version := by
  unfold getTxTimestamp
  cases env.txTimestamp with
  | none => exact .inl rfl
  | some ts => exact .inr ⟨ts, rfl, if_pos rfl⟩

/-- Whether a follow-up can complete an exchange whose request has this timestamp. -/
def IsMeasurable (ts : Timestamp) : Prop :=
  ts.nanoseconds ≠ Timestamp.invalid.nanoseconds ∧
    ts.nanoseconds ≠ Timestamp.pdelayPending.nanoseconds

omit [Platform F] in
theorem isMeasurable_of_completedRequest {req : PTPMessagePathDelayReq}
    (h : d.completedRequest i = some req) :
    d.port.pdelay.lastPDelayReq = some req ∧ IsMeasurable req.timestamp := by
  obtain ⟨m, resp, -, -, hreq, -, hcompletes⟩ := completedRequest_eq_some_iff.mp h
  simp only [completes, Bool.and_eq_true, decide_eq_true_eq] at hcompletes
  exact ⟨hreq, hcompletes.1.1.2, hcompletes.1.2⟩

omit [Platform F] in
theorem getTxTimestamp_congr {d₀ : Daemon F} (hport : d₀.port = d.port) (env : Env) :
    d₀.getTxTimestamp env = d.getTxTimestamp env := by
  unfold getTxTimestamp
  rw [hport]

/-- The request stored by PDELAY_INTERVAL_TIMEOUT_EXPIRES. -/
theorem storedRequest_mediaPdelayInterval (env : Env) (d : Daemon F) :
    (d.mediaPdelayInterval env).port.pdelay.lastPDelayReq = some { d.pathDelayReqMessage with
      timestamp := if d.port.pdelay.pdelayHalted then Timestamp.pdelayPending
        else (d.getTxTimestamp env).1 } := by
  unfold mediaPdelayInterval sendPathDelayReq
  dsimp only
  split_ifs with hhalted
  · rfl
  · rfl

/-- **The stored request after a step**: the request of the interval event, or the one before. -/
theorem storedRequest_step :
    (d.handledEvent i = some .pdelayIntervalTimeoutExpires → ∃ req,
      (d.step i).port.pdelay.lastPDelayReq = some req ∧ req.timestamp =
        if d.port.pdelay.pdelayHalted then Timestamp.pdelayPending
        else (d.getTxTimestamp i.env).1) ∧
    (d.handledEvent i ≠ some .pdelayIntervalTimeoutExpires →
      (d.step i).port.pdelay.lastPDelayReq = d.port.pdelay.lastPDelayReq) := by
  constructor
  · intro hevent
    obtain ⟨d₀, -, hport, hstep⟩ := step_of_handledEvent hevent
    have hstored := storedRequest_mediaPdelayInterval i.env d₀
    rw [hport, getTxTimestamp_congr hport] at hstored
    rw [hstep]
    exact ⟨_, hstored, rfl⟩
  · -- no other event and no message writes it
    intro hevent
    refine read_step (l := .lastPDelayReq) ?_ ?_ (by decide)
    · intro e he
      refine ⟨by simp, ?_⟩
      cases e with
      | pdelayIntervalTimeoutExpires => exact absurd he hevent
      | _ => decide
    · intro msg linkSpeed _ _
      cases msg <;> dsimp only [PTPMessage.footprint] <;> decide

/-- The stored request after a step is the one that was stored, or a new one of the current version. -/
theorem lastPDelayReq_step (hstamps : d.StampsCurrent i) :
    (d.step i).port.pdelay.lastPDelayReq = d.port.pdelay.lastPDelayReq ∨
      ∃ req, (d.step i).port.pdelay.lastPDelayReq = some req ∧
        (IsMeasurable req.timestamp → req.timestamp.version = d.port.timestampVersion) := by
  by_cases hevent : d.handledEvent i = some .pdelayIntervalTimeoutExpires
  · obtain ⟨req, hreq, htimestamp⟩ := storedRequest_step.1 hevent
    refine .inr ⟨req, hreq, fun hmeasurable => ?_⟩
    rw [htimestamp] at hmeasurable ⊢
    -- a request without a transmit timestamp is not measurable
    split_ifs at hmeasurable ⊢
    · exact absurd rfl hmeasurable.2
    · rcases version_getTxTimestamp i.env d with hinvalid | ⟨ts, hts, hversion⟩
      · exact absurd (congrArg Timestamp.nanoseconds hinvalid) hmeasurable.1
      · rw [hversion]
        exact hstamps ts hts
  · exact .inl (storedRequest_step.2 hevent)

/-- While there is a baseline, the stored request is of its version, or of the current version. -/
def OfBaselineOrCurrent (d : Daemon F) : Prop :=
  ∀ base req, d.port.link.baseline = some base → d.port.pdelay.lastPDelayReq = some req →
    IsMeasurable req.timestamp →
      req.timestamp.version = base.version ∨ req.timestamp.version = d.port.timestampVersion

theorem OfBaselineOrCurrent.step (h : d.OfBaselineOrCurrent) (hstamps : d.StampsCurrent i) :
    (d.step i).OfBaselineOrCurrent := by
  intro base req hbase hreq hmeasurable
  cases hcompleted : d.completedRequest i with
  | some req₀ =>
    -- the request of the exchange is the baseline now, and it is still stored
    obtain ⟨hbase₀, -, hstored⟩ := step_of_completedRequest hcompleted
    obtain rfl := Option.some.inj (hbase.symm.trans hbase₀)
    rw [hstored, (isMeasurable_of_completedRequest hcompleted).1] at hreq
    obtain rfl := Option.some.inj hreq
    exact .inl rfl
  | none =>
    rcases (keepsRate_step hcompleted).baseline with hnone | ⟨hkept, hversion⟩
    · cases hbase.symm.trans hnone
    · have hversion' : (d.step i).port.timestampVersion = d.port.timestampVersion := hversion
      rw [hversion']
      rcases lastPDelayReq_step hstamps with hstored | ⟨req', hnew, hcurrent⟩
      · exact h base req (hkept.symm.trans hbase) (hstored.symm.trans hreq) hmeasurable
      · obtain rfl := Option.some.inj (hnew.symm.trans hreq)
        exact .inr (hcurrent hmeasurable)

end Daemon

/-! ### The rates of a run -/

section Run

variable {d₀ : Daemon F} {σ : ℕ → Input}

/-- While a baseline stays, the timestamper is of one version. -/
theorem timestampVersion_of_baseline {base : Timestamp} {j k : ℕ} (hjk : j < k)
    (hbase : ∀ l, j < l → l ≤ k →
      ((machine F).stateAt d₀ σ l).port.link.baseline = some base)
    (hj : ((machine F).stateAt d₀ σ (j + 1)).port.timestampVersion =
      ((machine F).stateAt d₀ σ j).port.timestampVersion) :
    ((machine F).stateAt d₀ σ k).port.timestampVersion =
      ((machine F).stateAt d₀ σ j).port.timestampVersion := by
  refine Machine.invariant_from (M := machine F)
    (P := fun d => d.port.timestampVersion = ((machine F).stateAt d₀ σ j).port.timestampVersion)
    hjk hj ?_
  intro l hjl hlk hl
  have hafter := hbase (l + 1) ((Nat.lt_of_succ_le hjl).trans (Nat.lt_succ_self l)) hlk
  rcases Daemon.baseline_step (d := (machine F).stateAt d₀ σ l) (i := σ l) with
    ⟨-, -, -, hversion⟩ | hnone | ⟨-, hversion⟩
  · exact hversion.trans hl
  · cases hafter.symm.trans hnone
  · exact hversion.trans hl

/-- A baseline was left by an exchange completed earlier, and has been there since. -/
theorem baseline_origin (hinit : d₀.port.link.baseline = none) {k : ℕ} {base : Timestamp}
    (h : ((machine F).stateAt d₀ σ k).port.link.baseline = some base) :
    ∃ j < k, (∃ req, ((machine F).stateAt d₀ σ j).completedRequest (σ j) = some req ∧
        req.timestamp = base) ∧
      ∀ l, j < l → l ≤ k → ((machine F).stateAt d₀ σ l).port.link.baseline = some base := by
  refine Machine.slot_origin (M := machine F) (fun d => d.port.link.baseline)
    (fun d i ts => ∃ req, d.completedRequest i = some req ∧ req.timestamp = ts) hinit ?_ k base h
  intro d i ts hts
  rcases Daemon.baseline_step (d := d) (i := i) with ⟨req, hreq, hbase, -⟩ | hnone | ⟨hkept, -⟩
  · exact .inr ⟨req, hreq, Option.some.inj (hbase.symm.trans hts)⟩
  · cases hts.symm.trans hnone
  · exact .inl (hkept.symm.trans hts)

end Run

/-- **Peer rates.** In a run whose transmit timestamps carry the version of the timestamper, every peer
rate is computed from two local times of one version, exactly if no exchange that completes with a
request of an old version leaves the baseline for an exchange that completes with a request of the
current one. -/
theorem rateTimestamps_version_iff (s : Start F) (σ : ℕ → Input) (n : ℕ)
    (hstamps : ∀ k < n, ((machine F).stateAt s.daemon σ k).StampsCurrent (σ k)) :
    (∀ k < n, ∀ base cur, ((machine F).stateAt s.daemon σ k).rateTimestamps (σ k) = some (base, cur) →
      base.version = cur.version) ↔
    ∀ j k, j < k → k < n → ∀ earlier later,
      ((machine F).stateAt s.daemon σ j).completedRequest (σ j) = some earlier →
      ((machine F).stateAt s.daemon σ k).completedRequest (σ k) = some later →
      (∀ l, j < l → l ≤ k →
        ((machine F).stateAt s.daemon σ l).port.link.baseline = some earlier.timestamp) →
      earlier.timestamp.version ≠ ((machine F).stateAt s.daemon σ j).port.timestampVersion →
      later.timestamp.version ≠ ((machine F).stateAt s.daemon σ k).port.timestampVersion := by
  have hinit : s.daemon.port.link.baseline = none := by
    rw [LinkState.baseline, s.hasReceivedNothing_daemon.peerOffsetInit]
    rfl
  have hinv : ∀ k ≤ n, ((machine F).stateAt s.daemon σ k).OfBaselineOrCurrent := by
    refine Machine.invariant (M := machine F) ?_ fun k hk h => h.step (hstamps k hk)
    intro base req hbase
    cases hbase.symm.trans hinit
  constructor
  · intro hrates j k hjk hk earlier later hearlier hlater hbase hold hcurrent
    have hrate := Daemon.rateTimestamps_eq_some_iff.mpr ⟨later, hlater, hbase k hjk le_rfl, rfl⟩
    have hversion := timestampVersion_of_baseline hjk hbase
      (Daemon.step_of_completedRequest hearlier).2.1
    exact hold ((hrates k hk _ _ hrate).trans (hcurrent.trans hversion))
  · intro hflight k hk base cur hrate
    obtain ⟨later, hlater, hbase, rfl⟩ := Daemon.rateTimestamps_eq_some_iff.mp hrate
    obtain ⟨j, hjk, ⟨earlier, hearlier, rfl⟩, hsince⟩ := baseline_origin hinit hbase
    have hversion := timestampVersion_of_baseline hjk hsince
      (Daemon.step_of_completedRequest hearlier).2.1
    obtain ⟨hstored, hmeasurable⟩ := Daemon.isMeasurable_of_completedRequest hlater
    rcases hinv k hk.le _ later hbase hstored hmeasurable with hsame | hcurrent
    · exact hsame.symm
    · -- the later exchange is of the current version, so the earlier one was, too
      by_contra hne
      refine hflight j k hjk hk earlier later hearlier hlater hsince ?_ hcurrent
      rw [← hversion, ← hcurrent]
      exact hne

/-- An input at a platform whose transmit timestamps are of the given version. -/
def Input.atVersion (version : UInt8) (i : Input) : Input :=
  { i with env.txTimestamp := some ⟨0, 0, 0, version⟩ }

/-- A response whose receive timestamp is of the given version. -/
def responseAtVersion (version : UInt8) (sequenceId : UInt16) : Input :=
  .message (.pathDelayResp { neighborResp sequenceId with timestamp := ⟨0, 0, 0, version⟩ })

/-- Two exchanges without a phase step. -/
def plainExchanges : ℕ → Input
  | 0 => .ofEvent .powerup
  | 1 | 4 => .expiry 1
  | 2 => responseAtVersion 0 0
  | 3 => .message (.pathDelayRespFollowUp (neighborRespFollowUp 0))
  | 5 => responseAtVersion 0 1
  | _ => .message (.pathDelayRespFollowUp (neighborRespFollowUp 1))

/-- The second exchange computes a rate, within one version. -/
theorem plainExchanges_rate :
    (((machine ℚ).stateAt (Start.standard localIdentity).daemon plainExchanges 6).rateTimestamps
      (plainExchanges 6)).isSome ∧
    ∀ k < 7, ∀ base cur, ((machine ℚ).stateAt (Start.standard localIdentity).daemon plainExchanges
      k).rateTimestamps (plainExchanges k) = some (base, cur) → base.version = cur.version := by
  have hcurrent : ∀ k < 7,
      ∀ req ∈ ((machine ℚ).stateAt (Start.standard localIdentity).daemon plainExchanges
        k).completedRequest (plainExchanges k),
      req.timestamp.version = ((machine ℚ).stateAt (Start.standard localIdentity).daemon
        plainExchanges k).port.timestampVersion := by
    decide +kernel
  refine ⟨by decide +kernel, (rateTimestamps_version_iff _ _ 7 ?_).mpr ?_⟩
  · exact (by decide +kernel : ∀ k < 7, ∀ ts ∈ (plainExchanges k).env.txTimestamp,
      ts.version = ((machine ℚ).stateAt (Start.standard localIdentity).daemon plainExchanges
        k).port.timestampVersion)
  · intro j k hjk hk earlier later hearlier _ _ hold
    exact absurd (hcurrent j (hjk.trans hk) earlier hearlier) hold

/-- The receive timestamp of an event message is of the current version of the timestamper. -/
def Daemon.receivesCurrent (d : Daemon F) (i : Input) : Bool :=
  match i.stimulus with
  | .receive (.sync m) _ => m.timestamp.version = d.port.timestampVersion
  | .receive (.pathDelayReq m) _ => m.timestamp.version = d.port.timestampVersion
  | .receive (.pathDelayResp m) _ => m.timestamp.version = d.port.timestampVersion
  | _ => true

/-- A slave that adjusts its hardware clock. -/
def syntonizingSlave : Start ℚ :=
  { Start.capable (some .ptpSlave) with
    clockConfig := { ClockConfig.standard localIdentity with syntonize := true } }

/-- The first offset steps the clock while an exchange waits for its follow-up; then comes a second
exchange. -/
def steppedExchanges : ℕ → Input
  | 0 => .ofEvent .powerup
  | 1 => .ofEvent .linkup
  | 2 => .expiry 1
  | 3 => responseAtVersion 0 0
  | 4 => .message (.sync (neighborSync 0))
  | 5 => .message (.followUp (neighborFollowUp 0))
  | 6 => .atVersion 1 (.message (.pathDelayRespFollowUp (neighborRespFollowUp 0)))
  | 7 => .atVersion 1 (.expiry 2)
  | 8 => .atVersion 1 (responseAtVersion 1 1)
  | _ => .atVersion 1 (.message (.pathDelayRespFollowUp (neighborRespFollowUp 1)))

/-- The rate of the second exchange is computed from times before and after the phase step. -/
theorem steppedExchanges_rate :
    (machine ℚ).Delivers syntonizingSlave.daemon steppedExchanges 10 ∧
    (∀ k < 10, ∀ ts ∈ (steppedExchanges k).env.txTimestamp, ts.version =
      ((machine ℚ).stateAt syntonizingSlave.daemon steppedExchanges k).port.timestampVersion) ∧
    (∀ k < 10, ((machine ℚ).stateAt syntonizingSlave.daemon steppedExchanges k).receivesCurrent
      (steppedExchanges k)) ∧
    ((machine ℚ).stateAt syntonizingSlave.daemon steppedExchanges 9).rateTimestamps
      (steppedExchanges 9) = some (⟨0, 0, 0, 0⟩, ⟨0, 0, 0, 1⟩) := by
  refine ⟨by decide +kernel, by decide +kernel, by decide +kernel, by decide +kernel⟩

end Gptp
