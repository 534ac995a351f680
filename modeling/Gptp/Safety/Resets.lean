import Gptp.Safety.AsCapable
import Gptp.Safety.PeerRate
import Gptp.Safety.RoleChange

/-!
# What is reset with the role and with the link

Two counters are published to the clients of the daemon: `sync_count` is documented as zero on a master,
`pdelay_count` as zero while the link is not capable. A port that is not capable is also meant to have
no baseline for the peer rate, which `setAsCapable(false)` drops. None of this holds for all runs.

* `Daemon.LinkStep`: what a step does to `asCapable`, the baseline and `pdelay_count`.
* `Daemon.NoStaleBaseline.step_iff`: a measurement beyond the threshold drops the baseline and
  then stores a new one. Nothing else leaves a baseline without `asCapable`.
* `Daemon.pdelayCount_of_not_asCapable_step`: that measurement is counted, too; and LINKDOWN and
  FAULT_DETECTED do not reset the count, only the response timeout does.
* `Daemon.syncCount_of_master_step`: best master selection resets `sync_count`. A receipt timeout and a
  Follow_Up that takes over make the port master without doing so.
-/

namespace Gptp

open Framework

variable {F : Type} [Platform F]

/-! ### Measurements -/

namespace Daemon

/-- The input completes a peer delay exchange, in which `delay` is measured. -/
def Measures (d : Daemon F) (i : Input) (delay : Int64) : Prop :=
  ∃ m req resp, d.handledFollowUp i = some m ∧ d.port.portState.ignoresMessages = false ∧
    d.port.pdelay.lastPDelayReq = some req ∧ d.port.pdelay.lastPDelayResp = some resp ∧
    completes req resp m ∧ delay = linkDelay req resp m d.port.link.peerRateOffset

/-- The input completes an exchange with a delay beyond the threshold. -/
def MeasuresBeyond (d : Daemon F) (i : Input) : Prop :=
  ∃ delay, d.Measures i delay ∧ d.port.cfg.neighborPropDelayThresh.toInt < |delay.toInt|

variable {d : Daemon F} {i : Input} {delay : Int64}

/-- A step completes one exchange at most. -/
theorem Measures.unique {delay' : Int64} (h : d.Measures i delay) (h' : d.Measures i delay') :
    delay' = delay := by
  obtain ⟨m, req, resp, hm, -, hreq, hresp, -, rfl⟩ := h
  obtain ⟨m', req', resp', hm', -, hreq', hresp', -, rfl⟩ := h'
  obtain rfl := Option.some.inj (hm.symm.trans hm')
  obtain rfl := Option.some.inj (hreq.symm.trans hreq')
  obtain rfl := Option.some.inj (hresp.symm.trans hresp')
  rfl

/-- The delay decides between the two outcomes of a measurement. -/
theorem Measures.beyond_iff (h : d.Measures i delay) :
    d.MeasuresBeyond i ↔ withinThresh d.port.cfg delay = false := by
  have hwithin : withinThresh d.port.cfg delay ↔
      |delay.toInt| ≤ d.port.cfg.neighborPropDelayThresh.toInt := by
    obtain ⟨m, req, resp, -, -, -, -, -, rfl⟩ := id h
    exact withinThresh_iff (half_ne_minValue _)
  rw [← Bool.not_eq_true, hwithin, not_le]
  constructor
  · rintro ⟨delay', hmeasures, hbeyond⟩
    rwa [h.unique hmeasures] at hbeyond
  · exact fun hbeyond => ⟨delay, h, hbeyond⟩

theorem completedRequest_eq_none_iff :
    d.completedRequest i = none ↔ ∀ delay, ¬ d.Measures i delay := by
  rw [Option.eq_none_iff_forall_ne_some]
  constructor
  · rintro h delay ⟨m, req, resp, hm, hstate, hreq, hresp, hcompletes, -⟩
    exact h req (completedRequest_eq_some_iff.mpr ⟨m, resp, hm, hstate, hreq, hresp, hcompletes⟩)
  · intro h req hsome
    obtain ⟨m, resp, hm, hstate, hreq, hresp, hcompletes⟩ := completedRequest_eq_some_iff.mp hsome
    exact h _ ⟨m, req, resp, hm, hstate, hreq, hresp, hcompletes, rfl⟩

/-- A follow-up is received, or processed in a deferral. -/
theorem Measures.not_handlesLoss (h : d.Measures i delay) : ¬ d.HandlesLoss i := by
  obtain ⟨m, -, -, hm, -⟩ := h
  rcases handledFollowUp_eq_some_iff.mp hm with ⟨linkSpeed, hi, -⟩ | ⟨hdeferred, -⟩
  · refine Daemon.not_handlesLoss ?_
    simp [handledEvent, hi]
  · rw [handlesLoss_iff hdeferred]
    exact Bool.false_ne_true

/-- A measurement decides `asCapable` and stores a new baseline. -/
theorem Measures.link_step (h : d.Measures i delay)
    (hauto : d.port.cfg.automotiveProfile = false) :
    (d.step i).port.link.asCapable = withinThresh d.port.cfg delay ∧
      (d.step i).port.link.peerOffsetInit = true := by
  obtain ⟨m, req, resp, hm, hstate, hreq, hresp, hcompletes, rfl⟩ := h
  obtain ⟨c₀, c₁, gc, hsame, hprocess, -, hlink⟩ := step_followUp hm
  have hstate₀ : c₀.portState.ignoresMessages = false := by
    rw [hsame.portState]
    exact hstate
  have hauto₀ : c₀.portCfg.automotiveProfile = false := by
    rw [hsame.portCfg]
    exact hauto
  have hmeasure : (d.step i).port.link = (c₀.measure req resp m).link := by
    refine hlink.trans ?_
    rw [hprocess.eq_of_completes hstate₀ (hsame.lastPDelayReq.trans hreq)
      (hsame.lastPDelayResp.trans hresp) hcompletes]
    rfl
  have hcapable := c₀.asCapable_measure req resp m
  rw [hauto₀, if_neg Bool.false_ne_true, hsame.link, hsame.portCfg] at hcapable
  rw [hmeasure]
  exact ⟨hcapable, rfl⟩

/-! ### The count of measurements -/

section Count

theorem pdelayCount_measure (req : PTPMessagePathDelayReq) (resp : PTPMessagePathDelayResp)
    (m : PTPMessagePathDelayRespFollowUp) (d : Daemon F) :
    (d.measure req resp m).port.pdelay.pdelayCount = d.port.pdelay.pdelayCount + 1 := by
  unfold measure
  dsimp only
  split <;> rfl

/-- A follow-up that completes an exchange is counted. -/
theorem pdelayCount_of_completes {m : PTPMessagePathDelayRespFollowUp}
    {req : PTPMessagePathDelayReq} {resp : PTPMessagePathDelayResp}
    (hstate : d.port.portState.ignoresMessages = false)
    (hreq : d.port.pdelay.lastPDelayReq = some req)
    (hresp : d.port.pdelay.lastPDelayResp = some resp) (hcompletes : completes req resp m) :
    (d.processPathDelayRespFollowUp m).1.port.pdelay.pdelayCount =
      d.port.pdelay.pdelayCount + 1 := by
  simp only [completes, Bool.and_eq_true, decide_eq_true_eq] at hcompletes
  obtain ⟨⟨⟨hmatches, hvalid⟩, hpending⟩, hversion⟩ := hcompletes
  unfold processPathDelayRespFollowUp
  simp only [hstate, Bool.false_eq_true, if_false, hreq, hresp, hmatches, Bool.not_true, hvalid,
    hpending, hversion, ne_eq, not_true_eq_false]
  exact pdelayCount_measure req resp m _

/-- A follow-up that fails a check is not. -/
theorem pdelayCount_of_not_completes {m : PTPMessagePathDelayRespFollowUp}
    (h : ∀ req resp, d.port.portState.ignoresMessages = false →
      d.port.pdelay.lastPDelayReq = some req → d.port.pdelay.lastPDelayResp = some resp →
      completes req resp m = false) :
    (d.processPathDelayRespFollowUp m).1.port.pdelay.pdelayCount = d.port.pdelay.pdelayCount := by
  unfold processPathDelayRespFollowUp
  split_ifs with hignores
  · rfl
  have hstate : d.port.portState.ignoresMessages = false := by simpa using hignores
  split
  case h_2 => rfl
  case h_1 req resp hreq hresp =>
    have hfails := h req resp hstate hreq hresp
    -- every exit but the last leaves the count alone
    split_ifs with hmatches hinvalid hpending hversion
    · rfl
    · rfl
    · rfl
    · rfl
    · simp [completes, hinvalid, hpending, hversion] at hfails
      simp [hfails] at hmatches

/-- The count after a follow-up was processed, on reception or in a deferral. -/
theorem pdelayCount_step_of_followUp {m : PTPMessagePathDelayRespFollowUp}
    (h : d.handledFollowUp i = some m) :
    ∃ d₀ : Daemon F, d₀.port = d.port ∧ (d.step i).port.pdelay.pdelayCount =
      (d₀.processPathDelayRespFollowUp m).1.port.pdelay.pdelayCount := by
  rcases handledFollowUp_eq_some_iff.mp h with ⟨linkSpeed, hi, hlock⟩ | ⟨hdeferred, hstored⟩
  · exact ⟨{ d with effects := [] }, rfl, by rw [step_of_receivedFollowUp hi hlock]⟩
  · obtain ⟨d₀, -, hport, hstep⟩ := step_of_handledEvent hdeferred
    refine ⟨d₀, hport, ?_⟩
    rw [hstep]
    rw [← hport] at hstored
    change d₀.mediaPdelayDeferred.port.pdelay.pdelayCount = _
    rcases mediaPdelayDeferred_of_some hstored with h | h <;> rw [h]
    rfl

/-- A measurement is counted. -/
theorem Measures.pdelayCount_step (h : d.Measures i delay) :
    (d.step i).port.pdelay.pdelayCount = d.port.pdelay.pdelayCount + 1 := by
  obtain ⟨m, req, resp, hm, hstate, hreq, hresp, hcompletes, -⟩ := h
  obtain ⟨d₀, hport, hcount⟩ := pdelayCount_step_of_followUp hm
  rw [← hport] at hstate hreq hresp
  rw [hcount, pdelayCount_of_completes hstate hreq hresp hcompletes, hport]

/-- Outside the automotive profile LINKUP starts peer delay requests and resumes the role, and that is
all. -/
theorem modifies_mediaLinkup_of_not_automotive (hauto : d.port.cfg.automotiveProfile = false) :
    Modifies (.pdelayHalted :: .pdelayStarted :: .timer .pdelayIntervalTimeoutExpires ::
      roleFootprint) d d.mediaLinkup := by
  have hresume : Modifies (.pdelayHalted :: .pdelayStarted ::
      .timer .pdelayIntervalTimeoutExpires :: roleFootprint) d
        (d.haltPdelay false).startPDelay.resumeRole := by
    refine .step ?_ (modifies_resumeRole _) (by decide)
    refine .step ?_ (modifies_startPDelay _) (by decide)
    exact (d.modifies_haltPdelay _).mono (by decide)
  have hcfg : (d.haltPdelay false).startPDelay.resumeRole.port.cfg = d.port.cfg :=
    congrArg Prod.snd (hresume .config (by decide))
  unfold mediaLinkup
  dsimp only
  rw [hcfg, hauto]
  exact hresume

/-- What LINKUP leaves alone, in a step. -/
theorem read_step_of_linkup (hlinkup : d.handledEvent i = some .linkup)
    (hauto : d.port.cfg.automotiveProfile = false) :
    (d.step i).port.pdelay.pdelayCount = d.port.pdelay.pdelayCount ∧
      (d.step i).port.syncCount = d.port.syncCount := by
  obtain ⟨d₀, -, hport, hstep⟩ := step_of_handledEvent hlinkup
  rw [← hport] at hauto ⊢
  have hmodifies := modifies_mediaLinkup_of_not_automotive hauto
  rw [hstep]
  exact ⟨hmodifies .pdelayCount (by decide), hmodifies .syncCount (by decide)⟩

/-- A step that measures nothing keeps the count, unless it handles the response timeout. -/
theorem pdelayCount_step_of_not_measures (hauto : d.port.cfg.automotiveProfile = false)
    (hmeasures : ∀ delay, ¬ d.Measures i delay)
    (hevent : d.handledEvent i ≠ some .pdelayRespReceiptTimeoutExpires) :
    (d.step i).port.pdelay.pdelayCount = d.port.pdelay.pdelayCount := by
  cases hm : d.handledFollowUp i with
  | some m =>
    -- a follow-up that fails a check is not counted
    obtain ⟨d₀, hport, hcount⟩ := pdelayCount_step_of_followUp hm
    rw [hcount, ← hport]
    refine pdelayCount_of_not_completes fun req resp hstate hreq hresp => ?_
    rw [hport] at hstate hreq hresp
    by_contra hcompletes
    exact hmeasures _ ⟨m, req, resp, hm, hstate, hreq, hresp, by simpa using hcompletes, rfl⟩
  | none =>
    by_cases hdeferred : d.handledEvent i = some .pdelayDeferredProcessing
    · -- a deferral without a follow-up aborts
      obtain ⟨d₀, hport, hstep⟩ := step_of_deferredNone hdeferred hm
      rw [hstep, ← hport]
      rfl
    by_cases hlinkup : d.handledEvent i = some .linkup
    · exact (read_step_of_linkup hlinkup hauto).1
    -- the count is in the footprint of nothing else
    refine read_step (l := .pdelayCount) ?_ ?_ (by decide)
    · intro e he
      refine ⟨by simp, ?_⟩
      cases e with
      | linkup => exact absurd he hlinkup
      | pdelayDeferredProcessing => exact absurd he hdeferred
      | pdelayRespReceiptTimeoutExpires => exact absurd he hevent
      | _ => decide
    · intro msg linkSpeed hi hgot
      cases msg with
      | pathDelayRespFollowUp m => cases (handledFollowUp_of_received hi hgot).symm.trans hm
      | _ => dsimp only [PTPMessage.footprint]; decide

end Count

/-! ### The link under the steps of the daemon -/

theorem link_processEvent_of_losesCapability (env : Env) {e : Event} (he : e.losesCapability)
    {d : Daemon F} (hauto : d.port.cfg.automotiveProfile = false) :
    (d.processEvent env e).port.link =
      { d.port.link with asCapable := false, peerOffsetInit := false } := by
  have hlose : d.core.loseCapability.link =
      { d.port.link with asCapable := false, peerOffsetInit := false } := by
    unfold Core.loseCapability
    rw [show d.core.portCfg.automotiveProfile = false from hauto, if_neg Bool.false_ne_true]
    rfl
  rw [← hlose]
  cases e with
  | linkdown => exact congrArg Core.link (core_mediaLinkdown d)
  | pdelayRespReceiptTimeoutExpires => exact congrArg Core.link (core_mediaPdelayRespReceipt d)
  | faultDetected =>
    change (if d.port.cfg.automotiveProfile then d else d.setAsCapable false).port.link = _
    rw [hauto, hlose]
    rfl
  | _ => cases he

/-- An event that takes the capability away drops the baseline. -/
theorem HandlesLoss.link_step (h : d.HandlesLoss i) (hauto : d.port.cfg.automotiveProfile = false) :
    (d.step i).port.link.asCapable = false ∧ (d.step i).port.link.peerOffsetInit = false := by
  have hhandled : ∃ e, d.handledEvent i = some e ∧ e.losesCapability := by
    rcases h with h | h | h
    · exact ⟨_, h, rfl⟩
    · exact ⟨_, h, rfl⟩
    · exact ⟨_, h, rfl⟩
  obtain ⟨e, he, hloses⟩ := hhandled
  obtain ⟨d₀, -, hport, hstep⟩ := step_of_handledEvent he
  rw [← hport] at hauto
  rw [hstep, link_processEvent_of_losesCapability i.env hloses hauto]
  exact ⟨rfl, rfl⟩

/-- The response timeout resets the count. -/
theorem pdelayCount_step_of_respTimeout
    (h : d.handledEvent i = some .pdelayRespReceiptTimeoutExpires) :
    (d.step i).port.pdelay.pdelayCount = 0 := by
  obtain ⟨d₀, -, -, hstep⟩ := step_of_handledEvent h
  rw [hstep]
  rfl

/-- **The link in a step** of a port outside the automotive profile: an exchange is completed, or an
event takes the capability away, or neither. -/
inductive LinkStep (d : Daemon F) (i : Input) : Prop
  | measured (delay : Int64) (hmeasures : d.Measures i delay)
      (hcapable : (d.step i).port.link.asCapable = withinThresh d.port.cfg delay)
      (hbaseline : (d.step i).port.link.peerOffsetInit = true)
      (hcount : (d.step i).port.pdelay.pdelayCount = d.port.pdelay.pdelayCount + 1)
  | timedOut (hbeyond : ¬ d.MeasuresBeyond i)
      (hevent : d.handledEvent i = some .pdelayRespReceiptTimeoutExpires)
      (hbaseline : (d.step i).port.link.peerOffsetInit = false)
      (hcount : (d.step i).port.pdelay.pdelayCount = 0)
  | lost (hbeyond : ¬ d.MeasuresBeyond i)
      (hevent : d.handledEvent i = some .linkdown ∨ d.handledEvent i = some .faultDetected)
      (hcapable : (d.step i).port.link.asCapable = false)
      (hbaseline : (d.step i).port.link.peerOffsetInit = false)
      (hcount : (d.step i).port.pdelay.pdelayCount = d.port.pdelay.pdelayCount)
  | kept (hbeyond : ¬ d.MeasuresBeyond i) (hloss : ¬ d.HandlesLoss i)
      (hcapable : (d.step i).port.link.asCapable = d.port.link.asCapable)
      (hbaseline : (d.step i).port.link.peerOffsetInit = false ∨
        (d.step i).port.link.peerOffsetInit = d.port.link.peerOffsetInit)
      (hcount : (d.step i).port.pdelay.pdelayCount = d.port.pdelay.pdelayCount)

/-- Every step is a `LinkStep`. -/
theorem linkStep (d : Daemon F) (i : Input) (hauto : d.port.cfg.automotiveProfile = false) :
    d.LinkStep i := by
  by_cases hcompleted : ∃ delay, d.Measures i delay
  · obtain ⟨delay, hmeasures⟩ := hcompleted
    obtain ⟨hcapable, hbaseline⟩ := hmeasures.link_step hauto
    exact .measured delay hmeasures hcapable hbaseline hmeasures.pdelayCount_step
  have hmeasures : ∀ delay, ¬ d.Measures i delay := not_exists.mp hcompleted
  have hbeyond : ¬ d.MeasuresBeyond i := by
    rintro ⟨delay, h, -⟩
    exact hmeasures delay h
  by_cases htimeout : d.handledEvent i = some .pdelayRespReceiptTimeoutExpires
  · have hloss : d.HandlesLoss i := .inr (.inr htimeout)
    exact .timedOut hbeyond htimeout (hloss.link_step hauto).2
      (pdelayCount_step_of_respTimeout htimeout)
  have hcount := pdelayCount_step_of_not_measures hauto hmeasures htimeout
  by_cases hloss : d.HandlesLoss i
  · obtain ⟨hcapable, hbaseline⟩ := hloss.link_step hauto
    exact .lost hbeyond (hloss.imp_right fun h => h.resolve_right htimeout) hcapable hbaseline hcount
  · -- nothing that concerns the flag happens
    cases linkChange_step (completedRequest_eq_none_iff.mpr hmeasures) with
    | keep hlink =>
      exact .kept hbeyond hloss (congrArg LinkState.asCapable hlink)
        (.inr (congrArg LinkState.peerOffsetInit hlink)) hcount
    | phaseStep hlink =>
      have hcapable : (d.step i).core.link.asCapable = d.core.link.asCapable := by rw [hlink]
      have hbaseline : (d.step i).core.link.peerOffsetInit = false := by rw [hlink]
      exact .kept hbeyond hloss hcapable (.inl hbaseline) hcount
    | setAsCapable _ hsets =>
      rcases hsets with h | ⟨e, he, hloses⟩
      · rw [hauto] at h
        cases h
      · exact absurd ((handlesLoss_iff he).mpr hloses) hloss

/-! ### The baseline -/

/-- A link that is not capable has no baseline. -/
def NoStaleBaseline (d : Daemon F) : Prop :=
  d.port.link.asCapable = false → d.port.link.peerOffsetInit = false

/-- **Step lemma.** -/
theorem NoStaleBaseline.step_iff (h : d.NoStaleBaseline)
    (hauto : d.port.cfg.automotiveProfile = false) :
    (d.step i).NoStaleBaseline ↔ ¬ d.MeasuresBeyond i := by
  unfold NoStaleBaseline at h ⊢
  cases d.linkStep i hauto with
  | measured delay hmeasures hcapable hbaseline =>
    -- the baseline is there in any case, so the link has to be capable
    rw [hmeasures.beyond_iff, hcapable, hbaseline]
    simp
  | timedOut hbeyond _ hbaseline => exact iff_of_true (fun _ => hbaseline) hbeyond
  | lost hbeyond _ _ hbaseline => exact iff_of_true (fun _ => hbaseline) hbeyond
  | kept hbeyond _ hcapable hbaseline =>
    refine iff_of_true (fun hnot => ?_) hbeyond
    rcases hbaseline with hdropped | hsame
    · exact hdropped
    · exact hsame.trans (h (hcapable.symm.trans hnot))

/-! ### `pdelay_count` -/

/-- The input leaves a count of measurements on a link that is not capable: a delay beyond the threshold
is measured and counted, or LINKDOWN or FAULT_DETECTED is handled while the count is not zero. -/
def MiscountsPdelay (d : Daemon F) (i : Input) : Prop :=
  d.MeasuresBeyond i ∧ d.port.pdelay.pdelayCount + 1 ≠ 0 ∨
    (d.handledEvent i = some .linkdown ∨ d.handledEvent i = some .faultDetected) ∧
      d.port.pdelay.pdelayCount ≠ 0

/-- **Step lemma.** -/
theorem pdelayCount_of_not_asCapable_step
    (h : d.port.link.asCapable = false → d.port.pdelay.pdelayCount = 0)
    (hauto : d.port.cfg.automotiveProfile = false) :
    ((d.step i).port.link.asCapable = false → (d.step i).port.pdelay.pdelayCount = 0) ↔
      ¬ d.MiscountsPdelay i := by
  unfold MiscountsPdelay
  cases d.linkStep i hauto with
  | measured delay hmeasures hcapable _ hcount =>
    have hevent : ¬ (d.handledEvent i = some .linkdown ∨ d.handledEvent i = some .faultDetected) :=
      fun hevent => hmeasures.not_handlesLoss (hevent.imp_right .inl)
    -- a measurement is counted whether or not it makes the link capable
    rw [hmeasures.beyond_iff, hcapable, hcount]
    simp [hevent]
  | timedOut hbeyond hevent _ hcount =>
    rw [hevent]
    exact iff_of_true (fun _ => hcount) (by simp [hbeyond])
  | lost hbeyond hevent hcapable _ hcount =>
    -- the count is left as it is
    rw [hcapable, hcount]
    simp [hbeyond, hevent]
  | kept hbeyond hloss hcapable _ hcount =>
    have hevent : ¬ (d.handledEvent i = some .linkdown ∨ d.handledEvent i = some .faultDetected) :=
      fun hevent => hloss (hevent.imp_right .inl)
    rw [hcapable, hcount]
    exact iff_of_true h (by simp [hbeyond, hevent])

/-! ### `sync_count` -/

/-- The input makes the port master other than by best master selection, while the count of Syncs is
not zero. -/
def MiscountsSync (d : Daemon F) (i : Input) : Prop :=
  d.EntersMaster (d.step i) ∧ d.handledEvent i ≠ some .stateChangeEvent ∧ d.port.syncCount ≠ 0

/-- Only a slave counts Syncs. -/
theorem syncCount_processFollowUpAt (env : Env) (m : PTPMessageFollowUp) (syncArrival : Timestamp)
    (hstate : d.port.portState ≠ .ptpSlave) :
    (d.processFollowUpAt env m syncArrival).port.syncCount = d.port.syncCount := by
  unfold processFollowUpAt
  dsimp only
  split_ifs
  · rfl
  · rfl
  · rfl
  · unfold applyFollowUp
    dsimp only
    rw [if_neg (by exact hstate)]
    rfl

/-- A Follow_Up leaves the count alone, or the port is a slave and stays one. -/
theorem syncCount_processFollowUp (env : Env) (m : PTPMessageFollowUp) (d : Daemon F) :
    (d.processFollowUp env m).1.port.syncCount = d.port.syncCount ∨
      (d.processFollowUp env m).1.port.portState = .ptpSlave := by
  have hcase := d.processFollowUp_cases env m
  generalize d.processFollowUp env m = ended at hcase ⊢
  cases hcase with
  | ignored => exact .inl rfl
  | orphan => exact .inl rfl
  | wrong =>
    left
    unfold wrongFollowUp
    split_ifs
    · rfl
    · exact modifies_becomeMaster d.stopSyncReceiptTimer true .syncCount (by decide)
  | stale => exact .inl rfl
  | @used sync =>
    by_cases hslave : d.port.portState = .ptpSlave
    · have hstate := d.stopSyncReceiptTimer.portState_processFollowUpAt env m sync.timestamp none
      exact .inr (hstate.trans hslave)
    · have hcount := syncCount_processFollowUpAt (d := d.stopSyncReceiptTimer) env m sync.timestamp hslave
      have hsync := modifies_setLastSync
        (d.stopSyncReceiptTimer.processFollowUpAt env m sync.timestamp) none .syncCount (by decide)
      exact .inl (hsync.trans hcount)

/-- Best master selection keeps count and state, or resets the count. -/
theorem syncCount_processStateChange (d : Daemon F) :
    d.processStateChange.port.syncCount = 0 ∨
      d.processStateChange.port.syncCount = d.port.syncCount ∧
        d.processStateChange.port.portState = d.port.portState := by
  rw [processStateChange_eq]
  split_ifs
  · exact .inr ⟨rfl, rfl⟩
  cases d.port.qualifiedAnnounce with
  | none => exact .inr ⟨rfl, rfl⟩
  | some a =>
    have hassigned := roleAssigned_assignRole a d
    by_cases hresets : ResetsSync a d (d.assignRole a)
    · exact .inl (hassigned.syncCount_reset hresets)
    · refine .inr ⟨hassigned.syncCount_keep hresets, ?_⟩
      by_contra hchanged
      exact hresets (.inl hchanged)

/-- Any other step that ends in the master state keeps the count. -/
theorem syncCount_step_of_master (hauto : d.port.cfg.automotiveProfile = false)
    (hmaster : (d.step i).port.portState = .ptpMaster)
    (hevent : d.handledEvent i ≠ some .stateChangeEvent) :
    (d.step i).port.syncCount = d.port.syncCount := by
  by_cases hfollowUp : ∃ m linkSpeed, i.stimulus = .receive (.followUp m) linkSpeed
  · obtain ⟨m, linkSpeed, hi⟩ := hfollowUp
    have hstep := step_of_followUp (d := d) hi
    rcases syncCount_processFollowUp i.env m { d with effects := [] } with hsame | hslave
    · rw [hstep, hsame]
    · rw [hstep, hslave] at hmaster
      cases hmaster
  by_cases hlinkup : d.handledEvent i = some .linkup
  · exact (read_step_of_linkup hlinkup hauto).2
  -- the footprints exclude everything else
  refine read_step (l := .syncCount) ?_ ?_ (by decide)
  · intro e he
    refine ⟨by simp, ?_⟩
    cases e with
    | linkup => exact absurd he hlinkup
    | stateChangeEvent => exact absurd he hevent
    | _ => decide
  · intro msg linkSpeed hi _
    cases msg with
    | followUp m => exact absurd ⟨m, linkSpeed, hi⟩ hfollowUp
    | _ => dsimp only [PTPMessage.footprint]; decide

/-- **Step lemma.** -/
theorem syncCount_of_master_step (h : d.port.portState = .ptpMaster → d.port.syncCount = 0)
    (hauto : d.port.cfg.automotiveProfile = false) :
    ((d.step i).port.portState = .ptpMaster → (d.step i).port.syncCount = 0) ↔
      ¬ d.MiscountsSync i := by
  by_cases hmaster : (d.step i).port.portState = .ptpMaster
  swap
  · exact iff_of_true (fun hm => absurd hm hmaster) fun hmis => hmaster hmis.1.2
  rw [forall_prop_of_true hmaster]
  by_cases hevent : d.handledEvent i = some .stateChangeEvent
  · refine iff_of_true ?_ fun hmis => hmis.2.1 hevent
    obtain ⟨d₀, -, hport, hstep⟩ := step_of_handledEvent hevent
    rw [← hport] at h hauto
    rw [hstep, processEvent_stateChangeEvent, hauto, if_neg Bool.false_ne_true] at hmaster ⊢
    rcases syncCount_processStateChange d₀ with hreset | ⟨hsame, hstate⟩
    · exact hreset
    · -- the port was master before, so there was nothing to count
      exact hsame.trans (h (hstate.symm.trans hmaster))
  · rw [syncCount_step_of_master hauto hmaster hevent]
    unfold MiscountsSync EntersMaster
    by_cases hbefore : d.port.portState = .ptpMaster
    · exact iff_of_true (h hbefore) fun hmis => hmis.1.1 hbefore
    · simp [hbefore, hmaster, hevent]

end Daemon

/-! ### Whole runs -/

section Run

variable {s : Start F}

/-- Without restored state both counters are zero and there is no baseline. -/
theorem Start.daemon_counters (hrestored : s.restored = none) :
    s.daemon.port.syncCount = 0 ∧ s.daemon.port.pdelay.pdelayCount = 0 ∧
      s.daemon.port.link.peerOffsetInit = false := by
  unfold Start.daemon
  rw [hrestored]
  exact ⟨rfl, rfl, rfl⟩

theorem Start.stateAt_not_automotive (hauto : s.portConfig.automotiveProfile = false) (σ : ℕ → Input)
    (k : ℕ) : ((machine F).stateAt s.daemon σ k).port.cfg.automotiveProfile = false := by
  rw [(stateAt_cfg s.daemon σ k).2, s.daemon_cfg.2]
  exact hauto

end Run

/-- **The published counters.** In a run of a non-automotive daemon without restored state, `sync_count`
is zero whenever the port is master and `pdelay_count` is zero whenever the link is not capable,
exactly if no step makes the port master otherwise than by best master selection while Syncs are
counted, no delay beyond the threshold is measured, and neither LINKDOWN nor FAULT_DETECTED is
handled while measurements are counted. -/
theorem counters_reset_iff (s : Start F) (hauto : s.portConfig.automotiveProfile = false)
    (hrestored : s.restored = none) (σ : ℕ → Input) (n : ℕ) :
    (∀ k ≤ n, let d := (machine F).stateAt s.daemon σ k
      (d.port.portState = .ptpMaster → d.port.syncCount = 0) ∧
        (d.port.link.asCapable = false → d.port.pdelay.pdelayCount = 0)) ↔
    ∀ k < n, let d := (machine F).stateAt s.daemon σ k
      ¬ (d.MiscountsSync (σ k) ∨ d.MiscountsPdelay (σ k)) := by
  have hinit := Start.daemon_counters hrestored
  refine holds_iff_no_breach ⟨fun _ => hinit.1, fun _ => hinit.2.1⟩ fun k _ hk => ?_
  have hcfg := Start.stateAt_not_automotive hauto σ k
  rw [not_or]
  exact and_congr (Daemon.syncCount_of_master_step hk.1 hcfg)
    (Daemon.pdelayCount_of_not_asCapable_step hk.2 hcfg)

/-- A slave that has received one Sync hears nothing more; then its link goes down. -/
def silencedSlave : ℕ → Input
  | 0 => .ofEvent .powerup
  | 1 => .expiry 1
  | 2 => .message (.pathDelayResp (neighborResp 0))
  | 3 => .message (.pathDelayRespFollowUp (neighborRespFollowUp 0))
  | 4 => .message (.announce neighborAnnounce)
  | 5 => .expiry 1
  | 6 => .message (.sync (neighborSync 1))
  | 7 => .message (.followUp (neighborFollowUp 1))
  | 8 => .expiry 2
  | _ => .ofEvent .linkdown

/-- **The counters are not reset.** The receipt timeout leaves a master with one counted Sync, and
LINKDOWN a link that is not capable with one counted measurement. -/
theorem silencedSlave_counters :
    let s := Start.standard localIdentity
    let d (k : ℕ) := (machine ℚ).stateAt s.daemon silencedSlave k
    s.portConfig.automotiveProfile = false ∧ s.restored = none ∧
      (machine ℚ).Delivers s.daemon silencedSlave 10 ∧
      ((d 9).port.portState = .ptpMaster ∧ (d 9).port.syncCount = 1) ∧
      ((d 10).port.link.asCapable = false ∧ (d 10).port.pdelay.pdelayCount = 1) := by
  refine ⟨rfl, rfl, ?_⟩
  decide +kernel

/-- Up to the receipt timeout the counters are as documented. -/
theorem silencedSlave_counters_before :
    let s := Start.standard localIdentity
    let d (k : ℕ) := (machine ℚ).stateAt s.daemon silencedSlave k
    ((d 8).port.syncCount = 1 ∧ (d 8).port.pdelay.pdelayCount = 1) ∧
      ∀ k < 8, ¬ ((d k).MiscountsSync (silencedSlave k) ∨ (d k).MiscountsPdelay (silencedSlave k)) :=
  ⟨by decide +kernel,
    (counters_reset_iff (Start.standard localIdentity) rfl rfl silencedSlave 8).mp
      (by decide +kernel)⟩

/-- **The baseline of a link that is not capable.** In a run of a non-automotive daemon without restored
state it is marked as missing in every state where `asCapable` is false, exactly if no delay beyond the
threshold is measured. -/
theorem noStaleBaseline_iff (s : Start F) (hauto : s.portConfig.automotiveProfile = false)
    (hrestored : s.restored = none) (σ : ℕ → Input) (n : ℕ) :
    (∀ k ≤ n, let d := (machine F).stateAt s.daemon σ k
      d.port.link.asCapable = false → d.port.link.peerOffsetInit = false) ↔
    ∀ k < n, ¬ ((machine F).stateAt s.daemon σ k).MeasuresBeyond (σ k) := by
  have hinit := Start.daemon_counters hrestored
  refine holds_iff_no_breach (fun _ => hinit.2.2) fun k _ hk => ?_
  exact Daemon.NoStaleBaseline.step_iff hk (Start.stateAt_not_automotive hauto σ k)

/-- An exchange whose response arrives ten microseconds after the request was sent. -/
def slowExchange : ℕ → Input
  | 0 => .ofEvent .powerup
  | 1 => .expiry 1
  | 2 => .message (.pathDelayResp { neighborResp 0 with timestamp := ⟨10000, 0, 0, 0⟩ })
  | _ => .message (.pathDelayRespFollowUp (neighborRespFollowUp 0))

/-- **A measurement beyond the threshold leaves a baseline.** -/
theorem slowExchange_baseline :
    let s := Start.standard localIdentity
    let d := (machine ℚ).stateAt s.daemon slowExchange 4
    s.portConfig.automotiveProfile = false ∧ s.restored = none ∧
      (machine ℚ).Delivers s.daemon slowExchange 4 ∧
      d.port.link.asCapable = false ∧ d.port.link.peerOffsetInit = true := by
  refine ⟨rfl, rfl, ?_⟩
  decide +kernel

/-- Before the exchange is completed there is none. -/
theorem slowExchange_baseline_before :
    let d (k : ℕ) := (machine ℚ).stateAt (Start.standard localIdentity).daemon slowExchange k
    (d 3).port.pdelay.lastPDelayResp.isSome ∧ ∀ k < 3, ¬ (d k).MeasuresBeyond (slowExchange k) :=
  ⟨by decide +kernel,
    (noStaleBaseline_iff (Start.standard localIdentity) rfl rfl slowExchange 3).mp
      (by decide +kernel)⟩

end Gptp
