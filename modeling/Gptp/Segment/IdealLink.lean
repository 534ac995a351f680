import Gptp.Safety.LinkDelay
import Gptp.Segment.PdelayExchange
import Gptp.Segment.SyncExchange
import Gptp.Servo.Discipline

/-!
# Two stations on an ideal link

What the protocol is for: a slave learns the difference between its own clock and that of its master. On a
link that delays every frame by the same time in both directions, between clocks that run at the same rate,
it learns it exactly, whatever is lost or reordered, as long as no request arrives twice and no sequence
number comes round.

* `IdealLink`: the assumptions on the clocks and the link, about the times of departures and arrivals.
* `Daemon.linkDelay_ideal`, `Daemon.peerRate_ideal`, `Daemon.followUpCorrection_ideal`: the arithmetic.
* `exactLink_run`: what a station knows about the link is exact in every reachable state.
* `idealLink_exact`: every stored link delay is the delay of the link, and every offset that is computed
  from a Follow_Up is the difference of the clocks.

The arithmetic on frequency ratios is exact here (`exactPlatform`).
-/

namespace Gptp

open Framework

/-! ### Arithmetic -/

theorem Timestamp.value_congr {t t' : Timestamp} (h : SameTime t t') : t'.value = t.value := by
  unfold value wholeSeconds
  rw [h.secondsMs, h.secondsLs, h.nanoseconds]

theorem Timestamp.normalized_congr {t t' : Timestamp} (h : SameTime t t') (hn : t.Normalized) :
    t'.Normalized := by
  unfold Normalized at hn ⊢
  rw [h.nanoseconds]
  exact hn

theorem LinkState.toNat_getLinkDelay {F : Type} {l : LinkState F} {delay : ℕ}
    (h : l.oneWayDelay.toInt = delay) : l.getLinkDelay.toNat = delay := by
  unfold getLinkDelay
  split
  · have hcount := toNat_toUInt64_of_nonneg (x := l.oneWayDelay) (by omega)
    omega
  · rename_i hpos
    have hle : l.oneWayDelay.toInt ≤ 0 := Int64.le_iff_toInt_le.mp (Int64.not_lt.mp hpos)
    have hzero : delay = 0 := by omega
    rw [hzero]
    rfl

namespace Daemon

/-- **The delay.** Request and response take the same time, so the turn-around cancels out and so does the
difference of the clocks. -/
theorem linkDelay_ideal {req : PTPMessagePathDelayReq} {resp : PTPMessagePathDelayResp}
    {m : PTPMessagePathDelayRespFollowUp} {difference : ℤ} {delay : ℕ} (hdelay : delay < 2 ^ 62)
    (hrequest : (resp.requestReceiptTimestamp.value : ℤ) = req.timestamp.value + delay + difference)
    (hresponse : (resp.timestamp.value : ℤ) = m.responseOriginTimestamp.value + delay - difference)
    (hturn : resp.requestReceiptTimestamp.value ≤ m.responseOriginTimestamp.value)
    (hturn' : (m.responseOriginTimestamp.value : ℤ) - resp.requestReceiptTimestamp.value < 2 ^ 62) :
    (linkDelay req resp m (1 : ℚ)).toInt = delay := by
  have hrate : turnAroundRate 1 = 1 := by
    unfold turnAroundRate
    norm_num
  rw [linkDelay_eq req resp m 1 hturn hturn', hrate, one_mul, truncate_intCast, ← Int64.ofInt_sub]
  have htwice : ((resp.timestamp.value : ℤ) - req.timestamp.value) -
      ((m.responseOriginTimestamp.value : ℤ) - resp.requestReceiptTimestamp.value) = 2 * delay := by
    omega
  have hbmod : Int.bmod (2 * delay) Int64.size = 2 * delay := bmod_eq_self (by omega) (by omega)
  rw [htwice, Int64.toInt_div_of_ne_right _ _ (by decide), Int64.toInt_ofInt, hbmod]
  exact Int.mul_tdiv_cancel_left _ (by decide)

/-- **The peer rate.** Two requests are as far apart when they arrive as when they leave. -/
theorem peerRate_ideal {req : PTPMessagePathDelayReq} {resp : PTPMessagePathDelayResp}
    {l : LinkState ℚ} {measured : Int64} {difference : ℤ} {delay : ℕ} (hrate : l.peerRateOffset = 1)
    (hmeasured : measured.toInt = delay)
    (hrequest : (resp.requestReceiptTimestamp.value : ℤ) = req.timestamp.value + delay + difference)
    (hbaseline : l.peerOffsetInit = true → l.oneWayDelay.toInt = delay ∧
      (l.peerOffsetTsTheirs.value : ℤ) = l.peerOffsetTsMine.value + delay + difference) :
    peerRate req resp measured l = 1 := by
  unfold peerRate
  cases hinit : l.peerOffsetInit with
  | false => exact hrate
  | true =>
    obtain ⟨hdelay, htheirs⟩ := hbaseline hinit
    -- what the peer adds for the delay of this exchange, it has taken off for the one before
    have hcorrection : l.getLinkDelay = if measured < 0 then 0 else measured.toUInt64 := by
      have hnonneg : ¬ measured < 0 := fun h => by
        have := Int64.lt_iff_toInt_lt.mp h
        rw [hmeasured] at this
        exact absurd this (not_lt.mpr (Int.natCast_nonneg _))
      rw [if_neg hnonneg]
      apply UInt64.toNat_inj.mp
      have hcount := toNat_toUInt64_of_nonneg (x := measured) (by omega)
      rw [LinkState.toNat_getLinkDelay hdelay]
      omega
    have helapsed : resp.requestReceiptTimestamp.toNs - l.peerOffsetTsTheirs.toNs =
        req.timestamp.toNs - l.peerOffsetTsMine.toNs := by
      apply UInt64.toNat_inj.mp
      simp only [UInt64.toNat_sub, Timestamp.toNat_toNs]
      omega
    rw [← hcorrection, UInt64.sub_add_cancel, helapsed, hrate]
    generalize req.timestamp.toNs - l.peerOffsetTsMine.toNs = elapsed
    rw [if_pos rfl]
    dsimp only
    split
    · rename_i hlimits
      -- the ratio of a time to itself is one, unless it is zero, which is out of bounds
      by_cases hzero : elapsed.toNat = 0
      · rw [hzero] at hlimits
        exact absurd hlimits (by decide +kernel)
      · exact div_self (Nat.cast_ne_zero.mpr hzero)
    · rfl

/-- **The correction.** It is the link delay: the rates are one, and no time is spent in between. -/
theorem followUpCorrection_ideal {d : Daemon ℚ} {m : PTPMessageFollowUp} {delay : ℕ}
    (hlt : delay < 2 ^ 62) (hrate : d.port.link.peerRateOffset = 1)
    (hdelay : d.port.link.oneWayDelay.toInt = delay) (hfield : m.correctionField = 0)
    (hcumulative : m.tlv.cumulativeScaledRateOffset = 0) :
    (d.followUpCorrection m).toInt = delay := by
  have hvalue : d.followUpCorrection m = Int64.ofInt (truncate ((delay : ℤ) : ℚ)) := by
    unfold followUpCorrection
    rw [hrate, hfield, hcumulative, LinkState.toNat_getLinkDelay hdelay]
    change Int64.ofInt (truncate _) = _
    congr 2
    change (delay : ℚ) * (((0 : ℚ) / 2 ^ 41 + 1) / 1) + 0 = ((delay : ℤ) : ℚ)
    norm_num
  rw [hvalue, truncate_intCast, Int64.toInt_ofInt]
  exact bmod_eq_self (by omega) (by omega)

/-- An offset computed from a Follow_Up is the arrival time of the stored Sync less its corrected origin,
with a link delay that is known. -/
theorem masterOffset_of_followUp {F : Type} [Platform F] {d : Daemon F} {i : Input}
    {m : PTPMessageFollowUp} {linkSpeed : UInt32} {u : MasterOffset F}
    (hi : i.stimulus = .receive (.followUp m) linkSpeed)
    (hu : .setMasterOffset u ∈ (d.step i).effects) :
    d.port.link.getLinkDelay < invalidLinkDelay ∧
      u.masterLocalOffset =
        (u.localTime.toNs - (d.correctedOrigin m (m.correctionField / 65536)).toNs).toInt64 := by
  obtain ⟨d₀, -, hport, hnone, hstep⟩ := used_of_offset hi hu
  rw [hstep] at hu
  have hmem : .setMasterOffset u ∈ (d₀.processFollowUpAt i.env m u.localTime).effects := hu
  have happlies := (applies_of_offset hnone hmem).1
  have hoffset := masterOffset_of_processFollowUpAt hnone hmem
  simp only [appliesFollowUp, Bool.and_eq_true, decide_eq_true_eq, hport] at happlies
  refine ⟨happlies.1.1, hoffset.trans ?_⟩
  unfold correctedOrigin
  rw [hport]

end Daemon

/-- Messages whose departure and arrival are timed. -/
def MessageType.isTimed : MessageType → Bool
  | .sync | .pathDelayReq | .pathDelayResp => true
  | _ => false

/-! ### What a station knows about the link -/

/-- What a station knows about the link is exact: its peer, whose clock is ahead by `difference`, runs at
the same rate, and the delay is unknown or right. -/
structure ExactLink (difference : ℤ) (delay : ℕ) (l : LinkState ℚ) : Prop where
  rate : l.peerRateOffset = 1
  oneWayDelay : l.oneWayDelay = invalidLinkDelay.toInt64 ∨ l.oneWayDelay.toInt = delay
  baseline : l.peerOffsetInit = true → l.oneWayDelay.toInt = delay ∧
    (l.peerOffsetTsTheirs.value : ℤ) = l.peerOffsetTsMine.value + delay + difference

namespace ExactLink

variable {difference : ℤ} {delay : ℕ} {l l' : LinkState ℚ}

theorem kept (h : ExactLink difference delay l) (hkept : l.Kept l') : ExactLink difference delay l' := by
  refine ⟨hkept.peerRateOffset.trans h.rate, ?_, fun hinit => ?_⟩
  · rw [hkept.oneWayDelay]
    exact h.oneWayDelay
  · rw [hkept.oneWayDelay, hkept.peerOffsetTsTheirs, hkept.peerOffsetTsMine]
    exact h.baseline (hkept.peerOffsetInit hinit)

/-- A measurement on an ideal link finds the delay, and leaves an exact link. -/
theorem measured (h : ExactLink difference delay l) (hlt : delay < 2 ^ 62)
    {req : PTPMessagePathDelayReq} {resp : PTPMessagePathDelayResp}
    {m : PTPMessagePathDelayRespFollowUp} (hmeasured : Daemon.Measured req resp m l l')
    (hrequest : (resp.requestReceiptTimestamp.value : ℤ) = req.timestamp.value + delay + difference)
    (hresponse : (resp.timestamp.value : ℤ) = m.responseOriginTimestamp.value + delay - difference)
    (hturn : resp.requestReceiptTimestamp.value ≤ m.responseOriginTimestamp.value)
    (hturn' : (m.responseOriginTimestamp.value : ℤ) - resp.requestReceiptTimestamp.value < 2 ^ 62) :
    (Daemon.linkDelay req resp m l.peerRateOffset).toInt = delay ∧ ExactLink difference delay l' := by
  have hdelay : (Daemon.linkDelay req resp m l.peerRateOffset).toInt = delay := by
    rw [h.rate]
    exact Daemon.linkDelay_ideal hlt hrequest hresponse hturn hturn'
  refine ⟨hdelay, ?_, .inr ?_, fun _ => ⟨?_, ?_⟩⟩
  · rw [hmeasured.peerRateOffset]
    exact Daemon.peerRate_ideal h.rate hdelay hrequest h.baseline
  · rw [hmeasured.oneWayDelay]
    exact hdelay
  · rw [hmeasured.oneWayDelay]
    exact hdelay
  · rw [hmeasured.peerOffsetTsTheirs, hmeasured.peerOffsetTsMine]
    exact hrequest

/-- A link whose delay is in use. -/
theorem toInt_oneWayDelay (h : ExactLink difference delay l)
    (hvalid : l.getLinkDelay < invalidLinkDelay) : l.oneWayDelay.toInt = delay := by
  refine h.oneWayDelay.resolve_left fun hinvalid => ?_
  unfold LinkState.getLinkDelay at hvalid
  rw [hinvalid] at hvalid
  exact absurd hvalid (by decide)

end ExactLink

/-! ### Runs -/

section Runs

variable {ι : Type} [DecidableEq ι] {s : ι → Start ℚ} {σ : ℕ → SegmentInput ι} {n k : ℕ} {i c : ι}
  {θ : ι → ℤ} {delay : ℕ}

/-- If it is a copy of the departing message that lands, and the message is timed, it takes `delay`. -/
def OnTime (θ : ι → ℤ) (delay : ℕ) (e : Departure ι) (l : Landing ι) : Prop :=
  l.transmission = e.transmission → e.sender ≠ l.receiver → e.message.messageType.isTimed = true →
    e.tx.2 = true → (l.rx.value : ℤ) - θ l.receiver = e.tx.1.value - θ e.sender + delay

instance (θ : ι → ℤ) (delay : ℕ) (e : Departure ι) (l : Landing ι) :
    Decidable (OnTime θ delay e l) :=
  inferInstanceAs (Decidable (_ → _ → _ → _ → _ = _))

/-- The link delays every timed message by `delay`, and the clock of station `i` is ahead of a common time by
`θ i`, in nanoseconds. A responder always obtains the time at which a response leaves, not before the
request arrived; the times at which Syncs leave are proper timestamps. A station is started afresh, or what
was saved about the link is right. -/
structure IdealLink (s : ι → Start ℚ) (σ : ℕ → SegmentInput ι) (n : ℕ) (θ : ι → ℤ) (delay : ℕ) :
    Prop where
  start : ∀ i c, c ≠ i →
    (s i).restored = none ∨ ExactLink (θ c - θ i) delay (s i).daemon.port.link
  flight : ∀ j < n, ∀ p < j, ∀ e ∈ (Segment.run s σ p).departure (σ p),
    ∀ l ∈ (Segment.run s σ j).landing (σ j), OnTime θ delay e l
  turnAround : ∀ q < n, ∀ e ∈ (Segment.run s σ q).departure (σ q),
    e.message.messageType = .pathDelayResp → e.tx.2 = true ∧
      ∀ l ∈ (Segment.run s σ q).landing (σ q),
        l.rx.value ≤ e.tx.1.value ∧ (e.tx.1.value : ℤ) - l.rx.value < 2 ^ 62
  origin : ∀ p < n, ∀ e ∈ (Segment.run s σ p).departure (σ p), e.message.messageType = .sync →
    e.tx.2 = true → e.tx.1.Normalized ∧ e.tx.1.value + delay < 2 ^ 48 * 10 ^ 9

/-- The assumptions on a run between two stations: no request arrives twice, and no sequence number comes
round. -/
structure PairRun (s : ι → Start ℚ) (σ : ℕ → SegmentInput ι) (n : ℕ) : Prop where
  pair : ∀ a b c : ι, a ≠ c → b ≠ c → a = b
  requestsOnce : RequestsArriveOnce s σ n
  requests : ∀ c, Nat.count (fun k => Segment.handledEvent (Segment.run s σ k) (σ k) =
    some (c, .pdelayIntervalTimeoutExpires)) n ≤ 65536
  syncs : ∀ c, Nat.count (SendsSync s σ c) n ≤ 65536

theorem IdealLink.exactLink_daemon (h : IdealLink s σ n θ delay) (hother : c ≠ i) :
    ExactLink (θ c - θ i) delay (s i).daemon.port.link := by
  refine (h.start i c hother).elim (fun hfresh => ?_) id
  unfold Start.daemon
  rw [hfresh]
  exact ⟨rfl, .inl rfl, fun hinit => Bool.noConfusion hinit⟩

variable (hdelivers : (segment ℚ ι).Delivers (Segment.start s) σ n)

include hdelivers

/-- Every Follow_Up that is heard has a correction field of zero, and reports the rate one. -/
theorem followUp_fields (hk : k < n) {input : Input} {m : PTPMessageFollowUp} {linkSpeed : UInt32}
    (h : Handles (Segment.run s σ k) (σ k) i input)
    (hinput : input.stimulus = .receive (.followUp m) linkSpeed) :
    m.correctionField = 0 ∧ m.tlv.cumulativeScaledRateOffset = 0 := by
  obtain ⟨-, c, t, a, sent, ⟨-, -, -, harrives⟩, hpromise⟩ := hears_of_handles hdelivers hk h hinput
  cases harrives with
  | @followUp f _ horigin htime hrate =>
    obtain ⟨-, hfield, hcumulative⟩ := hpromise
    refine ⟨horigin.correctionField.trans hfield, ?_⟩
    rw [hrate, hcumulative]
    decide

variable (hrun : PairRun s σ n) (hideal : IdealLink s σ n θ delay) (hlt : delay < 2 ^ 62)

include hrun hideal hlt

/-- A turn of a station leaves its link exact, and stores no delay but the right one. -/
theorem exactLink_turn (hk : k < n) (hother : c ≠ i) {input : Input}
    (h : Handles (Segment.run s σ k) (σ k) i input)
    (hlink : ExactLink (θ c - θ i) delay ((Segment.run s σ k).node i).port.link) :
    ExactLink (θ c - θ i) delay (((Segment.run s σ k).node i).step input).port.link ∧
      ∀ measured : Int64,
        .setLinkDelay measured ∈ (((Segment.run s σ k).node i).step input).effects →
          measured.toInt = (delay : ℤ) := by
  cases Daemon.linkTurn_step ((Segment.run s σ k).node i) input with
  | keep hkept hnone => exact ⟨hlink.kept hkept, fun measured hmem => absurd hmem (hnone measured)⟩
  | measure m req resp hm hreq hresp hcompletes hmeasured hdelay =>
    obtain ⟨c', hother', t₁, t₂, ⟨t₃, obtained⟩, t₄, htimes, hreports⟩ := pdelayTimes_of_completes
      hdelivers hrun.pair hrun.requestsOnce (hrun.requests i) hk h hm hreq hresp hcompletes
    obtain rfl : c' = c := hrun.pair c' c i hother' hother
    obtain ⟨p, q, r, t, t', Q, R, hpq, hqr, hrk, hdeparts, hlands, hdeparts', hlands'⟩ := htimes
    have hqn : q < n := hqr.trans (hrk.trans hk)
    -- the times of the request and of the response, and the turn-around between them
    have hrequest := hideal.flight q hqn p hpq _ hdeparts _ hlands rfl hother.symm rfl rfl
    obtain ⟨hobtained, hturns⟩ := hideal.turnAround q hqn _ hdeparts' rfl
    obtain ⟨hturn, hturn'⟩ := hturns _ hlands
    have hresponse :=
      hideal.flight r (hrk.trans hk) q hqr _ hdeparts' _ hlands' rfl hother rfl hobtained
    dsimp only at hrequest hturn hturn' hresponse
    have ht₂ := Timestamp.value_congr hreports.requestReceipt
    have ht₃ : m.responseOriginTimestamp.value = t₃.value :=
      Timestamp.value_congr hreports.responseOrigin
    obtain ⟨hvalue, hexact⟩ := hlink.measured hlt hmeasured
      (by rw [ht₂, hreports.requestOrigin]; omega) (by rw [hreports.responseReceipt, ht₃]; omega)
      (by rw [ht₂, ht₃]; exact hturn) (by rw [ht₂, ht₃]; exact hturn')
    refine ⟨hexact, fun measured hmem => ?_⟩
    rw [hdelay measured hmem]
    exact hvalue

/-- **Exact knowledge of the link.** -/
theorem exactLink_run (hother : c ≠ i) : ∀ k ≤ n,
    ExactLink (θ c - θ i) delay ((Segment.run s σ k).node i).port.link := by
  refine invariant_run hdelivers (P := fun d => ExactLink (θ c - θ i) delay d.port.link)
    (hideal.exactLink_daemon hother) fun k hk input h hinv => ?_
  exact (exactLink_turn hdelivers hrun hideal hlt hk hother h hinv).1

/-- **Exactness on an ideal link.** Between two stations whose clocks differ by a constant, over a link with
the same delay in both directions, every link delay that is stored is the delay of the link, and every
offset that is computed from a Follow_Up is the difference of the two clocks, to the nanosecond.

What this takes, besides two stations: no request arrives twice, and neither station has numbered more than
65536 requests or sent more than 65536 Syncs (`PairRun`). Every Sync, request and response whose time of
transmission was obtained takes `delay`; that of a response always is, and is not before the arrival of the
request nor `2 ^ 62` nanoseconds after it; that of a Sync is a proper timestamp, with seconds that still fit
48 bits when the delay is added; and a station that does not start afresh has saved an exact link
(`IdealLink`). The delay is below `2 ^ 62` nanoseconds and the difference of the clocks below `2 ^ 63`. -/
theorem idealLink_exact (hθ : ∀ i c, |θ i - θ c| < 2 ^ 63) (hk : k < n) (hother : c ≠ i) {input : Input}
    (h : Handles (Segment.run s σ k) (σ k) i input) :
    (∀ measured : Int64, .setLinkDelay measured ∈ ((Segment.run s σ (k + 1)).node i).effects →
      measured.toInt = (delay : ℤ)) ∧
    ∀ m linkSpeed u, input.stimulus = .receive (.followUp m) linkSpeed →
      .setMasterOffset u ∈ ((Segment.run s σ (k + 1)).node i).effects →
      u.masterLocalOffset.toInt = θ i - θ c := by
  have hlink := exactLink_run hdelivers hrun hideal hlt hother k hk.le
  refine ⟨?_, fun m linkSpeed u hinput hu => ?_⟩
  · rw [node_run_of_handles h]
    exact (exactLink_turn hdelivers hrun hideal hlt hk hother h hlink).2
  · -- the offset is computed from the times of one Sync
    obtain ⟨c', hother', p, j, t, sync, tx, hpj, hjk, hdeparts, hlands, hsame⟩ :=
      syncTimes_of_offset hdelivers (fun a b ha hb _ => hrun.pair a b i ha hb) hrun.syncs hk h hinput hu
    obtain rfl : c' = c := hrun.pair c' c i hother' hother
    have hflight := hideal.flight j (hjk.trans hk) p hpj _ hdeparts _ hlands rfl hother rfl rfl
    obtain ⟨hnormalized, hbound⟩ := hideal.origin p (hpj.trans (hjk.trans hk)) _ hdeparts rfl rfl
    dsimp only at hflight hnormalized hbound
    obtain ⟨hfield, hcumulative⟩ := followUp_fields hdelivers hk h hinput
    rw [node_run_of_handles h] at hu
    obtain ⟨hvalid, hoffset⟩ := Daemon.masterOffset_of_followUp hinput hu
    have hcorrection := Daemon.followUpCorrection_ideal hlt hlink.rate (hlink.toInt_oneWayDelay hvalid)
      hfield hcumulative
    have hvalue := Timestamp.value_congr hsame
    have horigin := Daemon.value_correctedOrigin (Timestamp.normalized_congr hsame hnormalized)
      (by rw [hcorrection]; omega) (by rw [hcorrection]; omega) (by rw [hcorrection, hvalue]; omega)
    have hθ' := abs_lt.mp (hθ i c')
    rw [hoffset, Timestamp.toInt_toNs_sub_toNs, horigin, hcorrection, hvalue, bmod_eq_self] <;> omega

end Runs

/-- How far the clocks of the two stations are ahead. -/
def twoStationsAhead : Bool → ℤ
  | false => 0
  | true => 700

theorem idealLink_twoStations : IdealLink twoStations twoStationsRun 11 twoStationsAhead 100 where
  start i c hother := by
    right
    cases i with
    | false =>
      obtain rfl : c = true := Bool.eq_true_of_not_eq_false hother
      exact ⟨by decide +kernel, .inr (by decide +kernel), by decide +kernel⟩
    | true =>
      obtain rfl : c = false := Bool.eq_false_of_not_eq_true hother
      exact ⟨by decide +kernel, .inr (by decide +kernel), by decide +kernel⟩
  flight := by
    simp only [run_eq_messageStation]
    decide +kernel
  turnAround := by
    simp only [run_eq_messageStation]
    decide +kernel
  origin := by
    simp only [run_eq_messageStation]
    decide +kernel

theorem pairRun_twoStations : PairRun twoStations twoStationsRun 11 where
  pair := by decide
  requestsOnce := requestsArriveOnce_twoStations
  requests _ := (Nat.count_le _).trans (by decide)
  syncs _ := (Nat.count_le _).trans (by decide)

theorem idealLink_exact_twoStations :
    (∃ measured : Int64,
      .setLinkDelay measured ∈ ((Segment.run twoStations twoStationsRun 11).node false).effects ∧
        measured.toInt = 100) ∧
    ∃ u : MasterOffset ℚ,
      .setMasterOffset u ∈ ((Segment.run twoStations twoStationsRun 7).node true).effects ∧
        u.masterLocalOffset.toInt = 700 := by
  have hahead : ∀ i c, |twoStationsAhead i - twoStationsAhead c| < 2 ^ 63 := by decide
  constructor
  · obtain ⟨measured, hmeasured⟩ := exists_delay_twoStations
    obtain ⟨input, hhandles⟩ := exists_responseFollowUp_twoStations
    have hexact := idealLink_exact delivers_twoStations pairRun_twoStations idealLink_twoStations
      (by decide) hahead (c := true) (by decide) (by decide) hhandles
    exact ⟨measured, hmeasured, hexact.1 measured hmeasured⟩
  · obtain ⟨u, hu⟩ := exists_offset_twoStations
    obtain ⟨input, m, linkSpeed, hhandles, hinput⟩ := exists_followUp_twoStations
    have hexact := idealLink_exact delivers_twoStations pairRun_twoStations idealLink_twoStations
      (by decide) hahead (c := false) (by decide) (by decide) hhandles
    exact ⟨u, hu, hexact.2 m linkSpeed u hinput hu⟩

end Gptp
