import Gptp.Safety.AsCapable
import Gptp.Safety.PeerRate

/-!
# Supervision of a peer delay exchange

Every request arms a response receipt timer. The timer ends the exchange if no measurement does, and
takes `asCapable` away; a follow-up whose request has no timestamp yet replaces it by a deferral timer.
`PTPMessagePathDelayRespFollowUp::processMessage` cancels the receipt timer as soon as the follow-up
matches the request and the response, though, and only then looks at the timestamps. Two of the exits
that follow leave nothing behind that would end the exchange.

* `Daemon.Supervised`: a receipt timer or a deferral timer is pending.
* `Daemon.LosesExchange`: the inputs at which the last of them goes without a result.
* `supervised_iff`: these inputs are the only way to lose the supervision of an exchange.
-/

namespace Gptp

open Framework

variable {F : Type}

namespace Daemon

/-- A timer that supervises a peer delay exchange is pending. -/
def Supervised (d : Daemon F) : Prop :=
  d.timersOf .pdelayRespReceiptTimeoutExpires ≠ [] ∨ d.timersOf .pdelayDeferredProcessing ≠ []

/-- The follow-up belongs to the stored request and the stored response. -/
def matchesExchange (m : PTPMessagePathDelayRespFollowUp) (d : Daemon F) : Bool :=
  !d.port.portState.ignoresMessages &&
    match d.port.pdelay.lastPDelayReq, d.port.pdelay.lastPDelayResp with
    | some req, some resp => followUpMatches req resp m
    | _, _ => false

/-- The follow-up belongs to the stored messages, but their timestamps cannot be used: the request has
none, or the timestamper was reset between the two. -/
def discards (m : PTPMessagePathDelayRespFollowUp) (d : Daemon F) : Bool :=
  d.matchesExchange m &&
    match d.port.pdelay.lastPDelayReq, d.port.pdelay.lastPDelayResp with
    | some req, some resp =>
      -- a request whose timestamp is pending is deferred before the versions are compared
      req.timestamp.nanoseconds = Timestamp.invalid.nanoseconds ||
        req.timestamp.nanoseconds ≠ Timestamp.pdelayPending.nanoseconds &&
          req.timestamp.version ≠ resp.timestamp.version
    | _, _ => false

/-- No deferral timer is pending but the one that the input expires. -/
def NoDeferralLeft (d : Daemon F) (i : Input) : Prop :=
  (d.timersOf .pdelayDeferredProcessing).length ≤
    if d.handledEvent i = some .pdelayDeferredProcessing then 1 else 0

/-- The input uses up the last timer that supervises the exchange, without a result: the follow-up
matches and is discarded for its timestamps, or a deferral finds that the follow-up does not match any
more. -/
def LosesExchange (d : Daemon F) (i : Input) : Prop :=
  d.NoDeferralLeft i ∧ ∃ m ∈ d.handledFollowUp i, d.discards m ∨
    d.handledEvent i = some .pdelayDeferredProcessing ∧ ¬ d.matchesExchange m ∧
      d.timersOf .pdelayRespReceiptTimeoutExpires = []

instance (d : Daemon F) (i : Input) : Decidable (d.LosesExchange i) :=
  inferInstanceAs (Decidable ((_ ≤ _) ∧ ∃ m ∈ d.handledFollowUp i, _ ∨ _ ∧ _ ∧ _))

variable [Platform F]

/-- The input ends the exchange: a measurement completes, or the receipt timeout is handled, or the
process aborts. -/
def EndsExchange (d : Daemon F) (i : Input) : Prop :=
  (∃ delay, .setLinkDelay delay ∈ (d.step i).effects) ∨
    d.handledEvent i = some .pdelayRespReceiptTimeoutExpires ∨ .abort ∈ (d.step i).effects

/-! ### Follow-up processing and the two timers -/

/-- What the follow-up of a response does to the two timers, by its outcome. -/
inductive FollowUpTimers (m : PTPMessagePathDelayRespFollowUp) (d d' : Daemon F) : Prop
  | unmatched (hmatch : d.matchesExchange m = false)
      (hreceipt : d'.timersOf .pdelayRespReceiptTimeoutExpires =
        d.timersOf .pdelayRespReceiptTimeoutExpires)
      (hdeferred : d'.timersOf .pdelayDeferredProcessing = d.timersOf .pdelayDeferredProcessing)
  | discarded (hdiscards : d.discards m = true)
      (hreceipt : d'.timersOf .pdelayRespReceiptTimeoutExpires = [])
      (hdeferred : d'.timersOf .pdelayDeferredProcessing = d.timersOf .pdelayDeferredProcessing)
  | deferred (hmatch : d.matchesExchange m = true) (hdiscards : d.discards m = false)
      (hdeferred : d'.timersOf .pdelayDeferredProcessing ≠ [])
  | measured (hmatch : d.matchesExchange m = true) (hdiscards : d.discards m = false)
      (hstate : d.port.portState.ignoresMessages = false)
      (hcompletes : ∃ req resp, d.port.pdelay.lastPDelayReq = some req ∧
        d.port.pdelay.lastPDelayResp = some resp ∧ completes req resp m)

theorem processPathDelayRespFollowUp_timers (m : PTPMessagePathDelayRespFollowUp) (d : Daemon F) :
    FollowUpTimers m d (d.processPathDelayRespFollowUp m).1 := by
  unfold processPathDelayRespFollowUp
  cases hstate : d.port.portState.ignoresMessages with
  | true => exact .unmatched (by simp [matchesExchange, hstate]) rfl rfl
  | false =>
    rw [if_neg Bool.false_ne_true]
    -- without both messages there is nothing to match
    split
    case h_1 req resp hreq hresp =>
      have hmatches : d.matchesExchange m = followUpMatches req resp m := by
        simp [matchesExchange, hstate, hreq, hresp]
      have hdiscards : d.discards m = (followUpMatches req resp m &&
          (req.timestamp.nanoseconds = Timestamp.invalid.nanoseconds ||
            req.timestamp.nanoseconds ≠ Timestamp.pdelayPending.nanoseconds &&
              req.timestamp.version ≠ resp.timestamp.version)) := by
        simp [discards, hmatches, hreq, hresp]
      have hcancel : (d.deleteEventTimer .pdelayRespReceiptTimeoutExpires).timersOf
          .pdelayRespReceiptTimeoutExpires = [] := by
        rw [timersOf_deleteEventTimer, if_pos rfl]
      have hother : (d.deleteEventTimer .pdelayRespReceiptTimeoutExpires).timersOf
          .pdelayDeferredProcessing = d.timersOf .pdelayDeferredProcessing :=
        timersOf_deleteEventTimer_of_ne (by decide) d
      -- from here on the receipt timer is gone, whatever becomes of the timestamps
      cases hmatch : followUpMatches req resp m with
      | false => exact .unmatched (hmatches.trans hmatch) rfl rfl
      | true =>
        rw [hmatch] at hmatches hdiscards
        dsimp only
        rw [if_neg (by decide)]
        split_ifs with hinvalid hpending hversion
        · exact .discarded (by simp [hdiscards, hinvalid]) hcancel hother
        · -- the receipt timer is traded for a deferral timer
          refine .deferred hmatches ?_ ?_
          · rw [hdiscards, decide_eq_false hinvalid]
            simp [hpending]
          rw [timersOf_addEventTimer, if_pos rfl]
          exact List.append_ne_nil_of_right_ne_nil _ (List.cons_ne_nil _ _)
        · -- the timestamper was reset between request and response
          exact .discarded (by simp [hdiscards, hpending, hversion]) hcancel hother
        · refine .measured hmatches (by simp [hdiscards, hinvalid, hversion]) hstate
            ⟨req, resp, hreq, hresp, ?_⟩
          simp [completes, hmatch, hinvalid, hpending, not_not.mp hversion]
    case h_2 hnone =>
      refine .unmatched ?_ rfl rfl
      unfold matchesExchange
      split
      case h_1 req resp hreq hresp => exact absurd hresp (hnone req resp hreq)
      case h_2 => exact Bool.and_false _

omit [Platform F] in
/-- Only the timers of the state after the follow-up matter. -/
theorem FollowUpTimers.congr {m : PTPMessagePathDelayRespFollowUp} {d d' d'' : Daemon F}
    (h : FollowUpTimers m d d') (htimers : ∀ e, d''.timersOf e = d'.timersOf e) :
    FollowUpTimers m d d'' := by
  cases h with
  | unmatched hmatch hreceipt hdeferred =>
    exact .unmatched hmatch ((htimers _).trans hreceipt) ((htimers _).trans hdeferred)
  | discarded hdiscards hreceipt hdeferred =>
    exact .discarded hdiscards ((htimers _).trans hreceipt) ((htimers _).trans hdeferred)
  | deferred hmatch hdiscards hdeferred =>
    exact .deferred hmatch hdiscards (htimers _ ▸ hdeferred)
  | measured hmatch hdiscards hstate hcompletes =>
    exact .measured hmatch hdiscards hstate hcompletes

theorem mediaPdelayDeferred_timers {m : PTPMessagePathDelayRespFollowUp} {d : Daemon F}
    (h : d.port.pdelay.lastPDelayRespFollowUp = some m) :
    FollowUpTimers m d d.mediaPdelayDeferred := by
  refine (processPathDelayRespFollowUp_timers m d).congr fun e => ?_
  rcases mediaPdelayDeferred_of_some h with hdone | hdone
  · rw [hdone]
  · rw [hdone]
    rfl

/-- **Handling a follow-up.** It is processed from the state before the step, without the deferral timer
if it had been deferred. -/
theorem exists_followUp {d : Daemon F} {i : Input} {m : PTPMessagePathDelayRespFollowUp}
    (henabled : d.enabled i) (h : d.handledFollowUp i = some m) :
    ∃ d₀ : Daemon F, d₀.port = d.port ∧ d₀.timersOf .pdelayRespReceiptTimeoutExpires =
        d.timersOf .pdelayRespReceiptTimeoutExpires ∧
      (d₀.timersOf .pdelayDeferredProcessing).length +
          (if d.handledEvent i = some .pdelayDeferredProcessing then 1 else 0) =
        (d.timersOf .pdelayDeferredProcessing).length ∧
      FollowUpTimers m d₀ (d.step i) := by
  rcases handledFollowUp_eq_some_iff.mp h with ⟨linkSpeed, hi, hlock⟩ | ⟨hdeferred, hstored⟩
  · -- received: no timer is taken off the queue
    have hnone : d.handledEvent i = none := by simp only [handledEvent, hi]
    rw [hnone, step_of_receivedFollowUp hi hlock]
    exact ⟨{ d with effects := [] }, rfl, rfl, rfl, processPathDelayRespFollowUp_timers _ _⟩
  · -- deferred: its own timer has been taken off, and a deferral does not come from outside
    obtain ⟨external, d₀, hpopped, hexternal, hstep⟩ := exists_popped henabled hdeferred
    obtain rfl : external = false := by
      by_contra hne
      cases hexternal (Bool.eq_true_of_not_eq_false hne)
    have hlength := hpopped.length
    rw [if_neg Bool.false_ne_true] at hlength
    rw [if_pos hdeferred, hstep]
    refine ⟨d₀, hpopped.port, hpopped.others _ (by decide), hlength, ?_⟩
    rw [← hpopped.port] at hstored
    exact mediaPdelayDeferred_timers hstored

/-! ### One step -/

omit [Platform F] in
/-- Whether a follow-up matches, and whether it is discarded, depends on the port only. -/
theorem matchesExchange_congr {d d' : Daemon F} (h : d'.port = d.port)
    (m : PTPMessagePathDelayRespFollowUp) : d'.matchesExchange m = d.matchesExchange m := by
  rw [matchesExchange, h, matchesExchange]

omit [Platform F] in
theorem discards_congr {d d' : Daemon F} (h : d'.port = d.port)
    (m : PTPMessagePathDelayRespFollowUp) : d'.discards m = d.discards m := by
  rw [discards, matchesExchange_congr h, h, discards]

omit [Platform F] in
/-- A follow-up that completes a measurement matches and is not discarded. -/
theorem matchesExchange_of_completes {d : Daemon F} {m : PTPMessagePathDelayRespFollowUp}
    (hstate : d.port.portState.ignoresMessages = false) {req : PTPMessagePathDelayReq}
    {resp : PTPMessagePathDelayResp} (hreq : d.port.pdelay.lastPDelayReq = some req)
    (hresp : d.port.pdelay.lastPDelayResp = some resp) (hcompletes : completes req resp m) :
    d.matchesExchange m = true ∧ d.discards m = false := by
  simp only [completes, Bool.and_eq_true, decide_eq_true_eq] at hcompletes
  obtain ⟨⟨⟨hmatch, hinvalid⟩, -⟩, hversion⟩ := hcompletes
  have hmatches : d.matchesExchange m = true := by simp [matchesExchange, hstate, hreq, hresp, hmatch]
  exact ⟨hmatches, by simp [discards, hreq, hresp, hinvalid, hversion]⟩

/-- An input that loses the exchange does not end it. -/
theorem LosesExchange.not_endsExchange {d : Daemon F} {i : Input} (h : d.LosesExchange i) :
    ¬ d.EndsExchange i := by
  obtain ⟨-, m, hm, houtcome⟩ := h
  have hm : d.handledFollowUp i = some m := hm
  rintro (hmeasured | hreceipt | habort)
  · -- a measurement takes a follow-up that matches and is not discarded
    obtain ⟨hstate, req, resp, hreq, hresp, hcompletes⟩ := (updatesLink_iff hm).mp (.inl hmeasured)
    obtain ⟨hmatches, hdiscards⟩ := matchesExchange_of_completes hstate hreq hresp hcompletes
    rcases houtcome with hdiscards' | ⟨-, hmatches', -⟩
    · exact absurd hdiscards' (by simp [hdiscards])
    · exact hmatches' hmatches
  · -- the input is a message or a deferral, not a receipt timeout
    rcases handledFollowUp_eq_some_iff.mp hm with ⟨linkSpeed, hi, -⟩ | ⟨hdeferred, -⟩
    · simp [handledEvent, hi] at hreceipt
    · cases hreceipt.symm.trans hdeferred
  · -- the process aborts only if a deferral finds no follow-up
    obtain ⟨e, hlabel, hexplains⟩ := step_explains d i habort fun h => h.abort rfl
    obtain ⟨rfl, hnone⟩ := hexplains.abort rfl
    have hhandled := handledEvent_eq_some.mpr hlabel
    rcases handledFollowUp_eq_some_iff.mp hm with ⟨linkSpeed, hi, -⟩ | ⟨-, hstored⟩
    · simp [handledEvent, hi] at hhandled
    · cases hnone.symm.trans hstored

/-- An input that loses the exchange leaves no timer behind. -/
theorem LosesExchange.not_supervised {d : Daemon F} {i : Input} (henabled : d.enabled i)
    (h : d.LosesExchange i) : ¬ (d.step i).Supervised := by
  obtain ⟨hleft, m, hm, houtcome⟩ := h
  obtain ⟨d₀, hport, hreceipt₀, hlength, htimers⟩ := exists_followUp henabled hm
  have hnone : d₀.timersOf .pdelayDeferredProcessing = [] := by
    unfold NoDeferralLeft at hleft
    exact List.length_eq_zero_iff.mp (by omega)
  -- the follow-up neither passes the checks nor is deferred
  have houtcome₀ : d₀.discards m = true ∨ d₀.matchesExchange m = false ∧
      d.timersOf .pdelayRespReceiptTimeoutExpires = [] := by
    rw [discards_congr hport, matchesExchange_congr hport]
    exact houtcome.imp_right fun ⟨_, hmatch, hempty⟩ => ⟨Bool.eq_false_of_not_eq_true hmatch, hempty⟩
  have hneither (hmatch : d₀.matchesExchange m = true) (hdiscards : d₀.discards m = false) : False := by
    simp [hmatch, hdiscards] at houtcome₀
  have hempty : (d.step i).timersOf .pdelayRespReceiptTimeoutExpires = [] ∧
      (d.step i).timersOf .pdelayDeferredProcessing = [] := by
    cases htimers with
    | unmatched hmatch hreceipt hdeferred =>
      refine ⟨hreceipt.trans (hreceipt₀.trans ?_), hdeferred.trans hnone⟩
      rcases houtcome₀ with hdiscards | ⟨-, hempty⟩
      · simp [discards, hmatch] at hdiscards
      · exact hempty
    | discarded _ hreceipt hdeferred => exact ⟨hreceipt, hdeferred.trans hnone⟩
    | deferred hmatch hdiscards _ => exact (hneither hmatch hdiscards).elim
    | measured hmatch hdiscards _ _ => exact (hneither hmatch hdiscards).elim
  rintro (hreceipt | hdeferred)
  · exact hreceipt hempty.1
  · exact hdeferred hempty.2

/-- A request arms a receipt timer. -/
theorem supervised_of_interval {d : Daemon F} {i : Input}
    (h : d.handledEvent i = some .pdelayIntervalTimeoutExpires) : (d.step i).Supervised := by
  obtain ⟨d₀, -, -, hstep⟩ := step_of_handledEvent h
  rw [hstep]
  left
  change (d₀.mediaPdelayInterval i.env).timersOf _ ≠ []
  unfold mediaPdelayInterval startPDelayIntervalTimer
  dsimp only
  rw [timersOf_restartEventTimer_of_ne (by decide), timersOf_addEventTimer, if_pos rfl]
  exact List.append_ne_nil_of_right_ne_nil _ (List.cons_ne_nil _ _)

/-- A follow-up that is handled without ending or losing the exchange leaves it supervised. -/
theorem Supervised.followUp {d : Daemon F} {i : Input} {m : PTPMessagePathDelayRespFollowUp}
    (h : d.Supervised) (henabled : d.enabled i) (hm : d.handledFollowUp i = some m)
    (hends : ¬ d.EndsExchange i) (hloses : ¬ d.LosesExchange i) : (d.step i).Supervised := by
  obtain ⟨d₀, hport, hreceipt₀, hlength, htimers⟩ := exists_followUp henabled hm
  have hleft (h : d₀.timersOf .pdelayDeferredProcessing = []) : d.NoDeferralLeft i := by
    unfold NoDeferralLeft
    rw [← hlength, h, List.length_nil, Nat.zero_add]
  cases htimers with
  | unmatched hmatch hreceipt hdeferred =>
    unfold Supervised
    rw [hreceipt, hdeferred, hreceipt₀]
    by_contra hnone
    obtain ⟨hempty, hempty₀⟩ := not_or.mp hnone
    rw [not_not] at hempty hempty₀
    rw [matchesExchange_congr hport] at hmatch
    -- neither timer is left; for a deferral that is the second way to lose the exchange
    by_cases hevent : d.handledEvent i = some .pdelayDeferredProcessing
    · exact hloses ⟨hleft hempty₀, m, hm, .inr ⟨hevent, by simp [hmatch], hempty⟩⟩
    · -- a message that does not match changes nothing
      rw [if_neg hevent, hempty₀] at hlength
      rcases h with h | h
      · exact h hempty
      · exact h (List.length_eq_zero_iff.mp hlength.symm)
  | discarded hdiscards _ hdeferred =>
    right
    rw [hdeferred]
    intro hempty₀
    rw [discards_congr hport] at hdiscards
    exact hloses ⟨hleft hempty₀, m, hm, .inl hdiscards⟩
  | deferred _ _ hdeferred => exact .inr hdeferred
  | measured _ _ hstate hcompletes =>
    rw [hport] at hstate hcompletes
    obtain ⟨req, resp, hreq, hresp, hcompletes⟩ := hcompletes
    exact absurd (.inl (measures_of_completes hm hstate hreq hresp hcompletes)) hends

/-- **Step lemma.** An exchange stays supervised unless the input ends it or loses it. -/
theorem Supervised.step {d : Daemon F} {i : Input} (h : d.Supervised) (henabled : d.enabled i)
    (hends : ¬ d.EndsExchange i) (hloses : ¬ d.LosesExchange i) : (d.step i).Supervised := by
  cases hm : d.handledFollowUp i with
  | some m => exact h.followUp henabled hm hends hloses
  | none =>
    -- a request arms a receipt timer of its own
    by_cases hinterval : d.handledEvent i = some .pdelayIntervalTimeoutExpires
    · exact supervised_of_interval hinterval
    by_cases hdeferred : d.handledEvent i = some .pdelayDeferredProcessing
    · -- a deferral without a follow-up aborts
      obtain ⟨d₀, -, hstep⟩ := step_of_deferredNone hdeferred hm
      refine absurd (.inr (.inr ?_)) hends
      rw [hstep]
      exact List.mem_append_right _ (List.mem_singleton_self _)
    -- nothing else touches the two timers
    have hread (l : Location) (hl : l = .timer .pdelayRespReceiptTimeoutExpires ∨
        l = .timer .pdelayDeferredProcessing) : (d.step i).read l = d.read l := by
      refine read_step (fun e he => ?_) (fun msg linkSpeed hi hgot => ?_) ?_
      · have hreceipt : e ≠ .pdelayRespReceiptTimeoutExpires := by
          rintro rfl
          exact hends (.inr (.inl he))
        have hinterval' : e ≠ .pdelayIntervalTimeoutExpires := by
          rintro rfl
          exact hinterval he
        have hdeferred' : e ≠ .pdelayDeferredProcessing := by
          rintro rfl
          exact hdeferred he
        rcases hl with rfl | rfl <;> revert hreceipt hinterval' hdeferred' <;> cases e <;> decide
      · have hfollowUp : ∀ m, msg ≠ .pathDelayRespFollowUp m := by
          rintro m rfl
          rw [handledFollowUp_of_received hi hgot] at hm
          cases hm
        cases msg with
        | pathDelayRespFollowUp m => exact absurd rfl (hfollowUp m)
        | _ => rcases hl with rfl | rfl <;> dsimp only [PTPMessage.footprint] <;> decide
      · rcases hl with rfl | rfl <;> nofun
    have hreceipt : (d.step i).timersOf .pdelayRespReceiptTimeoutExpires =
      d.timersOf .pdelayRespReceiptTimeoutExpires := hread _ (.inl rfl)
    have hdeferred : (d.step i).timersOf .pdelayDeferredProcessing =
      d.timersOf .pdelayDeferredProcessing := hread _ (.inr rfl)
    unfold Supervised
    rwa [hreceipt, hdeferred]

end Daemon

/-! ### Whole runs -/

variable [Platform F]

/-- No input between the positions `j` and `k` of the run ends the exchange. -/
def Unfinished (d₀ : Daemon F) (σ : ℕ → Input) (j k : ℕ) : Prop :=
  ∀ l < k, j < l → ¬ ((machine F).stateAt d₀ σ l).EndsExchange (σ l)

/-- **Supervision of peer delay exchanges.** After a request, and until a measurement completes or the
receipt timeout is handled, a timer that will end the exchange is pending in every state of a run,
exactly if no input loses the exchange: none whose follow-up matches and is then discarded for its
timestamps, or is found not to match when a deferral is due, with no other timer pending. -/
theorem supervised_iff (s : Start F) (σ : ℕ → Input) (n : ℕ)
    (hdelivers : (machine F).Delivers s.daemon σ n) :
    (∀ k ≤ n, ∀ j < k,
      ((machine F).stateAt s.daemon σ j).handledEvent (σ j) = some .pdelayIntervalTimeoutExpires →
      Unfinished s.daemon σ j k → ((machine F).stateAt s.daemon σ k).Supervised) ↔
    ∀ k < n, ∀ j < k,
      ((machine F).stateAt s.daemon σ j).handledEvent (σ j) = some .pdelayIntervalTimeoutExpires →
      Unfinished s.daemon σ j k → ¬ ((machine F).stateAt s.daemon σ k).LosesExchange (σ k) :=
  obligation_iff
    -- the request sets the obligation up; losing the exchange leaves it open; anything else keeps it
    (fun _ _ h => Daemon.supervised_of_interval h)
    (fun k hk h => ⟨h.not_endsExchange, h.not_supervised (hdelivers k hk)⟩)
    (fun k hk h => h.step (hdelivers k hk))

/-- The exchange of `completedExchange`, but the transmit timestamp of the request is not obtained. -/
def untimedRequest : ℕ → Input
  | 1 => { completedExchange 1 with env.txTimestamp := none }
  | k => completedExchange k

/-- With a timestamp the exchange stays supervised until it completes. -/
theorem completedExchange_supervised :
    (machine ℚ).Delivers (Start.standard localIdentity).daemon completedExchange 4 ∧
      ((machine ℚ).stateAt (Start.standard localIdentity).daemon completedExchange 1).handledEvent
        (completedExchange 1) = some .pdelayIntervalTimeoutExpires ∧
      ∀ k ≤ 4, ∀ j < k,
        ((machine ℚ).stateAt (Start.standard localIdentity).daemon completedExchange j).handledEvent
          (completedExchange j) = some .pdelayIntervalTimeoutExpires →
        Unfinished (Start.standard localIdentity).daemon completedExchange j k →
        ((machine ℚ).stateAt (Start.standard localIdentity).daemon completedExchange k).Supervised := by
  have hdelivers : (machine ℚ).Delivers (Start.standard localIdentity).daemon completedExchange 4 := by
    decide
  refine ⟨hdelivers, by decide, (supervised_iff _ _ 4 hdelivers).mpr ?_⟩
  have hnone : ∀ k < 4, ¬ ((machine ℚ).stateAt (Start.standard localIdentity).daemon
      completedExchange k).LosesExchange (completedExchange k) := by decide +kernel
  exact fun k hk _ _ _ _ => hnone k hk

/-- Without a timestamp the follow-up cancels the receipt timer and measures nothing: no input has ended
the exchange, and no timer is left that would. -/
theorem untimedRequest_unsupervised :
    (machine ℚ).Delivers (Start.standard localIdentity).daemon untimedRequest 4 ∧
      ((machine ℚ).stateAt (Start.standard localIdentity).daemon untimedRequest 1).handledEvent
        (untimedRequest 1) = some .pdelayIntervalTimeoutExpires ∧
      Unfinished (Start.standard localIdentity).daemon untimedRequest 1 4 ∧
      ¬ ((machine ℚ).stateAt (Start.standard localIdentity).daemon untimedRequest 4).Supervised := by
  refine ⟨by decide, by decide, ?_, ?_⟩
  · have heffects : ∀ l < 4, 1 < l → ((machine ℚ).stateAt (Start.standard localIdentity).daemon
        untimedRequest (l + 1)).effects = [] := by decide +kernel
    have hevents : ∀ l < 4, 1 < l → ((machine ℚ).stateAt (Start.standard localIdentity).daemon
        untimedRequest l).handledEvent (untimedRequest l) = none := by decide +kernel
    intro l hl hjl
    rintro (⟨delay, hdelay⟩ | hreceipt | habort)
    · exact absurd (heffects l hl hjl ▸ hdelay) List.not_mem_nil
    · exact absurd ((hevents l hl hjl).symm.trans hreceipt) nofun
    · exact absurd (heffects l hl hjl ▸ habort) List.not_mem_nil
  · unfold Daemon.Supervised
    decide +kernel

end Gptp
