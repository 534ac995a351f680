import Gptp.Safety.PdelayIdentity

/-!
# Two responses to one request

A port that gets two responses from different ports to three consecutive requests is to stop its peer
delay requests for five minutes. The check remembers the stored response, a counter and the sequence
number the counter was last changed for; `Detector` is that memory, and `Detector.respond` what a
response does to it.

* `Daemon.detector_step_response`, `Daemon.detector_step`: the responses a port receives drive the detector,
  and nothing else touches it, except that a follow-up may clear the stored response.
* `Detector.respond_pair`: what two responses to one request do.
* `duplicates_halt_iff`: when the third pair in a row stops the requests.

The third pair does not always stop them. The successor of the last sequence number is computed as an
`int`, so 65535 has none; and a response that finds a response to an earlier request still stored
resets the counter, so the requests go on if no follow-up clears the slot between the pairs.
-/

namespace Gptp

open Framework

variable {F : Type}

/-! ### The detector -/

/-- What the check for duplicate responses remembers: sequence number and port number of the stored
response, the counter, and the sequence number it was last changed for. -/
structure Detector where
  stored : Option (UInt16 × UInt16)
  counter : UInt32
  lastInvalid : UInt16

namespace Detector

/-- Whether a duplicate continues a row: it starts one, or its sequence number is the next. The
successor is that of the integers. -/
def continues (counter : UInt32) (lastInvalid seq : UInt16) : Bool :=
  lastInvalid.toNat + 1 = seq.toNat || counter = 0

/-- A response with sequence number `seq` from port number `port`. -/
def respond (seq port : UInt16) (x : Detector) : Detector :=
  match x.stored with
  | none => { x with stored := some (seq, port) }
  | some (seq', port') =>
    if seq = seq' then
      { stored := some (seq, port)
        counter := if port ≠ port' ∧ continues x.counter x.lastInvalid seq then x.counter + 1 else 0
        lastInvalid := seq }
    else { x with stored := some (seq, port), counter := 0 }

/-- The stored response is dropped. -/
def clear (x : Detector) : Detector := { x with stored := none }

@[simp] theorem stored_respond (seq port : UInt16) (x : Detector) :
    (x.respond seq port).stored = some (seq, port) := by
  unfold respond
  split
  · rfl
  · split <;> rfl

/-- A second response to the same request, from another port. -/
theorem respond_of_stored {x : Detector} {seq p q : UInt16} (h : x.stored = some (seq, p))
    (hpq : p ≠ q) :
    x.respond seq q = ⟨some (seq, q),
      if continues x.counter x.lastInvalid seq then x.counter + 1 else 0, seq⟩ := by
  unfold respond
  rw [h]
  simp [hpq.symm]

/-- After two responses from different ports to one request, the second one is stored, and the last
sequence number is theirs. -/
theorem respond_respond (x : Detector) (seq : UInt16) {p q : UInt16} (hpq : p ≠ q) :
    (x.respond seq p).respond seq q =
      ⟨some (seq, q), ((x.respond seq p).respond seq q).counter, seq⟩ := by
  rw [respond_of_stored (x.stored_respond seq p) hpq]

/-- The counter a pair of responses finds: a stored response to another request resets it. -/
def restarted (x : Detector) : UInt32 := if x.stored = none then x.counter else 0

/-- **A pair.** Two responses from different ports to one request, while no response to that request
is stored, leave the second response, its sequence number, and a counter that has gone up by one or
back to zero. -/
theorem respond_pair {x : Detector} {seq p q : UInt16} (hx : ∀ p', x.stored ≠ some (seq, p'))
    (hpq : p ≠ q) :
    (x.respond seq p).respond seq q =
      ⟨some (seq, q),
        if continues x.restarted x.lastInvalid seq then x.restarted + 1 else 0, seq⟩ := by
  rw [respond_of_stored (x.stored_respond seq p) hpq]
  -- the first response of the pair leaves the last sequence number, and the counter or zero
  have hfirst : (x.respond seq p).lastInvalid = x.lastInvalid ∧
      (x.respond seq p).counter = x.restarted := by
    unfold respond restarted
    split
    case h_1 hnone => simp [hnone]
    case h_2 seq' port' hsome =>
      have hne : seq ≠ seq' := by
        rintro rfl
        exact hx port' hsome
      simp [hne, hsome]
  rw [hfirst.1, hfirst.2]

/-- The integer successor is the next sequence number, except at the wrap. -/
theorem continues_next_iff {counter : UInt32} (hcounter : counter ≠ 0) (seq : UInt16) :
    continues counter seq (seq + 1) = true ↔ seq.toNat + 1 < 2 ^ 16 := by
  have hseq : (seq + 1).toNat = (seq.toNat + 1) % 2 ^ 16 := UInt16.toNat_add _ _
  have hlt := seq.toNat_lt
  simp only [continues, hcounter, decide_false, Bool.or_false, decide_eq_true_eq, hseq]
  omega

/-- **The next pair.** The pair for the next request takes the counter beyond one exactly if it goes
up, no response is stored when the pair starts, and the sequence numbers do not wrap. -/
theorem next_pair {x : Detector} {seq p' p q : UInt16} {c n : UInt32}
    (hx : x = ⟨some (seq, p'), c, seq⟩ ∨ x = clear ⟨some (seq, p'), c, seq⟩) (hpq : p ≠ q)
    (hzero : n ≠ 0) (hone : n ≠ 1) :
    ((x.respond (seq + 1) p).respond (seq + 1) q).counter = n ↔
      c + 1 = n ∧ x.stored = none ∧ seq.toNat + 1 < 2 ^ 16 := by
  have hne : seq ≠ seq + 1 := by simp
  rcases hx with rfl | rfl
  · -- a response to the previous request is stored: the counter restarts
    rw [respond_pair (by simp [hne]) hpq]
    simp [restarted, continues, hone.symm]
  · rw [respond_pair (by simp [clear]) hpq]
    simp only [restarted, clear, if_true, true_and]
    by_cases hc : c = 0
    · subst hc
      simp [continues, hone.symm]
    · by_cases hwrap : seq.toNat + 1 < 2 ^ 16
      · simp only [(continues_next_iff hc seq).mpr hwrap, hwrap, if_true, and_true]
      · have hstop := mt (continues_next_iff hc seq).mp hwrap
        simp only [hstop, hwrap, if_false, and_false, hzero.symm, Bool.false_eq_true]

/-- Whether a first response from port number `port` leaves the counter at zero: no response to the
same request from another port is stored. -/
def startsRow (x : Detector) (seq port : UInt16) : Bool :=
  x.stored.all fun old => old.1 ≠ seq || old.2 = port

/-- The first pair, with the counter at zero. -/
theorem respond_first_pair {x : Detector} {seq p q : UInt16} (hcounter : x.counter = 0)
    (hpq : p ≠ q) :
    (x.respond seq p).respond seq q =
      ⟨some (seq, q), if x.startsRow seq p then 1 else 0, seq⟩ := by
  rw [respond_of_stored (x.stored_respond seq p) hpq]
  unfold respond startsRow
  cases hstored : x.stored with
  | none => simp [continues, hcounter]
  | some old =>
    obtain ⟨seq', p'⟩ := old
    by_cases hseq : seq = seq'
    · subst hseq
      by_cases hp : p' = p
      · -- the stored response is from the same port: the counter stays at zero
        simp [hp, continues]
      · -- the first response of the pair is a duplicate itself, and the second does not continue it
        simp [hp, Ne.symm hp, continues, hcounter]
    · simp [hseq, Ne.symm hseq, continues]

end Detector

/-! ### The detector of a port -/

/-- Sequence number and port number of the response an input delivers, if it gets the receive lock. -/
def Input.response (i : Input) : Option (UInt16 × UInt16) :=
  match i.stimulus with
  | .receive (.pathDelayResp m) _ =>
    if i.env.pdelayRxLock then some (m.sequenceId, m.sourcePortIdentity.portNumber) else none
  | _ => none

namespace Daemon

/-- The detector of a port. -/
def detector (d : Daemon F) : Detector where
  stored := d.port.pdelay.lastPDelayResp.map fun m =>
    (m.sequenceId, m.sourcePortIdentity.portNumber)
  counter := d.port.pdelay.duplicateRespCounter
  lastInvalid := d.port.pdelay.lastInvalidSeqID

/-- The pending timers that resume peer delay requests after a peer misbehaved. -/
abbrev misbehavingTimers (d : Daemon F) : List Timer :=
  d.timersOf .pdelayRespPeerMisbehavingTimeoutExpires

/-- The counter is set to `n`; at three the requests stop. -/
def countDuplicates (n : UInt32) (d : Daemon F) : Daemon F :=
  let d := d.setDuplicateRespCounter n
  if n = 3 then d.stopPDelay.addEventTimer .pdelayRespPeerMisbehavingTimeoutExpires 300000000000
  else d

theorem pdelay_countDuplicates (n : UInt32) (d : Daemon F) :
    (d.countDuplicates n).port.pdelay =
      { d.port.pdelay with
        duplicateRespCounter := n
        pdelayStarted := if n = 3 then false else d.port.pdelay.pdelayStarted
        pdelayHalted := if n = 3 then true else d.port.pdelay.pdelayHalted } := by
  unfold countDuplicates
  by_cases hn : n = 3
  · simp only [hn, if_true]
    rfl
  · simp only [hn, if_false]
    rfl

theorem misbehavingTimers_countDuplicates (n : UInt32) (d : Daemon F) :
    (d.countDuplicates n).misbehavingTimers = d.misbehavingTimers ++
      if n = 3 then [⟨.pdelayRespPeerMisbehavingTimeoutExpires, d.port.cfg.ifindex, 300000000⟩]
      else [] := by
  unfold countDuplicates
  by_cases hn : n = 3
  · simp only [hn, if_true]
    have hstop : (d.setDuplicateRespCounter 3).stopPDelay.misbehavingTimers = d.misbehavingTimers :=
      modifies_stopPDelay _ (.timer .pdelayRespPeerMisbehavingTimeoutExpires) (by decide)
    rw [misbehavingTimers, timersOf_addEventTimer, ← misbehavingTimers, hstop]
    rfl
  · simp only [hn, if_false, List.append_nil]
    rfl

/-- The check for duplicates sets the counter, and the last sequence number if the response is to the
same request as the stored one. -/
theorem checkDuplicateResp_eq (m old : PTPMessagePathDelayResp) (d : Daemon F) :
    d.checkDuplicateResp m old =
      if m.sequenceId = old.sequenceId then
        (d.countDuplicates
          (if m.sourcePortIdentity.portNumber ≠ old.sourcePortIdentity.portNumber ∧
              Detector.continues d.port.pdelay.duplicateRespCounter d.port.pdelay.lastInvalidSeqID
                m.sequenceId
            then d.port.pdelay.duplicateRespCounter + 1 else 0)).setLastInvalidSeqID m.sequenceId
      else d.countDuplicates 0 := by
  unfold checkDuplicateResp
  by_cases hseq : m.sequenceId = old.sequenceId
  · rw [if_pos hseq, if_pos hseq]
    simp only [Detector.continues, Bool.or_eq_true, decide_eq_true_eq]
    split <;> rfl
  · rw [if_neg hseq, if_neg hseq]
    rfl

/-- What a response does to the variables of the exchange and to the timers: the detector gives the
new counter. -/
theorem processPathDelayResp_of_stored (m : PTPMessagePathDelayResp) {old : PTPMessagePathDelayResp}
    {d : Daemon F} (hstate : d.port.portState.ignoresMessages = false)
    (hold : d.port.pdelay.lastPDelayResp = some old) :
    ∃ d' : Daemon F, (d.processPathDelayResp m).1 = d'.setLastPDelayResp (some m) ∧
      d'.port.pdelay = { (d.countDuplicates (d.detector.respond m.sequenceId
          m.sourcePortIdentity.portNumber).counter).port.pdelay with
        lastInvalidSeqID := (d.detector.respond m.sequenceId
          m.sourcePortIdentity.portNumber).lastInvalid } ∧
      d'.misbehavingTimers = (d.countDuplicates (d.detector.respond m.sequenceId
          m.sourcePortIdentity.portNumber).counter).misbehavingTimers := by
  have hresp : (d.processPathDelayResp m).1 =
      (d.checkDuplicateResp m old).setLastPDelayResp (some m) := by
    unfold processPathDelayResp
    rw [hstate, hold]
    rfl
  have hset (d₁ : Daemon F) (sequenceId : UInt16) :
      (d₁.setLastInvalidSeqID sequenceId).port.pdelay =
          { d₁.port.pdelay with lastInvalidSeqID := sequenceId } ∧
        (d₁.setLastInvalidSeqID sequenceId).misbehavingTimers = d₁.misbehavingTimers := ⟨rfl, rfl⟩
  refine ⟨_, hresp, ?_⟩
  rw [checkDuplicateResp_eq]
  simp only [Detector.respond, detector, hold, Option.map_some]
  -- a duplicate is counted; any other response leaves counter and timers alone
  by_cases hseq : m.sequenceId = old.sequenceId
  · simp only [hseq, if_true]
    exact hset _ _
  · simp only [hseq, if_false]
    refine ⟨?_, trivial⟩
    rw [pdelay_countDuplicates]

/-- **The detector after a response.** -/
theorem detector_processPathDelayResp (m : PTPMessagePathDelayResp) {d : Daemon F}
    (hstate : d.port.portState.ignoresMessages = false) :
    (d.processPathDelayResp m).1.detector =
      d.detector.respond m.sequenceId m.sourcePortIdentity.portNumber := by
  cases hold : d.port.pdelay.lastPDelayResp with
  | none =>
    unfold processPathDelayResp Detector.respond detector
    rw [hstate, hold]
    rfl
  | some old =>
    obtain ⟨d', hresp, hpdelay, -⟩ := processPathDelayResp_of_stored m hstate hold
    have hstored := Detector.stored_respond m.sequenceId m.sourcePortIdentity.portNumber d.detector
    rw [hresp]
    generalize d.detector.respond m.sequenceId m.sourcePortIdentity.portNumber = x at hpdelay hstored ⊢
    unfold detector setLastPDelayResp
    simp only [hpdelay, pdelay_countDuplicates, Option.map_some, ← hstored]

/-- A response stops the requests exactly if it brings the counter to three. -/
theorem halts_processPathDelayResp_iff (m : PTPMessagePathDelayResp) {d : Daemon F}
    (hstate : d.port.portState.ignoresMessages = false) :
    ((d.processPathDelayResp m).1.port.pdelay.pdelayHalted = true ∧
      (d.processPathDelayResp m).1.misbehavingTimers = d.misbehavingTimers ++
        [⟨.pdelayRespPeerMisbehavingTimeoutExpires, d.port.cfg.ifindex, 300000000⟩]) ↔
      d.detector.stored ≠ none ∧
        (d.detector.respond m.sequenceId m.sourcePortIdentity.portNumber).counter = 3 := by
  cases hold : d.port.pdelay.lastPDelayResp with
  | none =>
    -- with no response stored there is nothing to compare with
    have hresp : (d.processPathDelayResp m).1 = d.setLastPDelayResp (some m) := by
      unfold processPathDelayResp
      rw [hstate, hold]
      rfl
    have htimers : (d.setLastPDelayResp (some m)).misbehavingTimers = d.misbehavingTimers := rfl
    have hnone : d.detector.stored = none := congrArg (Option.map _) hold
    rw [hresp, htimers]
    simp [hnone]
  | some old =>
    obtain ⟨d', hresp, hpdelay, htimers⟩ := processPathDelayResp_of_stored m hstate hold
    have hsome : d.detector.stored ≠ none := by simp [detector, hold]
    have hhalted : (d'.setLastPDelayResp (some m)).port.pdelay.pdelayHalted =
        d'.port.pdelay.pdelayHalted := rfl
    have hsame : (d'.setLastPDelayResp (some m)).misbehavingTimers = d'.misbehavingTimers := rfl
    rw [hresp, hhalted, hsame, hpdelay, htimers, pdelay_countDuplicates,
      misbehavingTimers_countDuplicates]
    -- only the value of the counter matters from here on
    generalize (d.detector.respond m.sequenceId m.sourcePortIdentity.portNumber).counter = n
    by_cases hn : n = 3
    · simp [hn, hsome]
    · simp [hn]

/-! ### Steps -/

/-- Dropping or keeping the response a follow-up is for. -/
theorem lastPDelayResp_processPathDelayRespFollowUp [Platform F]
    (m : PTPMessagePathDelayRespFollowUp) (d : Daemon F) :
    (d.processPathDelayRespFollowUp m).1.port.pdelay.lastPDelayResp = d.port.pdelay.lastPDelayResp ∨
      (d.processPathDelayRespFollowUp m).1.port.pdelay.lastPDelayResp = none := by
  unfold processPathDelayRespFollowUp
  split
  · exact .inl rfl
  split
  · dsimp only
    split_ifs
    · exact .inr rfl
    · exact .inr rfl
    · exact .inl rfl
    · exact .inr rfl
    · exact .inr rfl
  · exact .inr rfl

variable [Platform F] {d : Daemon F} {i : Input}

/-- A response is handed to its handler with its sequence number and its source as received. -/
theorem step_of_response {seq port : UInt16} (h : i.response = some (seq, port)) :
    ∃ m : PTPMessagePathDelayResp, m.sequenceId = seq ∧ m.sourcePortIdentity.portNumber = port ∧
      d.step i = (processPathDelayResp m { d with effects := [] }).1 := by
  unfold Input.response at h
  split at h
  case h_1 m linkSpeed hi =>
    split at h
    case isFalse => cases h
    case isTrue hlock =>
      obtain ⟨rfl, rfl⟩ := Prod.mk.inj (Option.some.inj h)
      refine ⟨{ m with timestamp := rxCompensate d.port.cfg linkSpeed m.timestamp }, rfl, rfl, ?_⟩
      unfold step
      rw [hi]
      exact congrArg Prod.fst (processMessage_pathDelayResp hlock _)
  case h_2 => cases h

omit [Platform F] in
/-- A response that gets the lock is one that the input delivers. -/
theorem response_of_received {m : PTPMessagePathDelayResp} {linkSpeed : UInt32}
    (hi : i.stimulus = .receive (.pathDelayResp m) linkSpeed)
    (hgot : i.env.drops (.pathDelayResp m) = false) :
    i.response = some (m.sequenceId, m.sourcePortIdentity.portNumber) := by
  unfold Input.response
  rw [hi]
  exact if_pos (lock_of_not_drops rfl hgot)

theorem detector_step_response {seq port : UInt16} (h : i.response = some (seq, port))
    (hstate : d.port.portState.ignoresMessages = false) :
    (d.step i).detector = d.detector.respond seq port := by
  obtain ⟨m, rfl, rfl, hstep⟩ := step_of_response (d := d) h
  rw [hstep]
  exact detector_processPathDelayResp m (d := { d with effects := [] }) hstate

/-- The step stops peer delay requests: they are halted, and a timer of five minutes is armed. -/
def HaltsPdelay (d : Daemon F) (i : Input) : Prop :=
  (d.step i).port.pdelay.pdelayHalted = true ∧
    (d.step i).misbehavingTimers = d.misbehavingTimers ++
      [⟨.pdelayRespPeerMisbehavingTimeoutExpires, d.port.cfg.ifindex, 300000000⟩]

instance (d : Daemon F) (i : Input) : Decidable (d.HaltsPdelay i) :=
  inferInstanceAs (Decidable (_ ∧ _))

theorem haltsPdelay_iff {seq port : UInt16} (h : i.response = some (seq, port))
    (hstate : d.port.portState.ignoresMessages = false) :
    d.HaltsPdelay i ↔ d.detector.stored ≠ none ∧ (d.detector.respond seq port).counter = 3 := by
  obtain ⟨m, rfl, rfl, hstep⟩ := step_of_response (d := d) h
  unfold HaltsPdelay
  rw [hstep]
  exact halts_processPathDelayResp_iff m (d := { d with effects := [] }) hstate

/-- Nothing but responses changes the counter. -/
theorem duplicates_step (h : i.response = none) :
    (d.step i).read .duplicates = d.read .duplicates := by
  refine read_step (fun e _ => ⟨nofun, by cases e <;> decide⟩) ?_ nofun
  intro msg linkSpeed hi hgot
  cases msg with
  | pathDelayResp m => cases (response_of_received hi hgot).symm.trans h
  | _ => dsimp only [PTPMessage.footprint]; decide

/-- Nothing but responses and follow-ups changes the stored response. -/
theorem lastPDelayResp_step_of_noFollowUp (h : i.response = none)
    (hfollowUp : d.handledFollowUp i = none) :
    (d.step i).read .lastPDelayResp = d.read .lastPDelayResp := by
  by_cases hdeferred : d.handledEvent i = some .pdelayDeferredProcessing
  · -- a deferral that finds no follow-up aborts
    obtain ⟨d₀, hport, hstep⟩ := step_of_deferredNone hdeferred hfollowUp
    rw [hstep]
    exact congrArg (fun p => p.pdelay.lastPDelayResp) hport
  · refine read_step ?_ ?_ nofun
    · intro e he
      refine ⟨nofun, ?_⟩
      cases e with
      | pdelayDeferredProcessing => exact absurd he hdeferred
      | _ => decide
    · intro msg linkSpeed hi hgot
      cases msg with
      | pathDelayResp m => cases (response_of_received hi hgot).symm.trans h
      | pathDelayRespFollowUp m => cases (handledFollowUp_of_received hi hgot).symm.trans hfollowUp
      | _ => dsimp only [PTPMessage.footprint]; decide

/-- A follow-up keeps the stored response or drops it. -/
theorem lastPDelayResp_step (h : i.response = none) :
    (d.step i).port.pdelay.lastPDelayResp = d.port.pdelay.lastPDelayResp ∨
      (d.step i).port.pdelay.lastPDelayResp = none := by
  cases hm : d.handledFollowUp i with
  | none => exact .inl (lastPDelayResp_step_of_noFollowUp h hm)
  | some m =>
    rcases handledFollowUp_eq_some_iff.mp hm with ⟨linkSpeed, hi, hlock⟩ | ⟨hdeferred, hstored⟩
    · rw [step_of_receivedFollowUp hi hlock]
      exact lastPDelayResp_processPathDelayRespFollowUp m { d with effects := [] }
    · obtain ⟨d₀, -, hport, hstep⟩ := step_of_handledEvent hdeferred
      rw [← hport] at hstored ⊢
      have hprocess := lastPDelayResp_processPathDelayRespFollowUp m d₀
      -- dropping the follow-up afterwards leaves the stored response alone
      rcases mediaPdelayDeferred_of_some hstored with hdone | hdone
      · rw [hstep.trans hdone]
        exact hprocess
      · rw [hstep.trans hdone]
        exact hprocess

/-- **Steps that are no responses** leave the detector alone, or clear its stored response. -/
theorem detector_step (h : i.response = none) :
    (d.step i).detector = d.detector ∨ (d.step i).detector = d.detector.clear := by
  have hduplicates := duplicates_step (d := d) h
  obtain ⟨hcounter, hlast⟩ := Prod.mk.inj hduplicates
  unfold detector Detector.clear
  rw [hcounter, hlast]
  rcases lastPDelayResp_step (d := d) h with hkept | hnone
  · exact .inl (by rw [hkept])
  · exact .inr (by rw [hnone]; rfl)

theorem detector_step_of_noFollowUp (h : i.response = none) (hfollowUp : d.handledFollowUp i = none) :
    (d.step i).detector = d.detector := by
  have hduplicates := duplicates_step (d := d) h
  obtain ⟨hcounter, hlast⟩ := Prod.mk.inj hduplicates
  have hkept : (d.step i).port.pdelay.lastPDelayResp = d.port.pdelay.lastPDelayResp :=
    lastPDelayResp_step_of_noFollowUp h hfollowUp
  unfold detector
  rw [hcounter, hlast, hkept]

end Daemon

/-! ### Three pairs -/

variable [Platform F]

/-- Two responses to the request `seq` arrive at positions `a` and `b` of a run, from the port numbers
`p` and `q`, and before any follow-up. -/
structure DuplicatePair (d₀ : Daemon F) (σ : ℕ → Input) (seq p q : UInt16) (a b : ℕ) : Prop where
  order : a < b
  first : (σ a).response = some (seq, p)
  second : (σ b).response = some (seq, q)
  distinct : p ≠ q
  noFollowUp : ∀ k, a < k → k < b → ((machine F).stateAt d₀ σ k).handledFollowUp (σ k) = none

/-- A pair for each of the three requests `s`, `s + 1` and `s + 2`, modulo `2 ^ 16`, with the counter
at zero before the first response. -/
structure ThreePairs (d₀ : Daemon F) (σ : ℕ → Input) (s : UInt16) (p q : ℕ → UInt16)
    (a b : ℕ → ℕ) : Prop where
  pair : ∀ r < 3, DuplicatePair d₀ σ (s + UInt16.ofNat r) (p r) (q r) (a r) (b r)
  next : ∀ r < 2, b r < a (r + 1)
  counter : ((machine F).stateAt d₀ σ (a 0)).port.pdelay.duplicateRespCounter = 0

/-- The port handles the six responses, and no others arrive between them. -/
structure HandlesPairs (d₀ : Daemon F) (σ : ℕ → Input) (a b : ℕ → ℕ) : Prop where
  listens : ∀ r < 3,
    ((machine F).stateAt d₀ σ (a r)).port.portState.ignoresMessages = false ∧
      ((machine F).stateAt d₀ σ (b r)).port.portState.ignoresMessages = false
  noOther : ∀ k, a 0 < k → k < b 2 → (∀ r < 3, k ≠ a r ∧ k ≠ b r) → (σ k).response = none

section Run

variable {d₀ : Daemon F} {σ : ℕ → Input}

/-- The detector at the second response of a pair. -/
theorem DuplicatePair.detector {seq p q : UInt16} {a b : ℕ}
    (h : DuplicatePair d₀ σ seq p q a b)
    (hfirst : ((machine F).stateAt d₀ σ a).port.portState.ignoresMessages = false)
    (hother : ∀ k, a < k → k < b → (σ k).response = none) :
    ((machine F).stateAt d₀ σ b).detector = ((machine F).stateAt d₀ σ a).detector.respond seq p := by
  have hstored : ((machine F).stateAt d₀ σ (a + 1)).detector =
      ((machine F).stateAt d₀ σ a).detector.respond seq p :=
    Daemon.detector_step_response h.first hfirst
  -- nothing happens to the detector between the two responses
  refine Machine.invariant_from (M := machine F)
    (P := fun d => d.detector = ((machine F).stateAt d₀ σ a).detector.respond seq p)
    h.order hstored ?_
  intro k hak hkb hk
  have hkeep := Daemon.detector_step_of_noFollowUp (hother k hak hkb) (h.noFollowUp k hak hkb)
  exact hkeep.trans hk

/-- Between two pairs the stored response may be dropped. -/
theorem detector_between {b a : ℕ} (hba : b < a)
    (hother : ∀ k, b < k → k < a → (σ k).response = none) {x : Detector}
    (hx : ((machine F).stateAt d₀ σ (b + 1)).detector = x) :
    ((machine F).stateAt d₀ σ a).detector = x ∨
      ((machine F).stateAt d₀ σ a).detector = x.clear := by
  refine Machine.invariant_from (M := machine F)
    (P := fun d => d.detector = x ∨ d.detector = x.clear) hba (.inl hx) ?_
  intro k hbk hka hk
  have hstep : ((machine F).step ((machine F).stateAt d₀ σ k) (σ k)).detector =
      ((machine F).stateAt d₀ σ k).detector ∨
      ((machine F).step ((machine F).stateAt d₀ σ k) (σ k)).detector =
        ((machine F).stateAt d₀ σ k).detector.clear :=
    Daemon.detector_step (hother k hbk hka)
  rcases hk with hk | hk <;> rw [hk] at hstep
  · exact hstep
  · -- clearing twice is clearing once
    exact .inr (hstep.elim id id)

variable {s : UInt16} {p q : ℕ → UInt16} {a b : ℕ → ℕ}

/-- The six responses in their order. -/
theorem ThreePairs.order (h : ThreePairs d₀ σ s p q a b) :
    a 0 < b 0 ∧ b 0 < a 1 ∧ a 1 < b 1 ∧ b 1 < a 2 ∧ a 2 < b 2 :=
  ⟨(h.pair 0 (by decide)).order, h.next 0 (by decide), (h.pair 1 (by decide)).order,
    h.next 1 (by decide), (h.pair 2 (by decide)).order⟩

/-- No response arrives within a pair or between two pairs. -/
theorem HandlesPairs.response_eq_none (hh : HandlesPairs d₀ σ a b) (h : ThreePairs d₀ σ s p q a b)
    {r k : ℕ} (hk : (r < 3 ∧ a r < k ∧ k < b r) ∨ (r < 2 ∧ b r < k ∧ k < a (r + 1))) :
    (σ k).response = none := by
  obtain ⟨h₀, h₀₁, h₁, h₁₂, h₂⟩ := h.order
  have hk' : a 0 < k ∧ k < b 2 ∧ k ≠ b 0 ∧ k ≠ a 1 ∧ k ≠ b 1 ∧ k ≠ a 2 := by
    obtain rfl | rfl | rfl : r = 0 ∨ r = 1 ∨ r = 2 := by omega
    all_goals
      simp only [zero_add, Nat.reduceAdd] at hk
      omega
  obtain ⟨hfirst, hlast, hb₀, ha₁, hb₁, ha₂⟩ := hk'
  refine hh.noOther k hfirst hlast fun r hr => ?_
  obtain rfl | rfl | rfl : r = 0 ∨ r = 1 ∨ r = 2 := by omega
  · exact ⟨hfirst.ne', hb₀⟩
  · exact ⟨ha₁, hb₁⟩
  · exact ⟨ha₂, hlast.ne⟩

/-- The detector after a pair. -/
theorem ThreePairs.detector (h : ThreePairs d₀ σ s p q a b) (hh : HandlesPairs d₀ σ a b) {r : ℕ}
    (hr : r < 3) :
    ((machine F).stateAt d₀ σ (b r + 1)).detector =
      (((machine F).stateAt d₀ σ (a r)).detector.respond (s + UInt16.ofNat r) (p r)).respond
        (s + UInt16.ofNat r) (q r) := by
  have hpair := h.pair r hr
  have hsecond := hpair.detector (hh.listens r hr).1 fun k hak hkb =>
    hh.response_eq_none h (.inl ⟨hr, hak, hkb⟩)
  have hstep : ((machine F).stateAt d₀ σ (b r + 1)).detector =
      ((machine F).stateAt d₀ σ (b r)).detector.respond (s + UInt16.ofNat r) (q r) :=
    Daemon.detector_step_response hpair.second (hh.listens r hr).2
  rw [hstep, hsecond]

/-- The detector at the first response of the next pair. -/
theorem ThreePairs.detector_next (h : ThreePairs d₀ σ s p q a b) (hh : HandlesPairs d₀ σ a b) {r : ℕ}
    (hr : r < 2) {x : Detector} (hx : ((machine F).stateAt d₀ σ (b r + 1)).detector = x) :
    ((machine F).stateAt d₀ σ (a (r + 1))).detector = x ∨
      ((machine F).stateAt d₀ σ (a (r + 1))).detector = x.clear :=
  detector_between (h.next r hr)
    (fun _ hbk hka => hh.response_eq_none h (.inr ⟨hr, hbk, hka⟩)) hx

omit [Platform F] in
theorem stored_detector_eq_none_iff {d : Daemon F} :
    d.detector.stored = none ↔ d.port.pdelay.lastPDelayResp = none :=
  Option.map_eq_none_iff

omit [Platform F] in
theorem startsRow_detector_iff {d : Daemon F} {seq port : UInt16} :
    d.detector.startsRow seq port = true ↔ ∀ old, d.port.pdelay.lastPDelayResp = some old →
      old.sequenceId = seq → old.sourcePortIdentity.portNumber = port := by
  unfold Detector.startsRow Daemon.detector
  cases d.port.pdelay.lastPDelayResp with
  | none => simp
  | some old =>
    simp only [Option.map_some, Option.all_some, Option.some.injEq, forall_eq', Bool.or_eq_true,
      decide_eq_true_eq, ne_eq]
    rw [imp_iff_not_or]

end Run

/-- **Three pairs in a row.** When the port handles two responses from different ports to three
consecutive requests, the third pair stops its peer delay requests exactly if the sequence numbers do
not wrap, the stored response was dropped before the second and before the third pair, and no response
to the first request from yet another port was stored before the first pair. -/
theorem duplicates_halt_iff (d₀ : Daemon F) (σ : ℕ → Input) (s : UInt16) (p q : ℕ → UInt16)
    (a b : ℕ → ℕ) (h : ThreePairs d₀ σ s p q a b) (hhandles : HandlesPairs d₀ σ a b) :
    ((machine F).stateAt d₀ σ (b 2)).HaltsPdelay (σ (b 2)) ↔
      s.toNat + 2 < 2 ^ 16 ∧
      ((machine F).stateAt d₀ σ (a 1)).port.pdelay.lastPDelayResp = none ∧
      ((machine F).stateAt d₀ σ (a 2)).port.pdelay.lastPDelayResp = none ∧
      ∀ old, ((machine F).stateAt d₀ σ (a 0)).port.pdelay.lastPDelayResp = some old →
        old.sequenceId = s → old.sourcePortIdentity.portNumber = p 0 := by
  have hseq₀ : s + UInt16.ofNat 0 = s := by simp
  have hseq₂ : s + UInt16.ofNat 2 = s + 1 + 1 := (UInt16.add_assoc s 1 1).symm
  have hpq (r : ℕ) (hr : r < 3) : p r ≠ q r := (h.pair r hr).distinct
  -- the detector after the first pair, before and after the second, and before the third
  have hy₀ := h.detector hhandles (show 0 < 3 by decide)
  rw [hseq₀, Detector.respond_first_pair h.counter (hpq 0 (by decide))] at hy₀
  have hx₁ := h.detector_next hhandles (by decide) hy₀
  have hy₁ := h.detector hhandles (show 1 < 3 by decide)
  change _ = Detector.respond (s + 1) (q 1) (Detector.respond (s + 1) (p 1) _) at hy₁
  rw [Detector.respond_respond _ _ (hpq 1 (by decide))] at hy₁
  have hx₂ := h.detector_next hhandles (by decide) hy₁
  -- the third pair stops the requests if it brings the counter to three
  have hb₂ := (h.pair 2 (by decide)).detector (hhandles.listens 2 (by decide)).1 fun k hak hkb =>
    hhandles.response_eq_none h (.inl ⟨by decide, hak, hkb⟩)
  rw [Daemon.haltsPdelay_iff (h.pair 2 (by decide)).second (hhandles.listens 2 (by decide)).2, hb₂,
    Detector.stored_respond, hseq₂]
  have htwo (n : UInt32) : n + 1 = 3 ↔ n = 2 := UInt32.add_left_inj (a := n) (b := 2) 1
  have hone (n : UInt32) : n + 1 = 2 ↔ n = 1 := UInt32.add_left_inj (a := n) (b := 1) 1
  rw [Detector.next_pair hx₂ (hpq 2 (by decide)) (by decide) (by decide), htwo,
    Detector.next_pair hx₁ (hpq 1 (by decide)) (by decide) (by decide), hone,
    stored_detector_eq_none_iff, stored_detector_eq_none_iff, ← startsRow_detector_iff]
  have hrow (starts : Bool) : (if starts then (1 : UInt32) else 0) = 1 ↔ starts = true := by
    cases starts <;> decide
  rw [hrow]
  -- the first of the two wraps cannot be passed over
  have hsucc : (s + 1).toNat = (s.toNat + 1) % 2 ^ 16 := UInt16.toNat_add _ _
  rw [hsucc]
  constructor
  · rintro ⟨-, ⟨hstarts, hnone₁, hwrap₁⟩, hnone₂, hwrap₂⟩
    exact ⟨by omega, hnone₁, hnone₂, hstarts⟩
  · rintro ⟨hwrap, hnone₁, hnone₂, hstarts⟩
    exact ⟨nofun, ⟨hstarts, hnone₁, by omega⟩, hnone₂, by omega⟩

/-- A response of the neighbour from one of its ports. -/
def responseFrom (port sequenceId : UInt16) : Input :=
  .message (.pathDelayResp
    { neighborResp sequenceId with sourcePortIdentity := ⟨neighborIdentity, port⟩ })

/-- Each request is answered from port 2 and from port 1, and the follow-up is from port 1. -/
def followedPairs (k : ℕ) : Input :=
  let r := UInt16.ofNat ((k - 1) / 4)
  if k = 0 then .ofEvent .powerup
  else match (k - 1) % 4 with
    | 0 => .expiry 1
    | 1 => responseFrom 2 r
    | 2 => responseFrom 1 r
    | _ => .message (.pathDelayRespFollowUp (neighborRespFollowUp r))

/-- Three pairs of adjacent responses. -/
theorem threePairs_of_adjacent {d₀ : Daemon F} {σ : ℕ → Input} {s : UInt16} {p q : ℕ → UInt16}
    {a : ℕ → ℕ} (hfirst : ∀ r < 3, (σ (a r)).response = some (s + UInt16.ofNat r, p r))
    (hsecond : ∀ r < 3, (σ (a r + 1)).response = some (s + UInt16.ofNat r, q r))
    (hdistinct : ∀ r < 3, p r ≠ q r) (hnext : ∀ r < 2, a r + 1 < a (r + 1))
    (hcounter : ((machine F).stateAt d₀ σ (a 0)).port.pdelay.duplicateRespCounter = 0) :
    ThreePairs d₀ σ s p q a fun r => a r + 1 where
  pair r hr :=
    { order := Nat.lt_succ_self _
      first := hfirst r hr
      second := hsecond r hr
      distinct := hdistinct r hr
      noFollowUp := fun _ hak hka => absurd hka (Nat.not_lt.mpr hak) }
  next := hnext
  counter := hcounter

/-- With a follow-up after each pair, the third pair stops the requests. -/
theorem followedPairs_halt :
    ((machine ℚ).stateAt (Start.standard localIdentity).daemon followedPairs 11).HaltsPdelay
      (followedPairs 11) := by
  have hpairs : ThreePairs (Start.standard localIdentity).daemon followedPairs 0 (fun _ => 2)
      (fun _ => 1) (fun r => 2 + 4 * r) (fun r => 2 + 4 * r + 1) :=
    threePairs_of_adjacent (by decide) (by decide) (by decide) (by decide) (by decide +kernel)
  have hhandles : HandlesPairs (Start.standard localIdentity).daemon followedPairs
      (fun r => 2 + 4 * r) (fun r => 2 + 4 * r + 1) := by
    refine ⟨by decide +kernel, fun k hak hkb => ?_⟩
    exact (by decide : ∀ k < 11, 2 < k → (∀ r < 3, k ≠ 2 + 4 * r ∧ k ≠ 2 + 4 * r + 1) →
      (followedPairs k).response = none) k hkb hak
  have hempty : ∀ r < 3, ((machine ℚ).stateAt (Start.standard localIdentity).daemon followedPairs
      (2 + 4 * r)).detector.stored = none := by decide +kernel
  refine (duplicates_halt_iff _ _ _ _ _ _ _ hpairs hhandles).mpr ⟨by decide, ?_, ?_, ?_⟩
  · exact stored_detector_eq_none_iff.mp (hempty 1 (by decide))
  · exact stored_detector_eq_none_iff.mp (hempty 2 (by decide))
  · intro old hold
    have hnone := stored_detector_eq_none_iff.mp (hempty 0 (by decide))
    cases hold.symm.trans hnone

/-- Each request is answered from port 2 and from port 1, and there are no follow-ups. -/
def unfollowedPairs (k : ℕ) : Input :=
  let r := (k - 1) / 3
  if k = 0 then .ofEvent .powerup
  else match (k - 1) % 3 with
    | 0 => .expiry (r + 1)
    | 1 => responseFrom 2 (UInt16.ofNat r)
    | _ => responseFrom 1 (UInt16.ofNat r)

/-- Without follow-ups the first response of each pair resets the counter, and the requests go on. -/
theorem unfollowedPairs_do_not_halt :
    (machine ℚ).Delivers (Start.standard localIdentity).daemon unfollowedPairs 10 ∧
    (∀ r < 3, ((machine ℚ).stateAt (Start.standard localIdentity).daemon unfollowedPairs
      (2 + 3 * r)).port.pdelay.lastPDelayReq.map (fun req => req.sequenceId) =
        some (UInt16.ofNat r)) ∧
    ThreePairs (Start.standard localIdentity).daemon unfollowedPairs 0 (fun _ => 2) (fun _ => 1)
      (fun r => 2 + 3 * r) (fun r => 2 + 3 * r + 1) ∧
    HandlesPairs (Start.standard localIdentity).daemon unfollowedPairs (fun r => 2 + 3 * r)
      (fun r => 2 + 3 * r + 1) ∧
    ¬ ((machine ℚ).stateAt (Start.standard localIdentity).daemon unfollowedPairs 9).HaltsPdelay
      (unfollowedPairs 9) := by
  refine ⟨by decide +kernel, by decide +kernel, ?_, ⟨by decide +kernel, fun k hak hkb => ?_⟩,
    by decide +kernel⟩
  · exact threePairs_of_adjacent (by decide) (by decide) (by decide) (by decide) (by decide +kernel)
  · exact (by decide : ∀ k < 9, 2 < k → (∀ r < 3, k ≠ 2 + 3 * r ∧ k ≠ 2 + 3 * r + 1) →
      (unfollowedPairs k).response = none) k hkb hak

end Gptp
