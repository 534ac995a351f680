import Gptp.Safety.Mastership

/-!
# The count of mismatched Follow_Ups

A Follow_Up that finds a stored Sync matches it or does not. Mismatches are counted, and when the count
reaches the threshold the port becomes master (`Daemon.FollowUpTakesOver`). For the take-over to mean
that the last so many Follow_Ups were wrong, a match would have to clear the count. It does not: the
count is only reset by the take-over itself, so sporadic mismatches add up.

The outcomes of a run so far are recorded in `outcomes`, newest first. The invariant
(`Counted`) is that the count is at most the number of mismatches since the last match; it is kept by
every step except a match that finds a count to clear.

* `Daemon.step_wrongSeqIDCounter`: what a step does to the count.
* `takeOver_after_mismatches_iff`: over a run, a take-over follows so many mismatches in a row, and a
  match leaves the count at zero, exactly if no match ever finds a count to clear.
-/

namespace Gptp

open Framework

variable {F : Type}

/-! ### Outcomes -/

/-- Whether a received Follow_Up matches the stored Sync, if there is one that it is compared with. -/
def Daemon.followUpOutcome (d : Daemon F) (i : Input) : Option Bool :=
  match i.stimulus with
  | .receive (.followUp m) _ =>
    if d.port.portState.ignoresMessages then none
    else d.port.lastSync.map fun sync => syncMatches sync m
  | _ => none

variable [Platform F]

/-- The outcomes of the first `k` inputs of a run, newest first. -/
def outcomes (d₀ : Daemon F) (σ : ℕ → Input) : ℕ → List Bool
  | 0 => []
  | k + 1 => (((machine F).stateAt d₀ σ k).followUpOutcome (σ k)).toList ++ outcomes d₀ σ k

/-! ### The count -/

namespace Daemon

omit [Platform F] in
theorem followUpOutcome_eq_some {d : Daemon F} {i : Input} {b : Bool} :
    d.followUpOutcome i = some b ↔ ∃ m linkSpeed sync,
      i.stimulus = .receive (.followUp m) linkSpeed ∧ d.port.portState.ignoresMessages = false ∧
        d.port.lastSync = some sync ∧ syncMatches sync m = b := by
  unfold followUpOutcome
  constructor
  · intro h
    split at h
    case h_1 m linkSpeed hi =>
      cases hstate : d.port.portState.ignoresMessages with
      | true => simp [hstate] at h
      | false =>
        simp only [hstate, Bool.false_eq_true, if_false, Option.map_eq_some_iff] at h
        obtain ⟨sync, hsync, hmatch⟩ := h
        exact ⟨m, linkSpeed, sync, hi, rfl, hsync, hmatch⟩
    case h_2 => cases h
  · rintro ⟨m, linkSpeed, sync, hi, hstate, hsync, hmatch⟩
    simp [hi, hstate, hsync, hmatch]

omit [Platform F] in
/-- A Follow_Up takes over if it is a mismatch that brings the count to the threshold. -/
theorem followUpTakesOver_iff_outcome {d : Daemon F} {i : Input} :
    d.FollowUpTakesOver i ↔ d.followUpOutcome i = some false ∧
      ¬ d.nextWrongSeqID < d.port.cfg.syncReceiptThresh := by
  rw [followUpOutcome_eq_some]
  constructor
  · rintro ⟨m, linkSpeed, sync, hi, hstate, hsync, hmatch, hcount⟩
    exact ⟨⟨m, linkSpeed, sync, hi, hstate, hsync, hmatch⟩, hcount⟩
  · rintro ⟨⟨m, linkSpeed, sync, hi, hstate, hsync, hmatch⟩, hcount⟩
    exact ⟨m, linkSpeed, sync, hi, hstate, hsync, hmatch, hcount⟩

end Daemon

/-- What a step does to the count, in terms of the outcome of its Follow_Up. -/
inductive CountStep (d : Daemon F) (i : Input) (count : UInt32) : Prop
  /-- No Follow_Up was found to be wrong. -/
  | keep (houtcome : d.followUpOutcome i ≠ some false) (hcount : count = d.port.wrongSeqIDCounter)
  | count (houtcome : d.followUpOutcome i = some false) (hcount : count = d.nextWrongSeqID)
  /-- The count has reached the threshold. -/
  | takeOver (houtcome : d.followUpOutcome i = some false) (hcount : count = 0)

omit [Platform F] in
/-- What a Follow_Up does to the count. -/
theorem FollowUpStep.countStep {d : Daemon F} {i : Input} {m : PTPMessageFollowUp} {c' : Core F}
    {linkSpeed : UInt32} (hi : i.stimulus = .receive (.followUp m) linkSpeed)
    (h : FollowUpStep m d.core.clear c') : CountStep d i c'.wrongSeqIDCounter := by
  have hwrong (hne : ∀ sync, d.port.portState.ignoresMessages = false →
      d.port.lastSync = some sync → Daemon.syncMatches sync m ≠ false) :
      d.followUpOutcome i ≠ some false := by
    rw [ne_eq, Daemon.followUpOutcome_eq_some]
    rintro ⟨m', linkSpeed', sync, hi', hstate, hsync, hmatch⟩
    -- the message compared is the one received
    rw [hi] at hi'
    cases hi'
    exact hne sync hstate hsync hmatch
  cases h with
  | ignored h =>
    refine .keep (hwrong fun sync hstate hsync => ?_) rfl
    rcases h with h | h
    · exact absurd (hstate.symm.trans h) Bool.false_ne_true
    · exact absurd (h.symm.trans hsync) nofun
  | mismatch hstate hsync hmatch =>
    exact .count (Daemon.followUpOutcome_eq_some.mpr ⟨m, _, _, hi, hstate, hsync, hmatch⟩) rfl
  | takeOver hstate hsync hmatch =>
    exact .takeOver (Daemon.followUpOutcome_eq_some.mpr ⟨m, _, _, hi, hstate, hsync, hmatch⟩) rfl
  | unused hsync hmatch =>
    refine .keep (hwrong fun sync _ hsync' => ?_) rfl
    obtain rfl := Option.some.inj (hsync.symm.trans hsync')
    rw [hmatch]
    decide
  | offset hsync hmatch =>
    refine .keep (hwrong fun sync _ hsync' => ?_) rfl
    obtain rfl := Option.some.inj (hsync.symm.trans hsync')
    rw [hmatch]
    decide

/-- A message other than a Follow_Up leaves the count alone. -/
theorem MessageStep.wrongSeqIDCounter {msg : PTPMessage} {c c' : Core F} (h : MessageStep msg c c')
    (hmsg : ∀ m, msg ≠ .followUp m) : c'.wrongSeqIDCounter = c.wrongSeqIDCounter := by
  cases h with
  | followUp => exact absurd rfl (hmsg _)
  | pathDelayRespFollowUp h => exact h.sync.2.1
  | _ => rfl

omit [Platform F] in
/-- A step that is not the reception of a Follow_Up keeps the count. -/
theorem CountStep.of_label {d : Daemon F} {i : Input} {count : UInt32}
    (h : ∀ m, d.label i ≠ .receive (.followUp m)) (hcount : count = d.port.wrongSeqIDCounter) :
    CountStep d i count := by
  refine .keep ?_ hcount
  rw [ne_eq, Daemon.followUpOutcome_eq_some]
  rintro ⟨m, linkSpeed, -, hi, -⟩
  exact h m (Daemon.label_of_receive hi rfl)

/-- **The count.** Only a Follow_Up that does not match the stored Sync touches the count. -/
theorem Daemon.step_wrongSeqIDCounter (d : Daemon F) (i : Input) :
    CountStep d i (d.step i).port.wrongSeqIDCounter := by
  have hstep := d.step_core i
  change CountStep d i (d.step i).core.wrongSeqIDCounter
  generalize (d.step i).core = c' at hstep ⊢
  generalize hlabel : d.label i = l at hstep
  cases hstep with
  | event h => exact .of_label (by rw [hlabel]; nofun) h.sync.2
  | @timer _ _ c₀ _ hpop h =>
    have hpop' : c₀.wrongSeqIDCounter = d.core.wrongSeqIDCounter :=
      (congrArg Core.wrongSeqIDCounter hpop).symm
    exact .of_label (by rw [hlabel]; nofun) (h.sync.2.trans hpop')
  | @receive msg _ _ h =>
    -- no message but a Follow_Up touches the counter
    by_cases hmsg : ∃ m, msg = .followUp m
    · obtain ⟨m, rfl⟩ := hmsg
      obtain ⟨msg, linkSpeed, hi, hmsg⟩ := stimulus_of_label_receive hlabel
      rw [compensate_eq_followUp] at hmsg
      subst hmsg
      cases h with
      | followUp h => exact h.countStep hi
    · rw [not_exists] at hmsg
      refine .of_label (fun m hm => hmsg m ?_) (h.wrongSeqIDCounter hmsg)
      rw [hlabel] at hm
      exact Label.receive.inj hm
  | idle => exact .of_label (by rw [hlabel]; nofun) rfl

/-! ### Runs -/

/-- **Invariant.** The last outcomes, as many as have been counted, are mismatches. -/
def Counted (count : UInt32) (outcomes : List Bool) : Prop :=
  outcomes.take count.toNat = List.replicate count.toNat false

/-- A shorter row of mismatches is part of a longer one. -/
theorem take_replicate_of_le {l : List Bool} {n n' : ℕ} (h : l.take n = List.replicate n false)
    (hle : n' ≤ n) : l.take n' = List.replicate n' false := by
  have := congrArg (List.take n') h
  rwa [List.take_take, Nat.min_eq_left hle, List.take_replicate, Nat.min_eq_left hle] at this

omit [Platform F] in
theorem Daemon.nextWrongSeqID_le (d : Daemon F) :
    d.nextWrongSeqID.toNat ≤ d.port.wrongSeqIDCounter.toNat + 1 := by
  unfold nextWrongSeqID
  split
  · rw [UInt32.toNat_add]
    exact (Nat.mod_le _ _)
  · exact Nat.le_succ _

omit [Platform F] in
/-- A mismatch extends the row by one, so the next count is still covered. -/
theorem Counted.next {d : Daemon F} {l : List Bool} (h : Counted d.port.wrongSeqIDCounter l) :
    (false :: l).take d.nextWrongSeqID.toNat = List.replicate d.nextWrongSeqID.toNat false := by
  refine take_replicate_of_le (n := d.port.wrongSeqIDCounter.toNat + 1) ?_ d.nextWrongSeqID_le
  rw [List.take_succ_cons, h, List.replicate_succ]

section Run

variable (s : Start F) (σ : ℕ → Input)

/-- The outcomes including those of a step with the given one. -/
theorem outcomes_succ {k : ℕ} {b : Bool}
    (h : ((machine F).stateAt s.daemon σ k).followUpOutcome (σ k) = some b) :
    outcomes s.daemon σ (k + 1) = b :: outcomes s.daemon σ k := by
  rw [outcomes, h]
  rfl

/-- The invariant holds along a run in which no match finds a count to clear. -/
theorem counted_stateAt {n : ℕ}
    (hclear : ∀ k < n, ((machine F).stateAt s.daemon σ k).followUpOutcome (σ k) = some true →
      ((machine F).stateAt s.daemon σ k).port.wrongSeqIDCounter = 0) :
    ∀ k ≤ n, Counted ((machine F).stateAt s.daemon σ k).port.wrongSeqIDCounter
      (outcomes s.daemon σ k) := by
  have hzero : ∀ l, Counted 0 l := fun l => rfl
  intro k
  induction k with
  | zero =>
    intro _
    rw [Machine.stateAt_zero, s.hasReceivedNothing_daemon.wrongSeqIDCounter]
    exact hzero _
  | succ k ih =>
    intro hk
    have ih := ih (Nat.le_of_succ_le hk)
    change Counted (((machine F).stateAt s.daemon σ k).step (σ k)).port.wrongSeqIDCounter _
    rcases ((machine F).stateAt s.daemon σ k).step_wrongSeqIDCounter (σ k) with
      ⟨houtcome, hcount⟩ | ⟨houtcome, hcount⟩ | ⟨houtcome, hcount⟩
    · rw [hcount]
      cases h : ((machine F).stateAt s.daemon σ k).followUpOutcome (σ k) with
      | none =>
        rw [outcomes, h]
        exact ih
      | some b =>
        cases b with
        | false => exact absurd h houtcome
        | true =>
          -- a match breaks the row, but there is nothing to be covered
          rw [hclear k hk h]
          exact hzero _
    · rw [hcount, outcomes_succ s σ houtcome]
      exact ih.next
    · rw [hcount]
      exact hzero _

/-- **Take-over after mismatches.** Over a run, the port is made master by Follow_Ups only after as many
mismatches in a row as the threshold says, and a match leaves the count at zero, exactly if no match
ever finds a count to clear. -/
theorem takeOver_after_mismatches_iff (n : ℕ) :
    (∀ k < n,
      (((machine F).stateAt s.daemon σ k).FollowUpTakesOver (σ k) →
        (outcomes s.daemon σ (k + 1)).take s.portConfig.syncReceiptThresh.toNat =
          List.replicate s.portConfig.syncReceiptThresh.toNat false) ∧
      (((machine F).stateAt s.daemon σ k).followUpOutcome (σ k) = some true →
        ((machine F).stateAt s.daemon σ (k + 1)).port.wrongSeqIDCounter = 0)) ↔
    ∀ k < n, ((machine F).stateAt s.daemon σ k).followUpOutcome (σ k) = some true →
      ((machine F).stateAt s.daemon σ k).port.wrongSeqIDCounter = 0 := by
  -- a match keeps the count, so it leaves zero exactly if it finds zero
  have hmatch : ∀ k, ((machine F).stateAt s.daemon σ k).followUpOutcome (σ k) = some true →
      ((machine F).stateAt s.daemon σ (k + 1)).port.wrongSeqIDCounter =
        ((machine F).stateAt s.daemon σ k).port.wrongSeqIDCounter := by
    intro k h
    rcases ((machine F).stateAt s.daemon σ k).step_wrongSeqIDCounter (σ k) with
      ⟨-, hcount⟩ | ⟨houtcome, -⟩ | ⟨houtcome, -⟩
    · exact hcount
    · rw [h] at houtcome
      cases houtcome
    · rw [h] at houtcome
      cases houtcome
  constructor
  · intro hboth k hk h
    rw [← hmatch k h]
    exact (hboth k hk).2 h
  · intro hclear k hk
    refine ⟨fun htakes => ?_, fun h => ?_⟩
    · obtain ⟨houtcome, hthresh⟩ := Daemon.followUpTakesOver_iff_outcome.mp htakes
      have hcfg : ((machine F).stateAt s.daemon σ k).port.cfg = s.portConfig :=
        (stateAt_cfg s.daemon σ k).2.trans s.daemon_cfg.2
      rw [hcfg, UInt32.not_lt] at hthresh
      rw [outcomes_succ s σ houtcome]
      exact take_replicate_of_le (counted_stateAt s σ hclear k hk.le).next
        (UInt32.le_iff_toNat_le.mp hthresh)
    · rw [hmatch k h]
      exact hclear k hk h

end Run

/-- Four mismatches, a match, and another mismatch, each after a Sync. -/
def sporadicMismatches (k : ℕ) : Input :=
  if k % 2 = 0 then .message (.sync (neighborSync 1))
  else if k = 9 then .message (.followUp (neighborFollowUp 1))
  else .message (.followUp (neighborFollowUp 2))

/-- **Mismatches add up.** With a threshold of five the port becomes master at a mismatch that directly
follows a match. -/
theorem sporadic_mismatches_take_over :
    let d := (machine ℚ).stateAt (Start.capable (some .ptpSlave)).daemon sporadicMismatches
    (Start.capable (some .ptpSlave)).portConfig.syncReceiptThresh = 5 ∧
      (d 11).port.link.asCapable = true ∧
      (d 9).followUpOutcome (sporadicMismatches 9) = some true ∧
      (d 10).port.wrongSeqIDCounter = 4 ∧
      (outcomes (Start.capable (some .ptpSlave)).daemon sporadicMismatches 12).take 2 =
        [false, true] ∧
      (d 11).port.portState = .ptpSlave ∧ (d 12).port.portState = .ptpMaster := by
  decide +kernel

end Gptp
