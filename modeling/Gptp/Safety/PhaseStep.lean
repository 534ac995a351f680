import Gptp.Framework.Words
import Gptp.Port.Run

/-!
# When the hardware clock is stepped

`setMasterOffset` steps the phase of the hardware clock if a new set point has been requested, or if
the count of phase errors in a row has passed `PHASE_ERROR_MAX_COUNT`. The count is tested before the
offset of the call is looked at and updated after the step, on an offset that the step has set to
zero; calls without anything to correct return before either.

The history of a run is recorded from what can be seen of it: the calls, the requests and the phase
adjustments.

* `Daemon.servo_setMasterOffset`: a call on the part of the daemon that decides about phase steps.
* `ServoHistory.Records`: the flag and the count of the code against the history; the count is the
  number of errors at its head, and `le_length_takeWhile_iff` says what it means that it is at least
  `n`.
* `phaseSteps_of_run`: after which histories a call steps, and by how much.
-/

namespace Gptp

open Framework

variable {F : Type}

/-! ### Phase errors -/

/-- At least `n` elements are taken if the list is that long and the first `n` are taken. -/
theorem le_length_takeWhile_iff {α : Type} (p : α → Bool) (l : List α) (n : ℕ) :
    n ≤ (l.takeWhile p).length ↔ n ≤ l.length ∧ (l.take n).all p := by
  induction l generalizing n with
  | nil => simp
  | cons a l ih =>
    cases n with
    | zero => simp
    | succ n =>
      cases ha : p a with
      | false => simp [ha]
      | true => simp [ha, ih n]

/-- An offset of more than a second, `PHASE_ERROR_THRESHOLD`. -/
def isPhaseError (offset : Int64) : Bool := 10 ^ 9 < offset.toInt.natAbs

/-- The code compares the negated offset with the threshold, which makes no difference. -/
theorem natAbs_toInt_neg (offset : Int64) : (-offset).toInt.natAbs = offset.toInt.natAbs := by
  have hlower := offset.le_toInt
  by_cases hmin : offset.toInt = -2 ^ 63
  · obtain rfl : offset = Int64.minValue := Int64.toInt_inj.mp hmin
    rfl
  · rw [toInt_neg_of_ne (by omega), Int.natAbs_neg]

/-! ### The servo -/

/-- The part of a daemon that decides about phase steps, with the steps taken. -/
structure Servo where
  newSyntonizationSetPoint : Bool
  phaseErrorViolation : ℕ
  syntonize : Bool
  phaseSteps : List ℤ

/-- A call of `setMasterOffset` on the servo. -/
def Servo.setMasterOffset (processed : Bool) (offset : Int64) (s : Servo) : Servo :=
  if processed && s.syntonize then
    if s.newSyntonizationSetPoint || 6 < s.phaseErrorViolation then
      { s with
        newSyntonizationSetPoint := false
        phaseErrorViolation := 0
        phaseSteps := s.phaseSteps ++ [(-offset).toInt] }
    else { s with
      phaseErrorViolation := if isPhaseError offset then s.phaseErrorViolation + 1 else 0 }
  else s

namespace Daemon

/-- The phase adjustments among the effects of a step. -/
def phaseSteps (d : Daemon F) : List ℤ :=
  d.effects.filterMap fun
    | .adjustClockPhase phaseAdjust => some phaseAdjust.toInt
    | _ => none

/-- What the daemon shows of its servo. -/
def servo (d : Daemon F) : Servo where
  newSyntonizationSetPoint := d.clock.newSyntonizationSetPoint
  phaseErrorViolation := d.clock.phaseErrorViolation
  syntonize := d.clock.cfg.syntonize
  phaseSteps := d.phaseSteps

theorem servo_emit {e : Effect F} (h : ∀ p, e ≠ .adjustClockPhase p) (d : Daemon F) :
    (d.emit e).servo = d.servo := by
  have hsteps : (d.emit e).phaseSteps = d.phaseSteps := by
    rw [phaseSteps, emit_effects, List.filterMap_append]
    cases e <;> simp_all [phaseSteps]
  unfold servo
  rw [hsteps]
  rfl

theorem servo_publishOffset (u : MasterOffset F) (d : Daemon F) :
    (d.publishOffset u).servo = d.servo := by
  unfold publishOffset
  dsimp only
  split
  · rw [servo_emit (by simp), servo_emit (by simp)]
    rfl
  · rw [servo_emit (by simp)]
    rfl

/-- The phase step uses the request up, ends the row and adjusts by the negated offset. -/
theorem servo_stepPhase (offset : Int64) (d : Daemon F) :
    (d.stepPhase offset).servo = { d.servo with
      newSyntonizationSetPoint := false
      phaseErrorViolation := 0
      phaseSteps := d.phaseSteps ++ [(-offset).toInt] } := by
  simp only [servo, stepPhase, phaseSteps, emit_effects, List.filterMap_append]
  rfl

variable [Platform F]

/-- The frequency step counts a phase error or ends the row. -/
theorem servo_stepFrequency (offset : Int64) (freqOffset : F) (d : Daemon F) :
    (d.stepFrequency offset freqOffset).servo = { d.servo with
      phaseErrorViolation :=
        if isPhaseError offset then d.clock.phaseErrorViolation + 1 else 0 } := by
  rw [stepFrequency, servo_emit (by simp)]
  simp only [servo, natAbs_toInt_neg, decide_eq_true_eq, isPhaseError]
  rfl

end Daemon

/-! ### Calls and requests -/

section Run

variable [Platform F]

/-- A call that has something to correct. -/
def MasterOffset.processed (u : MasterOffset F) : Bool :=
  !(u.masterLocalOffset = 0 ∧ Platform.eq u.masterLocalFreqOffset (Platform.ofRat 1) : Bool)

theorem MasterOffset.processed_eq_false_iff {u : MasterOffset F} :
    u.processed = false ↔
      u.masterLocalOffset = 0 ∧ Platform.eq u.masterLocalFreqOffset (Platform.ofRat 1) := by
  simp [MasterOffset.processed]

/-- What a call of `setMasterOffset` does to the servo does not depend on anything else. -/
theorem Daemon.servo_setMasterOffset (u : MasterOffset F) (d : Daemon F) :
    (d.setMasterOffset u).servo = d.servo.setMasterOffset u.processed u.masterLocalOffset := by
  rw [← servo_publishOffset u d]
  unfold Daemon.setMasterOffset
  generalize d.publishOffset u = d
  unfold disciplineClock Servo.setMasterOffset
  cases hprocessed : u.processed with
  | false => rw [if_pos (MasterOffset.processed_eq_false_iff.mp hprocessed), Bool.false_and]; rfl
  | true =>
    have hcorrects : ¬ (u.masterLocalOffset = 0 ∧
        Platform.eq u.masterLocalFreqOffset (Platform.ofRat 1) = true) := by
      rw [← MasterOffset.processed_eq_false_iff, hprocessed]
      decide
    rw [if_neg hcorrects, Bool.true_and]
    show Daemon.servo (if d.servo.syntonize then _ else _) = _
    split
    · have hstep : (d.servo.newSyntonizationSetPoint || decide (6 < d.servo.phaseErrorViolation)) =
          true ↔ d.clock.newSyntonizationSetPoint = true ∨ 6 < d.clock.phaseErrorViolation := by
        rw [Bool.or_eq_true, decide_eq_true_eq]
        rfl
      rw [if_congr hstep rfl rfl]
      split
      · -- the frequency step then sees an offset of zero
        rw [servo_stepFrequency, servo_stepPhase]
        rfl
      · exact servo_stepFrequency ..
    · rfl

variable (F) in
/-- What is done to the servo: a call of `setMasterOffset` or a request for a new set point. -/
inductive ServoInput where
  | setMasterOffset (u : MasterOffset F)
  | newSyntonizationSetPoint

variable (F) in
/-- The daemon under calls of `setMasterOffset` and requests for a new set point; the effects are
those of the last step. -/
def servoMachine : Machine (Daemon F) (ServoInput F) where
  enabled _ _ := True
  step d i := match i with
    | .setMasterOffset u => { d with effects := [] }.setMasterOffset u
    | .newSyntonizationSetPoint => { d with effects := [] }.newSyntonizationSetPoint

/-- What has happened since the last phase step: whether a set point has been requested, and the
offsets of the processed calls, the latest first. -/
structure ServoHistory where
  requested : Bool
  offsets : List Int64

namespace ServoHistory

/-- The histories after which a processed call steps: a set point has been requested, or each of the
seven most recent processed calls had a phase error. -/
def CallsForStep (h : ServoHistory) : Prop :=
  h.requested = true ∨ (7 ≤ h.offsets.length ∧ (h.offsets.take 7).all isPhaseError)

instance (h : ServoHistory) : Decidable h.CallsForStep := inferInstanceAs (Decidable (_ ∨ _))

/-- The flag is the request, and the count is the length of the row of errors that ends with the last
processed call. -/
structure Records (h : ServoHistory) (s : Servo) : Prop where
  syntonize : s.syntonize = true
  requested : s.newSyntonizationSetPoint = h.requested
  count : s.phaseErrorViolation = (h.offsets.takeWhile isPhaseError).length

variable {h : ServoHistory} {s : Servo}

/-- The test of the code is the condition on the history. -/
theorem Records.callsForStep_iff (hr : h.Records s) :
    (s.newSyntonizationSetPoint || decide (6 < s.phaseErrorViolation)) = true ↔ h.CallsForStep := by
  rw [CallsForStep, ← le_length_takeWhile_iff, ← hr.requested, ← hr.count]
  simp [Nat.lt_iff_add_one_le]

/-- A call on a servo that has taken no step yet: it steps exactly if it is processed and the history
calls for a step. -/
theorem Records.phaseSteps (hr : h.Records s) (hsteps : s.phaseSteps = []) (processed : Bool)
    (offset : Int64) :
    (s.setMasterOffset processed offset).phaseSteps =
      if processed = true ∧ h.CallsForStep then [(-offset).toInt] else [] := by
  have hcalls := hr.callsForStep_iff
  unfold Servo.setMasterOffset
  rw [hr.syntonize, Bool.and_true]
  cases processed with
  | false => simpa using hsteps
  | true =>
    simp only [if_true, true_and]
    rw [if_congr hcalls rfl rfl]
    split
    · rw [hsteps]
      rfl
    · exact hsteps

/-- What a call adds to the history, given whether it stepped. -/
def afterCall (h : ServoHistory) (stepped processed : Bool) (offset : Int64) : ServoHistory :=
  if stepped then ⟨false, []⟩
  else if processed then { h with offsets := offset :: h.offsets }
  else h

/-- A call keeps the flag and the count in line with the history. -/
theorem Records.setMasterOffset (hr : h.Records s) (hsteps : s.phaseSteps = []) (processed : Bool)
    (offset : Int64) :
    (h.afterCall ((s.setMasterOffset processed offset).phaseSteps ≠ []) processed offset).Records
      (s.setMasterOffset processed offset) := by
  rw [hr.phaseSteps hsteps]
  unfold Servo.setMasterOffset
  rw [hr.syntonize, Bool.and_true]
  cases processed with
  | false => simpa [afterCall] using hr
  | true =>
    simp only [if_true, true_and]
    rw [if_congr hr.callsForStep_iff rfl rfl]
    by_cases hcalls : h.CallsForStep
    · -- the step uses the request up and ends the row
      rw [if_pos hcalls, if_pos hcalls]
      exact ⟨rfl, rfl, rfl⟩
    · rw [if_neg hcalls, if_neg hcalls]
      refine ⟨rfl, hr.requested, ?_⟩
      -- an error prolongs the row, any other offset ends it
      cases herror : isPhaseError offset <;> simp [afterCall, herror, hr.count]

end ServoHistory

/-- The history of a run, by the calls, the requests and the phase adjustments alone. -/
def servoHistory (d₀ : Daemon F) (σ : ℕ → ServoInput F) : ℕ → ServoHistory
  | 0 => ⟨false, []⟩
  | k + 1 => match σ k with
    | .newSyntonizationSetPoint => { servoHistory d₀ σ k with requested := true }
    | .setMasterOffset u =>
      (servoHistory d₀ σ k).afterCall (((servoMachine F).stateAt d₀ σ (k + 1)).phaseSteps ≠ [])
        u.processed u.masterLocalOffset

/-- The state after a call shows the servo after the call. -/
theorem servo_stateAt_succ (d₀ : Daemon F) {σ : ℕ → ServoInput F} {k : ℕ} {u : MasterOffset F}
    (h : σ k = .setMasterOffset u) :
    ((servoMachine F).stateAt d₀ σ (k + 1)).servo =
      Servo.setMasterOffset u.processed u.masterLocalOffset
        { ((servoMachine F).stateAt d₀ σ k).servo with phaseSteps := [] } := by
  rw [Machine.stateAt_succ, h]
  exact Daemon.servo_setMasterOffset u _

/-- Throughout a run the flag and the count are in line with the history. -/
theorem records_stateAt (d₀ : Daemon F) (hsyntonize : d₀.clock.cfg.syntonize = true)
    (hflag : d₀.clock.newSyntonizationSetPoint = false) (hcount : d₀.clock.phaseErrorViolation = 0)
    (σ : ℕ → ServoInput F) (k : ℕ) :
    (servoHistory d₀ σ k).Records { ((servoMachine F).stateAt d₀ σ k).servo with phaseSteps := [] } := by
  induction k with
  | zero => exact ⟨hsyntonize, hflag, hcount⟩
  | succ k ih =>
    cases hinput : σ k with
    | newSyntonizationSetPoint =>
      rw [Machine.stateAt_succ]
      simp only [servoHistory, hinput]
      exact ⟨ih.syntonize, rfl, ih.count⟩
    | setMasterOffset u =>
      have hservo := servo_stateAt_succ d₀ hinput
      have hnext := ih.setMasterOffset rfl u.processed u.masterLocalOffset
      rw [← hservo] at hnext
      simp only [servoHistory, hinput]
      exact ⟨hnext.syntonize, hnext.requested, hnext.count⟩

/-- **Phase steps.** In every sequence of calls and requests on a syntonizing clock that starts without
a request and without errors, a processed call steps exactly if a set point has been requested since
the last step or the seven most recent processed calls before it, all since the last step, had phase
errors. The step is by the negated offset. A call that is not processed neither steps nor changes the
count. -/
theorem phaseSteps_of_run (d₀ : Daemon F) (hsyntonize : d₀.clock.cfg.syntonize = true)
    (hflag : d₀.clock.newSyntonizationSetPoint = false) (hcount : d₀.clock.phaseErrorViolation = 0)
    (σ : ℕ → ServoInput F) (k : ℕ) (u : MasterOffset F) (hinput : σ k = .setMasterOffset u)
    (hmin : -2 ^ 63 < u.masterLocalOffset.toInt) :
    (u.processed = true → ((servoMachine F).stateAt d₀ σ (k + 1)).phaseSteps =
      if (servoHistory d₀ σ k).CallsForStep then [-u.masterLocalOffset.toInt] else []) ∧
    (u.processed = false → ((servoMachine F).stateAt d₀ σ (k + 1)).phaseSteps = [] ∧
      ((servoMachine F).stateAt d₀ σ (k + 1)).clock.phaseErrorViolation =
        ((servoMachine F).stateAt d₀ σ k).clock.phaseErrorViolation) := by
  have hrecords := records_stateAt d₀ hsyntonize hflag hcount σ k
  have hservo := servo_stateAt_succ d₀ hinput
  have hsteps : ((servoMachine F).stateAt d₀ σ (k + 1)).phaseSteps =
      if u.processed = true ∧ (servoHistory d₀ σ k).CallsForStep then [-u.masterLocalOffset.toInt]
      else [] := by
    rw [← toInt_neg_of_ne hmin, ← hrecords.phaseSteps rfl, ← hservo]
    rfl
  constructor
  · intro hprocessed
    simpa [hprocessed] using hsteps
  · intro hprocessed
    rw [hprocessed] at hservo
    exact ⟨by simpa [hprocessed] using hsteps, congrArg Servo.phaseErrorViolation hservo⟩

end Run

/-- A call with an offset of two seconds. -/
def twoSecondsOff : MasterOffset ℚ where
  masterLocalOffset := 2000000000
  localTime := ⟨0, 0, 0, 0⟩
  masterLocalFreqOffset := 1
  localSystemOffset := 0
  systemTime := ⟨0, 0, 0, 0⟩
  localSystemFreqOffset := 1
  syncCount := 0
  pdelayCount := 0
  portState := .ptpSlave
  asCapable := true

/-- A syntonizing clock whose every call is two seconds off: the eighth call steps by minus two
seconds, the seventh does not. -/
theorem phaseSteps_eighth_call :
    let d : Daemon ℚ := (Start.standard localIdentity).daemon
    let d := { d with clock.cfg.syntonize := true }
    ((servoMachine ℚ).stateAt d (fun _ => .setMasterOffset twoSecondsOff) 7).phaseSteps = [] ∧
      ((servoMachine ℚ).stateAt d (fun _ => .setMasterOffset twoSecondsOff) 8).phaseSteps =
        [-2000000000] := by
  intro d₀ d
  have hcall (k : ℕ) := (phaseSteps_of_run d rfl (by decide +kernel) (by decide +kernel)
    (fun _ => .setMasterOffset twoSecondsOff) k twoSecondsOff rfl (by decide)).1 (by decide)
  have hsix : ¬ (servoHistory d (fun _ => .setMasterOffset twoSecondsOff) 6).CallsForStep := by
    decide +kernel
  have hseven : (servoHistory d (fun _ => .setMasterOffset twoSecondsOff) 7).CallsForStep := by
    decide +kernel
  have hoffset : -twoSecondsOff.masterLocalOffset.toInt = -2000000000 := by decide
  rw [hcall 6, hcall 7, if_neg hsix, if_pos hseven, hoffset]
  exact ⟨rfl, rfl⟩

end Gptp
