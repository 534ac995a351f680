import Gptp.Message.Nanoseconds
import Gptp.Port.Footprint
import Gptp.Port.Run

/-!
# Detecting that the master time has jumped back

`calcMasterLocalClockRateDifference` keeps the times of the last call it accepted as a baseline and
returns the ratio of the times elapsed since, or `NEGATIVE_TIME_JUMP` if the master time is before
that of the baseline. A phase step of the local clock drops the baseline.

`NEGATIVE_TIME_JUMP` is the number zero, and the times are compared as flattened 64-bit counts, which
48-bit seconds exceed. So the result code says what it is meant to say only while

* the flattened counts are in the order of the times they stand for, and
* a master time that has not moved since the baseline comes with a Sync time that has not moved either:
  otherwise the ratio is an ordinary zero.

`Clock.detectsJumps_iff` says that these are the only exceptions. The runs considered are sequences of
calls and phase steps; what the baseline should be is recorded from the results alone.
-/

namespace Gptp

open Framework

variable {F : Type}

/-! ### Calls and phase steps -/

/-- What happens to the rate estimate: a call with two times, or a phase step. -/
inductive RateInput where
  | estimate (masterTime syncTime : Timestamp)
  | phaseStep
  deriving DecidableEq

namespace Clock

/-- What a phase step does to the rate estimate. -/
def resetMasterRate (c : Clock F) : Clock F := { c with masterLocalFreqOffsetInit := false }

/-- The times the next estimate starts from. -/
def baseline (c : Clock F) : Option (Timestamp × Timestamp) :=
  if c.masterLocalFreqOffsetInit then some (c.prevMasterTime, c.prevSyncTime) else none

theorem baseline_eq_none_iff {c : Clock F} :
    c.baseline = none ↔ c.masterLocalFreqOffsetInit = false := by
  unfold baseline
  cases c.masterLocalFreqOffsetInit <;> simp

theorem baseline_eq_some_iff {c : Clock F} {pm ps : Timestamp} :
    c.baseline = some (pm, ps) ↔
      c.masterLocalFreqOffsetInit = true ∧ c.prevMasterTime = pm ∧ c.prevSyncTime = ps := by
  unfold baseline
  cases c.masterLocalFreqOffsetInit <;> simp

@[simp] theorem baseline_resetMasterRate (c : Clock F) : c.resetMasterRate.baseline = none := rfl

end Clock

/-- A phase step of `setMasterOffset` resets the rate estimate. -/
theorem Daemon.clock_stepPhase (offset : Int64) (d : Daemon F) :
    (d.stepPhase offset).clock = { d.clock.resetMasterRate with
      newSyntonizationSetPoint := false
      phaseErrorViolation := 0 } := rfl

variable [Platform F]

variable (F) in
/-- The clock under calls of `calcMasterLocalClockRateDifference` and phase steps. -/
def rateMachine : Machine (Clock F) RateInput where
  enabled _ _ := True
  step c i := match i with
    | .estimate masterTime syncTime => (c.calcMasterLocalClockRateDifference masterTime syncTime).2
    | .phaseStep => c.resetMasterRate

/-- `setMasterOffset` leaves the baseline alone, unless it steps the phase. -/
theorem Daemon.baseline_setMasterOffset (u : MasterOffset F) (d : Daemon F) :
    (d.setMasterOffset u).clock.baseline = d.clock.baseline ∨
      (d.setMasterOffset u).clock.baseline = d.clock.resetMasterRate.baseline := by
  have hpublish : (d.publishOffset u).clock.baseline = d.clock.baseline := by
    unfold publishOffset
    dsimp only
    split <;> rfl
  unfold setMasterOffset disciplineClock
  split_ifs
  · exact .inl hpublish
  · -- what comes after the phase step adjusts the frequency only
    refine .inr ?_
    change ((d.publishOffset u).stepPhase u.masterLocalOffset).clock.baseline = _
    rw [clock_stepPhase]
    rfl
  · exact .inl hpublish
  · exact .inl hpublish

omit [Platform F] in
theorem Daemon.baseline_of_modifies {ls : List Location} {d d' : Daemon F} (h : Modifies ls d d')
    (hservo : .servo ∉ ls) : d'.clock.baseline = d.clock.baseline := by
  have hread := h .servo hservo
  exact congrArg (fun v : Location.Value F .servo =>
    if v.2.2.2.1.1 then some (v.2.2.2.1.2.1, v.2.2.2.1.2.2) else none) hread

/-- Synchronising is passing the offset on, as far as the baseline is concerned. -/
theorem Daemon.baseline_synchronize (env : Env) (syncArrival preciseOrigin : Timestamp) (rate : F)
    (d : Daemon F) :
    (d.synchronize env syncArrival preciseOrigin rate).clock.baseline = d.clock.baseline ∨
      (d.synchronize env syncArrival preciseOrigin rate).clock.baseline =
        d.clock.resetMasterRate.baseline := by
  have hkept (d : Daemon F) (waitTime : UInt64) :
      (d.syncDone.startSyncReceiptTimer waitTime).clock.baseline = d.clock.baseline :=
    (baseline_of_modifies (modifies_restartEventTimer _ _ _) (by decide)).trans
      (baseline_of_modifies (modifies_syncDone _) (by decide))
  unfold synchronize
  dsimp only
  rw [hkept, Clock.calcLocalSystemClockRateDifference_snd]
  exact baseline_setMasterOffset _ _

/-- **What Follow_Up processing does to the rate estimate** is a call, a call and then a phase step, or
nothing: its baseline is that of `rateMachine` after those inputs. -/
theorem Daemon.rateInputs_processFollowUpAt (env : Env) (m : PTPMessageFollowUp)
    (syncArrival : Timestamp) (d : Daemon F) :
    ∃ inputs : List RateInput, (∃ call, inputs = [] ∨ inputs = [call] ∨ inputs = [call, .phaseStep]) ∧
      (d.processFollowUpAt env m syncArrival).clock.baseline =
        (inputs.foldl (rateMachine F).step d.clock).baseline := by
  unfold processFollowUpAt
  dsimp only
  generalize d.correctedOrigin m (m.correctionField / 65536) = origin
  split_ifs
  · exact ⟨[], ⟨.phaseStep, .inl rfl⟩, rfl⟩
  · exact ⟨[], ⟨.phaseStep, .inl rfl⟩, rfl⟩
  · exact ⟨[.estimate origin syncArrival], ⟨_, .inr (.inl rfl)⟩, rfl⟩
  · generalize (d.clock.calcMasterLocalClockRateDifference origin syncArrival).1 = rate
    unfold applyFollowUp
    dsimp only
    split
    · -- the offset is passed on, which may step the phase
      rcases baseline_synchronize env syncArrival origin rate (recordFUPStatus m rate
        { d with clock := (d.clock.calcMasterLocalClockRateDifference origin syncArrival).2 }) with h | h
      · exact ⟨[.estimate origin syncArrival], ⟨_, .inr (.inl rfl)⟩, h⟩
      · exact ⟨[.estimate origin syncArrival, .phaseStep], ⟨_, .inr (.inr rfl)⟩, h⟩
    · exact ⟨[.estimate origin syncArrival], ⟨_, .inr (.inl rfl)⟩, rfl⟩

variable (F) in
/-- What the test for the result code relies on: zero equals itself, one does not equal zero, and a
quotient of two 64-bit counts is zero only if the first one is. -/
class ZeroTest : Prop where
  zero_eq : Platform.eq (Platform.ofRat 0) (Platform.ofRat 0 : F) = true
  one_eq : Platform.eq (Platform.ofRat 1) (Platform.ofRat 0 : F) = false
  quotient_eq (n d : UInt64) (hd : d ≠ 0) :
    Platform.eq (Platform.div (Platform.ofRat n.toNat) (Platform.ofRat d.toNat))
      (Platform.ofRat 0 : F) = decide (n = 0)

instance : ZeroTest ℚ where
  zero_eq := rfl
  one_eq := rfl
  quotient_eq n d hd := by
    have hd' : (d.toNat : ℚ) ≠ 0 := by
      rw [Nat.cast_ne_zero]
      exact fun h => hd (UInt64.toNat_inj.mp h)
    show decide ((n.toNat : ℚ) / d.toNat = 0) = decide (n = 0)
    rw [decide_eq_decide, div_eq_zero_iff, Nat.cast_eq_zero, or_iff_left hd', ← UInt64.toNat_inj]
    rfl

namespace Clock

/-- A call returns a value equal to `NEGATIVE_TIME_JUMP`. -/
def jumps (c : Clock F) (masterTime syncTime : Timestamp) : Bool :=
  Platform.eq (c.calcMasterLocalClockRateDifference masterTime syncTime).1 negativeTimeJump

variable {c : Clock F} {m s pm ps : Timestamp}

/-! ### One call -/

/-- Without a baseline a call returns one and starts a baseline. -/
theorem estimate_of_none (h : c.baseline = none) (m s : Timestamp) :
    (c.calcMasterLocalClockRateDifference m s).1 = Platform.ofRat 1 ∧
      (c.calcMasterLocalClockRateDifference m s).2.baseline = some (m, s) := by
  rw [baseline_eq_none_iff] at h
  simp [calcMasterLocalClockRateDifference, h, baseline]

/-- A master time before the baseline is a jump and drops the baseline. -/
theorem estimate_of_lt (h : c.baseline = some (pm, ps)) (hlt : m.toNs < pm.toNs) :
    (c.calcMasterLocalClockRateDifference m s).1 = negativeTimeJump ∧
      (c.calcMasterLocalClockRateDifference m s).2.baseline = none := by
  obtain ⟨hinit, rfl, rfl⟩ := baseline_eq_some_iff.mp h
  simp [calcMasterLocalClockRateDifference, hinit, hlt, baseline]

/-- Any other call returns the ratio of the elapsed times and moves the baseline. -/
theorem estimate_of_not_lt (h : c.baseline = some (pm, ps)) (hlt : ¬ m.toNs < pm.toNs) :
    (c.calcMasterLocalClockRateDifference m s).1 =
        elapsedRatio (m.toNs - pm.toNs) (s.toNs - ps.toNs) ∧
      (c.calcMasterLocalClockRateDifference m s).2.baseline = some (m, s) := by
  obtain ⟨hinit, rfl, rfl⟩ := baseline_eq_some_iff.mp h
  simp only [calcMasterLocalClockRateDifference, hinit, hlt, if_true, if_false, baseline, and_self]

section ZeroTest

variable [ZeroTest F]

theorem jumps_of_none (h : c.baseline = none) (m s : Timestamp) : c.jumps m s = false := by
  rw [jumps, (estimate_of_none h m s).1]
  exact ZeroTest.one_eq

/-- The ratio of two elapsed times is the result code if the first is zero and the second is not. -/
theorem elapsedRatio_eq_jump_iff (num den : UInt64) :
    Platform.eq (elapsedRatio num den : F) negativeTimeJump = true ↔ num = 0 ∧ den ≠ 0 := by
  unfold elapsedRatio negativeTimeJump
  by_cases hden : den = 0
  · simp [hden, ZeroTest.one_eq]
  · simp [hden, ZeroTest.quotient_eq num den hden]

/-- With a baseline a call returns the result code if the flattened master time is before that of the
baseline, but also if it is the same at another Sync time. -/
theorem jumps_iff (h : c.baseline = some (pm, ps)) (m s : Timestamp) :
    c.jumps m s = true ↔ m.toNs < pm.toNs ∨ (m.toNs = pm.toNs ∧ s.toNs ≠ ps.toNs) := by
  unfold jumps
  by_cases hlt : m.toNs < pm.toNs
  · rw [(estimate_of_lt h hlt).1]
    exact iff_of_true ZeroTest.zero_eq (.inl hlt)
  · rw [(estimate_of_not_lt h hlt).1, elapsedRatio_eq_jump_iff, Framework.sub_eq_zero_iff,
      ne_eq, Framework.sub_eq_zero_iff, or_iff_right hlt]

/-- After a call that returned the ordinary ratio zero the next one can return zero again. -/
theorem not_recovers_of_some (h : c.baseline = some (m, s)) :
    ¬ ∀ m' s', (c.calcMasterLocalClockRateDifference m' s').1 = Platform.ofRat 1 := by
  intro hall
  obtain ⟨s', hs'⟩ : ∃ s' : Timestamp, s'.toNs ≠ s.toNs := by
    by_cases hzero : Timestamp.zero.toNs = s.toNs
    · refine ⟨⟨1, 0, 0, 0⟩, ?_⟩
      rw [← hzero]
      decide
    · exact ⟨_, hzero⟩
  have hjumps : c.jumps m s' = true := (jumps_iff h m s').mpr (.inr ⟨rfl, hs'⟩)
  rw [jumps, hall m s', negativeTimeJump, ZeroTest.one_eq] at hjumps
  cases hjumps

/-- With a baseline a call reports what it is meant to, and the next one recovers from a jump, exactly
if the flattened counts do not misrepresent the times. -/
theorem reports_iff (h : c.baseline = some (pm, ps)) (m s : Timestamp) :
    ((c.jumps m s = true ↔ m.value < pm.value) ∧
      (c.jumps m s = true → ∀ m' s',
        ((c.calcMasterLocalClockRateDifference m s).2.calcMasterLocalClockRateDifference m' s').1 =
          Platform.ofRat 1 ∧
        ((c.calcMasterLocalClockRateDifference m s).2.calcMasterLocalClockRateDifference m' s').2.baseline =
          some (m', s'))) ↔
      (m.value < pm.value ↔ m.toNs < pm.toNs) ∧ (m.toNs = pm.toNs → s.toNs = ps.toNs) := by
  have hjumps := jumps_iff h m s
  constructor
  · rintro ⟨hcode, hnext⟩
    have hsame : m.toNs = pm.toNs → s.toNs = ps.toNs := by
      -- otherwise the call returns an ordinary zero and keeps a baseline
      intro heq
      by_contra hne
      have hlt : ¬ m.toNs < pm.toNs := by simp [heq]
      exact not_recovers_of_some (estimate_of_not_lt h hlt).2
        fun m' s' => (hnext (hjumps.mpr (.inr ⟨heq, hne⟩)) m' s').1
    refine ⟨?_, hsame⟩
    rw [← hcode, hjumps, or_iff_left]
    exact fun hzero => hzero.2 (hsame hzero.1)
  · rintro ⟨horder, hsame⟩
    have hjumps' : c.jumps m s = true ↔ m.toNs < pm.toNs := by
      rw [hjumps, or_iff_left]
      exact fun hzero => hzero.2 (hsame hzero.1)
    refine ⟨hjumps'.trans horder.symm, fun hjump m' s' => ?_⟩
    exact estimate_of_none (estimate_of_lt h (hjumps'.mp hjump)).2 m' s'

end ZeroTest

/-! ### Sequences of calls -/

/-- The times of the last accepted call since the last phase step or jump, by the results of the calls
alone. -/
def lastAccepted (c₀ : Clock F) (σ : ℕ → RateInput) : ℕ → Option (Timestamp × Timestamp)
  | 0 => none
  | k + 1 => match σ k with
    | .estimate m s => if ((rateMachine F).stateAt c₀ σ k).jumps m s then none else some (m, s)
    | .phaseStep => none

/-- What a call is meant to report: the result code exactly if the master time is before that of the
last accepted call; and the call after one with the result code returns one and starts a baseline. -/
def DetectsJump (c₀ : Clock F) (σ : ℕ → RateInput) (k : ℕ) : Prop :=
  ∀ m s, σ k = .estimate m s →
    (((rateMachine F).stateAt c₀ σ k).jumps m s = true ↔
      ∃ pm ps, lastAccepted c₀ σ k = some (pm, ps) ∧ m.value < pm.value) ∧
    (((rateMachine F).stateAt c₀ σ k).jumps m s = true → ∀ m' s',
      (((rateMachine F).stateAt c₀ σ (k + 1)).calcMasterLocalClockRateDifference m' s').1 =
        Platform.ofRat 1 ∧
      (((rateMachine F).stateAt c₀ σ (k + 1)).calcMasterLocalClockRateDifference m' s').2.baseline =
        some (m', s'))

/-- A call is made with a baseline and the flattened counts misrepresent the two master times, or they
are equal at different Sync times. -/
def Misreads (c : Clock F) : RateInput → Prop
  | .estimate m s => ∃ times ∈ c.baseline,
      ¬ ((m.value < times.1.value ↔ m.toNs < times.1.toNs) ∧
        (m.toNs = times.1.toNs → s.toNs = times.2.toNs))
  | .phaseStep => False

instance (c : Clock F) (i : RateInput) : Decidable (c.Misreads i) := by
  cases i <;> unfold Misreads <;> infer_instance

omit [Platform F] in
theorem not_misreads_of_none (h : c.baseline = none) (m s : Timestamp) :
    ¬ c.Misreads (.estimate m s) := by
  simp [Misreads, h]

omit [Platform F] in
theorem not_misreads_iff_of_some (h : c.baseline = some (pm, ps)) (m s : Timestamp) :
    ¬ c.Misreads (.estimate m s) ↔
      (m.value < pm.value ↔ m.toNs < pm.toNs) ∧ (m.toNs = pm.toNs → s.toNs = ps.toNs) := by
  simp only [Misreads, h, Option.mem_some_iff, exists_eq_left', not_not]

section Runs

variable {c₀ : Clock F} {σ : ℕ → RateInput} {k : ℕ}

theorem stateAt_succ_of_estimate (h : σ k = .estimate m s) :
    (rateMachine F).stateAt c₀ σ (k + 1) =
      (((rateMachine F).stateAt c₀ σ k).calcMasterLocalClockRateDifference m s).2 := by
  rw [Machine.stateAt_succ, h]
  rfl

theorem lastAccepted_succ_of_estimate (h : σ k = .estimate m s) :
    lastAccepted c₀ σ (k + 1) =
      if ((rateMachine F).stateAt c₀ σ k).jumps m s then none else some (m, s) := by
  simp only [lastAccepted, h]

theorem lastAccepted_succ_of_phaseStep (h : σ k = .phaseStep) :
    lastAccepted c₀ σ (k + 1) = none := by
  simp only [lastAccepted, h]

variable [ZeroTest F]

/-- Where the baseline is the last accepted call, a call reports what it is meant to exactly if it does
not misread the times. -/
theorem detectsJump_iff (h : ((rateMachine F).stateAt c₀ σ k).baseline = lastAccepted c₀ σ k) :
    DetectsJump c₀ σ k ↔ ¬ Misreads ((rateMachine F).stateAt c₀ σ k) (σ k) := by
  unfold DetectsJump
  rw [← h]
  cases hinput : σ k with
  | phaseStep => simp [Misreads]
  | estimate m s =>
    rw [stateAt_succ_of_estimate hinput]
    generalize (rateMachine F).stateAt c₀ σ k = c
    cases hbaseline : c.baseline with
    | none =>
      -- nothing is reported and nothing can be misread
      simp [jumps_of_none hbaseline m s, not_misreads_of_none hbaseline m s]
    | some times =>
      obtain ⟨pm, ps⟩ := times
      rw [not_misreads_iff_of_some hbaseline, ← reports_iff hbaseline]
      constructor
      · intro hdetects
        simpa using hdetects m s rfl
      · intro hreports m' s' hi
        cases hi
        simpa using hreports

/-- After a step that does not misread the times the baseline is the last accepted call. -/
theorem baseline_step (hreads : ¬ Misreads ((rateMachine F).stateAt c₀ σ k) (σ k)) :
    ((rateMachine F).stateAt c₀ σ (k + 1)).baseline = lastAccepted c₀ σ (k + 1) := by
  cases hinput : σ k with
  | phaseStep =>
    rw [lastAccepted_succ_of_phaseStep hinput, Machine.stateAt_succ, hinput]
    rfl
  | estimate m s =>
    rw [lastAccepted_succ_of_estimate hinput, stateAt_succ_of_estimate hinput]
    rw [hinput] at hreads
    generalize (rateMachine F).stateAt c₀ σ k = c at hreads ⊢
    cases hbaseline : c.baseline with
    | none =>
      rw [jumps_of_none hbaseline, (estimate_of_none hbaseline m s).2]
      rfl
    | some times =>
      obtain ⟨pm, ps⟩ := times
      by_cases hlt : m.toNs < pm.toNs
      · rw [if_pos ((jumps_iff hbaseline m s).mpr (.inl hlt)), (estimate_of_lt hbaseline hlt).2]
      · -- an ordinary zero would be a misreading
        have hjumps : ¬ c.jumps m s = true := by
          rw [jumps_iff hbaseline]
          rintro (hlt' | ⟨heq, hne⟩)
          · exact hlt hlt'
          · exact hne (((not_misreads_iff_of_some hbaseline m s).mp hreads).2 heq)
        rw [if_neg hjumps, (estimate_of_not_lt hbaseline hlt).2]

end Runs

/-- **Jumps of the master time.** In every sequence of calls and phase steps that starts without a
baseline, every call reports what it is meant to, if and only if no call made with a baseline misreads
the times: the flattened counts are in the order of the times, and a master time equal to that of the
baseline comes with an equal Sync time. -/
theorem detectsJumps_iff [ZeroTest F] (c₀ : Clock F) (hinit : c₀.baseline = none)
    (σ : ℕ → RateInput) (n : ℕ) :
    (∀ k < n, DetectsJump c₀ σ k) ↔
      ∀ k < n, ¬ Misreads ((rateMachine F).stateAt c₀ σ k) (σ k) :=
  checks_iff_no_breach (p := fun k => ((rateMachine F).stateAt c₀ σ k).baseline = lastAccepted c₀ σ k)
    hinit (fun _ _ h => detectsJump_iff h) (fun _ _ _ h => baseline_step h)

/-- A clock after initialisation. -/
def initialised : Clock ℚ := (Start.standard localIdentity).daemon.clock

/-- A call at five seconds, and one a second later with the same master time. -/
def repeatedTime : ℕ → RateInput
  | 0 => .estimate ⟨0, 5, 0, 0⟩ ⟨0, 5, 0, 0⟩
  | _ => .estimate ⟨0, 5, 0, 0⟩ ⟨0, 6, 0, 0⟩

/-- A call at five seconds, and one with a master time whose count of nanoseconds has wrapped. -/
def wrappedTime : ℕ → RateInput
  | 0 => .estimate ⟨0, 5, 0, 0⟩ ⟨0, 5, 0, 0⟩
  | _ => .estimate ⟨709551616, 1266874889, 4, 0⟩ ⟨0, 6, 0, 0⟩

/-- A call at five seconds, one at four and one at five again. -/
def jumpBack : ℕ → RateInput
  | 0 => .estimate ⟨0, 5, 0, 0⟩ ⟨0, 5, 0, 0⟩
  | 1 => .estimate ⟨0, 4, 0, 0⟩ ⟨0, 6, 0, 0⟩
  | _ => .estimate ⟨0, 5, 0, 0⟩ ⟨0, 7, 0, 0⟩

/-- The jump of one second is detected, and the call after it starts over. -/
theorem jumpBack_detected :
    DetectsJump initialised jumpBack 1 ∧ DetectsJump initialised jumpBack 2 := by
  have h := (detectsJumps_iff initialised (by decide +kernel) jumpBack 3).mpr (by decide +kernel)
  exact ⟨h 1 (by decide), h 2 (by decide)⟩

/-- A call that returns the result code for a time not before the last accepted one. -/
theorem not_detectsJump {c₀ : Clock F} {σ : ℕ → RateInput} {k : ℕ} (hinput : σ k = .estimate m s)
    (hjumps : ((rateMachine F).stateAt c₀ σ k).jumps m s = true)
    (hlast : lastAccepted c₀ σ k = some (pm, ps)) (hle : ¬ m.value < pm.value) :
    ¬ DetectsJump c₀ σ k := by
  intro h
  obtain ⟨pm', ps', hpm, hlt⟩ := (h m s hinput).1.mp hjumps
  rw [hlast] at hpm
  cases hpm
  exact hle hlt

/-- A master time that has not moved is reported as a jump, and so is one 584 years later. -/
theorem repeatedTime_not_detected :
    ¬ DetectsJump initialised repeatedTime 1 ∧ ¬ DetectsJump initialised wrappedTime 1 := by
  have hrepeated : lastAccepted initialised repeatedTime 1 =
      some (⟨0, 5, 0, 0⟩, ⟨0, 5, 0, 0⟩) := by decide +kernel
  have hwrapped : lastAccepted initialised wrappedTime 1 =
      some (⟨0, 5, 0, 0⟩, ⟨0, 5, 0, 0⟩) := by decide +kernel
  exact ⟨not_detectsJump rfl (by decide +kernel) hrepeated (by decide),
    not_detectsJump rfl (by decide +kernel) hwrapped (by decide)⟩

end Clock

end Gptp
