import Gptp.Linux.Reception
import Gptp.Safety.PhaseStep

/-!
# Stepping the hardware clock

`HWTimestamper_adjclockphase` hands a phase adjustment to the kernel as seconds and nanoseconds, the
nanoseconds counted upwards from the seconds also if the adjustment is negative. The kernel refuses
nanoseconds that are not less than a second.

The source divides towards zero and, for a negative adjustment, then takes one second off and adds it
to the nanoseconds. Where the division leaves no remainder, that makes the nanoseconds a full second
(`Linux.phaseRequest_valid_iff`). The adjustments come from the
phase steps of the servo, so the clock cannot be stepped when it is ahead of its master by exactly a
whole number of seconds (`Linux.stepPhase_request_inRange_iff`).
-/

namespace Gptp

namespace Linux

open Framework

/-- `ADJ_SETOFFSET`. -/
def adjSetoffset : UInt32 := 0x0100

/-- `ADJ_NANO`. -/
def adjNano : UInt32 := 0x2000

/-- The members of `struct timex` that a phase adjustment fills in, with members of 64 bits. -/
structure Timex where
  modes : UInt32
  tvSec : Int64
  tvUsec : Int64
  deriving DecidableEq, Repr

/-- The part of `LinuxTimestamperGeneric` that a phase adjustment touches. -/
structure Timestamper where
  version : UInt8
  rxTimestampList : List Timestamp
  deriving DecidableEq

/-- What `HWTimestamper_adjclockphase` hands to `Adjust`. -/
def phaseRequest (phaseAdjust : Int64) : Timex :=
  if 0 ≤ phaseAdjust then
    { modes := adjSetoffset ||| adjNano
      tvSec := phaseAdjust / 1000000000
      tvUsec := phaseAdjust % 1000000000 }
  else
    { modes := adjSetoffset ||| adjNano
      tvSec := phaseAdjust / 1000000000 - 1
      tvUsec := phaseAdjust % 1000000000 + 1000000000 }

/-- `LinuxTimestamperGeneric::HWTimestamper_adjclockphase`; `adjust` is the answer of the kernel to a
request. The version and the list are renewed whatever the answer. -/
def Timestamper.adjclockphase (adjust : Timex → Bool) (phaseAdjust : Int64) (s : Timestamper) :
    Bool × Timestamper :=
  (adjust (phaseRequest phaseAdjust), ⟨s.version + 1, []⟩)

/-- What a phase step does to the daemon is what the adjustment does to its timestamper. -/
theorem Timestamper.adjclockphase_stepPhase {F : Type} (adjust : Timex → Bool) (offset : Int64)
    (d : Daemon F) (list : List Timestamp) :
    (Timestamper.adjclockphase adjust (-offset) ⟨d.port.timestampVersion, list⟩).2 =
      ⟨(d.stepPhase offset).port.timestampVersion,
        Linux.adjclockphase (d.stepPhase offset).effects list⟩ := by
  simp [Timestamper.adjclockphase, Linux.adjclockphase, Daemon.stepPhase]

/-- The range check of the kernel for nanoseconds. -/
def Timex.InRange (tx : Timex) : Prop := 0 ≤ tx.tvUsec.toInt ∧ tx.tvUsec.toInt < 10 ^ 9

/-- The request stands for an adjustment by `d` nanoseconds. -/
def Timex.Denotes (tx : Timex) (d : ℤ) : Prop := tx.tvSec.toInt * 10 ^ 9 + tx.tvUsec.toInt = d

instance (tx : Timex) : Decidable tx.InRange := inferInstanceAs (Decidable (_ ∧ _))

instance (tx : Timex) (d : ℤ) : Decidable (tx.Denotes d) := inferInstanceAs (Decidable (_ = _))

/-- Division towards zero by a second: the remainder has the sign of the dividend. -/
theorem tdiv_tmod_second (x : ℤ) :
    10 ^ 9 * x.tdiv (10 ^ 9) + x.tmod (10 ^ 9) = x ∧ -10 ^ 9 < x.tmod (10 ^ 9) ∧
      x.tmod (10 ^ 9) < 10 ^ 9 ∧ (0 ≤ x → 0 ≤ x.tmod (10 ^ 9)) ∧ (x < 0 → x.tmod (10 ^ 9) ≤ 0) := by
  refine ⟨Int.mul_tdiv_add_tmod x _, Int.lt_tmod_of_pos x (by norm_num),
    Int.tmod_lt_of_pos x (by norm_num), Int.tmod_nonneg _, fun hneg => ?_⟩
  have h : 0 ≤ (-x).tmod (10 ^ 9) := Int.tmod_nonneg _ (by omega)
  rw [Int.neg_tmod] at h
  omega

/-- The seconds and nanoseconds of a request, as numbers. -/
theorem toInt_phaseRequest (d : Int64) :
    (phaseRequest d).tvSec.toInt = d.toInt.tdiv (10 ^ 9) - (if 0 ≤ d.toInt then 0 else 1) ∧
      (phaseRequest d).tvUsec.toInt =
        d.toInt.tmod (10 ^ 9) + (if 0 ≤ d.toInt then 0 else 10 ^ 9) := by
  have hdiv : (d / 1000000000).toInt = d.toInt.tdiv (10 ^ 9) :=
    Int64.toInt_div_of_ne_right d _ (by decide)
  have hmod : (d % 1000000000).toInt = d.toInt.tmod (10 ^ 9) := Int64.toInt_mod d _
  have hsign : 0 ≤ d ↔ 0 ≤ d.toInt := Int64.le_iff_toInt_le
  obtain ⟨hsum, hlower, hupper, -⟩ := tdiv_tmod_second d.toInt
  have hd := d.le_toInt
  have hd' := d.toInt_lt
  unfold phaseRequest
  rw [if_congr hsign rfl rfl]
  split
  · exact ⟨by rw [hdiv, sub_zero], by rw [hmod, add_zero]⟩
  · -- neither the seconds nor the nanoseconds leave the range of a word
    have hsecond : (1000000000 : Int64).toInt = 10 ^ 9 := rfl
    refine ⟨?_, ?_⟩
    · rw [toInt_sub_one (by omega), hdiv]
    · rw [Int64.toInt_add, hmod, hsecond, bmod_eq_self (by omega) (by omega)]

/-- A request stands for its adjustment, whatever its sign. -/
theorem phaseRequest_denotes (d : Int64) : (phaseRequest d).Denotes d.toInt := by
  obtain ⟨hsec, husec⟩ := toInt_phaseRequest d
  obtain ⟨hsum, -⟩ := tdiv_tmod_second d.toInt
  unfold Timex.Denotes
  rw [hsec, husec]
  split <;> omega

/-- The nanoseconds of a request are in range unless it is for a negative whole number of seconds. -/
theorem phaseRequest_inRange_iff (d : Int64) :
    (phaseRequest d).InRange ↔ ¬ (d.toInt < 0 ∧ (10 ^ 9 : ℤ) ∣ d.toInt) := by
  obtain ⟨-, husec⟩ := toInt_phaseRequest d
  obtain ⟨-, hlower, hupper, hnonneg, hnonpos⟩ := tdiv_tmod_second d.toInt
  unfold Timex.InRange
  rw [husec, Int.dvd_iff_tmod_eq_zero]
  split <;> omega

/-- **The request for a phase adjustment.** It stands for the adjustment and its nanoseconds are in
range, except for a negative whole number of seconds. -/
theorem phaseRequest_valid_iff (d : Int64) :
    (phaseRequest d).InRange ∧ (phaseRequest d).Denotes d.toInt ↔
      ¬ (d.toInt < 0 ∧ (10 ^ 9 : ℤ) ∣ d.toInt) := by
  rw [phaseRequest_inRange_iff, and_iff_left (phaseRequest_denotes d)]

/-- A clock that is ahead by exactly a second is to be set back by two seconds and forward by a
thousand million nanoseconds, which are out of range. -/
theorem phaseRequest_one_second_back :
    phaseRequest (-1000000000) = ⟨adjSetoffset ||| adjNano, -2, 1000000000⟩ ∧
      ¬ (phaseRequest (-1000000000)).InRange := by
  decide

/-- A phase step of the servo is within the range of the kernel unless the clock is ahead of the
master by a whole number of seconds. -/
theorem stepPhase_request_inRange_iff {offset : Int64} (hmin : -2 ^ 63 < offset.toInt) :
    (phaseRequest (-offset)).InRange ↔ ¬ (0 < offset.toInt ∧ (10 ^ 9 : ℤ) ∣ offset.toInt) := by
  rw [phaseRequest_inRange_iff, toInt_neg_of_ne hmin, neg_lt_zero, dvd_neg]

end Linux

end Gptp
