import Gptp.Framework.Words
import Gptp.Port.Run
import Gptp.Wireless.TimingMeasurement
import Mathlib.Algebra.Order.Group.Unbundled.Abs

/-!
# The link delay of a timing measurement

An indication brings the times T1 and T4 of the frame before, taken at the peer. The times T2 and T3 of
that frame were indicated with it, and have been waiting in the slot of the port since. The link delay is
half of what the round trip T4 - T1 exceeds the turn-around T3 - T2 by. The two times are taken by
different clocks, so that on a short link the difference can be negative, and `setLinkDelay` allows for it.
`timeMeasurementIndicationCB` does not: it computes in unsigned 32-bit numbers.

* `linkDelays_indication`: which delays an indication hands on.
* `toInt_indicatedLinkDelay`: the delay is half of the difference modulo `2 ^ 32`.
* `linkDelay_exact_iff`: one delay is handed on, and it is the signed delay unless the turn-around exceeds
  the round trip.
-/

namespace Gptp

open Framework

/-- The time between two readings of a device clock of 64 bits. -/
def deviceInterval (first second : UInt64) : ℤ := (second - first).toInt64.toInt

/-- An interval that is scaled and cut down to 32 bits. -/
theorem toNat_scaled (first second : UInt64) :
    ((second * 10 - first * 10).toUInt32.toNat : ℤ) = deviceInterval first second * 10 % 2 ^ 32 := by
  have hscaled : second * 10 - first * 10 = (second - first) * 10 := by grind
  have hten : (10 : UInt64).toNat = 10 := rfl
  -- the signed interval and the word differ by a multiple of the word size
  have hword := bmod_modEq (second - first).toNat
  unfold Int.ModEq at hword
  rw [hscaled, UInt64.toNat_toUInt32, UInt64.toNat_mul, hten, deviceInterval, toInt_toInt64]
  omega

namespace WirelessPort

/-- What an indication leaves in the slot. -/
def indicatedDialog (current : WirelessDialog) : WirelessDialog :=
  { current with
    actionDevclk := current.actionDevclk * 10
    ackDevclk := current.ackDevclk * 10
    action := current.action.set64 (current.actionDevclk * 10) }

theorem prevDialog_indication (current previous : WirelessDialog) (fwup : Option PTPMessageFollowUp)
    (p : WirelessPort) :
    (p.step (.indication current previous fwup)).prevDialog = indicatedDialog current := rfl

/-- The round trip of the previous frame less its turn-around, in nanoseconds. -/
def excess (previous current : WirelessDialog) : ℤ :=
  (deviceInterval previous.actionDevclk previous.ackDevclk -
    deviceInterval current.actionDevclk current.ackDevclk) * 10

/-- The delay is half of the excess modulo `2 ^ 32`. -/
theorem toInt_indicatedLinkDelay (previous current : WirelessDialog) :
    (indicatedLinkDelay previous (indicatedDialog current)).toInt =
      excess previous current % 2 ^ 32 / 2 := by
  have hround := toNat_scaled previous.actionDevclk previous.ackDevclk
  have hturn := toNat_scaled current.actionDevclk current.ackDevclk
  unfold indicatedLinkDelay indicatedDialog excess
  dsimp only
  generalize (previous.ackDevclk * 10 - previous.actionDevclk * 10).toUInt32 = roundTrip at hround ⊢
  generalize (current.ackDevclk * 10 - current.actionDevclk * 10).toUInt32 = turnAround at hturn ⊢
  have hlt := (roundTrip - turnAround).toNat_lt
  have hhalf : ((roundTrip - turnAround) / 2).toUInt64.toNat = (roundTrip - turnAround).toNat / 2 := by
    rw [UInt32.toNat_toUInt64, UInt32.toNat_div]
    rfl
  rw [toInt_toInt64, hhalf, bmod_eq_self (by omega) (by omega), UInt32.toNat_sub]
  have := turnAround.toNat_lt
  omega

/-- Halving modulo `2 ^ 32` is halving with the sign exactly for numbers that are not negative. -/
theorem emod_div_two_eq_tdiv_iff {x : ℤ} (hx : |x| < 2 ^ 32) :
    x % 2 ^ 32 / 2 = x.tdiv 2 ↔ 0 ≤ x := by
  rw [abs_lt] at hx
  rcases Int.lt_or_le x 0 with hneg | hnonneg
  · have htdiv : x.tdiv 2 = -((-x) / 2) := by
      rw [← Int.tdiv_eq_ediv_of_nonneg (by omega), Int.neg_tdiv, neg_neg]
    rw [htdiv]
    omega
  · rw [Int.tdiv_eq_ediv_of_nonneg hnonneg]
    omega

/-- The delays that the current step has handed to `setLinkDelay`. -/
def linkDelays (p : WirelessPort) : List Int64 :=
  p.effects.filterMap fun
    | .setLinkDelay delay => some delay
    | _ => none

/-- An indication that carries a Follow_Up and refers to the dialog in the slot hands on one delay, unless
the measurement has failed. -/
theorem linkDelays_indication {p : WirelessPort} {current previous : WirelessDialog}
    (htoken : previous.dialogToken = p.prevDialog.dialogToken) (m : PTPMessageFollowUp) :
    (p.step (.indication current previous (some m))).linkDelays =
      if previous.actionDevclk = 0 then [] else [indicatedLinkDelay previous p.prevDialog] := by
  unfold step timeMeasurementIndicationCB
  dsimp only
  split_ifs with hmeasured hzero hzero
  · exact absurd hzero hmeasured.2
  · rfl
  · rfl
  · exact absurd ⟨htoken, hzero⟩ hmeasured

/-- **Link delays.** Let an indication at `j` leave its dialog in the slot, where it stays up to the
indication at `k`, which carries a Follow_Up and refers to that dialog. A device time T1 of 0 stands for a
measurement that has failed, and no delay is handed to `setLinkDelay`. Otherwise exactly one is. With
intervals below `2 ^ 31` nanoseconds, it is half of what the round trip exceeds the turn-around by, rounded
toward zero, if and only if the turn-around does not exceed the round trip. -/
theorem linkDelay_exact_iff (s : WirelessPort) (σ : ℕ → WirelessInput) {j k : ℕ} (hjk : j < k)
    {current₁ previous₁ current₂ previous₂ : WirelessDialog} {fwup₁ : Option PTPMessageFollowUp}
    {m : PTPMessageFollowUp} (hj : σ j = .indication current₁ previous₁ fwup₁)
    (hslot : ∀ l, j < l → l < k →
      (wirelessMachine.stateAt s σ (l + 1)).prevDialog = (wirelessMachine.stateAt s σ l).prevDialog)
    (hk : σ k = .indication current₂ previous₂ (some m))
    (htoken : previous₂.dialogToken = current₁.dialogToken)
    (hround : |deviceInterval previous₂.actionDevclk previous₂.ackDevclk * 10| < 2 ^ 31)
    (hturn : |deviceInterval current₁.actionDevclk current₁.ackDevclk * 10| < 2 ^ 31) :
    (previous₂.actionDevclk = 0 → (wirelessMachine.stateAt s σ (k + 1)).linkDelays = []) ∧
      (previous₂.actionDevclk ≠ 0 →
        ∃ d, (wirelessMachine.stateAt s σ (k + 1)).linkDelays = [d] ∧
          (d.toInt = (excess previous₂ current₁).tdiv 2 ↔
            deviceInterval current₁.actionDevclk current₁.ackDevclk ≤
              deviceInterval previous₂.actionDevclk previous₂.ackDevclk)) := by
  -- the slot holds the dialog of the indication at `j`
  have hprev : (wirelessMachine.stateAt s σ k).prevDialog = indicatedDialog current₁ := by
    refine Machine.invariant_from (M := wirelessMachine)
      (P := fun p => p.prevDialog = indicatedDialog current₁) (i := j + 1) hjk ?_ ?_
    · rw [Machine.stateAt_succ, hj]
      exact prevDialog_indication _ _ _ _
    · intro l hjl hlk hl
      exact (hslot l hjl hlk).trans hl
  have htoken' : previous₂.dialogToken = (wirelessMachine.stateAt s σ k).prevDialog.dialogToken := by
    rw [hprev]
    exact htoken
  have hdelays : (wirelessMachine.stateAt s σ (k + 1)).linkDelays =
      if previous₂.actionDevclk = 0 then []
      else [indicatedLinkDelay previous₂ (indicatedDialog current₁)] := by
    rw [Machine.stateAt_succ, hk, ← hprev]
    exact linkDelays_indication htoken' m
  have hexcess : |excess previous₂ current₁| < 2 ^ 32 := by
    rw [abs_lt] at hround hturn ⊢
    unfold excess
    omega
  rw [hdelays]
  refine ⟨fun hzero => if_pos hzero, fun hmeasured => ⟨_, if_neg hmeasured, ?_⟩⟩
  -- halving modulo `2 ^ 32` goes wrong exactly where the excess is negative
  rw [toInt_indicatedLinkDelay, emod_div_two_eq_tdiv_iff hexcess, excess]
  omega

/-- A dialog with its two device times. -/
def measuredDialog (token : UInt8) (actionDevclk ackDevclk : UInt64) : WirelessDialog :=
  ⟨Timestamp.zero, actionDevclk, Timestamp.zero, ackDevclk, token, 0⟩

/-- Two indications. The first frame is turned around in five microseconds; the round trip that the
second one tells of ends at `ackDevclk`. -/
def twoIndications (ackDevclk : UInt64) : ℕ → WirelessInput
  | 0 => .indication (measuredDialog 1 1000 1500) (measuredDialog 0 0 0) none
  | _ => .indication (measuredDialog 2 3000 3500) (measuredDialog 1 2000 ackDevclk)
      (some (neighborFollowUp 0))

/-- A port that has just been constructed. -/
def newPort : WirelessPort := new (fun _ => 0) 0 0 0

/-- A round trip of 5.2 microseconds: the link takes 100 nanoseconds, and this delay is handed on. -/
theorem twoIndications_exact :
    excess (measuredDialog 1 2000 2520) (measuredDialog 1 1000 1500) = 200 ∧
      ∃ d, (wirelessMachine.stateAt newPort (twoIndications 2520) 2).linkDelays = [d] ∧
        d.toInt = 100 := by
  obtain ⟨d, hd, hexact⟩ := (linkDelay_exact_iff newPort (twoIndications 2520) (j := 0) (k := 1)
    Nat.one_pos rfl (fun _ hl hl' => absurd hl (Nat.not_lt.mpr (Nat.le_of_lt_succ hl'))) rfl rfl
    (by decide) (by decide)).2 (by decide)
  exact ⟨by decide, d, hd, hexact.mpr (by decide)⟩

/-- A round trip of 4.9 microseconds: the delay should be -50 nanoseconds, and is two seconds. -/
theorem twoIndications_negative :
    excess (measuredDialog 1 2000 2490) (measuredDialog 1 1000 1500) = -100 ∧
      (wirelessMachine.stateAt newPort (twoIndications 2490) 2).linkDelays = [2147483598] ∧
      (-100 : ℤ).tdiv 2 = -50 :=
  ⟨by decide, rfl, rfl⟩

end WirelessPort

end Gptp
