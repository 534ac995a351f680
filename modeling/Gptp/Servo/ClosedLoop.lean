import Gptp.Framework.Settling
import Gptp.Servo.Discipline
import Mathlib.Tactic.FieldSimp
import Mathlib.Tactic.Ring

/-!
# The clock servo in closed loop

The hardware clock of a station runs at its own rate `ρ`, and the daemon corrects it: each Follow_Up that is
used gives an offset and an estimate of the master's rate, `setMasterOffset` integrates both into a correction
in parts per million, and the clock runs at that rate until the next one. What the daemon does is known
exactly; what the clock and the network do is assumed, as an inequality with a bound `η` for everything that
is not the rate: jitter of the timestamps, errors of the link delay, and the time that passes before a new
correction is in force.

The rate estimate cancels the rate of the clock almost completely (`gain_eq`), so what is left of an offset is
`1 - 0.3` of it, as long as the correction is within its limits of 250 ppm. At the limit the clock still gains
on the master, by at least 140 ppm, if its own rate is off by no more than 100 ppm. `round_bound` puts the two
together, and `Framework.Settles` says what follows for many rounds.

* `Daemon.disciplined_of_offset`: one Follow_Up.
* `SyncRun`: the Follow_Ups of a run of the daemon. `Oscillator`: the clock between them.
* `SyncRun.disciplined`: the daemon keeps control of the clock.
* `servo_settles`: the offsets that are computed stay within the first two and `15 * η`, no phase step
  becomes due, and they fall to `15 * η`.
-/

namespace Gptp

open Framework

/-! ### One round -/

section Round

variable {ρ T η τ ℓ p : ℚ}

section Bounds

variable (hρ : |ρ - 1| ≤ 1 / 10 ^ 4)

include hρ

/-- The rate of a clock whose correction is within the limits. -/
theorem rate_bound (hp : |p| ≤ 250) : |ρ * (1 + p / 10 ^ 6) - 1| ≤ 36 / 10 ^ 5 := by
  have hρ' := abs_le.mp hρ
  have hp' := abs_le.mp hp
  rw [abs_le]
  constructor <;> nlinarith

variable (hp : |p| ≤ 250) (hT : 0 < T) (hη : η ≤ T / 25000) (hτ : 7 / 10 * T ≤ τ)
  (hplant : |ℓ - ρ * (1 + p / 10 ^ 6) * τ| ≤ η)

include hp hT hη hτ hplant

/-- Local and master time elapse almost alike. -/
theorem elapsed_bound : |ℓ - τ| ≤ τ / 2000 := by
  have hrate := rate_bound hρ hp
  have hpos : 0 ≤ τ := by linarith
  calc |ℓ - τ|
      = |(ℓ - ρ * (1 + p / 10 ^ 6) * τ) + (ρ * (1 + p / 10 ^ 6) - 1) * τ| := by ring_nf
    _ ≤ |ℓ - ρ * (1 + p / 10 ^ 6) * τ| + |(ρ * (1 + p / 10 ^ 6) - 1) * τ| := abs_add_le _ _
    _ ≤ η + 36 / 10 ^ 5 * τ := by
        rw [abs_mul, abs_of_nonneg hpos]
        gcongr
    _ ≤ τ / 2000 := by linarith

/-- The rate that is measured makes up for the rate of the clock, up to a thousandth. -/
theorem measured_bound : |1 - ρ * τ / ℓ| ≤ 1 / 1000 := by
  have helapsed := abs_le.mp (elapsed_bound hρ hp hT hη hτ hplant)
  have hpos : 0 < ℓ := by linarith
  have hτ₀ : 0 ≤ τ := by linarith
  have hdiff : |ℓ - ρ * τ| ≤ 1 / 1000 * ℓ := by
    calc |ℓ - ρ * τ| = |(ℓ - τ) + -((ρ - 1) * τ)| := by ring_nf
      _ ≤ |ℓ - τ| + |-((ρ - 1) * τ)| := abs_add_le _ _
      _ = |ℓ - τ| + |ρ - 1| * τ := by rw [abs_neg, abs_mul, abs_of_nonneg hτ₀]
      _ ≤ τ / 2000 + 1 / 10 ^ 4 * τ := by
          gcongr
          exact elapsed_bound hρ hp hT hη hτ hplant
      _ ≤ 1 / 1000 * ℓ := by linarith
  have hratio : 1 - ρ * τ / ℓ = (ℓ - ρ * τ) / ℓ := by field_simp
  rw [hratio, abs_div, abs_of_pos hpos]
  exact (div_le_iff₀ hpos).mpr hdiff

end Bounds

/-- **The correction.** What the clock gains in a master time of `τ` under the new correction. The rate that
is measured cancels, and a share of the offset remains. -/
theorem gain_eq (hℓ : ℓ ≠ 0) (hT : T ≠ 0) (a : ℚ) :
    (ρ * (1 + (p - 3 * 10 ^ 5 / T * a + 10 ^ 6 * (τ / ℓ - 1)) / 10 ^ 6) - 1) * τ =
      (ℓ - τ) * (1 - ρ * τ / ℓ) - (ℓ - ρ * (1 + p / 10 ^ 6) * τ) - 3 / 10 * ρ * a / T * τ := by
  field_simp
  ring

theorem clampPpm_cases (x : ℚ) : 250 < x ∧ Clock.clampPpm x = 250 ∨
    x < -250 ∧ Clock.clampPpm x = -250 ∨ |x| ≤ 250 ∧ Clock.clampPpm x = x := by
  have hclamp : Clock.clampPpm x =
      if 250 < (if x < -250 then -250 else x) then 250 else if x < -250 then -250 else x := by
    unfold Clock.clampPpm
    dsimp only [Platform.lt, Platform.ofRat]
    simp only [decide_eq_true_eq]
  rw [hclamp]
  by_cases hlow : x < -250
  · rw [if_pos hlow]
    exact .inr (.inl ⟨hlow, if_neg (by norm_num)⟩)
  · rw [if_neg hlow]
    by_cases hhigh : 250 < x
    · exact .inl ⟨hhigh, if_pos hhigh⟩
    · exact .inr (.inr ⟨abs_le.mpr ⟨not_lt.mp hlow, not_lt.mp hhigh⟩, if_neg hhigh⟩)

theorem abs_clampPpm_le (x : ℚ) : |Clock.clampPpm x| ≤ 250 := by
  rcases clampPpm_cases x with ⟨-, hclamp⟩ | ⟨-, hclamp⟩ | ⟨hx, hclamp⟩
  · rw [hclamp, abs_of_pos (by norm_num)]
  · rw [hclamp, abs_neg, abs_of_pos (by norm_num)]
  · rw [hclamp]
    exact hx

/-- The correction, before it is clamped. -/
def nextPpm (T p a τ ℓ : ℚ) : ℚ := p - 3 * 10 ^ 5 / T * a + 10 ^ 6 * (τ / ℓ - 1)

section Next

variable {a b V τ' : ℚ} (hρ : |ρ - 1| ≤ 1 / 10 ^ 4) (hp : |p| ≤ 250) (hT : 0 < T)
  (hη : η ≤ T / 25000) (hτ : 7 / 10 * T ≤ τ ∧ τ ≤ 13 / 10 * T)
  (hplant : |ℓ - ρ * (1 + p / 10 ^ 6) * τ| ≤ η) (hoffset : a = b + ℓ - τ) (ha : |a| ≤ V) (hb : |b| ≤ V)
  (hτ' : 7 / 10 * T ≤ τ' ∧ τ' ≤ 13 / 10 * T)

include hρ hp hT hη hτ hplant hoffset ha hb hτ'

/-- Without limits on the correction, the next offset is a share of the last two. -/
theorem unlimited_bound :
    |a + (ρ * (1 + nextPpm T p a τ ℓ / 10 ^ 6) - 1) * τ'| ≤ 4 / 5 * V + 2 * η := by
  have helapsed := abs_le.mp (elapsed_bound hρ hp hT hη hτ.1 hplant)
  have hmeasured := measured_bound hρ hp hT hη hτ.1 hplant
  have hρ' := abs_le.mp hρ
  have hτ₀ : 0 < τ := by linarith
  have hℓ : 0 < ℓ := by linarith
  have hV : 0 ≤ V := (abs_nonneg a).trans ha
  have hη₀ : 0 ≤ η := (abs_nonneg _).trans hplant
  -- what the last round leaves, and the share of the offset
  have hrest : |(ℓ - τ) * (1 - ρ * τ / ℓ) - (ℓ - ρ * (1 + p / 10 ^ 6) * τ)| ≤ V / 500 + η := by
    have hdiff : |ℓ - τ| ≤ 2 * V := by
      have hsum : ℓ - τ = a - b := by rw [hoffset]; ring
      rw [hsum]
      linarith [abs_sub a b]
    calc |(ℓ - τ) * (1 - ρ * τ / ℓ) - (ℓ - ρ * (1 + p / 10 ^ 6) * τ)|
        ≤ |(ℓ - τ) * (1 - ρ * τ / ℓ)| + |ℓ - ρ * (1 + p / 10 ^ 6) * τ| := abs_sub _ _
      _ = |ℓ - τ| * |1 - ρ * τ / ℓ| + |ℓ - ρ * (1 + p / 10 ^ 6) * τ| := by rw [abs_mul]
      _ ≤ 2 * V * (1 / 1000) + η := by gcongr
      _ = V / 500 + η := by ring
  have hshare : |1 - 3 / 10 * ρ * (τ' / T)| ≤ 791 / 1000 := by
    have hlower : 7 / 10 ≤ τ' / T := (le_div_iff₀ hT).mpr hτ'.1
    have hupper : τ' / T ≤ 13 / 10 := (div_le_iff₀ hT).mpr hτ'.2
    rw [abs_le]
    constructor <;> nlinarith
  have hratio : |τ' / τ| ≤ 13 / 7 := by
    have hτ'₀ : 0 < τ' := by linarith
    rw [abs_of_pos (div_pos hτ'₀ hτ₀), div_le_iff₀ hτ₀]
    linarith
  have hgain := gain_eq (ρ := ρ) (p := p) (τ := τ) hℓ.ne' hT.ne' a
  generalize (ℓ - τ) * (1 - ρ * τ / ℓ) - (ℓ - ρ * (1 + p / 10 ^ 6) * τ) = rest at hrest hgain
  have hsplit : a + (ρ * (1 + nextPpm T p a τ ℓ / 10 ^ 6) - 1) * τ' =
      (1 - 3 / 10 * ρ * (τ' / T)) * a + τ' / τ * rest := by
    unfold nextPpm
    have hrate : ρ * (1 + (p - 3 * 10 ^ 5 / T * a + 10 ^ 6 * (τ / ℓ - 1)) / 10 ^ 6) - 1 =
        (rest - 3 / 10 * ρ * a / T * τ) / τ := by
      rw [← hgain]
      field_simp
    rw [hrate]
    field_simp
    ring
  rw [hsplit]
  calc |(1 - 3 / 10 * ρ * (τ' / T)) * a + τ' / τ * rest|
      ≤ |(1 - 3 / 10 * ρ * (τ' / T)) * a| + |τ' / τ * rest| := abs_add_le _ _
    _ = |1 - 3 / 10 * ρ * (τ' / T)| * |a| + |τ' / τ| * |rest| := by rw [abs_mul, abs_mul]
    _ ≤ 791 / 1000 * V + 13 / 7 * (V / 500 + η) := by gcongr
    _ ≤ 4 / 5 * V + 2 * η := by linarith

/-- **One round.** The next offset is a share of the last two, or the correction is at its limit and the
offset has come closer to zero. -/
theorem round_bound {ℓ' : ℚ}
    (hplant' : |ℓ' - ρ * (1 + Clock.clampPpm (nextPpm T p a τ ℓ) / 10 ^ 6) * τ'| ≤ η) :
    |a + ℓ' - τ'| ≤ max (15 * η + 4 / 5 * (V - 15 * η)) (V - T / 20000) := by
  have hunlimited := abs_le.mp (unlimited_bound hρ hp hT hη hτ hplant hoffset ha hb hτ')
  have hρ' := abs_le.mp hρ
  have ha' := abs_le.mp ha
  have hτ'₀ : 0 < τ' := by linarith
  have hplant'' := abs_le.mp hplant'
  generalize nextPpm T p a τ ℓ = next at hunlimited hplant''
  rcases clampPpm_cases next with ⟨hhigh, hclamp⟩ | ⟨hlow, hclamp⟩ | ⟨-, hclamp⟩
  · -- the clock is as fast as it can be: it gains, but no more than it should
    rw [hclamp] at hplant''
    have hless : ρ * (1 + 250 / 10 ^ 6) * τ' ≤ ρ * (1 + next / 10 ^ 6) * τ' := by
      have hpos : 0 ≤ ρ * τ' := mul_nonneg (by linarith) hτ'₀.le
      nlinarith
    have hgain : 14 / 10 ^ 5 * τ' ≤ ρ * (1 + 250 / 10 ^ 6) * τ' - τ' := by nlinarith
    exact abs_le'.mpr ⟨le_max_of_le_left (by linarith), le_max_of_le_right (by linarith)⟩
  · -- as slow as it can be
    rw [hclamp] at hplant''
    have hless : ρ * (1 + next / 10 ^ 6) * τ' ≤ ρ * (1 + -250 / 10 ^ 6) * τ' := by
      have hpos : 0 ≤ ρ * τ' := mul_nonneg (by linarith) hτ'₀.le
      nlinarith
    have hgain : ρ * (1 + -250 / 10 ^ 6) * τ' - τ' ≤ -(14 / 10 ^ 5) * τ' := by nlinarith
    exact abs_le'.mpr ⟨le_max_of_le_right (by linarith), le_max_of_le_left (by linarith)⟩
  · rw [hclamp] at hplant''
    refine le_max_of_le_left (abs_le.mpr ⟨?_, ?_⟩) <;> linarith

end Next

end Round

/-! ### The loop -/

/-- A clock under control: `e` is its offset, `p` its correction, and `τ` and `ℓ` are the master time and the
local time between two Syncs. Without correction the clock would run at `ρ` times the rate of the master; what
it does otherwise than that, including what is due to rounding and jitter, is at most `η` in one interval. -/
structure Loop (ρ T η : ℚ) (e p τ ℓ : ℕ → ℚ) (n : ℕ) : Prop where
  offset : ∀ k < n, e (k + 1) = e k + ℓ k - τ k
  plant : ∀ k < n, |ℓ k - ρ * (1 + p k / 10 ^ 6) * τ k| ≤ η
  interval : ∀ k < n, 7 / 10 * T ≤ τ k ∧ τ k ≤ 13 / 10 * T
  limits : ∀ k < n, |p k| ≤ 250
  servo : ∀ k, k + 1 < n → p (k + 1) = Clock.clampPpm (nextPpm T (p k) (e (k + 1)) (τ k) (ℓ k))

theorem Loop.settles {ρ T η : ℚ} {e p τ ℓ : ℕ → ℚ} {n : ℕ} (h : Loop ρ T η e p τ ℓ n)
    (hρ : |ρ - 1| ≤ 1 / 10 ^ 4) (hT : 0 < T) (hη : η ≤ T / 25000) :
    Settles (4 / 5) (15 * η) (T / 20000) e n := by
  intro k hk
  have hplant := h.plant (k + 1) hk
  rw [h.servo k hk] at hplant
  rw [h.offset (k + 1) hk]
  exact round_bound hρ (h.limits k (by omega)) hT hη (h.interval k (by omega)) (h.plant k (by omega))
    (h.offset k (by omega)) (le_max_right _ _) (le_max_left _ _) (h.interval (k + 1) hk) hplant

/-! ### Arithmetic of the daemon -/

/-- `1 / syncPerSec` in nanoseconds. -/
def syncPeriod (interval : Int8) : ℚ := 10 ^ 9 * 2 ^ interval.toInt

theorem syncPeriod_pos (interval : Int8) : 0 < syncPeriod interval := by
  exact mul_pos (by norm_num) (zpow_pos (by norm_num) _)

/-- The time between two timestamps. -/
theorem toNat_toNs_sub {s t : Timestamp} (hle : s.value ≤ t.value) (hlt : t.value < 2 ^ 63) :
    (t.toNs - s.toNs).toNat = t.value - s.value := by
  have hs : s.toNs.toNat = s.value := by
    rw [Timestamp.toNat_toNs, Nat.mod_eq_of_lt (by omega)]
  have ht : t.toNs.toNat = t.value := by
    rw [Timestamp.toNat_toNs, Nat.mod_eq_of_lt (by omega)]
  rw [UInt64.toNat_sub_of_le _ _ (by rw [UInt64.le_iff_toNat_le, hs, ht]; exact hle), hs, ht]

theorem elapsedRatio_eq {m m' l l' : Timestamp} (hm : m.value < m'.value) (hl : l.value < l'.value)
    (hm' : m'.value < 2 ^ 63) (hl' : l'.value < 2 ^ 63) :
    (elapsedRatio (m'.toNs - m.toNs) (l'.toNs - l.toNs) : ℚ) =
      ((m'.value : ℚ) - m.value) / (l'.value - l.value) := by
  have hnum := toNat_toNs_sub hm.le hm'
  have hden := toNat_toNs_sub hl.le hl'
  have hnonzero : l'.toNs - l.toNs ≠ 0 := by
    intro hzero
    rw [hzero] at hden
    exact absurd hden (Nat.sub_pos_of_lt hl).ne
  unfold elapsedRatio
  rw [if_pos hnonzero, hnum, hden]
  change ((m'.value - m.value : ℕ) : ℚ) / ((l'.value - l.value : ℕ) : ℚ) = _
  rw [Nat.cast_sub hm.le, Nat.cast_sub hl.le]

theorem integratePpm_eq {offset : Int64} {e : ℤ} (he : offset.toInt = e) (hmin : -2 ^ 63 < e)
    (rate : ℚ) (interval : Int8) (ppm : ℚ) :
    Clock.integratePpm offset rate interval ppm =
      ppm - 3 * 10 ^ 5 / syncPeriod interval * e + 10 ^ 6 * (rate - 1) := by
  have hneg : (-offset).toInt = -e := by rw [toInt_neg_of_ne (by omega), he]
  unfold Clock.integratePpm
  dsimp only [Platform.ofRat, Platform.toFloat, Platform.mul, Platform.add, Platform.sub]
  rw [hneg, syncPeriod, zpow_neg]
  push_cast
  have hpow : (2 : ℚ) ^ interval.toInt ≠ 0 := zpow_ne_zero _ (by norm_num)
  field_simp
  ring

theorem clampPpm_of_le {x : ℚ} (hx : |x| ≤ 250) : Clock.clampPpm x = x := by
  have hx' := abs_le.mp hx
  rcases clampPpm_cases x with ⟨hhigh, -⟩ | ⟨hlow, -⟩ | ⟨-, hclamp⟩
  · exact absurd hhigh (not_lt.mpr hx'.2)
  · exact absurd hlow (not_lt.mpr hx'.1)
  · exact hclamp

theorem Syntonization.correct_baseline (offset : Int64) (rate : ℚ) (interval : Int8)
    (s : Syntonization ℚ) :
    (s.correct offset rate interval).prevMasterTime = s.prevMasterTime ∧
      (s.correct offset rate interval).prevSyncTime = s.prevSyncTime ∧
      (s.correct offset rate interval).masterLocalFreqOffsetInit = s.masterLocalFreqOffsetInit := by
  unfold correct
  split <;> exact ⟨rfl, rfl, rfl⟩

/-- The time of the master at the last Follow_Up that was used. -/
def Syntonization.masterTime (s : Syntonization ℚ) : ℚ := s.prevMasterTime.value

/-- The local time at the last Follow_Up that was used. -/
def Syntonization.syncTime (s : Syntonization ℚ) : ℚ := s.prevSyncTime.value

/-- The offset that was computed from the last Follow_Up that was used. -/
def Syntonization.offset (s : Syntonization ℚ) : ℚ := s.syncTime - s.masterTime

/-- A clock that is being disciplined: it has a baseline for the rate of the master, a correction within
the limits, and no phase step is due. -/
structure Syntonization.Disciplined (s : Syntonization ℚ) : Prop where
  baseline : s.masterLocalFreqOffsetInit = true
  limits : |s.ppm| ≤ 250
  count : s.phaseErrorViolation ≤ 6

/-- `s'` is what the servo makes of `s`, with Syncs at intervals of `T`. -/
def Syntonization.Follows (T : ℚ) (s s' : Syntonization ℚ) : Prop :=
  s'.ppm = Clock.clampPpm
    (nextPpm T s.ppm s'.offset (s'.masterTime - s.masterTime) (s'.syncTime - s.syncTime))

/-- **A Follow_Up closes the loop.** It steps no phase, the offset is the difference of the times it leaves as
the baseline, and the correction is that of the loop. -/
theorem Daemon.disciplined_of_offset {d : Daemon ℚ} {i : Input} {m : PTPMessageFollowUp}
    {linkSpeed : UInt32} {u : MasterOffset ℚ} {s s' : Syntonization ℚ}
    (hi : i.stimulus = .receive (.followUp m) linkSpeed)
    (hu : .setMasterOffset u ∈ (d.step i).effects) (hsyntonize : d.clock.cfg.syntonize = true)
    (hsetPoint : d.clock.newSyntonizationSetPoint = false) (hs : d.syntonization = s)
    (hs' : (d.step i).syntonization = s') (hd : s.Disciplined) (hmaster : s.masterTime < s'.masterTime)
    (hsync : s.syncTime < s'.syncTime) (hmaster' : s'.masterTime < 2 ^ 63)
    (hsync' : s'.syncTime < 2 ^ 63) :
    (d.step i).phaseSteps = [] ∧ (u.masterLocalOffset.toInt : ℚ) = s'.offset ∧
      (|s'.offset| ≤ 10 ^ 9 →
        s'.Disciplined ∧ s.Follows (syncPeriod d.port.logMeanSyncInterval) s') := by
  subst hs
  obtain ⟨hsteps, origin, rate, hoffset, hrate, hsame⟩ :=
    syntonized_of_offset hi hu hsyntonize ⟨hsetPoint, hd.count⟩
  obtain ⟨-, hrate⟩ := hrate hd.baseline
  rw [hs'] at hsame
  -- the new baseline
  obtain ⟨horigin, harrival, hinit⟩ := Syntonization.correct_baseline u.masterLocalOffset rate
    d.port.logMeanSyncInterval ⟨d.clock.ppm, d.clock.phaseErrorViolation, true, origin, u.localTime⟩
  rw [← hsame] at horigin harrival hinit
  obtain rfl : s'.prevMasterTime = origin := horigin
  have harrival : s'.prevSyncTime = u.localTime := harrival
  rw [← harrival] at hoffset hrate hsame
  have hm : d.clock.prevMasterTime.value < s'.prevMasterTime.value := Nat.cast_lt.mp hmaster
  have hl : d.clock.prevSyncTime.value < s'.prevSyncTime.value := Nat.cast_lt.mp hsync
  have hm' : s'.prevMasterTime.value < 2 ^ 63 := by
    unfold Syntonization.masterTime at hmaster'
    exact_mod_cast hmaster'
  have hl' : s'.prevSyncTime.value < 2 ^ 63 := by
    unfold Syntonization.syncTime at hsync'
    exact_mod_cast hsync'
  have hvalue : u.masterLocalOffset.toInt =
      (s'.prevSyncTime.value : ℤ) - s'.prevMasterTime.value := by
    rw [hoffset, Timestamp.toInt_toNs_sub_toNs, bmod_eq_self (by omega) (by omega)]
  have hlast : s'.offset = (u.masterLocalOffset.toInt : ℚ) := by
    rw [hvalue, Syntonization.offset, Syntonization.syncTime, Syntonization.masterTime]
    push_cast
    rfl
  refine ⟨hsteps, hlast.symm, fun hsmall => ?_⟩
  have hphase : isPhaseError u.masterLocalOffset = false := by
    rw [hlast] at hsmall
    have habs : |u.masterLocalOffset.toInt| ≤ 10 ^ 9 := by exact_mod_cast hsmall
    rw [Int.abs_eq_natAbs] at habs
    exact decide_eq_false (not_lt.mpr (by exact_mod_cast habs))
  rw [elapsedRatio_eq hm hl hm' hl'] at hrate
  have hnext : nextPpm (syncPeriod d.port.logMeanSyncInterval) d.clock.ppm s'.offset
      (s'.masterTime - d.syntonization.masterTime) (s'.syncTime - d.syntonization.syncTime) =
      Clock.integratePpm u.masterLocalOffset rate d.port.logMeanSyncInterval d.clock.ppm := by
    rw [integratePpm_eq rfl (by omega), hrate, hlast]
    rfl
  have hppm : s'.ppm = _ := congrArg Syntonization.ppm hsame
  have hcount : s'.phaseErrorViolation = _ := congrArg Syntonization.phaseErrorViolation hsame
  unfold Syntonization.correct at hppm hcount
  rw [hphase] at hppm hcount
  change _ ∧ s'.ppm = Clock.clampPpm (nextPpm _ d.clock.ppm _ _ _)
  rw [hnext]
  split at hppm
  · -- nothing to correct
    rename_i hzero
    rw [if_pos hzero] at hcount
    have hkeep : Clock.integratePpm u.masterLocalOffset rate d.port.logMeanSyncInterval d.clock.ppm =
        d.clock.ppm := by
      rw [integratePpm_eq rfl (by omega), hzero.1, hzero.2]
      simp
    have hlimits : |d.clock.ppm| ≤ 250 := hd.limits
    rw [hkeep, clampPpm_of_le hlimits]
    exact ⟨⟨hinit, hppm ▸ hd.limits, hcount.trans_le hd.count⟩, hppm⟩
  · rename_i hnonzero
    rw [if_neg hnonzero] at hcount
    have hclamp : s'.ppm = Clock.clampPpm
        (Clock.integratePpm u.masterLocalOffset rate d.port.logMeanSyncInterval d.clock.ppm) := hppm
    refine ⟨⟨hinit, hclamp ▸ abs_clampPpm_le _, ?_⟩, hclamp⟩
    rw [hcount]
    exact Nat.zero_le 6

/-! ### Runs -/

/-- How many steps of a run have been taken after the first `m` of the steps `t`. -/
def after (t : ℕ → ℕ) : ℕ → ℕ
  | 0 => 0
  | m + 1 => t m + 1

/-- The servo of a run after the first `m` of the steps `t`. -/
def servoAfter (d : Daemon ℚ) (σ : ℕ → Input) (t : ℕ → ℕ) (m : ℕ) : Syntonization ℚ :=
  ((machine ℚ).stateAt d σ (after t m)).syntonization

/-- `t` are the steps of a run, up to `n` of them, at which a Follow_Up arrives. An offset is computed from
each one, and nothing else interferes with the servo: no phase step is asked for, and the interval between
Syncs stays as it is. -/
structure SyncRun (d : Daemon ℚ) (σ : ℕ → Input) (t : ℕ → ℕ) (n : ℕ) : Prop where
  syntonize : d.clock.cfg.syntonize = true
  start : d.syntonization.Disciplined
  ordered : ∀ m < n, after t m ≤ t m
  followUp : ∀ m < n, ∃ msg linkSpeed, (σ (t m)).stimulus = .receive (.followUp msg) linkSpeed
  offset : ∀ m < n, ∃ u, .setMasterOffset u ∈ ((machine ℚ).stateAt d σ (t m + 1)).effects
  other : ∀ m < n, ∀ k, after t m ≤ k → k < t m →
    ∀ msg linkSpeed, (σ k).stimulus ≠ .receive (.followUp msg) linkSpeed
  setPoint : ∀ m < n, ((machine ℚ).stateAt d σ (t m)).clock.newSyntonizationSetPoint = false
  interval : ∀ m < n,
    ((machine ℚ).stateAt d σ (t m)).port.logMeanSyncInterval = d.port.logMeanSyncInterval

/-- The clock of such a run. Without correction it runs at `ρ` times the rate of the master, which is within
100 ppm of it. Syncs come at their interval, up to 30%, and local time elapses as the correction that is in
force says, up to `η`, which is at most 40 microseconds in a second. -/
structure Oscillator (d : Daemon ℚ) (σ : ℕ → Input) (t : ℕ → ℕ) (n : ℕ) (ρ η : ℚ) : Prop where
  rate : |ρ - 1| ≤ 1 / 10 ^ 4
  noise : η ≤ syncPeriod d.port.logMeanSyncInterval / 25000
  threshold : 15 * η ≤ 10 ^ 9
  start : |(servoAfter d σ t 0).offset| ≤ 10 ^ 9 ∧ |(servoAfter d σ t 1).offset| ≤ 10 ^ 9
  range : ∀ m ≤ n, (servoAfter d σ t m).masterTime < 2 ^ 63 ∧ (servoAfter d σ t m).syncTime < 2 ^ 63
  period : ∀ m < n,
    7 / 10 * syncPeriod d.port.logMeanSyncInterval ≤
        (servoAfter d σ t (m + 1)).masterTime - (servoAfter d σ t m).masterTime ∧
      (servoAfter d σ t (m + 1)).masterTime - (servoAfter d σ t m).masterTime ≤
        13 / 10 * syncPeriod d.port.logMeanSyncInterval
  elapsed : ∀ m < n,
    |(servoAfter d σ t (m + 1)).syncTime - (servoAfter d σ t m).syncTime -
      ρ * (1 + (servoAfter d σ t m).ppm / 10 ^ 6) *
        ((servoAfter d σ t (m + 1)).masterTime - (servoAfter d σ t m).masterTime)| ≤ η

namespace SyncRun

variable {d : Daemon ℚ} {σ : ℕ → Input} {t : ℕ → ℕ} {n m : ℕ} {ρ η : ℚ}

/-- Between two Follow_Ups the servo rests. -/
theorem servo_eq (h : SyncRun d σ t n) (hm : m < n) :
    ((machine ℚ).stateAt d σ (t m)).syntonization = servoAfter d σ t m := by
  refine Machine.invariant_from (M := machine ℚ)
    (P := fun d' => d'.syntonization = servoAfter d σ t m) (h.ordered m hm) rfl ?_
  intro k hfrom hto hk
  exact (Daemon.syntonization_step (h.other m hm k hfrom hto)).trans hk

/-- **One Follow_Up of a run.** -/
theorem servo_succ (h : SyncRun d σ t n) (hosc : Oscillator d σ t n ρ η) (hm : m < n)
    (hd : (servoAfter d σ t m).Disciplined) {u : MasterOffset ℚ}
    (hu : .setMasterOffset u ∈ ((machine ℚ).stateAt d σ (t m + 1)).effects) :
    ((machine ℚ).stateAt d σ (t m + 1)).phaseSteps = [] ∧
      (u.masterLocalOffset.toInt : ℚ) = (servoAfter d σ t (m + 1)).offset ∧
      (|(servoAfter d σ t (m + 1)).offset| ≤ 10 ^ 9 → (servoAfter d σ t (m + 1)).Disciplined ∧
        (servoAfter d σ t m).Follows (syncPeriod d.port.logMeanSyncInterval)
          (servoAfter d σ t (m + 1))) := by
  obtain ⟨msg, linkSpeed, hmsg⟩ := h.followUp m hm
  have hT := syncPeriod_pos d.port.logMeanSyncInterval
  have hperiod := (hosc.period m hm).1
  have helapsed := abs_le.mp
    (elapsed_bound hosc.rate hd.limits hT hosc.noise hperiod (hosc.elapsed m hm))
  have hrange := hosc.range (m + 1) hm
  have hcfg := (stateAt_cfg d σ (t m)).1
  have hclosed := Daemon.disciplined_of_offset hmsg hu (hcfg ▸ h.syntonize) (h.setPoint m hm)
    (h.servo_eq hm) (rfl : _ = servoAfter d σ t (m + 1)) hd (by linarith) (by linarith)
    hrange.1 hrange.2
  rwa [h.interval m hm] at hclosed

/-- While the daemon is in control, the clock is the loop. -/
theorem settles (hosc : Oscillator d σ t n ρ η) (hm : m < n)
    (hd : ∀ k ≤ m, (servoAfter d σ t k).Disciplined)
    (hfollows : ∀ k < m, (servoAfter d σ t k).Follows (syncPeriod d.port.logMeanSyncInterval)
      (servoAfter d σ t (k + 1))) :
    Settles (4 / 5) (15 * η) (syncPeriod d.port.logMeanSyncInterval / 20000)
      (fun k => (servoAfter d σ t k).offset) (m + 1) := by
  have hloop : Loop ρ (syncPeriod d.port.logMeanSyncInterval) η
      (fun k => (servoAfter d σ t k).offset) (fun k => (servoAfter d σ t k).ppm)
      (fun k => (servoAfter d σ t (k + 1)).masterTime - (servoAfter d σ t k).masterTime)
      (fun k => (servoAfter d σ t (k + 1)).syncTime - (servoAfter d σ t k).syncTime) (m + 1) := by
    refine ⟨fun k _ => ?_, fun k hk => hosc.elapsed k (by omega), fun k hk => hosc.period k (by omega),
      fun k hk => (hd k (by omega)).limits, fun k hk => hfollows k (by omega)⟩
    unfold Syntonization.offset
    ring
  exact hloop.settles hosc.rate (syncPeriod_pos _) hosc.noise

/-- What the rounds up to now say of the next offset. -/
theorem span_le (hosc : Oscillator d σ t n ρ η) (hm : m < n)
    (hd : ∀ k ≤ m, (servoAfter d σ t k).Disciplined)
    (hfollows : ∀ k < m, (servoAfter d σ t k).Follows (syncPeriod d.port.logMeanSyncInterval)
      (servoAfter d σ t (k + 1))) :
    |(servoAfter d σ t (m + 1)).offset| ≤
      max (span (fun k => (servoAfter d σ t k).offset) 0) (15 * η) := by
  have hslew : 0 < syncPeriod d.port.logMeanSyncInterval / 20000 :=
    div_pos (syncPeriod_pos _) (by norm_num)
  exact (le_max_right _ _).trans ((settles hosc hm hd hfollows).span_le_max (by norm_num)
    (by norm_num) hslew le_rfl)

/-- **The daemon keeps control.** No phase step becomes due, and each correction is that of the loop. -/
theorem disciplined (h : SyncRun d σ t n) (hosc : Oscillator d σ t n ρ η) (hm : m ≤ n) :
    (∀ k ≤ m, (servoAfter d σ t k).Disciplined) ∧
      ∀ k < m, (servoAfter d σ t k).Follows (syncPeriod d.port.logMeanSyncInterval)
        (servoAfter d σ t (k + 1)) := by
  induction m with
  | zero =>
    refine ⟨fun k hk => ?_, fun k hk => absurd hk k.not_lt_zero⟩
    rw [Nat.le_zero.mp hk]
    exact h.start
  | succ m ih =>
    obtain ⟨hd, hfollows⟩ := ih (Nat.le_of_succ_le hm)
    -- the offset is within the threshold, so that the next Follow_Up is integrated
    have hsmall : |(servoAfter d σ t (m + 1)).offset| ≤ 10 ^ 9 := by
      refine (span_le hosc hm hd hfollows).trans (max_le ?_ hosc.threshold)
      exact max_le hosc.start.1 hosc.start.2
    obtain ⟨u, hu⟩ := h.offset m hm
    obtain ⟨-, -, hnext⟩ := h.servo_succ hosc hm (hd m le_rfl) hu
    obtain ⟨hd', hfollows'⟩ := hnext hsmall
    refine ⟨fun k hk => ?_, fun k hk => ?_⟩
    · rcases Nat.le_succ_iff.mp hk with hk | rfl
      · exact hd k hk
      · exact hd'
    · rcases Nat.lt_succ_iff_lt_or_eq.mp hk with hk | rfl
      · exact hfollows k hk
      · exact hfollows'

end SyncRun

/-- **The servo settles.** However the Follow_Ups of a run fall among its other steps, the offsets that are
computed from them stay within the first two and `15 * η`, no Follow_Up steps the phase, and none leaves a
phase step due. After `2 * i` Follow_Ups, where `i` is such that a slew of 50 ppm for `i` intervals makes up
for the first offsets, up to 250 microseconds in a second, what they exceed `15 * η` by shrinks by a fifth
with every two Follow_Ups.

This is about a daemon that syntonizes, has a baseline for the rate of the master, a correction within
250 ppm and at most six phase errors in a row when the run starts. An offset is computed from every
Follow_Up, no new set point is asked for, and the interval between Syncs is not changed (`SyncRun`). The
clock is off by at most 100 ppm, Syncs come at their interval `T` up to 30%, and what is not the rate is at
most `η` in an interval, where `η ≤ T / 25000` and `15 * η` is at most a second; the first two offsets are at
most a second, and all times are below `2 ^ 63` nanoseconds (`Oscillator`). -/
theorem servo_settles {d : Daemon ℚ} {σ : ℕ → Input} {t : ℕ → ℕ} {n : ℕ} {ρ η : ℚ}
    (h : SyncRun d σ t n) (hosc : Oscillator d σ t n ρ η) {m : ℕ} (hm : m < n) {u : MasterOffset ℚ}
    (hu : .setMasterOffset u ∈ ((machine ℚ).stateAt d σ (t m + 1)).effects) :
    |(u.masterLocalOffset.toInt : ℚ)| ≤
        max (span (fun k => (servoAfter d σ t k).offset) 0) (15 * η) ∧
      (((machine ℚ).stateAt d σ (t m + 1)).phaseSteps = [] ∧
        (servoAfter d σ t (m + 1)).phaseErrorViolation ≤ 6) ∧
      ∀ i j : ℕ, 2 * i + 2 * j ≤ m →
        span (fun k => (servoAfter d σ t k).offset) 0 - 15 * η -
            i * (syncPeriod d.port.logMeanSyncInterval / 20000) ≤
          syncPeriod d.port.logMeanSyncInterval / 4000 →
        |(u.masterLocalOffset.toInt : ℚ)| ≤
          15 * η + (4 / 5) ^ j * (syncPeriod d.port.logMeanSyncInterval / 4000) := by
  obtain ⟨hd, hfollows⟩ := h.disciplined hosc hm.le
  have hnext := (h.disciplined hosc hm).1 (m + 1) le_rfl
  obtain ⟨hsteps, hoffset, -⟩ := h.servo_succ hosc hm (hd m le_rfl) hu
  rw [hoffset]
  refine ⟨SyncRun.span_le hosc hm hd hfollows, ⟨hsteps, hnext.count⟩, fun i j hij hi => ?_⟩
  have hslew : 0 < syncPeriod d.port.logMeanSyncInterval / 20000 :=
    div_pos (syncPeriod_pos _) (by norm_num)
  have hlimit : syncPeriod d.port.logMeanSyncInterval / 20000 / (1 - 4 / 5) =
      syncPeriod d.port.logMeanSyncInterval / 4000 := by ring
  have hsettled := (SyncRun.settles hosc hm hd hfollows).span_le_of_le (by norm_num) (by norm_num)
    hslew (hlimit ▸ hi) hij le_rfl
  rw [hlimit] at hsettled
  exact (le_max_right _ _).trans hsettled

/-- A time in nanoseconds. -/
def driftingTime (ns : ℕ) : Timestamp := ⟨.ofNat (ns % 10 ^ 9), .ofNat (ns / 10 ^ 9), 0, 0⟩

/-- When the Syncs arrive at a clock that is 50 ppm fast, by that clock. -/
def driftingArrival : ℕ → ℕ
  | 0 => 1500000000
  | 1 => 1625006250
  | 2 => 1750004375
  | _ => 1875003062

/-- A Follow_Up of a master that sends eight Syncs in a second, over a link with a delay of
100 nanoseconds. -/
def driftingFollowUp (m : ℕ) : PTPMessageFollowUp :=
  { neighborFollowUp (.ofNat m) with
    preciseOriginTimestamp := driftingTime (1499999900 + m * 125000000) }

/-- The Syncs and their Follow_Ups. -/
def driftingInput (k : ℕ) : Input :=
  if k % 2 = 0 then
    .message (.sync { neighborSync (.ofNat (k / 2)) with
      timestamp := driftingTime (driftingArrival (k / 2)) })
  else .message (.followUp (driftingFollowUp (k / 2)))

/-- A slave after the first Sync and its Follow_Up. -/
def driftingSlave : Daemon ℚ :=
  (machine ℚ).stateAt { Start.capable (some .ptpSlave) with
    clockConfig := { ClockConfig.standard localIdentity with syntonize := true } }.daemon driftingInput 2

theorem syncRun_drifting :
    SyncRun driftingSlave (fun k => driftingInput (k + 2)) (fun m => 2 * m + 1) 3 where
  syntonize := by decide +kernel
  start := ⟨by decide +kernel, by decide +kernel, by decide +kernel⟩
  ordered m _ := by
    cases m with
    | zero => exact Nat.zero_le 1
    | succ m => exact Nat.le_succ _
  followUp m _ := by
    refine ⟨driftingFollowUp ((2 * m + 3) / 2), invalidLinkSpeed, ?_⟩
    show (driftingInput (2 * m + 3)).stimulus = _
    unfold driftingInput
    rw [if_neg (by omega)]
    rfl
  offset m hm := by
    have hoffset : ∀ m < 3, ∃ x ∈ ((machine ℚ).stateAt driftingSlave (fun k => driftingInput (k + 2))
        (2 * m + 1 + 1)).effects, x.isMasterOffset = true := by decide +kernel
    exact exists_masterOffset (hoffset m hm)
  other m hm k hfrom hto := by
    -- the only step between two Follow_Ups is a Sync
    obtain rfl : k = 2 * m := by
      cases m with
      | zero => omega
      | succ m =>
        change 2 * m + 1 + 1 ≤ k at hfrom
        omega
    show ∀ msg linkSpeed, (driftingInput (2 * m + 2)).stimulus ≠ _
    unfold driftingInput
    rw [if_pos (by omega)]
    rintro msg linkSpeed ⟨⟩
  setPoint := by decide +kernel
  interval := by decide +kernel

theorem oscillator_drifting : Oscillator driftingSlave (fun k => driftingInput (k + 2))
    (fun m => 2 * m + 1) 3 (1 + 1 / 20000) 1 where
  rate := by decide +kernel
  noise := by decide +kernel
  threshold := by decide +kernel
  start := by decide +kernel
  range := by decide +kernel
  period := by decide +kernel
  elapsed := by decide +kernel

/-- Three Follow_Ups at a clock that is 50 ppm fast: the first offset of 6.25 microseconds is not exceeded,
and the phase is not stepped. -/
theorem servo_settles_drifting :
    ∃ u, .setMasterOffset u ∈ ((machine ℚ).stateAt driftingSlave (fun k => driftingInput (k + 2))
        (2 * 2 + 1 + 1)).effects ∧ |(u.masterLocalOffset.toInt : ℚ)| ≤ 6250 ∧
      ((machine ℚ).stateAt driftingSlave (fun k => driftingInput (k + 2)) (2 * 2 + 1 + 1)).phaseSteps =
        [] := by
  obtain ⟨u, hu⟩ := syncRun_drifting.offset 2 (by decide)
  obtain ⟨hbound, ⟨hsteps, -⟩, -⟩ := servo_settles syncRun_drifting oscillator_drifting (by decide) hu
  refine ⟨u, hu, hbound.trans ?_, hsteps⟩
  decide +kernel

end Gptp
