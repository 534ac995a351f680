import Gptp.Linux.TimerQueue
import Gptp.Port.StepFootprint
import Mathlib.Algebra.Order.Floor.Semifield
import Mathlib.Algebra.Order.Field.Power

/-!
# Re-arming the Sync interval timer

A master sends Sync messages from a timer that re-arms itself: the handler of the timer's event ends by
starting the timer again, with the current Sync interval. The interval is `2 ^ k` seconds for an 8-bit
`k` that any neighbour can set by a Signalling message. It is converted to nanoseconds, divided down to
microseconds and truncated to 32 bits, and a timer that is set to zero microseconds never expires. This
module determines the `k` for which that happens.

* `syncMicros_ne_zero_iff`: an interval whose nanoseconds fit 64 bits is armed with a positive number
  of microseconds exactly if `-20 < k < 26`.
* `syncTimerArmed_iff`: over a run, the timer is running after each of its events exactly if the
  interval was such whenever the event was handled.
-/

namespace Gptp

open Framework

variable {F : Type} [Platform F]

/-! ### The delay -/

variable (F) in
/-- `pow(2, k) * 10^9` converts to the integer below it, as long as that fits 64 bits. -/
def ConvertsExactly : Prop :=
  ∀ q : ℚ, 0 ≤ q → q < 2 ^ 64 → Platform.toU64 (Platform.ofRat q : F) = UInt64.ofNat ⌊q⌋₊

variable (F) in
/-- The microseconds that the Sync interval timer is armed with. -/
def syncMicros (k : Int8) : UInt32 := (Platform.toU64 (intervalNs F 1 k) / 1000).toUInt32

/-- Intervals of a second or more: the microseconds are a multiple of `2 ^ (k + 6)`. -/
theorem wholeSeconds_micros {n : ℕ} (hn : n < 35) :
    (2 ^ n * 10 ^ 9 / 1000 % 2 ^ 32 = 0) ↔ 26 ≤ n := by
  revert n
  decide +kernel

/-- Intervals of less than a second: there are `10 ^ 6` microseconds to divide. -/
theorem fraction_micros {n : ℕ} (hn : n < 129) :
    (10 ^ 9 / 2 ^ n / 1000 % 2 ^ 32 = 0) ↔ 20 ≤ n := by
  revert n
  decide +kernel

/-- The nanoseconds of an interval of `2 ^ n` seconds. -/
theorem floor_wholeSeconds (n : ℕ) : ⌊(1 : ℕ) * (2 : ℚ) ^ (n : ℤ) * 1000000000⌋₊ = 2 ^ n * 10 ^ 9 := by
  rw [zpow_natCast]
  have h : ((1 : ℕ) * (2 : ℚ) ^ n * 1000000000 : ℚ) = ((2 ^ n * 10 ^ 9 : ℕ) : ℚ) := by
    push_cast
    ring
  rw [h, Nat.floor_natCast]

/-- The nanoseconds of an interval of `2 ^ -n` seconds. -/
theorem floor_fraction (n : ℕ) :
    ⌊(1 : ℕ) * (2 : ℚ) ^ (-(n : ℤ)) * 1000000000⌋₊ = 10 ^ 9 / 2 ^ n := by
  have h : ((1 : ℕ) * (2 : ℚ) ^ (-(n : ℤ)) * 1000000000 : ℚ) =
      ((10 ^ 9 : ℕ) : ℚ) / ((2 ^ n : ℕ) : ℚ) := by
    rw [zpow_neg, zpow_natCast]
    push_cast
    ring
  rw [h, Nat.floor_div_eq_div]

/-- The nanoseconds of an interval of at most `2 ^ 34` seconds fit 64 bits. -/
theorem interval_lt {k : ℤ} (hk : k ≤ 34) : ((1 : ℕ) * (2 : ℚ) ^ k * 1000000000 : ℚ) < 2 ^ 64 := by
  have hpow : (2 : ℚ) ^ k ≤ 2 ^ (34 : ℤ) := zpow_le_zpow_right₀ (by norm_num) hk
  calc ((1 : ℕ) * (2 : ℚ) ^ k * 1000000000 : ℚ)
      = (2 : ℚ) ^ k * 1000000000 := by rw [Nat.cast_one, one_mul]
    _ ≤ 2 ^ (34 : ℤ) * 1000000000 := by gcongr
    _ < 2 ^ 64 := by norm_num

/-- The microseconds of an interval whose nanoseconds fit 64 bits. -/
theorem syncMicros_toNat (hexact : ConvertsExactly F) {k : Int8} (hk : k.toInt ≤ 34) :
    (syncMicros F k).toNat =
      ⌊(1 : ℕ) * (2 : ℚ) ^ k.toInt * 1000000000⌋₊ / 1000 % 2 ^ 32 := by
  have hpos : (0 : ℚ) ≤ (1 : ℕ) * (2 : ℚ) ^ k.toInt * 1000000000 := by positivity
  have hlt := interval_lt hk
  have hfloor : ⌊(1 : ℕ) * (2 : ℚ) ^ k.toInt * 1000000000⌋₊ < 2 ^ 64 := by
    rw [Nat.floor_lt hpos]
    exact_mod_cast hlt
  rw [syncMicros, intervalNs, hexact _ hpos hlt, UInt64.toNat_toUInt32, UInt64.toNat_div,
    UInt64.toNat_ofNat_of_lt' hfloor]
  rfl

/-- **Intervals that arm the timer.** An interval whose nanoseconds fit 64 bits is armed with a positive
number of microseconds exactly if it is longer than `2 ^ -20` and shorter than `2 ^ 26` seconds. -/
theorem syncMicros_ne_zero_iff (hexact : ConvertsExactly F) {k : Int8} (hk : k.toInt ≤ 34) :
    syncMicros F k ≠ 0 ↔ -20 < k.toInt ∧ k.toInt < 26 := by
  have hzero : syncMicros F k = 0 ↔ (syncMicros F k).toNat = 0 := by
    rw [← UInt32.toNat_inj]
    rfl
  rw [ne_eq, hzero, syncMicros_toNat hexact hk]
  -- the sign of the exponent decides whether the division is exact
  rcases Int.eq_nat_or_neg k.toInt with ⟨n, hn | hn⟩
  · rw [hn, floor_wholeSeconds, wholeSeconds_micros (by omega)]
    omega
  · have hmin := k.le_toInt
    rw [hn, floor_fraction, fraction_micros (by omega)]
    omega

/-! ### The handler -/

namespace Daemon

/-- A Sync interval timer is pending that was armed with a non-zero `it_value`. -/
def SyncTimerArmed (d : Daemon F) : Prop :=
  ∃ t ∈ d.timersOf .syncIntervalTimeoutExpires, ItValue.ofMicros t.micros.toNat ≠ ItValue.zero

instance (d : Daemon F) : Decidable d.SyncTimerArmed :=
  inferInstanceAs (Decidable (∃ t ∈ d.timersOf .syncIntervalTimeoutExpires, _))

/-- **The restarted timer.** The handler of the timer's event ends by arming the timer for the interval
it found. -/
theorem timersOf_syncInterval_self (env : Env) (d : Daemon F) :
    ∃ port, (d.syncInterval env).timersOf .syncIntervalTimeoutExpires =
      [⟨.syncIntervalTimeoutExpires, port, syncMicros F d.port.logMeanSyncInterval⟩] := by
  have hinterval : (d.syncInterval env).port.logMeanSyncInterval = d.port.logMeanSyncInterval :=
    d.modifies_syncInterval env .logMeanSyncInterval (by decide)
  unfold syncInterval at hinterval ⊢
  dsimp only at hinterval ⊢
  -- the interval is read last, from the state everything else has led to
  generalize (setMasterOffset (F := F) _ _).syncDone = d' at hinterval ⊢
  change d'.port.logMeanSyncInterval = _ at hinterval
  rw [startSyncIntervalTimer, timersOf_restartEventTimer_self, hinterval]
  exact ⟨_, rfl⟩

/-- After its event has been handled the timer is running exactly if the interval gives a positive
number of microseconds. -/
theorem syncTimerArmed_syncInterval (env : Env) (d : Daemon F) :
    (d.syncInterval env).SyncTimerArmed ↔ syncMicros F d.port.logMeanSyncInterval ≠ 0 := by
  obtain ⟨port, htimers⟩ := timersOf_syncInterval_self env d
  unfold SyncTimerArmed
  rw [htimers]
  simp only [List.mem_singleton, exists_eq_left, ne_eq, ItValue.ofMicros_eq_zero]
  rw [← UInt32.toNat_inj]
  rfl

end Daemon

/-! ### Runs -/

variable (F) in
/-- The Sync intervals for which the timer's event re-arms the timer: those between `2 ^ -20` and
`2 ^ 26` seconds. Beyond `2 ^ 34` seconds the nanoseconds do not fit 64 bits, and the platform decides. -/
def Rearms (k : Int8) : Prop :=
  -20 < k.toInt ∧ k.toInt < 26 ∨ 34 < k.toInt ∧ syncMicros F k ≠ 0

theorem rearms_iff (hexact : ConvertsExactly F) (k : Int8) : Rearms F k ↔ syncMicros F k ≠ 0 := by
  rcases le_or_gt k.toInt 34 with hk | hk
  · rw [syncMicros_ne_zero_iff hexact hk]
    constructor
    · rintro (h | h)
      · exact h
      · omega
    · exact .inl
  · constructor
    · rintro (h | h)
      · omega
      · exact h.2
    · exact fun h => .inr ⟨hk, h⟩

/-- **The Sync timer over a run.** After every handled SYNC_INTERVAL_TIMEOUT_EXPIRES a Sync interval
timer that will expire is pending exactly if the Sync interval was one that re-arms the timer whenever
the event was handled. -/
theorem syncTimerArmed_iff (hexact : ConvertsExactly F) (d₀ : Daemon F) (σ : ℕ → Input) (n : ℕ) :
    (∀ k < n, ((machine F).stateAt d₀ σ k).handledEvent (σ k) = some .syncIntervalTimeoutExpires →
      ((machine F).stateAt d₀ σ (k + 1)).SyncTimerArmed) ↔
    ∀ k < n, ((machine F).stateAt d₀ σ k).handledEvent (σ k) = some .syncIntervalTimeoutExpires →
      Rearms F ((machine F).stateAt d₀ σ k).port.logMeanSyncInterval := by
  refine forall₂_congr fun k _ => forall_congr' fun hhandled => ?_
  obtain ⟨d₁, -, hport, hstep⟩ := Daemon.step_of_handledEvent hhandled
  have harmed := Daemon.syncTimerArmed_syncInterval (σ k).env d₁
  rw [rearms_iff hexact, ← hport, ← harmed]
  exact iff_of_eq (congrArg Daemon.SyncTimerArmed hstep)

/-- Exact arithmetic converts exactly. -/
theorem convertsExactly_exact : ConvertsExactly ℚ := by
  intro q hq _
  change UInt64.ofInt (truncate q) = _
  rw [truncate, if_pos hq, ← Int.natCast_floor_eq_floor hq, UInt64.ofInt, ← UInt64.toNat_inj]
  simp only [UInt64.toNat_ofNat', Int.reducePow, Nat.reducePow]
  omega

/-- A port forced to be master is started and sent a Signalling message; then its Sync timer expires. -/
def signalledRun (timeSyncInterval : Int8) : ℕ → Input
  | 0 => .ofEvent .powerup
  | 1 => .message (.signalling (neighborSignalling sigMsgIntervalNoChange timeSyncInterval
      sigMsgIntervalNoChange))
  | _ => .expiry 1

/-- At eight Sync messages a second the timer is re-armed. -/
theorem eighth_syncTimerArmed :
    ((machine ℚ).stateAt (Start.capable (some .ptpMaster)).daemon (signalledRun (-3))
      3).SyncTimerArmed := by
  refine (syncTimerArmed_iff convertsExactly_exact _ (signalledRun (-3)) 3).mpr ?_ 2 (by decide)
    (by decide +kernel)
  intro k hk hhandled
  obtain rfl | rfl | rfl : k = 0 ∨ k = 1 ∨ k = 2 := by omega
  · cases hhandled
  · cases hhandled
  · exact .inl (by decide +kernel)

/-- **The stopped timer.** A signalled interval of `2 ^ -20` seconds leaves a master with a Sync timer
that was set to zero. -/
theorem signalled_syncTimer_stops :
    let d := (machine ℚ).stateAt (Start.capable (some .ptpMaster)).daemon (signalledRun (-20))
    (d 2).port.portState = .ptpMaster ∧
      (d 2).handledEvent (signalledRun (-20) 2) = some .syncIntervalTimeoutExpires ∧
      (d 3).port.portState = .ptpMaster ∧
      (d 3).timersOf .syncIntervalTimeoutExpires = [⟨.syncIntervalTimeoutExpires, 1, 0⟩] ∧
      ¬ (d 3).SyncTimerArmed := by
  decide +kernel

end Gptp
