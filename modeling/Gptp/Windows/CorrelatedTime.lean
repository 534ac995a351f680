import Gptp.Message.Nanoseconds
import Gptp.Wireless.TimingMeasurement

/-!
# Correlated times of the wireless adapter

A wireless adapter reports the time stamp counter of the processor together with its own clock. The counter
is converted to nanoseconds by `scale64`, which divides before it multiplies and accounts for the remainder
separately. So no product is larger than the result needs, and the result is exact whenever it fits in
64 bits.

* `toNat_scale64`: the scaled number is the quotient of the product, modulo `2 ^ 64`.
* `scale64_le_scale64`: it is monotone as far as it fits; over all 64-bit numbers it is monotone only if it
  does not scale up (`scale64_monotone_iff`).
* `wirelessTimestamperCallback`: what the events of the driver do to the timestamper and to its port.
* `systemCounter_le_of_run`: along any run of events, the system counter follows the time stamp counter.
* `value_deviceTime_correlate`: the device time is scaled twice, so it runs at ten times the pace of the
  times that confirmations and indications report.
-/

namespace Gptp

open Framework

/-- `scale64`. -/
def scale64 (i : UInt64) (m n : UInt32) : UInt64 :=
  let rem := i % n.toUInt64
  let i := i / n.toUInt64
  let res := i * m.toUInt64
  let tmp := rem * m.toUInt64
  let tmp := tmp / n.toUInt64
  res + tmp

/-! ### Scaling -/

/-- A product is divided by dividing one factor first, if the remainder is not forgotten. -/
theorem div_mul_add_mod_mul_div (i m : ℕ) {n : ℕ} (hn : 0 < n) :
    i / n * m + i % n * m / n = i * m / n :=
  calc i / n * m + i % n * m / n
      = (i % n * m + n * (i / n * m)) / n := by rw [Nat.add_mul_div_left _ _ hn, add_comm]
    _ = (i % n + n * (i / n)) * m / n := by rw [add_mul, mul_assoc]
    _ = i * m / n := by rw [Nat.mod_add_div]

section Scale

variable {i i' : UInt64} {m n : UInt32}

/-- The product with the remainder always fits. -/
theorem toNat_rem_mul (i : UInt64) (m : UInt32) (hn : 0 < n.toNat) :
    (i % n.toUInt64 * m.toUInt64).toNat = i.toNat % n.toNat * m.toNat := by
  have hn' := n.toNat_lt
  have hm := m.toNat_lt
  have hrem : i.toNat % n.toNat < n.toNat := Nat.mod_lt _ hn
  have hlt : i.toNat % n.toNat * m.toNat < 2 ^ 32 * 2 ^ 32 :=
    Nat.mul_lt_mul'' (hrem.trans hn') hm
  rw [UInt64.toNat_mul, UInt64.toNat_mod, UInt32.toNat_toUInt64, UInt32.toNat_toUInt64]
  exact Nat.mod_eq_of_lt hlt

theorem toNat_scale64 (i : UInt64) (m : UInt32) (hn : 0 < n.toNat) :
    (scale64 i m n).toNat = i.toNat * m.toNat / n.toNat % 2 ^ 64 := by
  rw [scale64, UInt64.toNat_add, UInt64.toNat_div, toNat_rem_mul i m hn, UInt64.toNat_mul,
    UInt64.toNat_div, UInt32.toNat_toUInt64, UInt32.toNat_toUInt64, Nat.mod_add_mod,
    div_mul_add_mod_mul_div _ _ hn]

theorem toNat_scale64_of_lt (hn : 0 < n.toNat) (hfits : i.toNat * m.toNat / n.toNat < 2 ^ 64) :
    (scale64 i m n).toNat = i.toNat * m.toNat / n.toNat := by
  rw [toNat_scale64 i m hn, Nat.mod_eq_of_lt hfits]

/-- Scaling is monotone as far as its results fit. -/
theorem scale64_le_scale64 (hn : 0 < n.toNat) (h : i ≤ i')
    (hfits : i'.toNat * m.toNat / n.toNat < 2 ^ 64) : scale64 i m n ≤ scale64 i' m n := by
  have hle : i.toNat * m.toNat / n.toNat ≤ i'.toNat * m.toNat / n.toNat :=
    Nat.div_le_div_right (Nat.mul_le_mul_right _ (UInt64.le_iff_toNat_le.mp h))
  rw [UInt64.le_iff_toNat_le, toNat_scale64_of_lt hn (hle.trans_lt hfits), toNat_scale64_of_lt hn hfits]
  exact hle

/-- A number that is scaled down fits. -/
theorem scaled_lt_of_le (i : UInt64) (hn : 0 < n.toNat) (hmn : m.toNat ≤ n.toNat) :
    i.toNat * m.toNat / n.toNat < 2 ^ 64 :=
  calc i.toNat * m.toNat / n.toNat
      ≤ i.toNat * n.toNat / n.toNat := Nat.div_le_div_right (Nat.mul_le_mul_left _ hmn)
    _ = i.toNat := Nat.mul_div_cancel _ hn
    _ < 2 ^ 64 := i.toNat_lt

/-- Scaling up goes beyond 64 bits. -/
theorem le_scaled_of_lt (hn : 0 < n.toNat) (hnm : n.toNat < m.toNat) :
    2 ^ 64 ≤ (2 ^ 64 - 1) * m.toNat / n.toNat := by
  have hlt := n.toNat_lt
  rw [Nat.le_div_iff_mul_le hn]
  calc 2 ^ 64 * n.toNat
      ≤ (2 ^ 64 - 1) * (n.toNat + 1) := by omega
    _ ≤ (2 ^ 64 - 1) * m.toNat := Nat.mul_le_mul_left _ hnm

/-- One more unit adds less than `2 ^ 32` to the scaled number. -/
theorem scaled_succ_lt (k : ℕ) (hn : 0 < n.toNat) :
    (k + 1) * m.toNat / n.toNat < k * m.toNat / n.toNat + 2 ^ 32 := by
  have hle : m.toNat ≤ n.toNat * m.toNat := Nat.le_mul_of_pos_left _ hn
  calc (k + 1) * m.toNat / n.toNat
      ≤ (k * m.toNat + n.toNat * m.toNat) / n.toNat := by
        apply Nat.div_le_div_right
        rw [add_mul, one_mul]
        exact Nat.add_le_add_left hle _
    _ = k * m.toNat / n.toNat + m.toNat := Nat.add_mul_div_left _ _ hn
    _ < k * m.toNat / n.toNat + 2 ^ 32 := Nat.add_lt_add_left m.toNat_lt _

/-- If numbers are scaled up, there is a last one whose result fits. -/
theorem exists_last_fitting (hn : 0 < n.toNat) (hnm : n.toNat < m.toNat) :
    ∃ k, k + 1 < 2 ^ 64 ∧ k * m.toNat / n.toNat < 2 ^ 64 ∧ 2 ^ 64 ≤ (k + 1) * m.toNat / n.toNat := by
  have hex : ∃ k, 2 ^ 64 ≤ k * m.toNat / n.toNat := ⟨_, le_scaled_of_lt hn hnm⟩
  have hspec := Nat.find_spec hex
  have hle := Nat.find_min' hex (le_scaled_of_lt hn hnm)
  obtain ⟨k, hk⟩ : ∃ k, Nat.find hex = k + 1 := by
    apply Nat.exists_eq_succ_of_ne_zero
    intro hzero
    rw [hzero, Nat.zero_mul, Nat.zero_div] at hspec
    omega
  rw [hk] at hspec hle
  exact ⟨k, by omega, not_le.mp (Nat.find_min hex (by omega)), hspec⟩

/-- Over all 64-bit numbers, scaling is monotone exactly if it does not scale up. -/
theorem scale64_monotone_iff (hn : 0 < n.toNat) :
    (∀ i i' : UInt64, i ≤ i' → scale64 i m n ≤ scale64 i' m n) ↔ m.toNat ≤ n.toNat := by
  constructor
  · intro hmono
    by_contra hlt
    -- the first number whose result does not fit is mapped to the beginning again
    obtain ⟨k, hword, hbefore, hafter⟩ := exists_last_fitting hn (not_le.mp hlt)
    have hstep := scaled_succ_lt k (m := m) hn
    have hk : (UInt64.ofNat k).toNat = k := UInt64.toNat_ofNat_of_lt' (Nat.lt_of_succ_lt hword)
    have hk' : (UInt64.ofNat (k + 1)).toNat = k + 1 := UInt64.toNat_ofNat_of_lt' hword
    have hle := hmono (.ofNat k) (.ofNat (k + 1)) (by rw [UInt64.le_iff_toNat_le, hk, hk']; omega)
    rw [UInt64.le_iff_toNat_le, toNat_scale64 _ _ hn, toNat_scale64 _ _ hn, hk, hk'] at hle
    omega
  · intro hmn i i' h
    exact scale64_le_scale64 hn h (scaled_lt_of_le i' hn hmn)

end Scale

/-! ### Events of the driver -/

/-- The part of `WindowsWirelessTimestamper` that the events of the driver read and write. -/
structure WindowsWirelessTimestamper where
  systemCounter : UInt64
  systemTime : Timestamp
  deviceTime : Timestamp
  /-- `tsc_hz.QuadPart`. -/
  tscHz : Int64

/-- A timestamper and its port. -/
structure WirelessLink where
  timestamper : WindowsWirelessTimestamper
  port : WirelessPort

/-- An event of the driver, with the part of its data that is used. -/
inductive TimeSyncEvent where
  /-- TIMINGMSMT_CONFIRM_EVENT, and any event of a type that is not known. -/
  | confirm (t1 t4 : UInt64) (dialogToken : UInt32)
  /-- TIMINGMSMT_EVENT, where `fwup` is the Follow_Up found in the frame. -/
  | indication (t1 t4 : UInt64) (followUpDialogToken : UInt32) (t2 t3 : UInt64) (dialogToken : UInt32)
      (fwup : Option PTPMessageFollowUp)
  /-- TIMINGMSMT_CORRELATEDTIME_EVENT. -/
  | correlatedTime (tsc localClk : UInt64)

namespace WindowsWirelessTimestamper

/-- The frequency that the counter is scaled with: the lower half of `tsc_hz`. -/
def scaleHz (t : WindowsWirelessTimestamper) : UInt32 := t.tscHz.toUInt64.toUInt32

/-- The branch of `WirelessTimestamperCallback` for correlated times. -/
def correlate (tsc localClk : UInt64) (t : WindowsWirelessTimestamper) : WindowsWirelessTimestamper :=
  let systemCounter := scale64 tsc 1000000000 t.scaleHz
  let localClk := localClk * 10
  { t with
    systemCounter := systemCounter
    systemTime := t.systemTime.set64 systemCounter
    -- once more
    deviceTime := t.deviceTime.set64 (localClk * 10) }

theorem systemCounter_correlate (tsc localClk : UInt64) (t : WindowsWirelessTimestamper) :
    (t.correlate tsc localClk).systemCounter = scale64 tsc 1000000000 t.scaleHz := by
  rw [correlate]

@[simp] theorem tscHz_correlate (tsc localClk : UInt64) (t : WindowsWirelessTimestamper) :
    (t.correlate tsc localClk).tscHz = t.tscHz := by
  rw [correlate]

@[simp] theorem scaleHz_correlate (tsc localClk : UInt64) (t : WindowsWirelessTimestamper) :
    (t.correlate tsc localClk).scaleHz = t.scaleHz := by
  rw [scaleHz, tscHz_correlate, scaleHz]

end WindowsWirelessTimestamper

/-- `WirelessTimestamperCallback`, for a timestamper of the class that it expects. The sequence number in
the dialogs is not initialized. -/
def wirelessTimestamperCallback (fwupSeq : UInt16) (event : TimeSyncEvent) (l : WirelessLink) :
    WirelessLink :=
  let dialog (actionDevclk ackDevclk : UInt64) (dialogToken : UInt32) : WirelessDialog :=
    { action := Timestamp.zero
      actionDevclk := actionDevclk
      ack := Timestamp.zero
      ackDevclk := ackDevclk
      dialogToken := dialogToken.toUInt8
      fwupSeq := fwupSeq }
  match event with
  | .confirm t1 t4 dialogToken =>
    { l with port := l.port.timingMeasurementConfirmCB (dialog t1 t4 dialogToken) }
  | .indication t1 t4 followUpDialogToken t2 t3 dialogToken fwup =>
    { l with
      port := l.port.timeMeasurementIndicationCB (dialog t2 t3 dialogToken)
        (dialog t1 t4 followUpDialogToken) fwup }
  | .correlatedTime tsc localClk => { l with timestamper := l.timestamper.correlate tsc localClk }

/-- The reading of the time stamp counter that an event reports. -/
def TimeSyncEvent.tsc? : TimeSyncEvent → Option UInt64
  | .confirm .. => none
  | .indication .. => none
  | .correlatedTime tsc _ => some tsc

section Callback

variable {fwupSeq : UInt16} {event : TimeSyncEvent} {l : WirelessLink} {tsc : UInt64}

/-- Only correlated times reach the timestamper. -/
theorem timestamper_callback_of_none (h : event.tsc? = none) :
    (wirelessTimestamperCallback fwupSeq event l).timestamper = l.timestamper := by
  cases event with
  | confirm t1 t4 dialogToken => rfl
  | indication t1 t4 followUpDialogToken t2 t3 dialogToken fwup => rfl
  | correlatedTime tsc localClk => cases h

theorem exists_correlate_of_some (fwupSeq : UInt16) (l : WirelessLink) (h : event.tsc? = some tsc) :
    ∃ localClk, (wirelessTimestamperCallback fwupSeq event l).timestamper =
      l.timestamper.correlate tsc localClk := by
  cases event with
  | confirm t1 t4 dialogToken => cases h
  | indication t1 t4 followUpDialogToken t2 t3 dialogToken fwup => cases h
  | correlatedTime tsc' localClk =>
    obtain rfl : tsc' = tsc := Option.some.inj h
    exact ⟨localClk, rfl⟩

theorem systemCounter_callback_of_some (h : event.tsc? = some tsc) :
    (wirelessTimestamperCallback fwupSeq event l).timestamper.systemCounter =
      scale64 tsc 1000000000 l.timestamper.scaleHz := by
  obtain ⟨localClk, hcorrelate⟩ := exists_correlate_of_some fwupSeq l h
  rw [hcorrelate, WindowsWirelessTimestamper.systemCounter_correlate]

@[simp] theorem scaleHz_callback :
    (wirelessTimestamperCallback fwupSeq event l).timestamper.scaleHz = l.timestamper.scaleHz := by
  cases h : event.tsc? with
  | none => rw [timestamper_callback_of_none h]
  | some tsc =>
    obtain ⟨localClk, hcorrelate⟩ := exists_correlate_of_some fwupSeq l h
    rw [hcorrelate, WindowsWirelessTimestamper.scaleHz_correlate]

/-- The system time is the counter. -/
theorem value_systemTime_correlate (tsc localClk : UInt64) (t : WindowsWirelessTimestamper) :
    (t.correlate tsc localClk).systemTime.value = (t.correlate tsc localClk).systemCounter.toNat :=
  Timestamp.value_set64 _ _

/-- A tick of the device is ten nanoseconds in a confirmation, and a hundred in a correlated time. -/
theorem value_deviceTime_correlate (tsc : UInt64) {localClk : UInt64} (t : WindowsWirelessTimestamper)
    (action : Timestamp) (h : localClk.toNat * 100 < 2 ^ 64) :
    (t.correlate tsc localClk).deviceTime.value = 10 * (action.set64 (localClk * 10)).value := by
  have hten : (localClk * 10).toNat = localClk.toNat * 10 := by
    rw [UInt64.toNat_mul]
    change localClk.toNat * 10 % 2 ^ 64 = _
    omega
  have hhundred : (localClk * 10 * 10).toNat = localClk.toNat * 100 := by
    rw [UInt64.toNat_mul, hten]
    change localClk.toNat * 10 * 10 % 2 ^ 64 = _
    omega
  rw [WindowsWirelessTimestamper.correlate, Timestamp.value_set64, Timestamp.value_set64, hten, hhundred]
  omega

end Callback

/-- **Scaled counters.** `scale64` divides a product of up to 96 bits exactly, whenever the quotient fits in
64 bits. So the system counters that a timestamper derives from two readings of the time stamp counter are
ordered as the readings are. -/
theorem scale64_exact_and_monotone :
    (∀ (i : UInt64) (m n : UInt32), 0 < n.toNat → i.toNat * m.toNat / n.toNat < 2 ^ 64 →
        (scale64 i m n).toNat = i.toNat * m.toNat / n.toNat) ∧
      ∀ (l l' : WirelessLink) (fwupSeq fwupSeq' : UInt16) (tsc tsc' localClk localClk' : UInt64),
        l.timestamper.scaleHz = l'.timestamper.scaleHz → 0 < l.timestamper.scaleHz.toNat →
        tsc'.toNat * 1000000000 / l.timestamper.scaleHz.toNat < 2 ^ 64 → tsc ≤ tsc' →
        (wirelessTimestamperCallback fwupSeq (.correlatedTime tsc localClk) l).timestamper.systemCounter ≤
          (wirelessTimestamperCallback fwupSeq' (.correlatedTime tsc' localClk')
            l').timestamper.systemCounter := by
  refine ⟨?_, ?_⟩
  · intro i m n hn hfits
    exact toNat_scale64_of_lt hn hfits
  · intro l l' fwupSeq fwupSeq' tsc tsc' localClk localClk' hhz hpos hfits hle
    rw [systemCounter_callback_of_some rfl, systemCounter_callback_of_some rfl, ← hhz]
    exact scale64_le_scale64 hpos hle hfits

/-- A timestamper with a counter of 10 MHz. -/
def tenMegahertzLink : WirelessLink where
  timestamper := ⟨0, Timestamp.zero, Timestamp.zero, 10000000⟩
  port := .new (fun _ => 0) 0 0 0

/-- Three days of a counter at 2.9 GHz, where the product needs 80 bits; and two readings of a counter at
10 MHz. -/
theorem scale64_three_days :
    (scale64 751680000000000 1000000000 2900000000).toNat = 259200000000000 ∧
      2 ^ 64 ≤ 751680000000000 * 1000000000 ∧
      (wirelessTimestamperCallback 0 (.correlatedTime 18446744073709 0)
          tenMegahertzLink).timestamper.systemCounter ≤
        (wirelessTimestamperCallback 0 (.correlatedTime 18446744073710 7)
          tenMegahertzLink).timestamper.systemCounter :=
  ⟨scale64_exact_and_monotone.1 751680000000000 1000000000 2900000000 (by decide) (by decide), by decide,
    scale64_exact_and_monotone.2 tenMegahertzLink tenMegahertzLink 0 0 18446744073709 18446744073710 0 7
      rfl (by decide) (by decide) (by decide)⟩

/-! ### Runs -/

/-- A timestamper and its port among the events of the driver. Each event comes with the number that its
dialogs happen to hold. -/
def wirelessLinkMachine : Machine WirelessLink (UInt16 × TimeSyncEvent) where
  enabled _ _ := True
  step l i := wirelessTimestamperCallback i.1 i.2 l

section Run

variable {l₀ : WirelessLink} {σ : ℕ → UInt16 × TimeSyncEvent}

/-- The frequency does not change. -/
theorem scaleHz_stateAt (k : ℕ) :
    (wirelessLinkMachine.stateAt l₀ σ k).timestamper.scaleHz = l₀.timestamper.scaleHz :=
  Machine.invariant_all (P := fun l : WirelessLink => l.timestamper.scaleHz = l₀.timestamper.scaleHz)
    rfl (fun _ _ h => scaleHz_callback.trans h) k

theorem systemCounter_stateAt_succ_of_some {k : ℕ} {tsc : UInt64} (h : (σ k).2.tsc? = some tsc) :
    (wirelessLinkMachine.stateAt l₀ σ (k + 1)).timestamper.systemCounter =
      scale64 tsc 1000000000 l₀.timestamper.scaleHz := by
  rw [← scaleHz_stateAt k]
  exact systemCounter_callback_of_some h

theorem systemCounter_stateAt_succ_of_none {k : ℕ} (h : (σ k).2.tsc? = none) :
    (wirelessLinkMachine.stateAt l₀ σ (k + 1)).timestamper.systemCounter =
      (wirelessLinkMachine.stateAt l₀ σ k).timestamper.systemCounter :=
  congrArg WindowsWirelessTimestamper.systemCounter (timestamper_callback_of_none h)

/-- From the first correlated time on, the counter comes from a reading that was reported. -/
theorem exists_reading (l₀ : WirelessLink) {i j : ℕ} (hi : (σ i).2.tsc? ≠ none) (hij : i < j) :
    ∃ k < j, ∃ tsc, (σ k).2.tsc? = some tsc ∧
      (wirelessLinkMachine.stateAt l₀ σ j).timestamper.systemCounter =
        scale64 tsc 1000000000 l₀.timestamper.scaleHz := by
  induction j, hij using Nat.le_induction with
  | base =>
    obtain ⟨tsc, htsc⟩ := Option.ne_none_iff_exists'.mp hi
    exact ⟨i, Nat.lt_succ_self i, tsc, htsc, systemCounter_stateAt_succ_of_some htsc⟩
  | succ j hij ih =>
    cases h : (σ j).2.tsc? with
    | some tsc => exact ⟨j, Nat.lt_succ_self j, tsc, h, systemCounter_stateAt_succ_of_some h⟩
    | none =>
      obtain ⟨k, hk, tsc, htsc, hcounter⟩ := ih
      exact ⟨k, hk.trans (Nat.lt_succ_self j), tsc, htsc,
        (systemCounter_stateAt_succ_of_none h).trans hcounter⟩

/-- **Runs.** While the time stamp counter that the driver reports does not go back, and its nanoseconds fit
in 64 bits, the system counter does not go back either. -/
theorem systemCounter_le_of_run (hhz : 0 < l₀.timestamper.scaleHz.toNat)
    (hsorted : ∀ i j tsc tsc', i ≤ j → (σ i).2.tsc? = some tsc → (σ j).2.tsc? = some tsc' → tsc ≤ tsc')
    (hfits : ∀ i tsc, (σ i).2.tsc? = some tsc →
      tsc.toNat * 1000000000 / l₀.timestamper.scaleHz.toNat < 2 ^ 64)
    {i j k : ℕ} (hi : (σ i).2.tsc? ≠ none) (hij : i < j) (hjk : j ≤ k) :
    (wirelessLinkMachine.stateAt l₀ σ j).timestamper.systemCounter ≤
      (wirelessLinkMachine.stateAt l₀ σ k).timestamper.systemCounter := by
  obtain ⟨r, hr, tsc, htsc, hcounter⟩ := exists_reading l₀ hi hij
  induction k, hjk using Nat.le_induction with
  | base => exact UInt64.le_refl _
  | succ k hjk ih =>
    cases h : (σ k).2.tsc? with
    | none =>
      rw [systemCounter_stateAt_succ_of_none h]
      exact ih
    | some tsc' =>
      -- the counter at `j` comes from a reading before this one
      have hle : tsc ≤ tsc' := hsorted r k tsc tsc' (hr.le.trans hjk) htsc h
      rw [systemCounter_stateAt_succ_of_some h, hcounter]
      exact scale64_le_scale64 hhz hle (hfits k tsc' h)

end Run

end Gptp
