import Gptp.Message.Nanoseconds

/-!
# Cross timestamps from a free-running counter

Without help from the hardware, `WindowsCrossTimestamp` reads the system time between two readings of a
counter and takes the middle of the two readings for the time of the device. The counter is either the
performance counter or the time stamp counter of the processor. Both run from the start of the machine at
a fixed frequency, and their ticks are converted to nanoseconds by multiplying first and dividing then, in
64 bits.

* `ticksToNanoseconds_eq_iff`: the conversion is exact as long as the product fits, and up to there it is
  monotone (`ticksToNanoseconds_mono`).
* `deviceTime_exact_iff`: so are the device times, up to half an hour after the start with a counter of
  10 MHz. From there on they start over again and again (`deviceTime_starts_over`).
-/

namespace Gptp

open Framework

/-- `FILETIME`. -/
structure FileTime where
  dwHighDateTime : UInt32
  dwLowDateTime : UInt32

/-- The part of `WindowsCrossTimestamp` that its timestamps depend on, and what it notes about them. -/
structure WindowsCrossTimestamp where
  /-- `m_qpc_frequency.QuadPart`. -/
  qpcFrequency : Int64
  rdtscFrequency : UInt64
  quality : UInt32
  estimatedErrorNs : UInt64

/-- What taking a cross timestamp leaves: its result, the two times, and the object. -/
structure CrossTimestampResult where
  ret : Bool
  systemTime : Timestamp
  deviceTime : Timestamp
  state : WindowsCrossTimestamp

namespace WindowsCrossTimestamp

/-- `WINDOWS_TO_UNIX_EPOCH_OFFSET`, in units of 100 nanoseconds. -/
def windowsToUnixEpochOffset : UInt64 := 116444736000000000

/-- `WindowsCrossTimestamp::fileTimeToTimestamp`. -/
def fileTimeToTimestamp (ft : FileTime) : Timestamp :=
  let windowsTime := (ft.dwHighDateTime.toUInt64 <<< 32) ||| ft.dwLowDateTime.toUInt64
  Timestamp.zero.set64 ((windowsTime - windowsToUnixEpochOffset) * 100)

/-- The conversion of both counters. -/
def ticksToNanoseconds (ticks frequency : UInt64) : UInt64 := ticks * 1000000000 / frequency

/-- `WindowsCrossTimestamp::performanceCounterToNanoseconds`. The signed numbers are converted to
`unsigned long long`. -/
def performanceCounterToNanoseconds (counter : Int64) (x : WindowsCrossTimestamp) : UInt64 :=
  ticksToNanoseconds counter.toUInt64 x.qpcFrequency.toUInt64

/-- The quality of the first class whose bound the error is below. -/
def qualityOf (classes : List (UInt64 × UInt32)) (worst : UInt32) (errorNs : UInt64) : UInt32 :=
  ((classes.find? fun c => errorNs < c.1).map Prod.snd).getD worst

/-- `WindowsCrossTimestamp::getCrossTimestamp_QPC`, with the two readings of the counter and the system
time between them. -/
def getCrossTimestampQPC (qpcBefore qpcAfter : Int64) (ft : FileTime) (deviceTime : Timestamp)
    (x : WindowsCrossTimestamp) : CrossTimestampResult :=
  let qpcDevice := (qpcBefore + qpcAfter) / 2
  let deviceNs := x.performanceCounterToNanoseconds qpcDevice
  let errorNs := x.performanceCounterToNanoseconds (qpcAfter - qpcBefore)
  { ret := true
    systemTime := fileTimeToTimestamp ft
    deviceTime := deviceTime.set64 deviceNs
    state := { x with
      estimatedErrorNs := errorNs
      quality := qualityOf [(100, 95), (500, 85), (1000, 70)] 50 errorNs } }

/-- `WindowsCrossTimestamp::getCrossTimestamp_RDTSC`, with the two readings of the counter and the system
time between them. -/
def getCrossTimestampRDTSC (rdtscBefore rdtscAfter : UInt64) (ft : FileTime) (deviceTime : Timestamp)
    (x : WindowsCrossTimestamp) : CrossTimestampResult :=
  let rdtscDevice := (rdtscBefore + rdtscAfter) / 2
  let deviceNs := ticksToNanoseconds rdtscDevice x.rdtscFrequency
  let errorNs := ticksToNanoseconds (rdtscAfter - rdtscBefore) x.rdtscFrequency
  { ret := true
    systemTime := fileTimeToTimestamp ft
    deviceTime := deviceTime.set64 deviceNs
    state := { x with
      estimatedErrorNs := errorNs
      quality := qualityOf [(50, 98), (200, 90), (500, 75)] 60 errorNs } }

/-! ### The conversion -/

/-- Cutting a number down by a multiple of `m` shows in its quotient by any number up to `m`. -/
theorem mod_div_eq_div_iff {n m f : ℕ} (hf : 0 < f) (hfm : f ≤ m) : n % m / f = n / f ↔ n < m := by
  constructor
  · intro heq
    by_contra hge
    have hle : n % m + f ≤ n := by
      have hdiv : 1 ≤ n / m := Nat.div_pos (Nat.not_lt.mp hge) (hf.trans_le hfm)
      have hmul : m ≤ m * (n / m) := Nat.le_mul_of_pos_right m hdiv
      have := Nat.mod_add_div n m
      omega
    have hquotient := Nat.div_le_div_right (c := f) hle
    rw [Nat.add_div_right _ hf, heq] at hquotient
    omega
  · intro hlt
    rw [Nat.mod_eq_of_lt hlt]

theorem toNat_ticksToNanoseconds (ticks frequency : UInt64) :
    (ticksToNanoseconds ticks frequency).toNat =
      ticks.toNat * 10 ^ 9 % 2 ^ 64 / frequency.toNat := by
  rw [ticksToNanoseconds, UInt64.toNat_div, UInt64.toNat_mul]
  rfl

/-- The conversion is exact if and only if the product fits. -/
theorem ticksToNanoseconds_eq_iff (ticks : UInt64) {frequency : UInt64} (hf : 0 < frequency.toNat) :
    (ticksToNanoseconds ticks frequency).toNat = ticks.toNat * 10 ^ 9 / frequency.toNat ↔
      ticks.toNat * 10 ^ 9 < 2 ^ 64 := by
  rw [toNat_ticksToNanoseconds]
  exact mod_div_eq_div_iff hf frequency.toNat_lt.le

theorem ticksToNanoseconds_mono {ticks ticks' frequency : UInt64} (h : ticks ≤ ticks')
    (hfits : ticks'.toNat * 10 ^ 9 < 2 ^ 64) :
    ticksToNanoseconds ticks frequency ≤ ticksToNanoseconds ticks' frequency := by
  have hle : ticks.toNat * 10 ^ 9 ≤ ticks'.toNat * 10 ^ 9 :=
    Nat.mul_le_mul_right _ (UInt64.le_iff_toNat_le.mp h)
  rw [UInt64.le_iff_toNat_le, toNat_ticksToNanoseconds, toNat_ticksToNanoseconds,
    Nat.mod_eq_of_lt hfits, Nat.mod_eq_of_lt (hle.trans_lt hfits)]
  exact Nat.div_le_div_right hle

theorem toNat_toUInt64_of_toInt {x : Int64} {n : ℕ} (h : x.toInt = n) : x.toUInt64.toNat = n := by
  have hnonneg : 0 ≤ x.toInt := h ▸ Int.natCast_nonneg n
  have := toNat_toUInt64_of_nonneg hnonneg
  omega

/-- The device time of a cross timestamp is the converted midpoint of the two readings. -/
theorem value_deviceTime_getCrossTimestampQPC (x : WindowsCrossTimestamp) (qpcBefore qpcAfter : Int64)
    (ft : FileTime) (deviceTime : Timestamp) :
    (x.getCrossTimestampQPC qpcBefore qpcAfter ft deviceTime).deviceTime.value =
      (ticksToNanoseconds ((qpcBefore + qpcAfter) / 2).toUInt64 x.qpcFrequency.toUInt64).toNat :=
  Timestamp.value_set64 _ deviceTime

theorem value_deviceTime_getCrossTimestampRDTSC (x : WindowsCrossTimestamp)
    (rdtscBefore rdtscAfter : UInt64) (ft : FileTime) (deviceTime : Timestamp) :
    (x.getCrossTimestampRDTSC rdtscBefore rdtscAfter ft deviceTime).deviceTime.value =
      (ticksToNanoseconds ((rdtscBefore + rdtscAfter) / 2) x.rdtscFrequency).toNat :=
  Timestamp.value_set64 _ deviceTime

/-- **Device times.** With either counter, the device time for `c` ticks at `f` ticks a second is the
exact number of nanoseconds, rounded down, if and only if `c * 10 ^ 9` fits in 64 bits; and as long as it
does, no device time for fewer ticks is later. -/
theorem deviceTime_exact_iff (x : WindowsCrossTimestamp) (c f : ℕ) (hf : 0 < f) (ft : FileTime)
    (deviceTime : Timestamp) :
    (∀ qpcBefore qpcAfter : Int64, x.qpcFrequency.toInt = f →
        ((qpcBefore + qpcAfter) / 2).toInt = c →
        ((x.getCrossTimestampQPC qpcBefore qpcAfter ft deviceTime).deviceTime.value = c * 10 ^ 9 / f ↔
          c * 10 ^ 9 < 2 ^ 64) ∧
        (c * 10 ^ 9 < 2 ^ 64 → ∀ (qpcBefore' qpcAfter' : Int64) (ft' : FileTime)
          (deviceTime' : Timestamp), ∀ c' ≤ c, ((qpcBefore' + qpcAfter') / 2).toInt = c' →
          (x.getCrossTimestampQPC qpcBefore' qpcAfter' ft' deviceTime').deviceTime.value ≤
            (x.getCrossTimestampQPC qpcBefore qpcAfter ft deviceTime).deviceTime.value)) ∧
      ∀ rdtscBefore rdtscAfter : UInt64, x.rdtscFrequency.toNat = f →
        ((rdtscBefore + rdtscAfter) / 2).toNat = c →
        ((x.getCrossTimestampRDTSC rdtscBefore rdtscAfter ft deviceTime).deviceTime.value =
            c * 10 ^ 9 / f ↔ c * 10 ^ 9 < 2 ^ 64) ∧
        (c * 10 ^ 9 < 2 ^ 64 → ∀ (rdtscBefore' rdtscAfter' : UInt64) (ft' : FileTime)
          (deviceTime' : Timestamp), ∀ c' ≤ c, ((rdtscBefore' + rdtscAfter') / 2).toNat = c' →
          (x.getCrossTimestampRDTSC rdtscBefore' rdtscAfter' ft' deviceTime').deviceTime.value ≤
            (x.getCrossTimestampRDTSC rdtscBefore rdtscAfter ft deviceTime).deviceTime.value) := by
  simp only [value_deviceTime_getCrossTimestampQPC, value_deviceTime_getCrossTimestampRDTSC]
  refine ⟨fun qpcBefore qpcAfter hfrequency hcount => ?_, fun rdtscBefore rdtscAfter hfrequency hcount => ?_⟩
  · have hf' := toNat_toUInt64_of_toInt hfrequency
    have hc' := toNat_toUInt64_of_toInt hcount
    have hexact := ticksToNanoseconds_eq_iff ((qpcBefore + qpcAfter) / 2).toUInt64
      (hf.trans_eq hf'.symm)
    rw [hf', hc'] at hexact
    refine ⟨hexact, fun hfits qpcBefore' qpcAfter' _ _ c' hle hcount' => ?_⟩
    have hearlier := toNat_toUInt64_of_toInt hcount'
    refine UInt64.le_iff_toNat_le.mp (ticksToNanoseconds_mono ?_ (hc'.symm ▸ hfits))
    rw [UInt64.le_iff_toNat_le, hearlier, hc']
    exact hle
  · have hexact := ticksToNanoseconds_eq_iff ((rdtscBefore + rdtscAfter) / 2)
      (hf.trans_eq hfrequency.symm)
    rw [hfrequency, hcount] at hexact
    refine ⟨hexact, fun hfits rdtscBefore' rdtscAfter' _ _ c' hle hcount' => ?_⟩
    refine UInt64.le_iff_toNat_le.mp (ticksToNanoseconds_mono ?_ (hcount.symm ▸ hfits))
    rw [UInt64.le_iff_toNat_le, hcount', hcount]
    exact hle

/-- A performance counter of 10 MHz and a processor of 3 GHz. -/
def tenMegahertz : WindowsCrossTimestamp := ⟨10000000, 3000000000, 0, 0⟩

/-- Two thousand ticks are 200 microseconds, and no fewer ticks are more. -/
theorem tenMegahertz_exact :
    (tenMegahertz.getCrossTimestampQPC 1990 2010 ⟨0, 0⟩ Timestamp.zero).deviceTime.value = 200000 ∧
      (tenMegahertz.getCrossTimestampQPC 1970 1988 ⟨0, 0⟩ Timestamp.zero).deviceTime.value ≤ 200000 := by
  obtain ⟨hexact, hmono⟩ := (deviceTime_exact_iff tenMegahertz 2000 10000000 (by decide) ⟨0, 0⟩
    Timestamp.zero).1 1990 2010 (by decide) (by decide)
  have hvalue := hexact.mpr (by decide)
  have hle := hmono (by decide) 1970 1988 ⟨0, 0⟩ Timestamp.zero 1979 (by decide) (by decide)
  exact ⟨hvalue, hle.trans_eq hvalue⟩

/-- **Device times start over**: after half an hour with the performance counter, and after six seconds
with the counter of the processor, the next tick takes the device time back to the beginning. -/
theorem deviceTime_starts_over :
    let qpc c := (tenMegahertz.getCrossTimestampQPC c c ⟨0, 0⟩ Timestamp.zero).deviceTime.value
    let rdtsc c := (tenMegahertz.getCrossTimestampRDTSC c c ⟨0, 0⟩ Timestamp.zero).deviceTime.value
    qpc 18446744073 = 1844674407300 ∧ qpc 18446744074 = 29 ∧
      18446744074 * 10 ^ 9 / 10000000 = 1844674407400 ∧
      rdtsc 18446744073 = 6148914691 ∧ rdtsc 18446744074 = 0 ∧
      18446744074 * 10 ^ 9 / 3000000000 = 6148914691 := by
  decide

end WindowsCrossTimestamp

end Gptp
