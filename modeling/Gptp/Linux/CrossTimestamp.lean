import Gptp.Framework.FirstMinimum
import Gptp.Message.Nanoseconds

/-!
# Reading the system clock and the hardware clock together

`PTP_SYS_OFFSET` reads the two clocks in turns, starting and ending with the system clock.
`HWTimestamper_gettime` looks for the reading of the hardware clock that is enclosed most tightly by
two readings of the system clock and returns it with the earlier of the two.

The difference of two readings is taken by `pct_diff`, which borrows a second from its first operand
*in place*. That operand is the later system reading of one sample and the earlier one of the next: a
sample that begins less far into its second than the one before it

* is measured as one second longer than it was, and
* is returned one second early, if it is selected nevertheless.

So the loop is a scan for the first minimum (`Framework.scan`) of the intervals lengthened in this way
and wrapped to 64 bits (`Linux.reflects_selectSample`), and the readings are returned as they were made
exactly if the tightest sample does not begin with a borrowed second and is still the first minimum of
those intervals (`Linux.gettime_exact_iff`). For readings less than 292 years apart the second follows
from the first (`Linux.firstMin_measured`).
-/

namespace Gptp

namespace Linux

open Framework

/-- `struct ptp_clock_time`. -/
structure PtpClockTime where
  sec : Int64
  nsec : UInt32
  deriving DecidableEq, Repr

namespace PtpClockTime

/-- A reading within 48-bit seconds, its nanoseconds less than a second. -/
structure Valid (t : PtpClockTime) : Prop where
  nsec_lt : t.nsec.toNat < 10 ^ 9
  sec_nonneg : 0 ≤ t.sec.toInt
  sec_lt : t.sec.toInt < 2 ^ 48

instance (t : PtpClockTime) : Decidable t.Valid :=
  decidable_of_iff (t.nsec.toNat < 10 ^ 9 ∧ 0 ≤ t.sec.toInt ∧ t.sec.toInt < 2 ^ 48)
    ⟨fun h => ⟨h.1, h.2.1, h.2.2⟩, fun h => ⟨h.nsec_lt, h.sec_nonneg, h.sec_lt⟩⟩

/-- The time of a reading in nanoseconds. -/
def ns (t : PtpClockTime) : ℤ := t.sec.toInt * 10 ^ 9 + t.nsec.toNat

end PtpClockTime

/-- `pct_diff`: the difference, and the first operand as it is left behind. -/
def pctDiff (a b : PtpClockTime) : PtpClockTime × PtpClockTime :=
  if b.nsec ≤ a.nsec then (⟨a.sec - b.sec, a.nsec - b.nsec⟩, a)
  else
    let a := { a with sec := a.sec - 1 }
    (⟨a.sec - b.sec, 1000000000 - b.nsec + a.nsec⟩, a)

/-- `pctns`. -/
def pctns (t : PtpClockTime) : Int64 := t.sec * 1000000000 + Int64.ofNat t.nsec.toNat

/-- `pctTimestamp`. -/
def pctTimestamp (t : PtpClockTime) : Timestamp where
  secondsLs := (t.sec &&& 0xFFFFFFFF).toUInt64.toUInt32
  secondsMs := (t.sec >>> 32).toUInt64.toUInt16
  nanoseconds := t.nsec

/-- `PTP_MAX_SAMPLES`. -/
def ptpMaxSamples : ℕ := 25

/-- The variables of the loop: the readings, the sample selected so far and its interval. -/
structure SampleLoop where
  pct : ℕ → PtpClockTime
  selected : Option ℕ
  interval : Int64

/-- One turn of the loop. -/
def SampleLoop.step (i : ℕ) (s : SampleLoop) : SampleLoop :=
  let diff := pctDiff (s.pct (2 * i + 2)) (s.pct (2 * i))
  let pct := Function.update s.pct (2 * i + 2) diff.2
  let interval := pctns diff.1
  if interval < s.interval then ⟨pct, some i, interval⟩ else { s with pct := pct }

/-- The loop over the first `n` samples. -/
def selectSample (pct : ℕ → PtpClockTime) : ℕ → SampleLoop
  | 0 => ⟨pct, none, Int64.maxValue⟩
  | n + 1 => (selectSample pct n).step n

/-- The times of `HWTimestamper_gettime`'s caller. -/
structure ClockTimes where
  systemTime : Timestamp
  deviceTime : Timestamp
  deriving DecidableEq

/-- The times after the loop: the caller keeps its own if no sample has been selected. -/
def SampleLoop.times (times : ClockTimes) (s : SampleLoop) : ClockTimes :=
  match s.selected with
  | none => times
  | some i => ⟨pctTimestamp (s.pct (2 * i)), pctTimestamp (s.pct (2 * i + 1))⟩

/-- What the kernel answers `HWTimestamper_gettime`: whether the device is open, the times of
`PTP_SYS_OFFSET_PRECISE` as `device` and `sys_realtime`, and the readings of `PTP_SYS_OFFSET`. -/
structure GettimeAnswers where
  phcOpen : Bool
  precise : Option (PtpClockTime × PtpClockTime)
  sysOffset : Option (ℕ → PtpClockTime)

/-- `LinuxTimestamperGeneric::HWTimestamper_gettime`. -/
def gettime (a : GettimeAnswers) (times : ClockTimes) : Bool × ClockTimes :=
  if !a.phcOpen then (false, times)
  else match a.precise with
    | some (device, sysRealtime) => (true, ⟨pctTimestamp sysRealtime, pctTimestamp device⟩)
    | none => match a.sysOffset with
      | none => (false, times)
      | some pct => (true, (selectSample pct ptpMaxSamples).times times)

/-! ### Readings as times -/

/-- The timestamp shows the time of a reading. -/
def Shows (ts : Timestamp) (t : PtpClockTime) : Prop :=
  (ts.wholeSeconds : ℤ) = t.sec.toInt ∧ ts.nanoseconds = t.nsec

instance (ts : Timestamp) (t : PtpClockTime) : Decidable (Shows ts t) :=
  inferInstanceAs (Decidable (_ ∧ _))

/-- The seconds of a converted reading are those of the reading modulo `2 ^ 48`. -/
theorem wholeSeconds_pctTimestamp (t : PtpClockTime) :
    ((pctTimestamp t).wholeSeconds : ℤ) = t.sec.toInt % 2 ^ 48 := by
  have hls : ((pctTimestamp t).secondsLs.toNat : ℤ) = t.sec.toInt % 2 ^ 32 := by
    show ((t.sec &&& 0xFFFFFFFF).toUInt64.toUInt32.toNat : ℤ) = _
    have hmask : (t.sec.toUInt64 &&& (0xFFFFFFFF : Int64).toUInt64).toNat = t.sec.toUInt64.toNat % 2 ^ 32 :=
      toNat_and_mask rfl _
    have hnat := toNat_toUInt64 t.sec
    rw [Int64.toUInt64_and, UInt64.toNat_toUInt32, hmask]
    omega
  have hms : ((pctTimestamp t).secondsMs.toNat : ℤ) = t.sec.toInt / 2 ^ 32 % 2 ^ 16 := by
    show ((t.sec >>> 32).toUInt64.toUInt16.toNat : ℤ) = _
    have hnat := toNat_toUInt64 (t.sec >>> 32)
    rw [toInt_shiftRight_32] at hnat
    rw [UInt64.toNat_toUInt16]
    omega
  unfold Timestamp.wholeSeconds
  push_cast
  omega

/-- A second can be borrowed from a valid reading. -/
theorem PtpClockTime.Valid.toInt_sub_one {t : PtpClockTime} (h : t.Valid) :
    (t.sec - 1).toInt = t.sec.toInt - 1 := by
  have hnonneg := h.sec_nonneg
  exact Framework.toInt_sub_one (by omega)

/-- A valid reading is shown by its timestamp. -/
theorem shows_pctTimestamp {t : PtpClockTime} (h : t.Valid) : Shows (pctTimestamp t) t := by
  have hnonneg := h.sec_nonneg
  have hlt := h.sec_lt
  refine ⟨?_, rfl⟩
  rw [wholeSeconds_pctTimestamp]
  omega

/-- `pctns` of seconds and nanoseconds given as numbers. -/
theorem pctns_eq {t : PtpClockTime} {x y : ℤ} {k : ℕ} (hsec : t.sec = Int64.ofInt x)
    (hnsec : t.nsec.toNat = k) (hy : y = x * 10 ^ 9 + k) : pctns t = Int64.ofInt y := by
  rw [pctns, hsec, hnsec, hy, Int64.ofInt_add, Int64.ofInt_mul, Int64.ofInt_eq_ofNat]
  rfl

/-- The difference of two readings is exact modulo `2 ^ 64`. -/
theorem pctns_pctDiff {a b : PtpClockTime} (ha : a.nsec.toNat < 10 ^ 9) (hb : b.nsec.toNat < 10 ^ 9) :
    pctns (pctDiff a b).1 = Int64.ofInt (a.ns - b.ns) := by
  unfold pctDiff PtpClockTime.ns
  split
  · next hle =>
    have hle' : b.nsec.toNat ≤ a.nsec.toNat := UInt32.le_iff_toNat_le.mp hle
    refine pctns_eq (x := a.sec.toInt - b.sec.toInt) (k := a.nsec.toNat - b.nsec.toNat) ?_ ?_ ?_
    · rw [Int64.ofInt_sub, Int64.ofInt_toInt, Int64.ofInt_toInt]
    · exact UInt32.toNat_sub_of_le _ _ hle
    · omega
  · next hle =>
    have hlt : a.nsec.toNat < b.nsec.toNat := UInt32.lt_iff_toNat_lt.mp (UInt32.not_le.mp hle)
    refine pctns_eq (x := a.sec.toInt - 1 - b.sec.toInt) (k := 10 ^ 9 - b.nsec.toNat + a.nsec.toNat)
      ?_ ?_ ?_
    · rw [Int64.ofInt_sub, Int64.ofInt_sub, Int64.ofInt_toInt, Int64.ofInt_toInt]
      rfl
    · show (1000000000 - b.nsec + a.nsec).toNat = _
      rw [UInt32.toNat_add, UInt32.toNat_sub]
      simp only [UInt32.reduceToNat]
      omega
    · omega

/-- The first operand of a difference may be left a second short. -/
theorem pctDiff_snd (a b : PtpClockTime) :
    (pctDiff a b).2 = if a.nsec < b.nsec then { a with sec := a.sec - 1 } else a := by
  unfold pctDiff
  by_cases h : a.nsec < b.nsec
  · rw [if_neg (UInt32.not_le.mpr h), if_pos h]
  · rw [if_pos (UInt32.not_lt.mp h), if_neg h]

/-! ### The loop -/

section Loop

variable (system : ℕ → PtpClockTime)

/-- A system reading that the difference before it has borrowed a second from. -/
def borrowed : ℕ → Bool
  | 0 => false
  | i + 1 => (system (i + 1)).nsec < (system i).nsec

/-- A system reading as the loop sees it when a sample begins with it. -/
def seen (i : ℕ) : PtpClockTime :=
  if borrowed system i then { system i with sec := (system i).sec - 1 } else system i

/-- The time between the system readings around a sample. -/
def enclosing (i : ℕ) : ℤ := (system (i + 1)).ns - (system i).ns

/-- The interval that the loop measures for a sample: a second more if the reading it begins with has
been borrowed from, and wrapped to 64 bits. -/
def measured (i : ℕ) : ℤ :=
  Int.bmod (enclosing system i + if borrowed system i then 10 ^ 9 else 0) (2 ^ 64)

variable {system}

theorem nsec_seen (i : ℕ) : (seen system i).nsec = (system i).nsec := by
  unfold seen
  split <;> rfl

/-- A borrowed second is missing from the time of a reading. -/
theorem ns_seen {i : ℕ} (h : (system i).Valid) :
    (seen system i).ns = (system i).ns - if borrowed system i then 10 ^ 9 else 0 := by
  unfold seen PtpClockTime.ns
  split
  · dsimp only
    rw [h.toInt_sub_one]
    ring
  · rw [sub_zero]

/-- The interval that the loop computes for a sample. -/
theorem toInt_pctns_seen {i : ℕ} (h : (system i).Valid) (h' : (system (i + 1)).Valid) :
    (pctns (pctDiff (system (i + 1)) (seen system i)).1).toInt = measured system i := by
  have hseen : (seen system i).nsec.toNat < 10 ^ 9 := by
    rw [nsec_seen]
    exact h.nsec_lt
  rw [pctns_pctDiff h'.nsec_lt hseen, Int64.toInt_ofInt, ns_seen h, measured, enclosing]
  congr 1
  ring

/-- Readings not too far apart are measured without wrapping. -/
theorem measured_eq {i : ℕ} (hlower : -2 ^ 63 ≤ enclosing system i)
    (hupper : enclosing system i < 2 ^ 63 - 10 ^ 9) :
    measured system i = enclosing system i + if borrowed system i then 10 ^ 9 else 0 := by
  unfold measured
  split <;> exact bmod_eq_self (by omega) (by omega)

/-- If no interval wraps, the tightest sample is the first minimum of the measured intervals as well
unless it has been lengthened itself: the others can only have become longer. -/
theorem firstMin_measured {n j : ℕ} (hj : FirstMin (enclosing system) n j)
    (hborrowed : borrowed system j = false) (hlower : ∀ i < n, -2 ^ 63 ≤ enclosing system i)
    (hupper : ∀ i < n, enclosing system i < 2 ^ 63 - 10 ^ 9) :
    FirstMin (measured system) n j ∧ measured system j < 2 ^ 63 - 1 := by
  have hmeasured : measured system j = enclosing system j := by
    rw [measured_eq (hlower j hj.lt) (hupper j hj.lt), hborrowed, if_neg Bool.false_ne_true, add_zero]
  have hlonger (i : ℕ) (hi : i < n) : enclosing system i ≤ measured system i := by
    rw [measured_eq (hlower i hi) (hupper i hi)]
    split <;> omega
  refine ⟨⟨hj.lt, fun i hi => ?_, fun i hi => ?_⟩, ?_⟩
  · rw [hmeasured]
    exact (hj.first i hi).trans_le (hlonger i (hi.trans hj.lt))
  · rw [hmeasured]
    exact (hj.least i hi).trans (hlonger i hi)
  · have hj' := hupper j hj.lt
    rw [hmeasured]
    omega

/-- The readings of the two clocks in turns. -/
def interleave (system device : ℕ → PtpClockTime) (k : ℕ) : PtpClockTime :=
  if k % 2 = 0 then system (k / 2) else device (k / 2)

theorem interleave_even (system device : ℕ → PtpClockTime) (i : ℕ) :
    interleave system device (2 * i) = system i := by
  simp [interleave]

theorem interleave_odd (system device : ℕ → PtpClockTime) (i : ℕ) :
    interleave system device (2 * i + 1) = device i := by
  have hodd : ¬ (2 * i + 1) % 2 = 0 := by omega
  have hhalf : (2 * i + 1) / 2 = i := by omega
  rw [interleave, if_neg hodd, hhalf]

/-- The loop after `n` turns: it has changed the system readings that end its samples, and its
selection is that of a scan. -/
structure Reflects (system device : ℕ → PtpClockTime) (n : ℕ) (s : SampleLoop) : Prop where
  begun : ∀ i ≤ n, s.pct (2 * i) = seen system i
  ahead : ∀ i, n < i → s.pct (2 * i) = system i
  device : ∀ i, s.pct (2 * i + 1) = device i
  found : (s.selected, s.interval.toInt) = scan (measured system) (2 ^ 63 - 1) n

/-- One turn of the loop. -/
theorem Reflects.step {system device : ℕ → PtpClockTime} {n : ℕ} {s : SampleLoop}
    (h : Reflects system device n s) (hn : (system n).Valid) (hn' : (system (n + 1)).Valid) :
    Reflects system device (n + 1) (s.step n) := by
  have hend : s.pct (2 * n + 2) = system (n + 1) := h.ahead (n + 1) (Nat.lt_succ_self n)
  have hbegin : s.pct (2 * n) = seen system n := h.begun n le_rfl
  -- the reading that ends the sample is left as the next turn sees it
  have hleft : (pctDiff (s.pct (2 * n + 2)) (s.pct (2 * n))).2 = seen system (n + 1) := by
    rw [hend, hbegin, pctDiff_snd, nsec_seen]
    unfold seen borrowed
    simp only [decide_eq_true_eq]
  have hinterval : (pctns (pctDiff (s.pct (2 * n + 2)) (s.pct (2 * n))).1).toInt =
      measured system n := by
    rw [hend, hbegin]
    exact toInt_pctns_seen hn hn'
  have hpct : (s.step n).pct = Function.update s.pct (2 * n + 2) (seen system (n + 1)) := by
    rw [← hleft]
    unfold SampleLoop.step
    dsimp only
    split <;> rfl
  refine ⟨?_, ?_, ?_, ?_⟩
  · intro i hi
    rw [hpct]
    rcases Nat.lt_or_eq_of_le hi with hlt | rfl
    · rw [Function.update_of_ne (by omega)]
      exact h.begun i (Nat.le_of_lt_succ hlt)
    · exact Function.update_self ..
  · intro i hi
    rw [hpct, Function.update_of_ne (by omega)]
    exact h.ahead i (Nat.lt_of_succ_lt hi)
  · intro i
    rw [hpct, Function.update_of_ne (by omega)]
    exact h.device i
  · -- the comparison of the words is that of the numbers
    rw [scan, ← h.found]
    unfold SampleLoop.step
    dsimp only
    rw [← hinterval, if_congr Int64.lt_iff_toInt_lt rfl rfl]
    split <;> rfl

/-- The loop is a scan for the first minimum of the measured intervals. -/
theorem reflects_selectSample {system : ℕ → PtpClockTime} (device : ℕ → PtpClockTime) {n : ℕ}
    (hvalid : ∀ i ≤ n, (system i).Valid) :
    Reflects system device n (selectSample (interleave system device) n) := by
  induction n with
  | zero =>
    refine ⟨?_, fun i _ => interleave_even .., fun i => interleave_odd .., rfl⟩
    intro i hi
    rw [Nat.le_zero.mp hi]
    exact interleave_even system device 0
  | succ n ih =>
    exact (ih fun i hi => hvalid i (Nat.le_succ_of_le hi)).step (hvalid n (Nat.le_succ n))
      (hvalid (n + 1) le_rfl)

end Loop

/-! ### The times returned -/

/-- What the kernel answers without `PTP_SYS_OFFSET_PRECISE`. -/
def sampled (system device : ℕ → PtpClockTime) : GettimeAnswers :=
  ⟨true, none, some (interleave system device)⟩

/-- `HWTimestamper_gettime` shows the readings of sample `j` as they were made, whatever the hardware
clock reads and whatever times the caller had before. -/
def ShowsSample (system : ℕ → PtpClockTime) (j : ℕ) : Prop :=
  ∀ device : ℕ → PtpClockTime, (∀ i < ptpMaxSamples, (device i).Valid) → ∀ times : ClockTimes,
    (gettime (sampled system device) times).1 = true ∧
      Shows (gettime (sampled system device) times).2.systemTime (system j) ∧
      Shows (gettime (sampled system device) times).2.deviceTime (device j)

/-- The times after the loop are those of the sample that the scan has found. -/
theorem Reflects.times {system device : ℕ → PtpClockTime} {n : ℕ} {s : SampleLoop}
    (h : Reflects system device n s) (times : ClockTimes) :
    s.times times = match (scan (measured system) (2 ^ 63 - 1) n).1 with
      | none => times
      | some i => ⟨pctTimestamp (seen system i), pctTimestamp (device i)⟩ := by
  have hselected : s.selected = (scan (measured system) (2 ^ 63 - 1) n).1 := congrArg Prod.fst h.found
  unfold SampleLoop.times
  rw [← hselected]
  cases hsel : s.selected with
  | none => rfl
  | some i =>
    have hi : i < n := (scan_eq_some_iff.mp (hselected.symm.trans hsel)).1.lt
    dsimp only
    rw [h.begun i hi.le, h.device i]

theorem gettime_sampled (system device : ℕ → PtpClockTime) (times : ClockTimes) :
    gettime (sampled system device) times =
      (true, (selectSample (interleave system device) ptpMaxSamples).times times) := rfl

/-- A reading that has been borrowed from does not show its time. -/
theorem shows_seen_iff {system : ℕ → PtpClockTime} {j : ℕ} (h : (system j).Valid) :
    Shows (pctTimestamp (seen system j)) (system j) ↔ borrowed system j = false := by
  have hnonneg := h.sec_nonneg
  have hlt := h.sec_lt
  cases hborrowed : borrowed system j with
  | false =>
    have hseen : seen system j = system j := by simp [seen, hborrowed]
    rw [hseen]
    exact iff_of_true (shows_pctTimestamp h) rfl
  | true =>
    refine iff_of_false ?_ Bool.noConfusion
    rintro ⟨hsecs, -⟩
    have hseen : (seen system j).sec.toInt = (system j).sec.toInt - 1 := by
      simp only [seen, hborrowed, if_true]
      exact h.toInt_sub_one
    rw [wholeSeconds_pctTimestamp, hseen] at hsecs
    omega

/-- A hardware clock that reads the number of the sample in seconds. -/
def numberedDevice (i : ℕ) : PtpClockTime := ⟨Int64.ofNat i, 0⟩

theorem toInt_numberedDevice {i : ℕ} (h : i < ptpMaxSamples) : (numberedDevice i).sec.toInt = i := by
  have h' : i < 25 := h
  exact Int64.toInt_ofNat_of_lt (by omega)

/-- **Readings returned as they were made.** Let the system readings be valid and sample `j` the first
one of those enclosed most tightly. It is what `HWTimestamper_gettime` returns, exactly if the second of
its system reading has not been borrowed from and it is the first minimum of the measured intervals as
well. -/
theorem gettime_exact_iff (system : ℕ → PtpClockTime)
    (hvalid : ∀ i ≤ ptpMaxSamples, (system i).Valid) (j : ℕ)
    (hj : FirstMin (enclosing system) ptpMaxSamples j) :
    ShowsSample system j ↔ borrowed system j = false ∧
      FirstMin (measured system) ptpMaxSamples j ∧ measured system j < 2 ^ 63 - 1 := by
  have htimes (device : ℕ → PtpClockTime) (times : ClockTimes) :=
    (reflects_selectSample device hvalid).times times
  rw [← scan_eq_some_iff]
  constructor
  · intro h
    -- a hardware clock that tells the samples apart
    have hdevice : ∀ i < ptpMaxSamples, (numberedDevice i).Valid := by
      intro i hi
      have hsec := toInt_numberedDevice hi
      have hi' : i < 25 := hi
      have hnsec : (0 : UInt32).toNat < 10 ^ 9 := by decide
      exact ⟨hnsec, by omega, by omega⟩
    obtain ⟨-, hsystem, hdevice'⟩ := h numberedDevice hdevice ⟨Timestamp.zero, ⟨1, 0, 0, 0⟩⟩
    rw [gettime_sampled, htimes] at hsystem hdevice'
    cases hscan : (scan (measured system) (2 ^ 63 - 1) ptpMaxSamples).1 with
    | none =>
      rw [hscan] at hdevice'
      have hnsec : (1 : UInt32) = 0 := hdevice'.2
      exact absurd hnsec (by decide)
    | some i =>
      rw [hscan] at hsystem hdevice'
      have hi : i < ptpMaxSamples := (scan_eq_some_iff.mp hscan).1.lt
      have hsame := hdevice'.1.symm.trans (shows_pctTimestamp (hdevice i hi)).1
      rw [toInt_numberedDevice hi, toInt_numberedDevice hj.lt] at hsame
      obtain rfl : j = i := by omega
      exact ⟨(shows_seen_iff (hvalid j hj.lt.le)).mp hsystem, rfl⟩
  · rintro ⟨hborrowed, hscan⟩ device hdevice times
    rw [gettime_sampled, htimes, hscan]
    exact ⟨rfl, (shows_seen_iff (hvalid j hj.lt.le)).mpr hborrowed,
      shows_pctTimestamp (hdevice j hj.lt)⟩

/-- A system clock that is read once a second, but for the fifth reading, which comes after half a second. -/
def hurriedSystem (i : ℕ) : PtpClockTime :=
  if i ≤ 3 then ⟨10 + Int64.ofNat i, 0⟩ else ⟨9 + Int64.ofNat i, 500000000⟩

/-- The sample that the fifth reading ends is returned. -/
theorem hurriedSystem_shown : ShowsSample hurriedSystem 3 :=
  (gettime_exact_iff hurriedSystem (by decide +kernel) 3 (by decide +kernel)).mpr (by decide +kernel)

/-- A system clock that is read at 10.5, 13 and 13.001 seconds, and then every other second. -/
def boundarySystem : ℕ → PtpClockTime
  | 0 => ⟨10, 500000000⟩
  | 1 => ⟨13, 0⟩
  | i + 2 => ⟨13 + 2 * Int64.ofNat i, 1000000⟩

/-- The tightest sample begins at 13 seconds and is returned as having begun at 12. -/
theorem boundarySystem_second_early :
    (∀ i ≤ ptpMaxSamples, (boundarySystem i).Valid) ∧
      FirstMin (enclosing boundarySystem) ptpMaxSamples 1 ∧
      gettime (sampled boundarySystem numberedDevice) ⟨Timestamp.zero, Timestamp.zero⟩ =
        (true, ⟨⟨0, 12, 0, 0xFF⟩, ⟨0, 1, 0, 0xFF⟩⟩) ∧
      ¬ Shows ⟨0, 12, 0, 0xFF⟩ (boundarySystem 1) := by
  decide +kernel

end Linux

end Gptp
