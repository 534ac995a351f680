import Gptp.Framework.Words
import Gptp.Message.Timestamps

/-!
# Nanosecond counts of timestamps

`TIMESTAMP_TO_NS` flattens a timestamp to 64 bits, `TIMESTAMP_ADD_NS` and `TIMESTAMP_SUB_NS` move one
by a 64-bit count of nanoseconds. Each of the two reassembles the seconds words from a 64-bit count,
so both are described by their effect on the 48-bit seconds and on the nanoseconds.

* `Timestamp.toNat_toNs`: the flattened count is the value modulo `2 ^ 64`.
* `Timestamp.value_set64`: a timestamp can be set to any 64-bit count.
* `Timestamp.toNs_set64`, `Timestamp.set64_toNs`: setting and flattening undo each other, on all counts
  and on the normalised timestamps that fit in 64 bits.
* `Timestamp.value_addNs`, `Timestamp.value_subNs`: a result within 48-bit seconds is exact, also when
  its nanoseconds are not those of a normalised timestamp.
* `Timestamp.normalized_addNs_iff`: the carry of `TIMESTAMP_ADD_NS` tests for *more* than a second, so
  a sum of exactly one second is left in the nanoseconds.
* `Timestamp.addNs_subNs`, `Timestamp.subNs_addNs_iff`: adding and then subtracting restores a
  timestamp; the other order ends in that sum when it borrows from a whole second.
-/

namespace Gptp

open Framework

namespace Timestamp

variable {t : Timestamp}

/-! ### Seconds and nanoseconds of a reassembled timestamp -/

theorem wholeSeconds_lt (t : Timestamp) : t.wholeSeconds < 2 ^ 48 := by
  have hls := t.secondsLs.toNat_lt
  have hms := t.secondsMs.toNat_lt
  unfold wholeSeconds
  omega

theorem toNat_seconds (t : Timestamp) : t.seconds.toNat = t.wholeSeconds := by
  have hms := t.secondsMs.toNat_lt
  have hls : t.secondsLs.toUInt64.toNat < 2 ^ (32 : UInt64).toNat := by
    rw [UInt32.toNat_toUInt64]
    exact t.secondsLs.toNat_lt
  rw [seconds, UInt64.or_comm, toNat_shiftLeft_or (by decide) hls, UInt16.toNat_toUInt64,
    UInt32.toNat_toUInt64, wholeSeconds]
  change 2 ^ 32 * (t.secondsMs.toNat % 2 ^ 32) + t.secondsLs.toNat = _
  omega

/-- Two timestamps are the same if their seconds, nanoseconds and versions are. -/
theorem ext_of_wholeSeconds {s t : Timestamp} (hsecs : s.wholeSeconds = t.wholeSeconds)
    (hns : s.nanoseconds.toNat = t.nanoseconds.toNat) (hv : s.version = t.version) : s = t := by
  have hs := s.secondsLs.toNat_lt
  have ht := t.secondsLs.toNat_lt
  unfold wholeSeconds at hsecs
  have hls : s.secondsLs = t.secondsLs := UInt32.toNat_inj.mp (by omega)
  have hms : s.secondsMs = t.secondsMs := UInt16.toNat_inj.mp (by omega)
  have hns : s.nanoseconds = t.nanoseconds := UInt32.toNat_inj.mp hns
  cases s
  cases t
  simp_all

theorem wholeSeconds_setSecondsNanos (t : Timestamp) (secs nanos : UInt64) :
    (t.setSecondsNanos secs nanos).wholeSeconds = secs.toNat % 2 ^ 48 := by
  have hls : (secs &&& 0xFFFFFFFF).toUInt32.toNat = secs.toNat % 2 ^ 32 := by
    have hmask : (secs &&& 0xFFFFFFFF).toNat = secs.toNat % 2 ^ 32 := toNat_and_mask rfl secs
    rw [UInt64.toNat_toUInt32, hmask, Nat.mod_mod]
  have hms : (secs >>> 32).toUInt16.toNat = secs.toNat / 2 ^ 32 % 2 ^ 16 := by
    rw [UInt64.toNat_toUInt16, toNat_shiftRight (by decide)]
    rfl
  simp only [wholeSeconds, setSecondsNanos, hls, hms]
  omega

theorem toNat_nanoseconds_setSecondsNanos (t : Timestamp) (secs nanos : UInt64) :
    (t.setSecondsNanos secs nanos).nanoseconds.toNat = nanos.toNat % 2 ^ 32 :=
  UInt64.toNat_toUInt32 nanos

@[simp] theorem version_setSecondsNanos (t : Timestamp) (secs nanos : UInt64) :
    (t.setSecondsNanos secs nanos).version = t.version := rfl

/-! ### The flattened count -/

/-- `TIMESTAMP_TO_NS` is the value modulo `2 ^ 64`. The source multiplies numbers of type `long long`;
above `2 ^ 63` the product is taken to wrap around as they do in two's complement. -/
theorem toNat_toNs (t : Timestamp) : t.toNs.toNat = t.value % 2 ^ 64 := by
  have hls := t.secondsLs.toNat_lt
  have hms := t.secondsMs.toNat_lt
  have hns := t.nanoseconds.toNat_lt
  simp only [toNs, value, wholeSeconds, UInt64.toNat_add, UInt64.toNat_mul, UInt64.toNat_shiftLeft,
    UInt16.toNat_toUInt64, UInt32.toNat_toUInt64, UInt64.reduceToNat, Nat.shiftLeft_eq]
  norm_num

/-- `Timestamp::set64` sets any 64-bit count exactly. -/
theorem value_set64 (v : UInt64) (t : Timestamp) : (t.set64 v).value = v.toNat := by
  have hv := v.toNat_lt
  have hbillion : (1000000000 : UInt64).toNat = 1000000000 := rfl
  have hshift : (32 : UInt64).toNat % 64 = 32 := rfl
  simp only [set64, value, wholeSeconds, UInt64.toNat_toUInt32, UInt64.toNat_toUInt16,
    UInt64.toNat_shiftRight, UInt64.toNat_div, UInt64.toNat_mod, hbillion, hshift,
    Nat.shiftRight_eq_div_pow]
  omega

/-- `Timestamp::set64` leaves less than a second in the nanoseconds. -/
theorem normalized_set64 (v : UInt64) (t : Timestamp) : (t.set64 v).Normalized := by
  have hrem : (v % 1000000000).toNat = v.toNat % 10 ^ 9 := UInt64.toNat_mod v _
  rw [Normalized, set64, UInt64.toNat_toUInt32, hrem]
  omega

@[simp] theorem version_set64 (v : UInt64) (t : Timestamp) : (t.set64 v).version = t.version := rfl

/-- A count survives the way through a timestamp. -/
theorem toNs_set64 (v : UInt64) (t : Timestamp) : (t.set64 v).toNs = v := by
  apply UInt64.toNat_inj.mp
  rw [toNat_toNs, value_set64, Nat.mod_eq_of_lt v.toNat_lt]

/-- Normalised timestamps of one version are told apart by their values. -/
theorem Normalized.ext_of_value {s t : Timestamp} (hs : s.Normalized) (ht : t.Normalized)
    (hvalue : s.value = t.value) (hv : s.version = t.version) : s = t := by
  unfold Normalized at hs ht
  unfold value at hvalue
  exact ext_of_wholeSeconds (by omega) (by omega) hv

/-- A normalised timestamp whose value fits in 64 bits survives the way through its count, up to the
version of the timestamp that is set. -/
theorem set64_toNs {s : Timestamp} (hs : s.Normalized) (hlt : s.value < 2 ^ 64) (t : Timestamp) :
    t.set64 s.toNs = { s with version := t.version } := by
  refine (normalized_set64 _ _).ext_of_value hs ?_ rfl
  rw [value_set64, toNat_toNs, Nat.mod_eq_of_lt hlt]
  rfl

/-- The normalised timestamps of a version whose value fits in 64 bits. -/
def within64 (version : UInt8) : Set Timestamp :=
  {s | s.Normalized ∧ s.value < 2 ^ 64 ∧ s.version = version}

theorem set64_mem_within64 (v : UInt64) (t : Timestamp) : t.set64 v ∈ within64 t.version :=
  ⟨normalized_set64 v t, (value_set64 v t).trans_lt v.toNat_lt, version_set64 v t⟩

theorem set64_toNs_of_mem {s t : Timestamp} (hs : s ∈ within64 t.version) : t.set64 s.toNs = s := by
  obtain ⟨hnorm, hlt, hv⟩ := hs
  rw [set64_toNs hnorm hlt, ← hv]

/-- **Counts and timestamps.** Setting a timestamp to a 64-bit count and flattening it are inverse to each
other, between all the counts and the normalised timestamps that fit in 64 bits. Neither looks at the
version, so the timestamps are those of one version. -/
theorem set64_toNs_inverse (t : Timestamp) :
    (∀ v : UInt64, (t.set64 v).toNs = v ∧ (t.set64 v).Normalized) ∧
      (∀ s : Timestamp, s.Normalized → s.value < 2 ^ 64 →
        (t.set64 s.toNs).nanoseconds = s.nanoseconds ∧ (t.set64 s.toNs).secondsLs = s.secondsLs ∧
          (t.set64 s.toNs).secondsMs = s.secondsMs) ∧
      Set.InvOn toNs t.set64 Set.univ (within64 t.version) ∧
      Set.BijOn t.set64 Set.univ (within64 t.version) ∧
      Set.BijOn toNs (within64 t.version) Set.univ := by
  have hinv : Set.InvOn toNs t.set64 Set.univ (within64 t.version) :=
    ⟨fun v _ => toNs_set64 v t, fun _ hs => set64_toNs_of_mem hs⟩
  have hmaps : Set.MapsTo t.set64 Set.univ (within64 t.version) := fun v _ => set64_mem_within64 v t
  refine ⟨?_, ?_, hinv, ?_, ?_⟩
  · intro v
    exact ⟨toNs_set64 v t, normalized_set64 v t⟩
  · intro s hs hlt
    rw [set64_toNs hs hlt]
    exact ⟨rfl, rfl, rfl⟩
  · exact hinv.bijOn hmaps (Set.mapsTo_univ _ _)
  · exact hinv.symm.bijOn (Set.mapsTo_univ _ _) hmaps

/-- A timestamp past `2 ^ 32` seconds, restored from its count. -/
theorem set64_toNs_past_32_bits :
    let s : Timestamp := ⟨999999999, 7, 1, 2⟩
    (Timestamp.zero.set64 s.toNs).nanoseconds = 999999999 ∧ (Timestamp.zero.set64 s.toNs).secondsLs = 7 ∧
      (Timestamp.zero.set64 s.toNs).secondsMs = 1 :=
  (set64_toNs_inverse Timestamp.zero).2.1 ⟨999999999, 7, 1, 2⟩ (by decide) (by decide)

/-- The difference of two flattened counts, read as a signed number, is that of the values modulo
`2 ^ 64`. -/
theorem toInt_toNs_sub_toNs (s t : Timestamp) :
    (s.toNs - t.toNs).toInt64.toInt = Int.bmod (s.value - t.value) (2 ^ 64) := by
  have ht : t.value % 2 ^ 64 ≤ 2 ^ 64 := (Nat.mod_lt _ (by norm_num)).le
  rw [toInt_toInt64, UInt64.toNat_sub, toNat_toNs, toNat_toNs]
  apply bmod_eq_of_modEq
  unfold Int.ModEq
  omega

/-! ### Moving a timestamp by nanoseconds -/

section Move

variable {t : Timestamp} {n : UInt64}

/-- What `TIMESTAMP_ADD_NS` carries out of the nanoseconds: a sum of exactly one second stays there. -/
def carryOf (t : Timestamp) (n : UInt64) : ℕ :=
  if 10 ^ 9 < t.nanoseconds.toNat + n.toNat % 10 ^ 9 then 1 else 0

/-- What `TIMESTAMP_SUB_NS` borrows for the nanoseconds. -/
def borrowOf (t : Timestamp) (n : UInt64) : ℕ :=
  if t.nanoseconds.toNat < n.toNat % 10 ^ 9 then 1 else 0

theorem carryOf_eq_one (h : 10 ^ 9 < t.nanoseconds.toNat + n.toNat % 10 ^ 9) : carryOf t n = 1 :=
  if_pos h

theorem carryOf_eq_zero (h : t.nanoseconds.toNat + n.toNat % 10 ^ 9 ≤ 10 ^ 9) : carryOf t n = 0 :=
  if_neg (Nat.not_lt.mpr h)

theorem borrowOf_eq_one (h : t.nanoseconds.toNat < n.toNat % 10 ^ 9) : borrowOf t n = 1 :=
  if_pos h

theorem borrowOf_eq_zero (h : n.toNat % 10 ^ 9 ≤ t.nanoseconds.toNat) : borrowOf t n = 0 :=
  if_neg (Nat.not_lt.mpr h)

theorem carryOf_cases (t : Timestamp) (n : UInt64) :
    carryOf t n = 1 ∧ 10 ^ 9 < t.nanoseconds.toNat + n.toNat % 10 ^ 9 ∨
      carryOf t n = 0 ∧ t.nanoseconds.toNat + n.toNat % 10 ^ 9 ≤ 10 ^ 9 := by
  by_cases h : 10 ^ 9 < t.nanoseconds.toNat + n.toNat % 10 ^ 9
  · exact .inl ⟨carryOf_eq_one h, h⟩
  · exact .inr ⟨carryOf_eq_zero (Nat.not_lt.mp h), Nat.not_lt.mp h⟩

theorem borrowOf_cases (t : Timestamp) (n : UInt64) :
    borrowOf t n = 1 ∧ t.nanoseconds.toNat < n.toNat % 10 ^ 9 ∨
      borrowOf t n = 0 ∧ n.toNat % 10 ^ 9 ≤ t.nanoseconds.toNat := by
  by_cases h : t.nanoseconds.toNat < n.toNat % 10 ^ 9
  · exact .inl ⟨borrowOf_eq_one h, h⟩
  · exact .inr ⟨borrowOf_eq_zero (Nat.not_lt.mp h), Nat.not_lt.mp h⟩

/-- The nanoseconds and the whole seconds of a 64-bit count. -/
theorem toNat_rem_quot (n : UInt64) :
    (n % 1000000000).toNat = n.toNat % 10 ^ 9 ∧ (n / 1000000000).toNat = n.toNat / 10 ^ 9 :=
  ⟨UInt64.toNat_mod n _, UInt64.toNat_div n _⟩

/-- `TIMESTAMP_ADD_NS` on the seconds and on the nanoseconds. -/
theorem addNs_spec (ht : t.Normalized) (n : UInt64) :
    (t.addNs n).wholeSeconds = (t.wholeSeconds + n.toNat / 10 ^ 9 + carryOf t n) % 2 ^ 48 ∧
      (t.addNs n).nanoseconds.toNat + carryOf t n * 10 ^ 9 =
        t.nanoseconds.toNat + n.toNat % 10 ^ 9 ∧
      (t.addNs n).version = t.version := by
  have hn := n.toNat_lt
  have hsecs := t.wholeSeconds_lt
  have hrem : n.toNat % 10 ^ 9 < 10 ^ 9 := Nat.mod_lt _ (by norm_num)
  have hnanos : (t.nanoseconds.toUInt64 + n % 1000000000).toNat =
      t.nanoseconds.toNat + n.toNat % 10 ^ 9 := by
    rw [UInt64.toNat_add, UInt32.toNat_toUInt64, (toNat_rem_quot n).1]
    unfold Normalized at ht
    omega
  have hsum : (t.seconds + n / 1000000000).toNat = t.wholeSeconds + n.toNat / 10 ^ 9 := by
    rw [UInt64.toNat_add, toNat_seconds, (toNat_rem_quot n).2]
    omega
  have hcarry : 1000000000 < t.nanoseconds.toUInt64 + n % 1000000000 ↔
      10 ^ 9 < t.nanoseconds.toNat + n.toNat % 10 ^ 9 := by
    rw [UInt64.lt_iff_toNat_lt, hnanos]
    rfl
  unfold Normalized at ht
  -- the branch of the macro; a sum of exactly a second takes the second one
  by_cases h : 10 ^ 9 < t.nanoseconds.toNat + n.toNat % 10 ^ 9
  · rw [addNs, if_pos (hcarry.mpr h), wholeSeconds_setSecondsNanos,
      toNat_nanoseconds_setSecondsNanos, UInt64.toNat_add, UInt64.toNat_sub, hsum, hnanos,
      carryOf_eq_one h]
    refine ⟨?_, ?_, version_setSecondsNanos ..⟩ <;> simp only [UInt64.reduceToNat] <;> omega
  · rw [addNs, if_neg (hcarry.not.mpr h), wholeSeconds_setSecondsNanos,
      toNat_nanoseconds_setSecondsNanos, hsum, hnanos, carryOf_eq_zero (Nat.not_lt.mp h)]
    refine ⟨?_, ?_, version_setSecondsNanos ..⟩ <;> omega

/-- `TIMESTAMP_SUB_NS` on the seconds and on the nanoseconds. -/
theorem subNs_spec (ht : t.nanoseconds.toNat ≤ 10 ^ 9) (n : UInt64) :
    (t.subNs n).wholeSeconds =
        (t.wholeSeconds + 2 ^ 48 - n.toNat / 10 ^ 9 - borrowOf t n) % 2 ^ 48 ∧
      (t.subNs n).nanoseconds.toNat + n.toNat % 10 ^ 9 =
        t.nanoseconds.toNat + borrowOf t n * 10 ^ 9 ∧
      (t.subNs n).version = t.version := by
  have hn := n.toNat_lt
  have hsecs := t.wholeSeconds_lt
  have hrem : n.toNat % 10 ^ 9 < 10 ^ 9 := Nat.mod_lt _ (by norm_num)
  -- the seconds may go below zero and wrap; cut to 48 bits they are still the difference
  have hdiff : (t.seconds - n / 1000000000).toNat =
      (2 ^ 64 - n.toNat / 10 ^ 9 + t.wholeSeconds) % 2 ^ 64 := by
    rw [UInt64.toNat_sub, toNat_seconds, (toNat_rem_quot n).2]
  have hborrow : t.nanoseconds.toUInt64 < n % 1000000000 ↔
      t.nanoseconds.toNat < n.toNat % 10 ^ 9 := by
    rw [UInt64.lt_iff_toNat_lt, UInt32.toNat_toUInt64, (toNat_rem_quot n).1]
  by_cases h : t.nanoseconds.toNat < n.toNat % 10 ^ 9
  · have hnanos : (t.nanoseconds.toUInt64 + 1000000000 - n % 1000000000).toNat =
        t.nanoseconds.toNat + 10 ^ 9 - n.toNat % 10 ^ 9 := by
      rw [UInt64.toNat_sub, UInt64.toNat_add, UInt32.toNat_toUInt64, (toNat_rem_quot n).1]
      simp only [UInt64.reduceToNat]
      omega
    have hlowered : (t.seconds - n / 1000000000 - 1).toNat =
        (2 ^ 64 - 1 + (2 ^ 64 - n.toNat / 10 ^ 9 + t.wholeSeconds) % 2 ^ 64) % 2 ^ 64 := by
      rw [UInt64.toNat_sub, hdiff, UInt64.toNat_one]
    rw [subNs, if_pos (hborrow.mpr h), wholeSeconds_setSecondsNanos,
      toNat_nanoseconds_setSecondsNanos, hlowered, hnanos, borrowOf_eq_one h]
    refine ⟨?_, ?_, version_setSecondsNanos ..⟩ <;> omega
  · have hnanos : (t.nanoseconds.toUInt64 - n % 1000000000).toNat =
        t.nanoseconds.toNat - n.toNat % 10 ^ 9 := by
      rw [UInt64.toNat_sub, UInt32.toNat_toUInt64, (toNat_rem_quot n).1]
      omega
    rw [subNs, if_neg (hborrow.not.mpr h), wholeSeconds_setSecondsNanos,
      toNat_nanoseconds_setSecondsNanos, hdiff, hnanos, borrowOf_eq_zero (Nat.not_lt.mp h)]
    refine ⟨?_, ?_, version_setSecondsNanos ..⟩ <;> omega

/-! ### Exactness and round trips -/

/-- Adding nanoseconds is exact modulo `2 ^ 48` seconds. -/
theorem value_addNs_modEq (ht : t.Normalized) (n : UInt64) :
    (t.addNs n).value ≡ t.value + n.toNat [MOD 2 ^ 48 * 10 ^ 9] := by
  obtain ⟨hsecs, hns, -⟩ := addNs_spec ht n
  unfold Nat.ModEq value
  omega

/-- Subtracting nanoseconds is exact modulo `2 ^ 48` seconds. -/
theorem value_subNs_modEq (ht : t.Normalized) (n : UInt64) :
    (t.subNs n).value + n.toNat ≡ t.value [MOD 2 ^ 48 * 10 ^ 9] := by
  have hn := n.toNat_lt
  have hborrow := borrowOf_cases t n
  obtain ⟨hsecs, hns, -⟩ := subNs_spec (Nat.le_of_lt ht) n
  unfold Nat.ModEq value
  omega

/-- A sum within 48-bit seconds is exact, also where its nanoseconds are a whole second. -/
theorem value_addNs (ht : t.Normalized) (h : t.value + n.toNat < 2 ^ 48 * 10 ^ 9) :
    (t.addNs n).value = t.value + n.toNat := by
  have hcarry := carryOf_cases t n
  obtain ⟨hsecs, hns, -⟩ := addNs_spec ht n
  unfold Normalized at ht
  unfold value at h ⊢
  omega

/-- A difference that is not negative is exact. -/
theorem value_subNs (ht : t.Normalized) (h : n.toNat ≤ t.value) :
    (t.subNs n).value + n.toNat = t.value := by
  have hlt := t.wholeSeconds_lt
  have hborrow := borrowOf_cases t n
  obtain ⟨hsecs, hns, -⟩ := subNs_spec (Nat.le_of_lt ht) n
  unfold Normalized at ht
  unfold value at h ⊢
  omega

/-- The carry leaves a sum of exactly one second in the nanoseconds. -/
theorem normalized_addNs_iff (ht : t.Normalized) (n : UInt64) :
    (t.addNs n).Normalized ↔ t.nanoseconds.toNat + n.toNat % 10 ^ 9 ≠ 10 ^ 9 := by
  have hcarry := carryOf_cases t n
  obtain ⟨-, hns, -⟩ := addNs_spec ht n
  unfold Normalized at ht ⊢
  omega

/-- Subtracting keeps a timestamp normalised. -/
theorem Normalized.subNs (ht : t.Normalized) (n : UInt64) : (t.subNs n).Normalized := by
  have hborrow := borrowOf_cases t n
  obtain ⟨-, hns, -⟩ := subNs_spec (Nat.le_of_lt ht) n
  unfold Normalized at ht ⊢
  omega

/-- Adding and then subtracting restores a timestamp: the subtraction borrows exactly where the
addition carried. -/
theorem addNs_subNs (ht : t.Normalized) (n : UInt64) : (t.addNs n).subNs n = t := by
  have hlt := t.wholeSeconds_lt
  have hn := n.toNat_lt
  have hcarry := carryOf_cases t n
  have hborrow := borrowOf_cases (t.addNs n) n
  obtain ⟨hsecs, hns, hv⟩ := addNs_spec ht n
  unfold Normalized at ht
  obtain ⟨hsecs', hns', hv'⟩ := subNs_spec (t := t.addNs n) (by omega) n
  -- what was carried is borrowed again
  have heq : borrowOf (t.addNs n) n = carryOf t n := by omega
  refine ext_of_wholeSeconds ?_ ?_ (hv'.trans hv) <;> omega

/-- Subtracting and then adding restores a timestamp unless the subtraction borrows from a whole
second: the sum then is exactly one second and is not carried back. -/
theorem subNs_addNs_iff (ht : t.Normalized) (n : UInt64) :
    (t.subNs n).addNs n = t ↔ ¬ (t.nanoseconds.toNat = 0 ∧ n.toNat % 10 ^ 9 ≠ 0) := by
  have hlt := t.wholeSeconds_lt
  have hn := n.toNat_lt
  have hborrow := borrowOf_cases t n
  have hcarry := carryOf_cases (t.subNs n) n
  obtain ⟨hsecs, hns, hv⟩ := subNs_spec (Nat.le_of_lt ht) n
  obtain ⟨hsecs', hns', hv'⟩ := addNs_spec (ht.subNs n) n
  unfold Normalized at ht
  constructor
  · -- after a borrow from a whole second nothing is carried back
    intro h
    rw [h] at hns'
    omega
  · intro h
    have heq : carryOf (t.subNs n) n = borrowOf t n := by omega
    refine ext_of_wholeSeconds ?_ ?_ (hv'.trans hv) <;> omega

end Move

/-- `TIMESTAMP_ADD_NS` and `TIMESTAMP_SUB_NS` move a normalised timestamp by exactly the given count,
modulo `2 ^ 48` seconds, keep it normalised and undo each other, if and only if the sum does not make
up exactly one second and the difference does not borrow from a whole one. -/
theorem moves_exactly_iff (t : Timestamp) (n : UInt64) (ht : t.Normalized) :
    ((t.addNs n).Normalized ∧ (t.subNs n).Normalized ∧
      (t.addNs n).value ≡ t.value + n.toNat [MOD 2 ^ 48 * 10 ^ 9] ∧
      (t.subNs n).value + n.toNat ≡ t.value [MOD 2 ^ 48 * 10 ^ 9] ∧
      (t.addNs n).subNs n = t ∧ (t.subNs n).addNs n = t) ↔
    t.nanoseconds.toNat + n.toNat % 10 ^ 9 ≠ 10 ^ 9 ∧
      ¬ (t.nanoseconds.toNat = 0 ∧ n.toNat % 10 ^ 9 ≠ 0) := by
  rw [normalized_addNs_iff ht, subNs_addNs_iff ht]
  constructor
  · rintro ⟨hcarry, -, -, -, -, hborrow⟩
    exact ⟨hcarry, hborrow⟩
  · rintro ⟨hcarry, hborrow⟩
    exact ⟨hcarry, ht.subNs n, value_addNs_modEq ht n, value_subNs_modEq ht n, addNs_subNs ht n,
      hborrow⟩

/-- The condition met: half a second added to and taken from a quarter of a second past five. -/
theorem moves_exactly_half_second :
    let t : Timestamp := ⟨250000000, 5, 0, 1⟩
    (t.addNs 500000000).Normalized ∧ (t.subNs 500000000).addNs 500000000 = t := by
  intro t
  have h := (moves_exactly_iff t 500000000 (by decide)).mpr (by decide)
  exact ⟨h.1, h.2.2.2.2.2⟩

/-- One nanosecond before the full second, a nanosecond later: the nanoseconds are `10 ^ 9`. One
nanosecond taken from a full second and added again: the seconds are one short and the nanoseconds
are `10 ^ 9`. -/
theorem whole_second_not_carried :
    (⟨999999999, 0, 0, 1⟩ : Timestamp).Normalized ∧
      ¬ ((⟨999999999, 0, 0, 1⟩ : Timestamp).addNs 1).Normalized ∧
      (⟨999999999, 0, 0, 1⟩ : Timestamp).addNs 1 = ⟨1000000000, 0, 0, 1⟩ ∧
      ((⟨0, 1, 0, 1⟩ : Timestamp).subNs 1).addNs 1 = ⟨1000000000, 0, 0, 1⟩ := by
  decide

end Timestamp

end Gptp
