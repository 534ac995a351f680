import Gptp.Framework.Machine
import Gptp.Framework.Words

/-!
# Rollovers of the device clock

The driver of a wireless adapter reports the 32 low bits of the device clock. `calc_rollover` extends them
to 64 bits: it keeps the last sample and counts how often the clock has rolled over since the first one.
Samples may come out of order, and one that was taken before a rollover may be reported after it. Such a
late sample is extended with the count before the rollover, and is not kept as the last one.

The sample that is kept, the *reference*, is known by its low bits only. What makes the extension right is
that its epoch, the number of rollovers before it, is the one that has been counted
(`IntelWirelessAdapter.Follows`), and that a sample less than a quarter of a rollover away from it is in
the next epoch, the one before or the same one according to the quarters of their low bits (`epoch_cases`).

* `calcRollover_eq`: every sample is extended to its true value, up to the epoch of the first one.
-/

namespace Gptp

open Framework

/-- The part of `IntelWirelessAdapter` that extends the device clock. -/
structure IntelWirelessAdapter where
  gp2Last : UInt64
  gp2Ext : UInt32
  deriving DecidableEq

/-- `GP2_ROLLOVER`. -/
def gp2Rollover : UInt64 := 4294967296

namespace IntelWirelessAdapter

/-- `IntelWirelessAdapter::IntelWirelessAdapter`: the last sample is `ULLONG_MAX`, that is, there is
none. -/
def new : IntelWirelessAdapter := ⟨0xFFFFFFFFFFFFFFFF, 0⟩

/-- The clock has rolled over between the last sample and this one. -/
def RolledOver (gp2 : UInt64) (s : IntelWirelessAdapter) : Prop :=
  gp2 < gp2Rollover / 4 ∧ gp2Rollover * 3 / 4 < s.gp2Last

/-- The clock has rolled over between this sample and the last one. -/
def Late (gp2 : UInt64) (s : IntelWirelessAdapter) : Prop :=
  s.gp2Last < gp2Rollover / 4 ∧ gp2Rollover * 3 / 4 < gp2

instance (gp2 : UInt64) (s : IntelWirelessAdapter) : Decidable (RolledOver gp2 s) :=
  inferInstanceAs (Decidable (_ ∧ _))

instance (gp2 : UInt64) (s : IntelWirelessAdapter) : Decidable (Late gp2 s) :=
  inferInstanceAs (Decidable (_ ∧ _))

/-- `IntelWirelessAdapter::calc_rollover`. -/
def calcRollover (gp2 : UInt64) (s : IntelWirelessAdapter) : IntelWirelessAdapter × UInt64 :=
  let gp2 := gp2 &&& 0xFFFFFFFF
  if s.gp2Last = 0xFFFFFFFFFFFFFFFF then ({ s with gp2Last := gp2 }, gp2)
  else
    let gp2Ext := if RolledOver gp2 s then s.gp2Ext + 1 else s.gp2Ext
    let localExt : UInt64 := gp2Ext.toUInt64
    if Late gp2 s then ({ s with gp2Ext := gp2Ext }, gp2 + (localExt - 1) * gp2Rollover)
    else (⟨gp2, gp2Ext⟩, gp2 + localExt * gp2Rollover)

/-- A call updates `gp2_last`. -/
def UpdatesLast (gp2 : UInt64) (s : IntelWirelessAdapter) : Prop :=
  s.gp2Last = 0xFFFFFFFFFFFFFFFF ∨ ¬ Late (gp2 &&& 0xFFFFFFFF) s

instance (gp2 : UInt64) (s : IntelWirelessAdapter) : Decidable (UpdatesLast gp2 s) :=
  inferInstanceAs (Decidable (_ ∨ _))

/-- An adapter among the samples of its driver. -/
def machine : Machine IntelWirelessAdapter UInt64 where
  enabled _ _ := True
  step s gp2 := (s.calcRollover gp2).1

/-- The adapter after `k` samples. -/
abbrev after (σ : ℕ → UInt64) (k : ℕ) : IntelWirelessAdapter := machine.stateAt new σ k

/-- What the call with sample `k` returns. -/
def extended (σ : ℕ → UInt64) (k : ℕ) : UInt64 := ((after σ k).calcRollover (σ k)).2

/-- The true value of the reference of sample `k`, the sample that was the last to update `gp2_last`;
the first one is its own reference. -/
def reference (t : ℕ → ℕ) (σ : ℕ → UInt64) : ℕ → ℕ
  | 0 => t 0
  | k + 1 => if UpdatesLast (σ k) (after σ k) then t k else reference t σ k

/-! ### One sample -/

/-- Which epoch a sample is in, from its own quarter and the one of the reference. -/
theorem epoch_cases {r t : ℕ} (h : |(t : ℤ) - r| < 2 ^ 30) :
    (t % 2 ^ 32 < 2 ^ 30 ∧ 3 * 2 ^ 30 < r % 2 ^ 32 → t / 2 ^ 32 = r / 2 ^ 32 + 1) ∧
      (r % 2 ^ 32 < 2 ^ 30 ∧ 3 * 2 ^ 30 < t % 2 ^ 32 → t / 2 ^ 32 + 1 = r / 2 ^ 32) ∧
      (¬ (t % 2 ^ 32 < 2 ^ 30 ∧ 3 * 2 ^ 30 < r % 2 ^ 32) →
        ¬ (r % 2 ^ 32 < 2 ^ 30 ∧ 3 * 2 ^ 30 < t % 2 ^ 32) → t / 2 ^ 32 = r / 2 ^ 32) := by
  rw [abs_lt] at h
  omega

theorem toNat_low (gp2 : UInt64) : (gp2 &&& 0xFFFFFFFF).toNat = gp2.toNat % 2 ^ 32 :=
  toNat_and_mask rfl gp2

theorem rolledOver_iff {gp2 : UInt64} {s : IntelWirelessAdapter} :
    RolledOver gp2 s ↔ gp2.toNat < 2 ^ 30 ∧ 3 * 2 ^ 30 < s.gp2Last.toNat := Iff.rfl

theorem late_iff {gp2 : UInt64} {s : IntelWirelessAdapter} :
    Late gp2 s ↔ s.gp2Last.toNat < 2 ^ 30 ∧ 3 * 2 ^ 30 < gp2.toNat := Iff.rfl

/-- The adapter follows the clock: its last sample has the low bits of the reference `r`, and it has
counted the rollovers between the epoch `e₀` of the first sample and `r`. -/
structure Follows (e₀ r : ℕ) (s : IntelWirelessAdapter) : Prop where
  last : s.gp2Last.toNat = r % 2 ^ 32
  ext : (s.gp2Ext.toNat : ℤ) = ((r / 2 ^ 32 : ℕ) - e₀ : ℤ) % 2 ^ 32

section Sample

variable {e₀ r t : ℕ} {s : IntelWirelessAdapter} {gp2 : UInt64}

/-- An adapter that follows the clock has had its first sample. -/
theorem Follows.not_first (h : s.Follows e₀ r) : s.gp2Last ≠ 0xFFFFFFFFFFFFFFFF := by
  intro hfirst
  have hlast := h.last
  rw [hfirst] at hlast
  have hmax : (0xFFFFFFFFFFFFFFFF : UInt64).toNat = 2 ^ 64 - 1 := rfl
  omega

theorem Follows.updatesLast_iff (h : s.Follows e₀ r) :
    UpdatesLast gp2 s ↔ ¬ Late (gp2 &&& 0xFFFFFFFF) s := or_iff_right h.not_first

theorem Follows.calcRollover_of_late (h : s.Follows e₀ r) (hlate : Late (gp2 &&& 0xFFFFFFFF) s) :
    s.calcRollover gp2 =
      (s, (gp2 &&& 0xFFFFFFFF) + (s.gp2Ext.toUInt64 - 1) * gp2Rollover) := by
  -- the last sample is in the first quarter, so the clock has not rolled over since
  have hrolled : ¬ RolledOver (gp2 &&& 0xFFFFFFFF) s := by
    rw [late_iff] at hlate
    rw [rolledOver_iff]
    omega
  unfold calcRollover
  dsimp only
  rw [if_neg h.not_first, if_neg hrolled, if_pos hlate]

theorem Follows.calcRollover_of_not_late (h : s.Follows e₀ r)
    (hlate : ¬ Late (gp2 &&& 0xFFFFFFFF) s) :
    s.calcRollover gp2 =
      let gp2Ext := if RolledOver (gp2 &&& 0xFFFFFFFF) s then s.gp2Ext + 1 else s.gp2Ext
      (⟨gp2 &&& 0xFFFFFFFF, gp2Ext⟩, (gp2 &&& 0xFFFFFFFF) + gp2Ext.toUInt64 * gp2Rollover) := by
  unfold calcRollover
  dsimp only
  rw [if_neg h.not_first, if_neg hlate]

/-- A sample in epoch `e`, extended by the epochs counted since `e₀`. -/
theorem toNat_extended {g ext : UInt64} {e : ℕ} (hg : g.toNat = t % 2 ^ 32) (he : t / 2 ^ 32 = e)
    (hext : ∃ j : ℤ, (ext.toNat : ℤ) = e - e₀ + 2 ^ 32 * j) :
    ((g + ext * gp2Rollover).toNat : ℤ) = ((t : ℤ) - 2 ^ 32 * e₀) % 2 ^ 64 := by
  obtain ⟨j, hj⟩ := hext
  have hrollover : gp2Rollover.toNat = 2 ^ 32 := rfl
  rw [UInt64.toNat_add, UInt64.toNat_mul, hrollover, hg]
  omega

/-- **One sample.** Whether it is late or not, it is extended to its true value, and the adapter follows
the reference of the next sample. -/
theorem Follows.calcRollover (h : s.Follows e₀ r) (hlow : gp2.toNat % 2 ^ 32 = t % 2 ^ 32)
    (hnear : |(t : ℤ) - r| < 2 ^ 30) :
    (s.calcRollover gp2).1.Follows e₀ (if UpdatesLast gp2 s then t else r) ∧
      ((s.calcRollover gp2).2.toNat : ℤ) = ((t : ℤ) - 2 ^ 32 * e₀) % 2 ^ 64 := by
  have hg : (gp2 &&& 0xFFFFFFFF).toNat = t % 2 ^ 32 := (toNat_low gp2).trans hlow
  obtain ⟨hforward, hbackward, hsame⟩ := epoch_cases hnear
  have hext := h.ext
  have hlast := h.last
  rw [← hg, ← hlast, ← rolledOver_iff] at hforward
  rw [← hg, ← hlast, ← late_iff] at hbackward
  rw [← hg, ← hlast, ← rolledOver_iff, ← late_iff] at hsame
  by_cases hlate : Late (gp2 &&& 0xFFFFFFFF) s
  · rw [h.calcRollover_of_late hlate, if_neg (mt h.updatesLast_iff.mp (not_not.mpr hlate))]
    refine ⟨h, toNat_extended hg rfl ?_⟩
    have hbefore := hbackward hlate
    have hcount : (s.gp2Ext.toUInt64 - 1).toNat = (2 ^ 64 - 1 + s.gp2Ext.toNat) % 2 ^ 64 := by
      rw [UInt64.toNat_sub, UInt32.toNat_toUInt64]
      rfl
    refine ⟨((s.gp2Ext.toUInt64 - 1).toNat - (t / 2 ^ 32 : ℕ) + e₀) / 2 ^ 32, ?_⟩
    omega
  · rw [h.calcRollover_of_not_late hlate, if_pos (h.updatesLast_iff.mpr hlate)]
    dsimp only
    -- the count is that of the sample's own epoch
    have hcount : ((if RolledOver (gp2 &&& 0xFFFFFFFF) s then s.gp2Ext + 1 else s.gp2Ext).toNat : ℤ) =
        ((t / 2 ^ 32 : ℕ) - e₀ : ℤ) % 2 ^ 32 := by
      split_ifs with hrolled
      · rw [UInt32.toNat_add, hforward hrolled]
        have hone : (1 : UInt32).toNat = 1 := rfl
        omega
      · rw [hsame hrolled hlate, hext]
    refine ⟨⟨hg, hcount⟩, toNat_extended hg rfl ?_⟩
    rw [UInt32.toNat_toUInt64, hcount]
    exact ⟨-(((t / 2 ^ 32 : ℕ) - e₀ : ℤ) / 2 ^ 32), by omega⟩

end Sample

/-! ### All samples -/

section Samples

variable {t : ℕ → ℕ} {σ : ℕ → UInt64} {n : ℕ}

/-- After the first sample, the adapter follows the clock. -/
theorem follows_first (hlow : (σ 0).toNat % 2 ^ 32 = t 0 % 2 ^ 32) :
    (after σ 1).Follows (t 0 / 2 ^ 32) (reference t σ 1) := by
  have hreference : reference t σ 1 = t 0 := if_pos (.inl rfl)
  have hext : (after σ 1).gp2Ext = 0 := rfl
  rw [hreference]
  refine ⟨(toNat_low (σ 0)).trans hlow, ?_⟩
  rw [hext, sub_self]
  rfl

/-- **The invariant.** The adapter follows the clock from the first sample on. -/
theorem follows_after (hlow : ∀ k ≤ n, (σ k).toNat % 2 ^ 32 = t k % 2 ^ 32)
    (hnear : ∀ k ≤ n, |(t k : ℤ) - reference t σ k| < 2 ^ 30) :
    ∀ k ≤ n, (after σ (k + 1)).Follows (t 0 / 2 ^ 32) (reference t σ (k + 1)) := by
  intro k
  induction k with
  | zero => exact fun h => follows_first (hlow 0 h)
  | succ k ih =>
    intro hk
    exact ((ih (Nat.le_of_succ_le hk)).calcRollover (hlow _ hk) (hnear _ hk)).1

/-- **Rollovers.** Let the samples `σ` be the low bits of the true values `t`, each less than a quarter
of a rollover away from its reference. Then every call returns the true value up to the rollovers before
the first sample, modulo `2 ^ 64`, and the difference of two returned values is the true one. -/
theorem calcRollover_eq (t : ℕ → ℕ) (σ : ℕ → UInt64) (n : ℕ)
    (hlow : ∀ k ≤ n, (σ k).toNat % 2 ^ 32 = t k % 2 ^ 32)
    (hnear : ∀ k ≤ n, |(t k : ℤ) - reference t σ k| < 2 ^ 30) :
    (∀ k ≤ n, ((extended σ k).toNat : ℤ) = ((t k : ℤ) - 2 ^ 32 * (t 0 / 2 ^ 32)) % 2 ^ 64) ∧
      ∀ i ≤ n, ∀ j ≤ n, ((extended σ i - extended σ j).toNat : ℤ) = ((t i : ℤ) - t j) % 2 ^ 64 := by
  have hvalue : ∀ k ≤ n,
      ((extended σ k).toNat : ℤ) = ((t k : ℤ) - 2 ^ 32 * (t 0 / 2 ^ 32)) % 2 ^ 64 := by
    intro k hk
    cases k with
    | zero =>
      have hfirst : extended σ 0 = σ 0 &&& 0xFFFFFFFF := rfl
      have hsample := hlow 0 hk
      rw [hfirst, toNat_low]
      omega
    | succ k =>
      have hfollows := follows_after hlow hnear k (Nat.le_of_succ_le hk)
      exact (hfollows.calcRollover (hlow _ hk) (hnear _ hk)).2
  refine ⟨hvalue, ?_⟩
  intro i hi j hj
  have hi := hvalue i hi
  have hj := hvalue j hj
  rw [UInt64.toNat_sub]
  omega

/-- The clock rolls over between the first two samples, and the third one is late. -/
def lateSample : ℕ → ℕ
  | 0 => 3 * 2 ^ 32 - 10
  | 1 => 3 * 2 ^ 32 + 5
  | _ => 3 * 2 ^ 32 - 3

theorem lateSample_extended :
    let σ : ℕ → UInt64 := fun k => UInt64.ofNat (lateSample k)
    (extended σ 2).toNat = 2 ^ 32 - 3 ∧ (extended σ 1 - extended σ 2).toNat = 8 := by
  intro σ
  have h := calcRollover_eq lateSample σ 2 (by decide) (by decide)
  exact ⟨Int.ofNat_inj.mp (h.1 2 le_rfl), Int.ofNat_inj.mp (h.2 1 (by decide) 2 le_rfl)⟩

end Samples

end IntelWirelessAdapter

end Gptp
