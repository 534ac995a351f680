import Mathlib.Algebra.Order.Field.Basic
import Mathlib.Algebra.Order.Group.Unbundled.Abs
import Mathlib.Tactic.GCongr
import Mathlib.Tactic.Linarith
import Mathlib.Tactic.Positivity

/-!
# Settling

The error of a controller with a limited output. While the error is large the output is at its limit, and
the error shrinks by a fixed amount with each step; once the output is within its limits the error is a
share of the two errors before it, up to what the disturbances contribute. `Settles` puts both into one
condition on a sequence.

* `Settles.excess_add_two_le`: what two steps do to the excess over the noise floor.
* `Settles.span_le_max`: the errors never grow beyond the first two errors and the floor.
* `Settles.span_le_of_le`: after enough steps at the limit, the excess over the floor decays geometrically.
-/

namespace Framework

variable {K : Type} [Field K] [LinearOrder K] [IsStrictOrderedRing K]

/-- The larger of two consecutive errors. -/
def span (e : ℕ → K) (k : ℕ) : K := max |e k| |e (k + 1)|

/-- Up to `n`, an error exceeds the floor by at most the share `q` of what the two errors before it do, or
is smaller than they are by `slew`. -/
def Settles (q floor slew : K) (e : ℕ → K) (n : ℕ) : Prop :=
  ∀ k, k + 2 ≤ n → |e (k + 2)| ≤ max (floor + q * (span e k - floor)) (span e k - slew)

/-- By how much two consecutive errors exceed the floor. -/
def excess (floor : K) (e : ℕ → K) (k : ℕ) : K := max (span e k - floor) 0

section Excess

variable {floor : K} {e : ℕ → K} {k : ℕ} {x : K}

omit [IsStrictOrderedRing K] in
theorem excess_nonneg (floor : K) (e : ℕ → K) (k : ℕ) : 0 ≤ excess floor e k := le_max_right _ _

theorem span_le_floor_add_excess (floor : K) (e : ℕ → K) (k : ℕ) :
    span e k ≤ floor + excess floor e k := by
  have hexcess : span e k - floor ≤ excess floor e k := le_max_left _ _
  linarith

theorem excess_le (hx : 0 ≤ x) (h₀ : |e k| ≤ floor + x) (h₁ : |e (k + 1)| ≤ floor + x) :
    excess floor e k ≤ x := by
  refine max_le ?_ hx
  have hspan : span e k ≤ floor + x := max_le h₀ h₁
  linarith

end Excess

namespace Settles

variable {q floor slew : K} {e : ℕ → K} {n k : ℕ}

/-- One more error. -/
theorem abs_le (h : Settles q floor slew e n) (hq₀ : 0 ≤ q) (hk : k + 2 ≤ n) :
    |e (k + 2)| ≤ floor + max (q * excess floor e k) (excess floor e k - slew) := by
  have hexcess : span e k - floor ≤ excess floor e k := le_max_left _ _
  refine (h k hk).trans (max_le ?_ ?_)
  · have hshare : q * (span e k - floor) ≤ q * excess floor e k := by gcongr
    linarith [le_max_left (q * excess floor e k) (excess floor e k - slew)]
  · linarith [le_max_right (q * excess floor e k) (excess floor e k - slew)]

variable (h : Settles q floor slew e n) (hq₀ : 0 ≤ q) (hq₁ : q < 1) (hslew : 0 < slew)

include h hq₀ hq₁ hslew

/-- The excess never grows. -/
theorem excess_succ_le (hk : k + 2 ≤ n) : excess floor e (k + 1) ≤ excess floor e k := by
  have hnonneg := excess_nonneg floor e k
  refine excess_le hnonneg ?_ ((h.abs_le hq₀ hk).trans ?_)
  · exact (le_max_right _ _).trans (span_le_floor_add_excess floor e k)
  · have hshare : q * excess floor e k ≤ excess floor e k := mul_le_of_le_one_left hnonneg hq₁.le
    gcongr
    exact max_le hshare (by linarith)

theorem excess_antitone {j : ℕ} (hjk : j ≤ k) (hk : k + 1 ≤ n) :
    excess floor e k ≤ excess floor e j := by
  induction k, hjk using Nat.le_induction with
  | base => exact le_rfl
  | succ k _ ih => exact (h.excess_succ_le hq₀ hq₁ hslew hk).trans (ih (Nat.le_of_succ_le hk))

/-- **Two steps.** The excess shrinks to its share, or by the slew. -/
theorem excess_add_two_le (hk : k + 3 ≤ n) :
    excess floor e (k + 2) ≤ max (q * excess floor e k) (excess floor e k - slew) := by
  have hmono := h.excess_succ_le hq₀ hq₁ hslew (Nat.le_of_succ_le hk)
  have hnonneg : 0 ≤ q * excess floor e k := mul_nonneg hq₀ (excess_nonneg floor e k)
  refine excess_le (hnonneg.trans (le_max_left _ _)) (h.abs_le hq₀ (Nat.le_of_succ_le hk)) ?_
  refine (h.abs_le hq₀ hk).trans ?_
  gcongr

/-- **Boundedness.** -/
theorem span_le_max (hk : k + 1 ≤ n) : span e k ≤ max (span e 0) floor := by
  have hexcess : excess floor e 0 ≤ max (span e 0) floor - floor :=
    max_le (sub_le_sub_right (le_max_left _ _) _) (sub_nonneg.mpr (le_max_right _ _))
  have hmono := h.excess_antitone hq₀ hq₁ hslew (Nat.zero_le k) hk
  have hbound := span_le_floor_add_excess floor e k
  linarith

/-- At the limit of the output the excess falls by the slew with every two steps, down to where the share is
the better bound. -/
theorem excess_slewing (j : ℕ) (hj : 2 * j + 1 ≤ n) :
    excess floor e (2 * j) ≤ max (slew / (1 - q)) (excess floor e 0 - j * slew) := by
  have hgap : 0 < 1 - q := sub_pos.mpr hq₁
  induction j with
  | zero => simp
  | succ j ih =>
    have hstep := h.excess_add_two_le hq₀ hq₁ hslew (k := 2 * j) hj
    have hprevious := ih (by omega)
    rw [show 2 * (j + 1) = 2 * j + 2 by omega]
    rcases le_total (excess floor e (2 * j)) (slew / (1 - q)) with hsmall | hlarge
    · -- already there
      have hshare : q * excess floor e (2 * j) ≤ excess floor e (2 * j) :=
        mul_le_of_le_one_left (excess_nonneg floor e _) hq₁.le
      have hkept := hstep.trans (max_le hshare (sub_le_self _ hslew.le))
      exact (hkept.trans hsmall).trans (le_max_left _ _)
    · -- the share is more than what the slew leaves
      have hshare : slew ≤ excess floor e (2 * j) * (1 - q) := (div_le_iff₀ hgap).mp hlarge
      have hslewed : excess floor e (2 * j + 2) ≤ excess floor e (2 * j) - slew :=
        hstep.trans (max_le (by linarith) le_rfl)
      rcases le_max_iff.mp hprevious with hlimit | hfalling
      · refine hslewed.trans ((sub_le_self _ hslew.le).trans (hlimit.trans (le_max_left _ _)))
      · refine (hslewed.trans ?_).trans (le_max_right _ _)
        push_cast
        linarith

/-- Within the limits the excess falls to its share with every two steps. -/
theorem excess_contracting {i : ℕ} (hi : excess floor e i ≤ slew / (1 - q)) (j : ℕ)
    (hj : i + 2 * j + 1 ≤ n) : excess floor e (i + 2 * j) ≤ q ^ j * (slew / (1 - q)) := by
  have hgap : 0 < 1 - q := sub_pos.mpr hq₁
  have hlimit : 0 < slew / (1 - q) := div_pos hslew hgap
  induction j with
  | zero => simpa using hi
  | succ j ih =>
    have hprevious := ih (by omega)
    have hpow : q ^ j ≤ 1 := pow_le_one₀ hq₀ hq₁.le
    have hsmall : excess floor e (i + 2 * j) ≤ slew / (1 - q) :=
      hprevious.trans (mul_le_of_le_one_left hlimit.le hpow)
    have hshare : excess floor e (i + 2 * j) * (1 - q) ≤ slew := (le_div_iff₀ hgap).mp hsmall
    calc excess floor e (i + 2 * (j + 1))
        ≤ max (q * excess floor e (i + 2 * j)) (excess floor e (i + 2 * j) - slew) :=
          h.excess_add_two_le hq₀ hq₁ hslew (k := i + 2 * j) hj
      _ = q * excess floor e (i + 2 * j) := max_eq_left (by linarith)
      _ ≤ q * (q ^ j * (slew / (1 - q))) := by gcongr
      _ = q ^ (j + 1) * (slew / (1 - q)) := by rw [pow_succ', mul_assoc]

/-- **Settling.** Once the slew has made up for the first errors, in `2 * i` steps, the errors approach the
floor geometrically. -/
theorem span_le_of_le {i j : ℕ} (hi : span e 0 - floor - i * slew ≤ slew / (1 - q))
    (hk : 2 * i + 2 * j ≤ k) (hn : k + 1 ≤ n) : span e k ≤ floor + q ^ j * (slew / (1 - q)) := by
  have hlimit : 0 < slew / (1 - q) := div_pos hslew (sub_pos.mpr hq₁)
  have hslewed : excess floor e (2 * i) ≤ slew / (1 - q) := by
    refine (h.excess_slewing hq₀ hq₁ hslew i (by omega)).trans (max_le le_rfl ?_)
    have hnonneg : 0 ≤ (i : K) * slew := by positivity
    have hexcess : excess floor e 0 ≤ slew / (1 - q) + i * slew := max_le (by linarith) (by linarith)
    linarith
  calc span e k ≤ floor + excess floor e k := span_le_floor_add_excess floor e k
    _ ≤ floor + excess floor e (2 * i + 2 * j) := by
        gcongr
        exact h.excess_antitone hq₀ hq₁ hslew hk hn
    _ ≤ floor + q ^ j * (slew / (1 - q)) := by
        gcongr
        exact h.excess_contracting hq₀ hq₁ hslew hslewed j (by omega)

end Settles

end Framework
