import Mathlib.Algebra.Order.Group.Nat

/-!
# The first minimum of a scan

A loop that goes through values in order, keeps the least one seen so far and the place where it saw
it, and replaces both only by a strictly smaller value, ends at the first place of the minimum
(`scan_eq_some_iff`), provided the minimum is below the value it started from.
-/

namespace Framework

variable {α : Type} [LinearOrder α] {f : ℕ → α} {n i j : ℕ}

/-- `j` is the first of the places below `n` at which `f` is least. -/
structure FirstMin (f : ℕ → α) (n j : ℕ) : Prop where
  lt : j < n
  first : ∀ i < j, f j < f i
  least : ∀ i < n, f j ≤ f i

instance (f : ℕ → α) (n j : ℕ) : Decidable (FirstMin f n j) :=
  decidable_of_iff (j < n ∧ (∀ i < j, f j < f i) ∧ ∀ i < n, f j ≤ f i)
    ⟨fun h => ⟨h.1, h.2.1, h.2.2⟩, fun h => ⟨h.lt, h.first, h.least⟩⟩

/-- There is only one first place. -/
theorem FirstMin.unique (hi : FirstMin f n i) (hj : FirstMin f n j) : i = j := by
  rcases lt_trichotomy i j with hlt | heq | hgt
  · exact absurd (hi.least j hj.lt) (not_le.mpr (hj.first i hlt))
  · exact heq
  · exact absurd (hj.least i hi.lt) (not_le.mpr (hi.first j hgt))

/-- The loop: the place of the least value seen so far and that value. -/
def scan (f : ℕ → α) (bound : α) : ℕ → Option ℕ × α
  | 0 => (none, bound)
  | n + 1 => if f n < (scan f bound n).2 then (some n, f n) else scan f bound n

/-- The loop has found nothing below its bound, or the first minimum. -/
theorem scan_spec (f : ℕ → α) (bound : α) (n : ℕ) :
    scan f bound n = (none, bound) ∧ (∀ i < n, bound ≤ f i) ∨
      ∃ j, scan f bound n = (some j, f j) ∧ f j < bound ∧ FirstMin f n j := by
  induction n with
  | zero => exact .inl ⟨rfl, fun i hi => absurd hi (Nat.not_lt_zero i)⟩
  | succ n ih =>
    have hsplit {p : ℕ → Prop} (hp : ∀ i < n, p i) (hn : p n) : ∀ i < n + 1, p i := by
      intro i hi
      rcases Nat.lt_succ_iff_lt_or_eq.mp hi with hlt | rfl
      · exact hp i hlt
      · exact hn
    rw [scan]
    rcases ih with ⟨hscan, hbound⟩ | ⟨j, hscan, hj, hmin⟩
    · rw [hscan]
      by_cases hlt : f n < bound
      · rw [if_pos hlt]
        -- everything before was at least the bound
        refine .inr ⟨n, rfl, hlt, Nat.lt_succ_self n, fun i hi => hlt.trans_le (hbound i hi), ?_⟩
        exact hsplit (fun i hi => (hlt.trans_le (hbound i hi)).le) le_rfl
      · rw [if_neg hlt]
        exact .inl ⟨rfl, hsplit hbound (not_lt.mp hlt)⟩
    · rw [hscan]
      by_cases hlt : f n < f j
      · rw [if_pos hlt]
        refine .inr ⟨n, rfl, hlt.trans hj, Nat.lt_succ_self n,
          fun i hi => hlt.trans_le (hmin.least i hi), ?_⟩
        exact hsplit (fun i hi => (hlt.trans_le (hmin.least i hi)).le) le_rfl
      · rw [if_neg hlt]
        exact .inr ⟨j, rfl, hj, hmin.lt.trans (Nat.lt_succ_self n), hmin.first,
          hsplit hmin.least (not_lt.mp hlt)⟩

/-- **Result of the loop.** It ends at the first minimum if that is below the bound. -/
theorem scan_eq_some_iff {bound : α} : (scan f bound n).1 = some j ↔ FirstMin f n j ∧ f j < bound := by
  rcases scan_spec f bound n with ⟨hscan, hbound⟩ | ⟨k, hscan, hk, hmin⟩
  · rw [hscan]
    constructor
    · intro h
      cases h
    · rintro ⟨hmin, hj⟩
      exact absurd hj (not_lt.mpr (hbound j hmin.lt))
  · rw [hscan]
    constructor
    · intro h
      cases h
      exact ⟨hmin, hk⟩
    · rintro ⟨hj, -⟩
      rw [hmin.unique hj]

end Framework
