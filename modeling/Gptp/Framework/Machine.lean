import Mathlib.Data.Nat.Find
import Mathlib.Data.Set.Function

/-!
# Input-driven machines and their runs

A `Machine` is a deterministic step function together with a relation saying which inputs the
environment may deliver in which state. A run is given by an infinite input sequence `σ`;
`M.stateAt s σ k` is the state after the first `k` inputs. Finite runs are the prefixes: a result
about a run of length `n` assumes `M.Delivers s σ n`, i.e. that each of the first `n` inputs was
deliverable when it arrived.

* `Machine.invariant`: the induction rule. A predicate that holds initially and that every
  delivered input preserves holds at every position.
* `Machine.invariant_all`: the same without a delivery constraint.
* `Machine.invariant_from`: the same between two positions of a run.
* `Machine.slot_origin`: the value in a one-place slot was put there by an earlier step, and has been
  there since.
* `latch_iff`: a flag that steps set, clear or keep is set exactly if some step set it and none has
  cleared it since.
* `holds_iff_no_breach`: a predicate holds throughout a run exactly if no step breaks it.
* `checks_iff_no_breach`: the same for a check made at every step.
* `obligation_iff`: the guard of an open obligation is in place exactly if none is lost while open.
* `Machine.slot_pairing`: if every use of the slot empties it, the uses of a run are matched
  one-to-one with earlier fills.
* `Machine.exists_simulation`: a machine whose steps are steps of another one, or none, reaches only
  states the other reaches.
* `Machine.lockstep`: a machine that answers every step of another one with a step of its own keeps a
  relation between the states.
* `Machine.events`: what an observer sees of a run. `Machine.proj_stateAt`: a part of the state that
  changes with these events only is what they have made of it.
-/

namespace Framework

/-- A deterministic machine: `step` consumes one input, `enabled` says which inputs the environment
may deliver in a state. -/
structure Machine (State Input : Type) where
  enabled : State → Input → Prop
  step : State → Input → State

namespace Machine

variable {State Input : Type} (M : Machine State Input)

/-- The state after the first `k` inputs of `σ`, starting in `s`. -/
def stateAt (s : State) (σ : ℕ → Input) : ℕ → State
  | 0 => s
  | k + 1 => M.step (stateAt s σ k) (σ k)

/-- Each of the first `n` inputs was deliverable when it arrived. -/
def Delivers (s : State) (σ : ℕ → Input) (n : ℕ) : Prop :=
  ∀ k < n, M.enabled (M.stateAt s σ k) (σ k)

instance [∀ t i, Decidable (M.enabled t i)] (s : State) (σ : ℕ → Input) (n : ℕ) :
    Decidable (M.Delivers s σ n) :=
  inferInstanceAs (Decidable (∀ k < n, M.enabled (M.stateAt s σ k) (σ k)))

variable {M} {s : State} {σ : ℕ → Input}

@[simp] theorem stateAt_zero : M.stateAt s σ 0 = s := rfl

theorem stateAt_succ (k : ℕ) :
    M.stateAt s σ (k + 1) = M.step (M.stateAt s σ k) (σ k) := rfl

/-- **Invariant rule.** A predicate that holds initially and is preserved by every step of the run
holds at every position of the run. -/
theorem invariant {P : State → Prop} {n : ℕ} (h₀ : P s)
    (hstep : ∀ k < n, P (M.stateAt s σ k) → P (M.step (M.stateAt s σ k) (σ k))) :
    ∀ k ≤ n, P (M.stateAt s σ k) := by
  intro k
  induction k with
  | zero => intro _; exact h₀
  | succ k ih =>
    intro hk
    exact hstep k hk (ih (Nat.le_of_succ_le hk))

/-- The invariant rule for a predicate that every step preserves, delivered or not. -/
theorem invariant_all {P : State → Prop} (h₀ : P s) (hstep : ∀ t i, P t → P (M.step t i)) (k : ℕ) :
    P (M.stateAt s σ k) :=
  invariant h₀ (fun k _ hk => hstep _ (σ k) hk) k le_rfl

/-- The invariant rule for a part of a run: a predicate that holds at position `i` and that every step
from there on preserves holds at position `j`. -/
theorem invariant_from {P : State → Prop} {i j : ℕ} (hij : i ≤ j) (hi : P (M.stateAt s σ i))
    (hstep : ∀ k, i ≤ k → k < j → P (M.stateAt s σ k) → P (M.step (M.stateAt s σ k) (σ k))) :
    P (M.stateAt s σ j) := by
  induction j, hij using Nat.le_induction with
  | base => exact hi
  | succ j hij ih =>
    have hj : P (M.stateAt s σ j) := ih fun k hik hkj => hstep k hik (hkj.trans (Nat.lt_succ_self j))
    exact hstep j hij (Nat.lt_succ_self j) hj

/-! ### One-place slots -/

section Slot

variable {α : Type} {slot : State → Option α} {fills : State → Input → α → Prop}

variable (slot fills) in
/-- **Origin of a slot's value.** If a step leaves a value in the slot only if the value was there
before or the step fills it, then a value found in the slot was put there by an earlier step and has
been there since. -/
theorem slot_origin (h₀ : slot s = none)
    (hstep : ∀ t i a, slot (M.step t i) = some a → slot t = some a ∨ fills t i a) :
    ∀ k a, slot (M.stateAt s σ k) = some a →
      ∃ j < k, fills (M.stateAt s σ j) (σ j) a ∧
        ∀ l, j < l → l ≤ k → slot (M.stateAt s σ l) = some a := by
  intro k
  induction k with
  | zero =>
    intro a ha
    rw [stateAt_zero, h₀] at ha
    cases ha
  | succ k ih =>
    intro a ha
    rcases hstep _ _ a ha with hold | hfill
    · -- the value was there already: the filling step is that of the hypothesis
      obtain ⟨j, hj, hfills, hsince⟩ := ih a hold
      refine ⟨j, hj.trans (Nat.lt_succ_self k), hfills, fun l hl hlk => ?_⟩
      rcases Nat.lt_or_eq_of_le hlk with hlt | rfl
      · exact hsince l hl (Nat.le_of_lt_succ hlt)
      · exact ha
    · -- this step has filled the slot
      refine ⟨k, Nat.lt_succ_self k, hfill, fun l hl hlk => ?_⟩
      obtain rfl : l = k + 1 := Nat.le_antisymm hlk hl
      exact ha

variable (slot fills) in
/-- **Pairing rule.** If every use of the slot finds a value and empties the slot, each use can be
paired with an earlier fill of that value, and no fill is paired with two uses. -/
theorem slot_pairing (uses : ℕ → Prop) (h₀ : slot s = none)
    (hstep : ∀ t i a, slot (M.step t i) = some a → slot t = some a ∨ fills t i a)
    (huses : ∀ k, uses k →
      (∃ a, slot (M.stateAt s σ k) = some a) ∧ slot (M.stateAt s σ (k + 1)) = none) :
    ∃ pairing : ℕ → ℕ,
      (∀ k a, uses k → slot (M.stateAt s σ k) = some a →
        pairing k < k ∧ fills (M.stateAt s σ (pairing k)) (σ (pairing k)) a) ∧
      Set.InjOn pairing {k | uses k} := by
  classical
  have horigin := slot_origin slot fills (σ := σ) h₀ hstep
  choose! pairing hlt hfills hsince using horigin
  -- the fill chosen for a use is that of the value the use finds
  refine ⟨fun k => ((slot (M.stateAt s σ k)).map (pairing k)).getD 0, ?_, ?_⟩
  · intro k a _ ha
    simp only [ha, Option.map_some, Option.getD_some]
    exact ⟨hlt k a ha, hfills k a ha⟩
  · intro k hk k' hk' heq
    obtain ⟨⟨a, ha⟩, hnone⟩ := huses k hk
    obtain ⟨⟨a', ha'⟩, hnone'⟩ := huses k' hk'
    simp only [ha, ha', Option.map_some, Option.getD_some] at heq
    -- of two uses of one fill, the slot would be empty after the first and full until the second
    rcases Nat.lt_trichotomy k k' with h | h | h
    · have hfull := hsince k' a' ha' (k + 1)
        (heq ▸ (hlt k a ha).trans (Nat.lt_succ_self k)) h
      rw [hnone] at hfull
      cases hfull
    · exact h
    · have hfull := hsince k a ha (k' + 1)
        (heq ▸ (hlt k' a' ha').trans (Nat.lt_succ_self k')) h
      rw [hnone'] at hfull
      cases hfull

end Slot

/-! ### Simulation -/

/-- A run can be continued by any input that is deliverable at its end. -/
theorem exists_continuation {k : ℕ} {i : Input} (hdelivers : M.Delivers s σ k)
    (henabled : M.enabled (M.stateAt s σ k) i) :
    ∃ σ', M.Delivers s σ' (k + 1) ∧ M.stateAt s σ' (k + 1) = M.step (M.stateAt s σ k) i := by
  let σ' : ℕ → Input := fun j => if j < k then σ j else i
  have hbefore (j : ℕ) (hj : j < k) : σ' j = σ j := if_pos hj
  have hlast : σ' k = i := if_neg (Nat.lt_irrefl k)
  -- the two runs agree up to position `k`
  have hagree : ∀ j ≤ k, M.stateAt s σ' j = M.stateAt s σ j := by
    intro j
    induction j with
    | zero => intro _; rfl
    | succ j ih =>
      intro hj
      rw [stateAt_succ, stateAt_succ, ih (Nat.le_of_succ_le hj), hbefore j hj]
  refine ⟨σ', fun j hj => ?_, ?_⟩
  · rcases Nat.lt_or_eq_of_le (Nat.le_of_lt_succ hj) with hlt | rfl
    · rw [hagree j hlt.le, hbefore j hlt]
      exact hdelivers j hlt
    · rwa [hagree j le_rfl, hlast]
  · rw [stateAt_succ, hagree k le_rfl, hlast]

/-- **Simulation rule.** If every step of `N` is, seen through `abs`, either no step at all or a step
of `M`, then every run of `N` ends, seen through `abs`, where some run of `M` ends. -/
theorem exists_simulation [Inhabited Input] {State' Input' : Type} {N : Machine State' Input'}
    (abs : State' → State)
    (hstep : ∀ t j, N.enabled t j → abs (N.step t j) = abs t ∨
      ∃ i, M.enabled (abs t) i ∧ abs (N.step t j) = M.step (abs t) i)
    {t : State'} {τ : ℕ → Input'} {n : ℕ} (hdelivers : N.Delivers t τ n) :
    ∃ σ m, M.Delivers (abs t) σ m ∧ M.stateAt (abs t) σ m = abs (N.stateAt t τ n) := by
  induction n with
  | zero => exact ⟨fun _ => default, 0, fun j hj => absurd hj (Nat.not_lt_zero j), rfl⟩
  | succ n ih =>
    obtain ⟨σ, m, hσ, hstate⟩ := ih fun j hj => hdelivers j (hj.trans (Nat.lt_succ_self n))
    rw [stateAt_succ]
    rcases hstep _ _ (hdelivers n (Nat.lt_succ_self n)) with hstutter | ⟨i, henabled, hmatch⟩
    · exact ⟨σ, m, hσ, hstate.trans hstutter.symm⟩
    · rw [← hstate] at henabled hmatch
      obtain ⟨σ', hσ', hend⟩ := exists_continuation hσ henabled
      exact ⟨σ', m + 1, hσ', hend.trans hmatch.symm⟩

/-- **Lockstep.** If each step of a run of `N` can be answered by a step of `M` that keeps `R` between
the states, `M` has a run that keeps `R` at every position. -/
theorem lockstep {State' Input' : Type} {N : Machine State' Input'} (R : State' → State → Prop)
    (input : State' → Input' → Input) {t : State'} {τ : ℕ → Input'} {n : ℕ} (h₀ : R t s)
    (hstep : ∀ k < n, ∀ u, R (N.stateAt t τ k) u → M.enabled u (input (N.stateAt t τ k) (τ k)) ∧
      R (N.stateAt t τ (k + 1)) (M.step u (input (N.stateAt t τ k) (τ k)))) :
    M.Delivers s (fun k => input (N.stateAt t τ k) (τ k)) n ∧
      ∀ k ≤ n, R (N.stateAt t τ k) (M.stateAt s (fun k => input (N.stateAt t τ k) (τ k)) k) := by
  have hrel : ∀ k ≤ n,
      R (N.stateAt t τ k) (M.stateAt s (fun k => input (N.stateAt t τ k) (τ k)) k) := by
    intro k
    induction k with
    | zero => exact fun _ => h₀
    | succ k ih => exact fun hk => (hstep k hk _ (ih (Nat.le_of_succ_le hk))).2
  exact ⟨fun k hk => (hstep k hk _ (hrel k hk.le)).1, hrel⟩

/-! ### Events -/

variable (M) in
/-- What `f` shows of the first `n` steps of a run, in order. -/
def events {α : Type} (f : State → Input → Option α) (s : State) (σ : ℕ → Input) : ℕ → List α
  | 0 => []
  | n + 1 => events f s σ n ++ (f (M.stateAt s σ n) (σ n)).toList

/-- Two observers that see the same of every step see the same of a run. -/
theorem events_congr {State' Input' α : Type} {N : Machine State' Input'}
    {f : State → Input → Option α} {g : State' → Input' → Option α} {t : State'} {τ : ℕ → Input'}
    {n : ℕ} (h : ∀ k < n, f (M.stateAt s σ k) (σ k) = g (N.stateAt t τ k) (τ k)) :
    M.events f s σ n = N.events g t τ n := by
  induction n with
  | zero => rfl
  | succ n ih =>
    rw [events, events, ih fun k hk => h k (hk.trans (Nat.lt_succ_self n)), h n (Nat.lt_succ_self n)]

/-- A part of the state that changes with the observed events only is what the events of the run have
made of it. -/
theorem proj_stateAt {α β : Type} {f : State → Input → Option α} {p : State → β} {g : β → α → β}
    (hstep : ∀ t i, p (M.step t i) = (f t i).toList.foldl g (p t)) (n : ℕ) :
    p (M.stateAt s σ n) = (M.events f s σ n).foldl g (p s) := by
  induction n with
  | zero => rfl
  | succ n ih => rw [stateAt_succ, hstep, ih, events, List.foldl_append]

end Machine

/-! ### Latches -/

/-- **Latch rule.** A flag that is initially clear and that every step sets, clears or keeps is set
exactly if some earlier step set it and no step has cleared it since. -/
theorem latch_iff {p sets clears : ℕ → Prop} (h₀ : ¬ p 0) (hset : ∀ k, sets k → p (k + 1))
    (hclear : ∀ k, clears k → ¬ p (k + 1))
    (hkeep : ∀ k, ¬ sets k → ¬ clears k → (p (k + 1) ↔ p k)) (k : ℕ) :
    p k ↔ ∃ j < k, sets j ∧ ∀ l, j < l → l < k → ¬ clears l := by
  induction k with
  | zero => exact ⟨fun h => absurd h h₀, fun ⟨j, hj, _⟩ => absurd hj (Nat.not_lt_zero j)⟩
  | succ k ih =>
    constructor
    · intro hp
      by_cases hs : sets k
      · exact ⟨k, Nat.lt_succ_self k, hs, fun l hl hlk => absurd hlk (Nat.not_lt.mpr hl)⟩
      · have hc : ¬ clears k := fun hc => hclear k hc hp
        obtain ⟨j, hj, hsj, hsince⟩ := ih.mp ((hkeep k hs hc).mp hp)
        refine ⟨j, hj.trans (Nat.lt_succ_self k), hsj, fun l hl hlk => ?_⟩
        rcases Nat.lt_or_eq_of_le (Nat.le_of_lt_succ hlk) with h | rfl
        · exact hsince l hl h
        · exact hc
    · rintro ⟨j, hj, hsj, hsince⟩
      by_cases hs : sets k
      · exact hset k hs
      · -- the step that set the flag is an earlier one
        have hjk : j < k := lt_of_le_of_ne (Nat.le_of_lt_succ hj) fun h => hs (h ▸ hsj)
        rw [hkeep k hs (hsince k hjk (Nat.lt_succ_self k))]
        exact ih.mpr ⟨j, hjk, hsj, fun l hl hlk => hsince l hl (hlk.trans (Nat.lt_succ_self k))⟩

/-! ### Breaches -/

/-- **Breach rule.** If a step that starts where `p` holds ends where `p` holds exactly if it is not a
breach, then `p` holds throughout a run exactly if no step is one. -/
theorem holds_iff_no_breach {p breach : ℕ → Prop} {n : ℕ} (h₀ : p 0)
    (hstep : ∀ k < n, p k → (p (k + 1) ↔ ¬ breach k)) :
    (∀ k ≤ n, p k) ↔ ∀ k < n, ¬ breach k := by
  constructor
  · intro h k hk
    exact (hstep k hk (h k hk.le)).mp (h (k + 1) hk)
  · intro h k
    induction k with
    | zero => exact fun _ => h₀
    | succ k ih => exact fun hk => (hstep k hk (ih (Nat.le_of_succ_le hk))).mpr (h k hk)

/-- **Breach rule for checks.** If the check of a step that starts where `p` holds fails exactly if the
step is a breach, and a step that is none keeps `p`, then the checks of a run all hold exactly if no
step is a breach. -/
theorem checks_iff_no_breach {p check breach : ℕ → Prop} {n : ℕ} (h₀ : p 0)
    (hcheck : ∀ k < n, p k → (check k ↔ ¬ breach k)) (hkeep : ∀ k < n, p k → ¬ breach k → p (k + 1)) :
    (∀ k < n, check k) ↔ ∀ k < n, ¬ breach k := by
  have hp (h : ∀ k < n, p k → ¬ breach k) : ∀ k ≤ n, p k := by
    intro k
    induction k with
    | zero => exact fun _ => h₀
    | succ k ih =>
      intro hk
      have hpk := ih (Nat.le_of_succ_le hk)
      exact hkeep k hk hpk (h k hk hpk)
  constructor
  · intro h k hk
    have hnone : ∀ k < n, p k → ¬ breach k := fun k hk hpk => (hcheck k hk hpk).mp (h k hk)
    exact hnone k hk (hp hnone k hk.le)
  · intro h k hk
    exact (hcheck k hk (hp (fun k hk _ => h k hk) k hk.le)).mpr (h k hk)

/-! ### Obligations -/

/-- **Obligation rule.** A step that opens an obligation leaves a guard in place, and the guard stays
until a step closes the obligation or loses it. Whenever an obligation is open the guard is there,
exactly if no obligation is lost while it is open. -/
theorem obligation_iff {opens closes loses guard : ℕ → Prop} {n : ℕ}
    (hopen : ∀ k < n, opens k → guard (k + 1))
    (hlose : ∀ k < n, loses k → ¬ closes k ∧ ¬ guard (k + 1))
    (hkeep : ∀ k < n, guard k → ¬ closes k → ¬ loses k → guard (k + 1)) :
    (∀ k ≤ n, ∀ j < k, opens j → (∀ l < k, j < l → ¬ closes l) → guard k) ↔
      ∀ k < n, ∀ j < k, opens j → (∀ l < k, j < l → ¬ closes l) → ¬ loses k := by
  constructor
  · intro hguard k hk j hj hopens hsince hloses
    -- a losing step closes nothing, so the guard would have to hold after it
    obtain ⟨hcloses, hnot⟩ := hlose k hk hloses
    refine hnot (hguard (k + 1) hk j (hj.trans (Nat.lt_succ_self k)) hopens fun l hl hjl => ?_)
    rcases Nat.lt_or_eq_of_le (Nat.le_of_lt_succ hl) with hlk | rfl
    · exact hsince l hlk hjl
    · exact hcloses
  · intro hnone k
    induction k with
    | zero => exact fun _ j hj => absurd hj (Nat.not_lt_zero j)
    | succ k ih =>
      intro hk j hj hopens hsince
      rcases Nat.lt_or_eq_of_le (Nat.le_of_lt_succ hj) with hjk | rfl
      · -- opened before this step, which neither closes nor loses it
        have hsince' : ∀ l < k, j < l → ¬ closes l :=
          fun l hl => hsince l (hl.trans (Nat.lt_succ_self k))
        have hguard : guard k := ih (Nat.le_of_succ_le hk) j hjk hopens hsince'
        exact hkeep k hk hguard (hsince k (Nat.lt_succ_self k) hjk) (hnone k hk j hjk hopens hsince')
      · exact hopen j hk hopens

end Framework
