import Gptp.Framework.Machine

/-!
# First-come first-served locks

A lock as its callers see it: who holds it, and who waits for it, in the order of arrival. The lock is
given to the first that waits, or to a caller that would not wait if nobody holds it or waits for it.

* `FifoLock.machine`: the operations.
* `FifoLock.acquisitions_append_waiting`: the callers that wait are those that have arrived and not been
  given the lock yet, in the order of arrival.
-/

namespace Framework

/-- The holder of a lock, and the callers that wait for it. -/
structure FifoLock (T : Type) where
  holder : Option T
  waiting : List T

namespace FifoLock

variable {T : Type}

/-- What happens to a lock. -/
inductive Op (T : Type) where
  | arrive (t : T)
  | acquire (t : T)
  /-- A call that does not wait, and whether it gets the lock. -/
  | attempt (t : T) (got : Bool)
  | release (t : T)
  | idle

/-- Nobody holds the lock or waits for it. -/
def Free (a : FifoLock T) : Prop := a.holder = none ∧ a.waiting = []

/-- The number of holders. -/
def held (a : FifoLock T) : ℕ := a.holder.toList.length

/-- The number of those that hold the lock or wait for it. -/
def size (a : FifoLock T) : ℕ := a.held + a.waiting.length

theorem held_le_one (a : FifoLock T) : a.held ≤ 1 := by
  unfold held
  cases a.holder <;> simp

theorem held_eq_zero_iff {a : FifoLock T} : a.held = 0 ↔ a.holder = none := by
  unfold held
  cases a.holder <;> simp

theorem size_eq_zero_iff {a : FifoLock T} : a.size = 0 ↔ a.Free := by
  rw [size, Nat.add_eq_zero_iff, held_eq_zero_iff, List.length_eq_zero_iff, Free]

/-- Which operations are possible. -/
def enabled (a : FifoLock T) : Op T → Prop
  | .arrive t => t ∉ a.waiting
  | .acquire t => a.holder = none ∧ a.waiting.head? = some t
  | .attempt _ got => got = true ↔ a.Free
  | .release t => a.holder = some t
  | .idle => True

/-- The effect of an operation. -/
def step (a : FifoLock T) : Op T → FifoLock T
  | .arrive t => { a with waiting := a.waiting ++ [t] }
  | .acquire t => ⟨some t, a.waiting.tail⟩
  | .attempt t got => if got then { a with holder := some t } else a
  | .release _ => { a with holder := none }
  | .idle => a

/-- The lock as a machine. -/
def machine (T : Type) : Machine (FifoLock T) (Op T) where
  enabled := enabled
  step := step

/-- The caller that begins to wait. -/
def arrives : Op T → Option T
  | .arrive t => some t
  | _ => none

/-- The caller that has waited and is given the lock. -/
def acquires : Op T → Option T
  | .acquire t => some t
  | _ => none

/-- **First come, first served.** The callers that have arrived are those that have been given the lock,
in the same order, followed by those that wait. -/
theorem acquisitions_append_waiting {σ : ℕ → Op T} {n : ℕ}
    (hdelivers : (machine T).Delivers ⟨none, []⟩ σ n) :
    (machine T).events (fun _ => acquires) ⟨none, []⟩ σ n ++
        ((machine T).stateAt ⟨none, []⟩ σ n).waiting =
      (machine T).events (fun _ => arrives) ⟨none, []⟩ σ n := by
  induction n with
  | zero => rfl
  | succ n ih =>
    have hprefix := ih fun k hk => hdelivers k (hk.trans (Nat.lt_succ_self n))
    have henabled := hdelivers n (Nat.lt_succ_self n)
    rw [Machine.events, Machine.events, ← hprefix, Machine.stateAt_succ]
    -- what is left is one operation on any state, behind any acquisitions
    generalize (machine T).stateAt ⟨none, []⟩ σ n = a at henabled ⊢
    generalize (machine T).events (fun _ => acquires) ⟨none, []⟩ σ n = acquired
    cases hop : σ n with
    | arrive t =>
      change acquired ++ [] ++ (a.waiting ++ [t]) = acquired ++ a.waiting ++ [t]
      rw [List.append_nil, List.append_assoc]
    | acquire t =>
      -- the first of those that wait moves over
      rw [hop] at henabled
      obtain ⟨rest, hwaiting⟩ := List.head?_eq_some_iff.mp henabled.2
      change acquired ++ [t] ++ a.waiting.tail = acquired ++ a.waiting ++ []
      rw [hwaiting, List.append_nil, List.append_assoc, List.singleton_append, List.tail_cons]
    | attempt t got =>
      change acquired ++ [] ++ (if got then { a with holder := some t } else a).waiting =
        acquired ++ a.waiting ++ []
      -- a call that does not wait never stands in the queue
      rw [List.append_nil, List.append_nil]
      cases got <;> rfl
    | release t =>
      change acquired ++ [] ++ a.waiting = acquired ++ a.waiting ++ []
      rw [List.append_nil, List.append_nil]
    | idle =>
      change acquired ++ [] ++ a.waiting = acquired ++ a.waiting ++ []
      rw [List.append_nil, List.append_nil]

end FifoLock

end Framework
