import Mathlib.Data.Stream.Init

/-!
# Bounded retries

A fallible operation is attempted once, and after a failure a bounded number of times more, with a pause
before each. The operation is told which attempt is the last, so that it can give up a resource that it
keeps for the next attempt otherwise.

* `Retry.run`: the loop.
* `Retry.run_rule`: an invariant of the failed attempts, and what a successful attempt or the last one
  makes of it.
* `Retry.findSome?_take`: the first success among the answers to a number of attempts.
-/

namespace Framework

namespace Retry

variable {σ ε α : Type} (attempt : Bool → σ → Except ε α × σ) (pause : ℕ → σ → σ)

/-- The retries: `iter` are left, and `k` pauses have been made. -/
def loop : ℕ → ℕ → Except ε α × σ → Except ε α × σ
  | _, _, (.ok a, s) => (.ok a, s)
  | 0, _, (.error e, s) => (.error e, s)
  | iter + 1, k, (.error _, s) => loop iter (k + 1) (attempt (iter = 0) (pause k s))

/-- One attempt, and at most `n` more after failures. -/
def run (n : ℕ) (s : σ) : Except ε α × σ := loop attempt pause n 0 (attempt false s)

variable {attempt pause} {I : ℕ → σ → Prop} {Q : Except ε α → σ → Prop} {n : ℕ}

/-- What is known of the outcome of an attempt: it is final, or the attempt has failed and the invariant
holds of what it left. -/
def Outcome (I : ℕ → σ → Prop) (Q : Except ε α → σ → Prop) (k : ℕ) : Except ε α × σ → Prop
  | (.ok a, s) => Q (.ok a) s
  | (.error _, s) => I k s

theorem loop_rule (hpause : ∀ j k s, I k s → I k (pause j s))
    (hattempt : ∀ k < n, ∀ s, I k s → Outcome I Q (k + 1) (attempt false s))
    (hlast : ∀ s, I n s → Q (attempt true s).1 (attempt true s).2) {iter j k : ℕ}
    {r : Except ε α × σ} (hiter : k + iter = n + 1) (hpos : 0 < iter) (hr : Outcome I Q k r) :
    Q (loop attempt pause iter j r).1 (loop attempt pause iter j r).2 := by
  -- on the attempts that are left; `hiter` says how many have failed when that many are
  induction iter generalizing j k r with
  | zero => exact absurd hpos (Nat.lt_irrefl 0)
  | succ iter ih =>
    -- a success ends the loop with what is known of it
    match r, hr with
    | (.ok a, s), hr => exact hr
    | (.error e, s), hr =>
      have hs : I k (pause j s) := hpause j k s hr
      rw [loop]
      cases iter with
      | zero =>
        -- the attempt that is told to be the last one
        obtain rfl : k = n := by omega
        have hfinal := hlast _ hs
        rw [show decide (0 = 0) = true from rfl]
        revert hfinal
        rcases attempt true (pause j s) with ⟨_ | a, s'⟩ <;> exact id
      | succ iter =>
        have hnext : Outcome I Q (k + 1) (attempt false (pause j s)) := hattempt k (by omega) _ hs
        exact ih (by omega) (Nat.succ_pos iter) hnext

/-- **Retry rule.** The invariant is indexed by the number of failed attempts. A run ends with a
successful attempt or with the one that is told to be the last. -/
theorem run_rule (hn : 0 < n) (hpause : ∀ j k s, I k s → I k (pause j s))
    (hattempt : ∀ k < n, ∀ s, I k s → Outcome I Q (k + 1) (attempt false s))
    (hlast : ∀ s, I n s → Q (attempt true s).1 (attempt true s).2) {s : σ} (hs : I 0 s) :
    Q (run attempt pause n s).1 (run attempt pause n s).2 :=
  loop_rule hpause hattempt hlast (Nat.add_comm 1 n) hn (hattempt 0 hn s hs)

/-- The first success among the first `n + 1` answers, read off after `k` failures: it is the next one,
which succeeds or is the last. -/
theorem findSome?_take {β : Type} {f : α → Option β} {answers : Stream' α} {k n : ℕ} (hk : k ≤ n)
    (hfailed : ∀ j < k, f (answers.get j) = none) (hfinal : f (answers.get k) ≠ none ∨ k = n) :
    (answers.take (n + 1)).findSome? f = f (answers.get k) := by
  induction k generalizing answers n with
  | zero =>
    rw [Stream'.take_succ, List.findSome?_cons]
    change (match f (answers.get 0) with | some b => some b | none => _) = f (answers.get 0)
    -- the answer at hand is the first; it succeeds, or there is no other
    rcases hfinal with hsome | rfl
    · obtain ⟨b, hb⟩ := Option.ne_none_iff_exists'.mp hsome
      rw [hb]
    · cases f (answers.get 0) <;> rfl
  | succ k ih =>
    obtain ⟨n, rfl⟩ : ∃ m, n = m + 1 := ⟨n - 1, by omega⟩
    have hhead : f answers.head = none := hfailed 0 (Nat.succ_pos k)
    rw [Stream'.take_succ, List.findSome?_cons, hhead]
    have htail : ∀ j < k, f (answers.tail.get j) = none :=
      fun j hj => hfailed (j + 1) (Nat.succ_lt_succ hj)
    have hnext : f (answers.tail.get k) ≠ none ∨ k = n := hfinal.imp_right Nat.succ.inj
    exact ih (Nat.le_of_succ_le_succ hk) htail hnext

end Retry

end Framework
