import Gptp.Framework.FifoLock
import Mathlib.Data.Fintype.Card
import Mathlib.Data.UInt

/-!
# The ticketing lock

`TicketingLock` hands out tickets of eight bits. A blocking caller takes a ticket and waits until it is
served; a caller that passes `got` takes one, too, but gives it back if it is not served at once. Both
counters are accessed with the mutex `cond_lock` held. The threads are modelled by where they are in
`lock` and `unlock`, so that a thread can be interrupted by others between any two accesses.

* `TicketingLock.machine`: the threads and their steps. A wait for the condition can end at any time.
* `Refines`: the state of the lock as a holder and a queue. The k-th thread in the queue has the ticket
  that is k numbers ahead of the one that is served, and with at most 255 threads the numbers do not
  collide.
* `Refines.step`: every step is one of the abstract lock, or none.
* `holder_unique`, `acquisitions_prefix`, `trial_gets_iff`, `counters_of_failed`, assembled in
  `ticketingLock_correct`: mutual exclusion, the order of acquisition, when a call that does not wait gets
  the lock, and that it leaves no trace if it does not.
-/

namespace Gptp

open Framework

namespace Linux

/-! ### Threads -/

/-- Where a thread is. `nonBlocking` says whether it passed `got`. -/
inductive LockPc where
  /-- Outside of the lock. -/
  | idle
  /-- At `pthread_mutex_lock` in `lock`. -/
  | lockEnter (nonBlocking : Bool)
  /-- About to take a ticket. -/
  | lockTake (nonBlocking : Bool)
  /-- At the condition of the loop. -/
  | lockTest (nonBlocking : Bool) (ticket : UInt8)
  /-- In `pthread_cond_wait`, not woken yet. -/
  | condWait (ticket : UInt8)
  /-- In `pthread_cond_wait`, about to get the mutex back. -/
  | condWake (ticket : UInt8)
  /-- At `pthread_mutex_unlock` in `lock`, with or without the lock. -/
  | lockLeave (acquired : Bool)
  /-- At `pthread_mutex_lock` in `unlock`. -/
  | unlockEnter
  /-- About to serve the next ticket. -/
  | unlockServe
  /-- At `pthread_cond_broadcast`. -/
  | unlockBroadcast
  /-- At `pthread_mutex_unlock` in `unlock`. -/
  | unlockLeave
  deriving DecidableEq, Repr

namespace LockPc

/-- The ticket of a blocking caller that waits to be served. -/
def ticket : LockPc → Option UInt8
  | .lockTest false ticket | .condWait ticket | .condWake ticket => some ticket
  | _ => none

/-- The ticket of a caller that will not wait. -/
def trial : LockPc → Option UInt8
  | .lockTest true ticket => some ticket
  | _ => none

/-- The thread has the mutex. -/
def locked : LockPc → Bool
  | .lockTake _ | .lockTest _ _ | .lockLeave _ | .unlockServe | .unlockBroadcast | .unlockLeave => true
  | _ => false

/-- The thread waits for the mutex. -/
def entering : LockPc → Bool
  | .lockEnter _ | .condWake _ | .unlockEnter => true
  | _ => false

/-- The thread has called `unlock`, and the next ticket is not served yet. -/
def unlocking : LockPc → Bool
  | .unlockEnter | .unlockServe => true
  | _ => false

/-- `pthread_cond_broadcast` for one thread. -/
def broadcast : LockPc → LockPc
  | .condWait ticket => .condWake ticket
  | pc => pc

theorem broadcast_of_locked {pc : LockPc} (h : pc.locked = true) : pc.broadcast = pc := by
  cases pc with
  | condWait ticket => cases h
  | _ => rfl

theorem ticket_broadcast (pc : LockPc) : pc.broadcast.ticket = pc.ticket := by cases pc <;> rfl

theorem trial_broadcast (pc : LockPc) : pc.broadcast.trial = pc.trial := by cases pc <;> rfl

theorem locked_broadcast (pc : LockPc) : pc.broadcast.locked = pc.locked := by cases pc <;> rfl

theorem unlocking_broadcast (pc : LockPc) : pc.broadcast.unlocking = pc.unlocking := by
  cases pc <;> rfl

end LockPc

/-- What a thread does next: it calls `lock` or `unlock`, it is woken, or it goes on. -/
inductive LockAction where
  | lock (nonBlocking : Bool)
  | unlock
  | wake
  | next
  deriving DecidableEq, Repr

/-- `TicketingLock`, with the threads that use it. `holds` records which of them have the lock: from the
end of the loop of `lock` to the increment in `unlock`. -/
structure TicketingLock (T : Type) where
  condLock : Option T
  condTicketIssue : UInt8
  condTicketServing : UInt8
  pc : T → LockPc
  holds : T → Bool

namespace TicketingLock

variable {T : Type} [DecidableEq T]

/-- `TicketingLock::init`. -/
def init : TicketingLock T where
  condLock := none
  condTicketIssue := 0
  condTicketServing := 0
  pc _ := .idle
  holds _ := false

/-- Moves a thread on. -/
def goto (t : T) (pc : LockPc) (s : TicketingLock T) : TicketingLock T :=
  { s with pc := Function.update s.pc t pc }

/-- The condition of the loop in `lock`, and what follows in each case. -/
def test (t : T) (nonBlocking : Bool) (ticket : UInt8) (s : TicketingLock T) : TicketingLock T :=
  if ticket ≠ s.condTicketServing then
    if nonBlocking then { s.goto t (.lockLeave false) with condTicketIssue := s.condTicketIssue - 1 }
    else { s.goto t (.condWait ticket) with condLock := none }
  else { s.goto t (.lockLeave true) with holds := Function.update s.holds t true }

/-- A thread goes on. -/
def advance (t : T) (s : TicketingLock T) : TicketingLock T :=
  match s.pc t with
  | .lockEnter nonBlocking => { s.goto t (.lockTake nonBlocking) with condLock := some t }
  | .lockTake nonBlocking =>
    { s.goto t (.lockTest nonBlocking s.condTicketIssue) with
      condTicketIssue := s.condTicketIssue + 1 }
  | .lockTest nonBlocking ticket => s.test t nonBlocking ticket
  | .condWake ticket => { s.goto t (.lockTest false ticket) with condLock := some t }
  | .lockLeave _ => { s.goto t .idle with condLock := none }
  | .unlockEnter => { s.goto t .unlockServe with condLock := some t }
  | .unlockServe =>
    { s.goto t .unlockBroadcast with
      condTicketServing := s.condTicketServing + 1
      holds := Function.update s.holds t false }
  | .unlockBroadcast =>
    { s with pc := Function.update (fun t' => (s.pc t').broadcast) t .unlockLeave }
  | .unlockLeave => { s.goto t .idle with condLock := none }
  | .idle | .condWait _ => s

/-- One step of a thread. -/
def step (s : TicketingLock T) : T × LockAction → TicketingLock T
  | (t, .lock nonBlocking) => s.goto t (.lockEnter nonBlocking)
  | (t, .unlock) => s.goto t .unlockEnter
  | (t, .wake) => s.goto t (s.pc t).broadcast
  | (t, .next) => s.advance t

/-- Which steps are possible. `unlock` is called by a thread that has the lock; `lock` is called by any
thread, also by one that has the lock. A thread goes on if it has the mutex, or can get it. -/
def enabled (s : TicketingLock T) : T × LockAction → Prop
  | (t, .lock _) => s.pc t = .idle
  | (t, .unlock) => s.pc t = .idle ∧ s.holds t = true
  | (t, .wake) => (s.pc t).broadcast ≠ s.pc t
  | (t, .next) => (s.pc t).locked = true ∨ (s.pc t).entering = true ∧ s.condLock = none

instance (s : TicketingLock T) : (i : T × LockAction) → Decidable (s.enabled i)
  | (t, .lock _) => inferInstanceAs (Decidable (s.pc t = .idle))
  | (t, .unlock) => inferInstanceAs (Decidable (s.pc t = .idle ∧ s.holds t = true))
  | (t, .wake) => inferInstanceAs (Decidable ((s.pc t).broadcast ≠ s.pc t))
  | (t, .next) => inferInstanceAs (Decidable ((s.pc t).locked = true ∨ _ ∧ s.condLock = none))

/-- The threads as a machine. -/
def machine (T : Type) [DecidableEq T] : Machine (TicketingLock T) (T × LockAction) where
  enabled := enabled
  step := step

/-- A blocking caller waits for the lock: it has taken a ticket that has not been served. -/
def Waits (s : TicketingLock T) (t : T) : Prop := (s.pc t).ticket.isSome

/-- The blocking caller that takes a ticket in a step. -/
def takesTicket (s : TicketingLock T) : T × LockAction → Option T
  | (t, .next) => if s.pc t = .lockTake false then some t else none
  | _ => none

/-- The blocking caller that finds its ticket served in a step. -/
def acquires (s : TicketingLock T) : T × LockAction → Option T
  | (t, .next) => match s.pc t with
    | .lockTest false ticket => if ticket = s.condTicketServing then some t else none
    | _ => none
  | _ => none

/-! ### The lock as a queue -/

/-- What a step does to the holder and the queue. -/
def op (s : TicketingLock T) : T × LockAction → FifoLock.Op T
  | (t, .next) => match s.pc t with
    | .lockTake false => .arrive t
    | .lockTest false ticket => if ticket = s.condTicketServing then .acquire t else .idle
    | .lockTest true ticket => .attempt t (ticket = s.condTicketServing)
    | .unlockServe => .release t
    | _ => .idle
  | _ => .idle

/-- The lock is held and waited for as `a` says. -/
structure Refines (s : TicketingLock T) (a : FifoLock T) : Prop where
  holds : ∀ t, s.holds t = true ↔ a.holder = some t
  waiting : ∀ t, t ∈ a.waiting ↔ (s.pc t).ticket.isSome = true
  nodup : a.waiting.Nodup
  /-- The tickets of those that wait, counted from the one that is served. -/
  ticket : ∀ k t, a.waiting[k]? = some t →
    (s.pc t).ticket = some (s.condTicketServing + UInt8.ofNat (a.held + k))
  /-- A caller that will not wait has the ticket behind all others, and it is the last one issued. -/
  trial : ∀ t n, (s.pc t).trial = some n →
    n = s.condTicketServing + UInt8.ofNat a.size ∧ s.condTicketIssue = n + 1
  issue : (∀ t, (s.pc t).trial = none) →
    s.condTicketIssue = s.condTicketServing + UInt8.ofNat a.size
  mutex : ∀ t, (s.pc t).locked = true → s.condLock = some t
  unlocking : ∀ t, (s.pc t).unlocking = true → s.holds t = true

omit [DecidableEq T] in
theorem refines_init : Refines (init : TicketingLock T) ⟨none, []⟩ where
  holds _ := iff_of_false nofun nofun
  waiting _ := iff_of_false List.not_mem_nil nofun
  nodup := List.nodup_nil
  ticket := nofun
  trial := nofun
  issue _ := rfl
  mutex := nofun
  unlocking := nofun

/-! ### Tickets -/

/-- Tickets less than 256 numbers ahead of the one that is served are told apart. -/
theorem add_ofNat_eq_left {n : UInt8} {k : ℕ} (hk : k < 256) : n + UInt8.ofNat k = n ↔ k = 0 := by
  rw [UInt8.add_eq_left, ← UInt8.toNat_inj, UInt8.toNat_ofNat', UInt8.toNat_zero,
    Nat.mod_eq_of_lt hk]

theorem add_ofNat_succ (n : UInt8) (k : ℕ) : n + UInt8.ofNat (k + 1) = n + UInt8.ofNat k + 1 := by
  rw [UInt8.ofNat_add, UInt8.add_assoc]
  rfl

theorem add_ofNat_one_add (n : UInt8) (k : ℕ) : n + UInt8.ofNat (1 + k) = n + 1 + UInt8.ofNat k := by
  rw [UInt8.ofNat_add, UInt8.add_assoc]
  rfl

theorem locked_of_trial {pc : LockPc} {n : UInt8} (h : pc.trial = some n) : pc.locked = true := by
  cases pc with
  | lockTest nonBlocking ticket => rfl
  | _ => cases h

/-- What is observed of a thread after another one has been moved on. -/
theorem apply_update_pc {α : Type} (f : LockPc → α) (pc : T → LockPc) {t : T} {p : LockPc}
    (h : f p = f (pc t)) (t' : T) : f (Function.update pc t p t') = f (pc t') := by
  by_cases ht : t' = t
  · rw [ht, Function.update_self, h]
  · rw [Function.update_of_ne ht]

namespace Refines

variable {s : TicketingLock T} {a : FifoLock T} {t : T}

omit [DecidableEq T] in
/-- Only one thread has the mutex. -/
theorem eq_of_locked (h : Refines s a) (ht : (s.pc t).locked = true) {t' : T}
    (ht' : (s.pc t').locked = true) : t' = t :=
  Option.some.inj ((h.mutex t' ht').symm.trans (h.mutex t ht))

omit [DecidableEq T] in
/-- Beside a thread that has the mutex and is not trying, none is. -/
theorem trial_eq_none (h : Refines s a) (ht : (s.pc t).locked = true)
    (htrial : (s.pc t).trial = none) (t' : T) : (s.pc t').trial = none := by
  by_contra hsome
  obtain ⟨n, hn⟩ := Option.ne_none_iff_exists'.mp hsome
  rw [h.eq_of_locked ht (locked_of_trial hn), htrial] at hn
  cases hn

omit [DecidableEq T] in
/-- A step that moves threads on and leaves the counters alone. -/
theorem frame {s' : TicketingLock T} (h : Refines s a)
    (hissue : s'.condTicketIssue = s.condTicketIssue)
    (hserving : s'.condTicketServing = s.condTicketServing) (hholds : s'.holds = s.holds)
    (hticket : ∀ t, (s'.pc t).ticket = (s.pc t).ticket)
    (htrial : ∀ t, (s'.pc t).trial = (s.pc t).trial)
    (hmutex : ∀ t, (s'.pc t).locked = true → s'.condLock = some t)
    (hunlocking : ∀ t, (s'.pc t).unlocking = true → s.holds t = true) : Refines s' a where
  holds := by simpa only [hholds] using h.holds
  waiting := by simpa only [hticket] using h.waiting
  nodup := h.nodup
  ticket := by simpa only [hticket, hserving] using h.ticket
  trial := by simpa only [htrial, hserving, hissue] using h.trial
  issue := by simpa only [htrial, hserving, hissue] using h.issue
  mutex := hmutex
  unlocking := by simpa only [hholds] using hunlocking

/-- A thread moves on: it keeps its ticket, and the mutex is not taken from another thread. -/
theorem goto {p : LockPc} {condLock : Option T} (h : Refines s a)
    (hticket : p.ticket = (s.pc t).ticket) (htrial : p.trial = (s.pc t).trial)
    (hlocked : p.locked = true → condLock = some t)
    (hothers : ∀ t', t' ≠ t → (s.pc t').locked = true → condLock = some t')
    (hunlocking : p.unlocking = true → s.holds t = true) :
    Refines { s.goto t p with condLock := condLock } a := by
  -- only the thread itself is observed differently, in what it has of the mutex
  refine h.frame rfl rfl rfl (apply_update_pc LockPc.ticket s.pc hticket)
    (apply_update_pc LockPc.trial s.pc htrial) (fun t' ht' => ?_) (fun t' ht' => ?_)
  · change (Function.update s.pc t p t').locked = true at ht'
    by_cases hne : t' = t
    · subst hne
      rw [Function.update_self] at ht'
      exact hlocked ht'
    · rw [Function.update_of_ne hne] at ht'
      exact hothers t' hne ht'
  · change (Function.update s.pc t p t').unlocking = true at ht'
    by_cases hne : t' = t
    · subst hne
      rw [Function.update_self] at ht'
      exact hunlocking ht'
    · rw [Function.update_of_ne hne] at ht'
      exact h.unlocking t' ht'

/-- A broadcast moves on every thread that waits for the condition. -/
theorem wakeAll (h : Refines s a) (hpc : s.pc t = .unlockBroadcast) :
    Refines { s with pc := Function.update (fun t' => (s.pc t').broadcast) t .unlockLeave } a := by
  -- a thread that is woken looks the same to every field of the invariant
  have hobserve {α : Type} (f : LockPc → α) (hf : ∀ pc, f pc.broadcast = f pc)
      (ht : f .unlockLeave = f (s.pc t)) (t' : T) :
      f (Function.update (fun t' => (s.pc t').broadcast) t .unlockLeave t') = f (s.pc t') :=
    (apply_update_pc f (fun t' => (s.pc t').broadcast) (ht.trans (hf _).symm) t').trans (hf _)
  refine h.frame rfl rfl rfl (hobserve LockPc.ticket LockPc.ticket_broadcast (by rw [hpc]; rfl))
    (hobserve LockPc.trial LockPc.trial_broadcast (by rw [hpc]; rfl)) (fun t' ht' => ?_)
    (fun t' ht' => ?_)
  · have hlocked := hobserve LockPc.locked LockPc.locked_broadcast (by rw [hpc]; rfl) t'
    exact h.mutex t' (hlocked.symm.trans ht')
  · have hunlocking := hobserve LockPc.unlocking LockPc.unlocking_broadcast (by rw [hpc]; rfl) t'
    exact h.unlocking t' (hunlocking.symm.trans ht')

/-! The steps that change the queue are made with the mutex held. -/

theorem mutex_update (h : Refines s a) (ht : (s.pc t).locked = true) (p : LockPc) (t' : T)
    (ht' : (Function.update s.pc t p t').locked = true) : s.condLock = some t' := by
  by_cases hne : t' = t
  · rw [hne]
    exact h.mutex t ht
  · rw [Function.update_of_ne hne] at ht'
    exact h.mutex t' ht'

omit [DecidableEq T] in
/-- When the thread that has the mutex gives it up, no other thread has it. -/
theorem mutex_release (h : Refines s a) (ht : (s.pc t).locked = true) (t' : T) (hne : t' ≠ t)
    (ht' : (s.pc t').locked = true) : (none : Option T) = some t' :=
  absurd (h.eq_of_locked ht ht') hne

theorem unlocking_update (h : Refines s a) {p : LockPc} (hp : p.unlocking = false) (t' : T)
    (ht' : (Function.update s.pc t p t').unlocking = true) : t' ≠ t ∧ s.holds t' = true := by
  by_cases hne : t' = t
  · subst hne
    rw [Function.update_self, hp] at ht'
    cases ht'
  · rw [Function.update_of_ne hne] at ht'
    exact ⟨hne, h.unlocking t' ht'⟩

omit [DecidableEq T] in
theorem not_mem_waiting (h : Refines s a) (ht : (s.pc t).ticket = none) : t ∉ a.waiting := by
  rw [h.waiting, ht]
  exact Bool.false_ne_true

/-- After a step of a thread that has the mutex and ends without a trial, there is none. -/
theorem not_trial_update (h : Refines s a) (ht : (s.pc t).locked = true) {p : LockPc}
    (hp : p.trial = none) (t' : T) (n : UInt8) : ¬ (Function.update s.pc t p t').trial = some n := by
  intro hn
  by_cases hne : t' = t
  · rw [hne, Function.update_self, hp] at hn
    cases hn
  · rw [Function.update_of_ne hne] at hn
    exact hne (h.eq_of_locked ht (locked_of_trial hn))

/-- A thread that moves on with its ticket keeps its place. -/
theorem waiting_update (h : Refines s a) {p : LockPc} (hp : p.ticket = (s.pc t).ticket) (t' : T) :
    t' ∈ a.waiting ↔ (Function.update s.pc t p t').ticket.isSome = true := by
  rw [apply_update_pc LockPc.ticket s.pc hp]
  exact h.waiting t'

/-- A blocking caller takes a ticket. -/
theorem arrive (h : Refines s a) (hpc : s.pc t = .lockTake false) :
    Refines { s.goto t (.lockTest false s.condTicketIssue) with
      condTicketIssue := s.condTicketIssue + 1 } (a.step (.arrive t)) := by
  have hlocked : (s.pc t).locked = true := by rw [hpc]; rfl
  have hnot : t ∉ a.waiting := h.not_mem_waiting (by rw [hpc]; rfl)
  -- nobody is trying, so the next ticket is the one behind the queue
  have hissue := h.issue (h.trial_eq_none hlocked (by rw [hpc]; rfl))
  refine ⟨h.holds, fun t' => ?_, ?_, fun k t' hk => ?_,
    fun t' n hn => absurd hn (h.not_trial_update hlocked rfl t' n), fun _ => ?_,
    h.mutex_update hlocked _, fun t' ht' => (h.unlocking_update rfl t' ht').2⟩
  · change t' ∈ a.waiting ++ [t] ↔ (Function.update s.pc t _ t').ticket.isSome = true
    by_cases hne : t' = t
    · rw [hne, Function.update_self]
      exact iff_of_true (List.mem_append_right _ (List.mem_singleton_self t)) rfl
    · rw [Function.update_of_ne hne, List.mem_append, List.mem_singleton, or_iff_left hne]
      exact h.waiting t'
  · exact List.Nodup.append h.nodup (List.nodup_singleton t) (List.disjoint_singleton.mpr hnot)
  · change (a.waiting ++ [t])[k]? = some t' at hk
    change (Function.update s.pc t _ t').ticket = some (s.condTicketServing + UInt8.ofNat (a.held + k))
    rcases Nat.lt_or_ge k a.waiting.length with hlt | hge
    · rw [List.getElem?_append_left hlt] at hk
      have hne : t' ≠ t := fun heq => hnot (heq ▸ List.mem_of_getElem? hk)
      rw [Function.update_of_ne hne]
      exact h.ticket k t' hk
    · -- the new ticket is the last one
      rw [List.getElem?_append_right hge, List.getElem?_singleton] at hk
      split at hk
      case isTrue hlast =>
        obtain rfl : t = t' := Option.some.inj hk
        obtain rfl : k = a.waiting.length := by omega
        rw [Function.update_self]
        exact congrArg some hissue
      case isFalse => cases hk
  · change s.condTicketIssue + 1 = s.condTicketServing + UInt8.ofNat (a.held + (a.waiting ++ [t]).length)
    rw [hissue, List.length_append, List.length_singleton, ← Nat.add_assoc, add_ofNat_succ]
    rfl

/-- A caller that will not wait takes a ticket. -/
theorem takeTrial (h : Refines s a) (hpc : s.pc t = .lockTake true) :
    Refines { s.goto t (.lockTest true s.condTicketIssue) with
      condTicketIssue := s.condTicketIssue + 1 } a := by
  have hlocked : (s.pc t).locked = true := by rw [hpc]; rfl
  have hnone := h.trial_eq_none hlocked (by rw [hpc]; rfl)
  have hissue := h.issue hnone
  have hticket : (LockPc.lockTest true s.condTicketIssue).ticket = (s.pc t).ticket := by rw [hpc]; rfl
  refine ⟨h.holds, h.waiting_update hticket, h.nodup,
    fun k t' hk => (apply_update_pc LockPc.ticket s.pc hticket t').trans (h.ticket k t' hk),
    fun t' n hn => ?_, fun hnone' => ?_, h.mutex_update hlocked _,
    fun t' ht' => (h.unlocking_update rfl t' ht').2⟩
  · change (Function.update s.pc t _ t').trial = some n at hn
    by_cases hne : t' = t
    · rw [hne, Function.update_self] at hn
      obtain rfl : s.condTicketIssue = n := Option.some.inj hn
      exact ⟨hissue, rfl⟩
    · rw [Function.update_of_ne hne, hnone t'] at hn
      cases hn
  · -- there is a trial, so the other account of the next ticket does not apply
    have hself := hnone' t
    change (Function.update s.pc t _ t).trial = none at hself
    rw [Function.update_self] at hself
    cases hself

/-- A caller that will not wait gives its ticket back. -/
theorem giveBack {n : UInt8} (h : Refines s a) (hpc : s.pc t = .lockTest true n) :
    Refines { s.goto t (.lockLeave false) with condTicketIssue := s.condTicketIssue - 1 } a := by
  have hlocked : (s.pc t).locked = true := by rw [hpc]; rfl
  obtain ⟨hn, hissue⟩ := h.trial t n (by rw [hpc]; rfl)
  have hticket : (LockPc.lockLeave false).ticket = (s.pc t).ticket := by rw [hpc]; rfl
  refine ⟨h.holds, h.waiting_update hticket, h.nodup,
    fun k t' hk => (apply_update_pc LockPc.ticket s.pc hticket t').trans (h.ticket k t' hk),
    fun t' m hm => absurd hm (h.not_trial_update hlocked rfl t' m), fun _ => ?_,
    h.mutex_update hlocked _, fun t' ht' => (h.unlocking_update rfl t' ht').2⟩
  -- the ticket that was given back is the next one again
  change s.condTicketIssue - 1 = s.condTicketServing + UInt8.ofNat a.size
  rw [hissue, UInt8.add_sub_cancel, hn]

/-- The next ticket is served. -/
theorem release (h : Refines s a) (hpc : s.pc t = .unlockServe) :
    a.holder = some t ∧ Refines { s.goto t .unlockBroadcast with
      condTicketServing := s.condTicketServing + 1
      holds := Function.update s.holds t false } (a.step (.release t)) := by
  have hlocked : (s.pc t).locked = true := by rw [hpc]; rfl
  have hholder : a.holder = some t := (h.holds t).mp (h.unlocking t (by rw [hpc]; rfl))
  have hheld : a.held = 1 := by rw [FifoLock.held, hholder]; rfl
  have hissue := h.issue (h.trial_eq_none hlocked (by rw [hpc]; rfl))
  have hticket : LockPc.unlockBroadcast.ticket = (s.pc t).ticket := by rw [hpc]; rfl
  refine ⟨hholder, fun t' => ?_, h.waiting_update hticket, h.nodup, fun k t' hk => ?_,
    fun t' n hn => absurd hn (h.not_trial_update hlocked rfl t' n), fun _ => ?_,
    h.mutex_update hlocked _, fun t' ht' => ?_⟩
  · -- nobody holds the lock any more
    change Function.update s.holds t false t' = true ↔ none = some t'
    refine iff_of_false (fun hheld' => ?_) nofun
    by_cases hne : t' = t
    · rw [hne, Function.update_self] at hheld'
      cases hheld'
    · rw [Function.update_of_ne hne, h.holds, hholder] at hheld'
      exact hne (Option.some.inj hheld').symm
  · -- one holder less and one ticket more served cancel out
    refine (apply_update_pc LockPc.ticket s.pc hticket t').trans
      ((h.ticket k t' hk).trans (congrArg some ?_))
    change _ = s.condTicketServing + 1 + UInt8.ofNat (0 + k)
    rw [hheld, add_ofNat_one_add, Nat.zero_add]
  · change s.condTicketIssue = s.condTicketServing + 1 + UInt8.ofNat (0 + a.waiting.length)
    rw [hissue, FifoLock.size, hheld, add_ofNat_one_add, Nat.zero_add]
  · obtain ⟨hne, hholds⟩ := h.unlocking_update rfl t' ht'
    change Function.update s.holds t false t' = true
    rw [Function.update_of_ne hne, hholds]

/-- The lock is given to a thread while nobody holds it. -/
theorem holds_grant (h : Refines s a) (hholder : a.holder = none) (t' : T) :
    Function.update s.holds t true t' = true ↔ some t = some t' := by
  by_cases hne : t' = t
  · rw [hne, Function.update_self]
    exact iff_of_true rfl rfl
  · rw [Function.update_of_ne hne, h.holds, hholder]
    exact iff_of_false nofun fun heq => hne (Option.some.inj heq).symm

theorem unlocking_grant (h : Refines s a) (t' : T)
    (ht' : (Function.update s.pc t (.lockLeave true) t').unlocking = true) :
    Function.update s.holds t true t' = true := by
  obtain ⟨hne, hholds⟩ := h.unlocking_update rfl t' ht'
  rw [Function.update_of_ne hne, hholds]

/-- The first of those that wait gets the lock. -/
theorem acquire {n : UInt8} (h : Refines s a) (hpc : s.pc t = .lockTest false n)
    (hfirst : a.holder = none ∧ a.waiting.head? = some t) :
    Refines { s.goto t (.lockLeave true) with holds := Function.update s.holds t true }
      (a.step (.acquire t)) := by
  have hlocked : (s.pc t).locked = true := by rw [hpc]; rfl
  obtain ⟨hholder, hhead⟩ := hfirst
  obtain ⟨rest, hwaiting⟩ := List.head?_eq_some_iff.mp hhead
  have hrest : (a.step (.acquire t)).waiting = rest := congrArg List.tail hwaiting
  have hheld : a.held = 0 := FifoLock.held_eq_zero_iff.mpr hholder
  have hissue := h.issue (h.trial_eq_none hlocked (by rw [hpc]; rfl))
  have hnodup := h.nodup
  rw [hwaiting, List.nodup_cons] at hnodup
  refine ⟨h.holds_grant hholder, fun t' => ?_, ?_, fun k t' hk => ?_,
    fun t' m hm => absurd hm (h.not_trial_update hlocked rfl t' m), fun _ => ?_,
    h.mutex_update hlocked _, h.unlocking_grant⟩
  · rw [hrest]
    change t' ∈ rest ↔ (Function.update s.pc t (.lockLeave true) t').ticket.isSome = true
    by_cases hne : t' = t
    · rw [hne, Function.update_self]
      exact iff_of_false hnodup.1 nofun
    · rw [Function.update_of_ne hne, ← h.waiting, hwaiting, List.mem_cons, or_iff_right hne]
  · rw [hrest]
    exact hnodup.2
  · -- the holder keeps its place in front of those that still wait
    rw [hrest] at hk
    have hne : t' ≠ t := fun heq => hnodup.1 (heq ▸ List.mem_of_getElem? hk)
    change (Function.update s.pc t (.lockLeave true) t').ticket =
      some (s.condTicketServing + UInt8.ofNat (1 + k))
    rw [Function.update_of_ne hne, h.ticket (k + 1) t' (by rw [hwaiting]; exact hk), hheld,
      Nat.zero_add, Nat.add_comm]
  · rw [FifoLock.size, hrest]
    change s.condTicketIssue = s.condTicketServing + UInt8.ofNat (1 + rest.length)
    rw [hissue, FifoLock.size, hheld, hwaiting, List.length_cons, Nat.zero_add, Nat.add_comm]

/-- A caller that does not have to wait gets the lock. -/
theorem attempt {n : UInt8} (h : Refines s a) (hpc : s.pc t = .lockTest true n) (hfree : a.Free) :
    Refines { s.goto t (.lockLeave true) with holds := Function.update s.holds t true }
      (a.step (.attempt t true)) := by
  have hlocked : (s.pc t).locked = true := by rw [hpc]; rfl
  obtain ⟨hholder, hwaiting⟩ := hfree
  obtain ⟨hn, hissue⟩ := h.trial t n (by rw [hpc]; rfl)
  -- nobody queues, so the queue of the state after the grant is empty as well
  have hnone : ∀ t', (s.pc t').ticket = none := fun t' => by
    rw [← Option.not_isSome_iff_eq_none, ← h.waiting t', hwaiting]
    exact List.not_mem_nil
  have hsize : a.size = 0 := FifoLock.size_eq_zero_iff.mpr ⟨hholder, hwaiting⟩
  have hempty : (a.step (.attempt t true)).waiting = [] := hwaiting
  refine ⟨h.holds_grant hholder, fun t' => ?_, ?_, fun k t' hk => ?_,
    fun t' m hm => absurd hm (h.not_trial_update hlocked rfl t' m), fun _ => ?_,
    h.mutex_update hlocked _, h.unlocking_grant⟩
  · rw [hempty]
    have hticket := apply_update_pc LockPc.ticket s.pc (t := t) (p := .lockLeave true)
      (hnone t).symm t'
    refine iff_of_false List.not_mem_nil ?_
    change ¬ (Function.update s.pc t (.lockLeave true) t').ticket.isSome = true
    rw [hticket, hnone t']
    exact Bool.false_ne_true
  · rw [hempty]
    exact List.nodup_nil
  · rw [hempty] at hk
    cases hk
  · change s.condTicketIssue = s.condTicketServing + UInt8.ofNat (1 + a.waiting.length)
    rw [hissue, hn, hsize, hwaiting]
    exact congrArg (· + 1) (UInt8.add_zero _)

/-! ### Who is served -/

section Bounded

variable [Fintype T]

omit [DecidableEq T] in
/-- A blocking caller finds its ticket served exactly if it is the first and the lock is not held. -/
theorem served_iff (h : Refines s a) (hcard : Fintype.card T ≤ 255) {n : UInt8}
    (hn : (s.pc t).ticket = some n) :
    n = s.condTicketServing ↔ a.holder = none ∧ a.waiting.head? = some t := by
  have hmem : t ∈ a.waiting := (h.waiting t).mpr (by rw [hn]; rfl)
  obtain ⟨k, hk⟩ := List.mem_iff_getElem?.mp hmem
  -- a place in the queue is less than the number of threads, and the holder may be one of them
  have hlt : a.held + k < 256 := by
    have hlength := h.nodup.length_le_card
    have hk' := (List.getElem?_eq_some_iff.mp hk).1
    have hheld := a.held_le_one
    omega
  obtain rfl : s.condTicketServing + UInt8.ofNat (a.held + k) = n :=
    Option.some.inj ((h.ticket k t hk).symm.trans hn)
  rw [add_ofNat_eq_left hlt, Nat.add_eq_zero_iff, FifoLock.held_eq_zero_iff, List.head?_eq_getElem?]
  refine and_congr_right fun _ => ⟨?_, fun hhead => ?_⟩
  · rintro rfl
    exact hk
  · -- no thread waits twice
    exact (List.getElem?_inj (List.getElem?_eq_some_iff.mp hk).1 h.nodup).mp (hk.trans hhead.symm)

omit [DecidableEq T] in
/-- A caller that will not wait finds its ticket served exactly if the lock is free. -/
theorem trial_served_iff (h : Refines s a) (hcard : Fintype.card T ≤ 255) {n : UInt8}
    (hn : (s.pc t).trial = some n) : n = s.condTicketServing ↔ a.Free := by
  have hnot : t ∉ a.waiting := by
    refine h.not_mem_waiting ?_
    cases hpc : s.pc t with
    | lockTest nonBlocking ticket =>
      rw [hpc] at hn
      cases nonBlocking with
      | true => rfl
      | false => cases hn
    | _ => rw [hpc] at hn; cases hn
  -- the caller is not in the queue itself, so the queue and the holder leave room for its ticket
  have hlt : a.size < 256 := by
    have hlength := (List.nodup_cons.mpr ⟨hnot, h.nodup⟩).length_le_card
    rw [List.length_cons] at hlength
    have hheld := a.held_le_one
    unfold FifoLock.size
    omega
  rw [(h.trial t n hn).1, add_ofNat_eq_left hlt, FifoLock.size_eq_zero_iff]

/-- A blocking caller looks at its ticket. -/
theorem testTicket (h : Refines s a) (hcard : Fintype.card T ≤ 255) {ticket : UInt8}
    (hpc : s.pc t = .lockTest false ticket) :
    a.enabled (if ticket = s.condTicketServing then .acquire t else .idle) ∧
      Refines (s.test t false ticket)
        (a.step (if ticket = s.condTicketServing then .acquire t else .idle)) := by
  have hserved := h.served_iff hcard (t := t) (n := ticket) (by rw [hpc]; rfl)
  unfold test
  by_cases heq : ticket = s.condTicketServing
  · rw [if_neg (not_not.mpr heq), if_pos heq]
    exact ⟨hserved.mp heq, h.acquire hpc (hserved.mp heq)⟩
  · rw [if_pos heq, if_neg Bool.false_ne_true, if_neg heq]
    exact ⟨trivial, h.goto (by rw [hpc]; rfl) (by rw [hpc]; rfl) nofun
      (h.mutex_release (by rw [hpc]; rfl)) nofun⟩

/-- A caller that will not wait looks at its ticket. -/
theorem testTrial (h : Refines s a) (hcard : Fintype.card T ≤ 255) {ticket : UInt8}
    (hpc : s.pc t = .lockTest true ticket) :
    a.enabled (.attempt t (ticket = s.condTicketServing)) ∧
      Refines (s.test t true ticket) (a.step (.attempt t (ticket = s.condTicketServing))) := by
  have hserved := h.trial_served_iff hcard (t := t) (n := ticket) (by rw [hpc]; rfl)
  refine ⟨decide_eq_true_iff.trans hserved, ?_⟩
  unfold test
  by_cases heq : ticket = s.condTicketServing
  · rw [if_neg (not_not.mpr heq), decide_eq_true heq]
    exact h.attempt hpc (hserved.mp heq)
  · rw [if_pos heq, if_pos rfl, decide_eq_false heq]
    exact h.giveBack hpc

/-- A thread that goes on makes a step of the abstract lock, or none. -/
theorem advance (h : Refines s a) (hcard : Fintype.card T ≤ 255) (henabled : s.enabled (t, .next)) :
    a.enabled (s.op (t, .next)) ∧ Refines (s.advance t) (a.step (s.op (t, .next))) := by
  -- the mutex is taken when nobody has it
  have hfree (hnone : s.condLock = none) (t' : T) (_ : t' ≠ t) (ht' : (s.pc t').locked = true) :
      some t = some t' := by
    rw [h.mutex t' ht'] at hnone
    cases hnone
  unfold TicketingLock.advance op
  have henabled : (s.pc t).locked = true ∨ (s.pc t).entering = true ∧ s.condLock = none := henabled
  dsimp only
  cases hpc : s.pc t <;> rw [hpc] at henabled <;> dsimp only
  case idle => exact absurd henabled nofun
  case condWait => exact absurd henabled nofun
  case lockEnter nonBlocking =>
    have hnone := (henabled.resolve_left nofun).2
    exact ⟨trivial, h.goto (by rw [hpc]; rfl) (by rw [hpc]; rfl) (fun _ => rfl) (hfree hnone) nofun⟩
  case condWake ticket =>
    have hnone := (henabled.resolve_left nofun).2
    exact ⟨trivial, h.goto (by rw [hpc]; rfl) (by rw [hpc]; rfl) (fun _ => rfl) (hfree hnone) nofun⟩
  case unlockEnter =>
    have hnone := (henabled.resolve_left nofun).2
    exact ⟨trivial, h.goto (by rw [hpc]; rfl) (by rw [hpc]; rfl) (fun _ => rfl) (hfree hnone)
      fun _ => h.unlocking t (by rw [hpc]; rfl)⟩
  case lockLeave acquired =>
    exact ⟨trivial, h.goto (by rw [hpc]; rfl) (by rw [hpc]; rfl) nofun (h.mutex_release (by rw [hpc]; rfl))
      nofun⟩
  case unlockLeave =>
    exact ⟨trivial, h.goto (by rw [hpc]; rfl) (by rw [hpc]; rfl) nofun (h.mutex_release (by rw [hpc]; rfl))
      nofun⟩
  case unlockBroadcast => exact ⟨trivial, h.wakeAll hpc⟩
  case unlockServe => exact h.release hpc
  case lockTake nonBlocking =>
    cases nonBlocking with
    | false => exact ⟨h.not_mem_waiting (by rw [hpc]; rfl), h.arrive hpc⟩
    | true => exact ⟨trivial, h.takeTrial hpc⟩
  case lockTest nonBlocking ticket =>
    cases nonBlocking with
    | false => exact h.testTicket hcard hpc
    | true => exact h.testTrial hcard hpc

/-- **Step lemma.** Every step is a step of the abstract lock, or none. -/
theorem step (h : Refines s a) (hcard : Fintype.card T ≤ 255) {i : T × LockAction}
    (henabled : s.enabled i) : a.enabled (s.op i) ∧ Refines (s.step i) (a.step (s.op i)) := by
  obtain ⟨t, action⟩ := i
  cases action with
  | lock nonBlocking =>
    have hpc : s.pc t = .idle := henabled
    exact ⟨trivial, h.goto (by rw [hpc]; rfl) (by rw [hpc]; rfl) nofun (fun t' _ => h.mutex t') nofun⟩
  | unlock =>
    obtain ⟨hpc, hholds⟩ : s.pc t = .idle ∧ s.holds t = true := henabled
    exact ⟨trivial, h.goto (by rw [hpc]; rfl) (by rw [hpc]; rfl) nofun (fun t' _ => h.mutex t')
      fun _ => hholds⟩
  | wake =>
    refine ⟨trivial, h.goto ?_ ?_ ?_ (fun t' _ => h.mutex t') ?_⟩
    · exact LockPc.ticket_broadcast _
    · exact LockPc.trial_broadcast _
    · rw [LockPc.locked_broadcast]
      exact h.mutex t
    · rw [LockPc.unlocking_broadcast]
      exact h.unlocking t
  | next => exact h.advance hcard henabled

end Bounded

omit [DecidableEq T] in
/-- The lock is free exactly if no thread holds it or waits for it. -/
theorem free_iff (h : Refines s a) : a.Free ↔ ∀ t, ¬ s.holds t = true ∧ ¬ s.Waits t := by
  constructor
  · rintro ⟨hholder, hwaiting⟩ t
    rw [h.holds, hholder, Waits, ← h.waiting, hwaiting]
    exact ⟨nofun, List.not_mem_nil⟩
  · intro hnone
    refine ⟨?_, List.eq_nil_iff_forall_not_mem.mpr fun t ht => (hnone t).2 ((h.waiting t).mp ht)⟩
    by_contra hholder
    obtain ⟨t, ht⟩ := Option.ne_none_iff_exists'.mp hholder
    exact (hnone t).1 ((h.holds t).mpr ht)

/-- While a thread has the mutex, the others neither move it nor change the counters. -/
theorem step_of_ne (h : Refines s a) (hlocked : (s.pc t).locked = true) {t' : T} (hne : t' ≠ t)
    {action : LockAction} (henabled : s.enabled (t', action)) :
    (s.step (t', action)).pc t = s.pc t ∧
      (s.step (t', action)).condTicketIssue = s.condTicketIssue ∧
      (s.step (t', action)).condTicketServing = s.condTicketServing := by
  have hgoto (p : LockPc) : (s.goto t' p).pc t = s.pc t := Function.update_of_ne hne.symm _ _
  cases action with
  | lock nonBlocking => exact ⟨hgoto _, rfl, rfl⟩
  | unlock => exact ⟨hgoto _, rfl, rfl⟩
  | wake => exact ⟨hgoto _, rfl, rfl⟩
  | next =>
    -- going on takes the mutex
    rcases (henabled : _ ∨ _) with hother | ⟨-, hfree⟩
    · exact absurd (h.eq_of_locked hlocked hother) hne
    · cases (h.mutex t hlocked).symm.trans hfree

end Refines

/-! ### Calls that do not wait -/

theorem test_pc_iff (t : T) (nonBlocking : Bool) (ticket : UInt8) (s : TicketingLock T) :
    (s.test t nonBlocking ticket).pc t = .lockLeave true ↔ ticket = s.condTicketServing := by
  unfold test
  by_cases heq : ticket = s.condTicketServing
  · rw [if_neg (not_not.mpr heq)]
    exact iff_of_true (Function.update_self _ _ _) heq
  · rw [if_pos heq]
    refine iff_of_false (fun hpc => ?_) heq
    cases nonBlocking <;> cases (Function.update_self _ _ _).symm.trans hpc

/-- The counters while a call that does not wait has the mutex, counted from when it got it. -/
def TrialCounters (t : T) (issue serving : UInt8) (s : TicketingLock T) : Prop :=
  match s.pc t with
  | .lockTake true | .lockLeave false => s.condTicketIssue = issue ∧ s.condTicketServing = serving
  | .lockTest true _ => s.condTicketIssue = issue + 1 ∧ s.condTicketServing = serving
  | .lockLeave true => True
  | _ => False

omit [DecidableEq T] in
theorem TrialCounters.locked {t : T} {issue serving : UInt8} {s : TicketingLock T}
    (h : s.TrialCounters t issue serving) : (s.pc t).locked = true := by
  unfold TrialCounters at h
  cases hpc : s.pc t with
  | lockTake nonBlocking => rfl
  | lockTest nonBlocking ticket => rfl
  | lockLeave acquired => rfl
  | _ =>
    rw [hpc] at h
    exact h.elim

/-- A step during the call, by whichever thread. -/
theorem TrialCounters.step {t : T} {issue serving : UInt8} {s : TicketingLock T} {a : FifoLock T}
    (h : s.TrialCounters t issue serving) (hrefines : Refines s a) {i : T × LockAction}
    (henabled : s.enabled i) (hcall : (s.step i).pc t ≠ .idle) :
    (s.step i).TrialCounters t issue serving := by
  obtain ⟨t', action⟩ := i
  by_cases hne : t' = t
  · subst hne
    have hlocked := h.locked
    cases action with
    | lock nonBlocking =>
      rw [show s.pc t' = .idle from henabled] at hlocked
      cases hlocked
    | unlock =>
      rw [show s.pc t' = .idle from henabled.1] at hlocked
      cases hlocked
    | wake => exact absurd (LockPc.broadcast_of_locked hlocked) henabled
    | next =>
      change (s.advance t').TrialCounters t' issue serving
      change (s.advance t').pc t' ≠ .idle at hcall
      unfold TrialCounters at h
      unfold TicketingLock.advance at hcall ⊢
      cases hpc : s.pc t' with
      | lockTake nonBlocking =>
        cases nonBlocking with
        | false => simp only [hpc] at h
        | true =>
          simp only [hpc] at h
          simp only [TrialCounters, TicketingLock.goto, Function.update_self, h.1, h.2, and_self]
      | lockTest nonBlocking ticket =>
        cases nonBlocking with
        | false => simp only [hpc] at h
        | true =>
          simp only [hpc] at h
          dsimp only
          unfold test
          split
          · simp only [if_true, TrialCounters, TicketingLock.goto, Function.update_self, h.1, h.2,
              UInt8.add_sub_cancel, and_self]
          · simp only [TrialCounters, TicketingLock.goto, Function.update_self]
      | lockLeave acquired =>
        -- the call ends
        simp only [hpc] at hcall
        exact absurd (Function.update_self _ _ _) hcall
      | _ => simp only [hpc] at h
  · -- another thread cannot get past the mutex
    obtain ⟨hpc, hissue, hserving⟩ := hrefines.step_of_ne h.locked hne henabled
    unfold TrialCounters
    rw [hpc, hissue, hserving]
    exact h

/-! ### Whole runs -/

section Runs

omit [DecidableEq T] in
/-- The tickets taken and served are the arrivals and acquisitions of the abstract lock. -/
theorem observe_op (s : TicketingLock T) (i : T × LockAction) :
    s.takesTicket i = FifoLock.arrives (s.op i) ∧ s.acquires i = FifoLock.acquires (s.op i) := by
  obtain ⟨t, action⟩ := i
  cases action with
  | next =>
    unfold op takesTicket acquires
    dsimp only
    cases hpc : s.pc t with
    | lockTake nonBlocking => cases nonBlocking <;> exact ⟨rfl, rfl⟩
    | lockTest nonBlocking ticket =>
      cases nonBlocking with
      | false => by_cases heq : ticket = s.condTicketServing <;> simp [heq, FifoLock.arrives,
          FifoLock.acquires]
      | true => exact ⟨rfl, rfl⟩
    | _ => exact ⟨rfl, rfl⟩
  | _ => exact ⟨rfl, rfl⟩

variable [Fintype T] {σ : ℕ → T × LockAction} {n : ℕ}

/-- **The ticketing lock refines the abstract lock.** -/
theorem refines_stateAt (hcard : Fintype.card T ≤ 255) (hdelivers : (machine T).Delivers init σ n) :
    (FifoLock.machine T).Delivers ⟨none, []⟩ (fun k => ((machine T).stateAt init σ k).op (σ k)) n ∧
      ∀ k ≤ n, Refines ((machine T).stateAt init σ k) ((FifoLock.machine T).stateAt ⟨none, []⟩
        (fun k => ((machine T).stateAt init σ k).op (σ k)) k) :=
  Machine.lockstep (M := FifoLock.machine T) (N := machine T) Refines op refines_init
    fun k hk _ h => h.step hcard (hdelivers k hk)

/-- The blocking callers that have got the lock are the first that took a ticket, in the same order. -/
theorem acquisitions_prefix (hcard : Fintype.card T ≤ 255)
    (hdelivers : (machine T).Delivers init σ n) :
    (machine T).events acquires init σ n <+: (machine T).events takesTicket init σ n := by
  -- the order of the abstract lock, read back through what a step is observed to do
  have hfifo := FifoLock.acquisitions_append_waiting (refines_stateAt hcard hdelivers).1
  have harrivals := Machine.events_congr (M := machine T) (N := FifoLock.machine T)
    (f := takesTicket) (g := fun _ => FifoLock.arrives) (s := init) (t := ⟨none, []⟩) (σ := σ) (n := n)
    (τ := fun k => ((machine T).stateAt init σ k).op (σ k)) fun k _ => (observe_op _ _).1
  have hacquisitions := Machine.events_congr (M := machine T) (N := FifoLock.machine T)
    (f := acquires) (g := fun _ => FifoLock.acquires) (s := init) (t := ⟨none, []⟩) (σ := σ) (n := n)
    (τ := fun k => ((machine T).stateAt init σ k).op (σ k)) fun k _ => (observe_op _ _).2
  rw [harrivals, hacquisitions]
  exact ⟨_, hfifo⟩

/-- Mutual exclusion: the abstract lock has one holder. -/
theorem holder_unique (hcard : Fintype.card T ≤ 255) (hdelivers : (machine T).Delivers init σ n) {k : ℕ}
    (hk : k ≤ n) {t t' : T} (ht : ((machine T).stateAt init σ k).holds t = true)
    (ht' : ((machine T).stateAt init σ k).holds t' = true) : t = t' := by
  have hrefines := (refines_stateAt hcard hdelivers).2 k hk
  exact Option.some.inj (((hrefines.holds t).mp ht).symm.trans ((hrefines.holds t').mp ht'))

/-- A trial gets the lock exactly if the abstract lock is free: only then is its ticket, the latest one, the
one that is served. -/
theorem trial_gets_iff (hcard : Fintype.card T ≤ 255) (hdelivers : (machine T).Delivers init σ n) {k : ℕ}
    (hk : k < n) {t : T} {ticket : UInt8} (hσ : σ k = (t, .next))
    (hpc : ((machine T).stateAt init σ k).pc t = .lockTest true ticket) :
    ((machine T).stateAt init σ (k + 1)).pc t = .lockLeave true ↔
      ∀ t', ¬ ((machine T).stateAt init σ k).holds t' = true ∧
        ¬ ((machine T).stateAt init σ k).Waits t' := by
  have hrefines := (refines_stateAt hcard hdelivers).2 k hk.le
  have hserved := hrefines.trial_served_iff hcard (t := t) (n := ticket) (by rw [hpc]; rfl)
  rw [← hrefines.free_iff, ← hserved, Machine.stateAt_succ, hσ]
  change (((machine T).stateAt init σ k).advance t).pc t = _ ↔ _
  unfold TicketingLock.advance
  rw [hpc]
  exact test_pc_iff _ _ _ _

/-- The counters are the same when a call that did not get the lock is about to leave as when it got the
mutex. -/
theorem counters_of_failed (hcard : Fintype.card T ≤ 255) (hdelivers : (machine T).Delivers init σ n)
    {i m : ℕ} (him : i < m) (hm : m < n) {t : T}
    (henter : ((machine T).stateAt init σ i).pc t = .lockEnter true) (hi : σ i = (t, .next))
    (hcall : ∀ l, i < l → l ≤ m → ((machine T).stateAt init σ l).pc t ≠ .idle)
    (hleave : ((machine T).stateAt init σ m).pc t = .lockLeave false) :
    ((machine T).stateAt init σ m).condTicketIssue = ((machine T).stateAt init σ i).condTicketIssue ∧
      ((machine T).stateAt init σ m).condTicketServing =
        ((machine T).stateAt init σ i).condTicketServing := by
  have hrefines := (refines_stateAt hcard hdelivers).2
  -- the thread has the mutex after step `i`, and until it leaves the call
  have hbegin : ((machine T).stateAt init σ (i + 1)).TrialCounters t
      ((machine T).stateAt init σ i).condTicketIssue
      ((machine T).stateAt init σ i).condTicketServing := by
    rw [Machine.stateAt_succ, hi]
    change (((machine T).stateAt init σ i).advance t).TrialCounters t _ _
    unfold TicketingLock.advance
    simp only [henter, TrialCounters, TicketingLock.goto, Function.update_self, and_self]
  have hend := Machine.invariant_from (M := machine T) (s := init) (σ := σ)
    (P := TrialCounters t ((machine T).stateAt init σ i).condTicketIssue
      ((machine T).stateAt init σ i).condTicketServing) (i := i + 1) (j := m) him hbegin
    fun l hl hlm h => h.step (hrefines l (by omega)) (hdelivers l (by omega))
      (hcall (l + 1) (by omega) hlm)
  unfold TrialCounters at hend
  rw [hleave] at hend
  exact hend

/-- **The ticketing lock.** Let at most 255 threads call `lock`, with and without `got`, and `unlock` if
they have the lock, in any interleaving, with any number of acquisitions and of wake-ups. Then

* at most one thread holds the lock,
* the blocking callers get the lock in the order in which they took their tickets,
* a call with `got` finds its ticket served exactly if no thread holds the lock or waits for it,
* a call with `got` that does not get the lock leaves both counters as they were when it got the mutex. -/
theorem ticketingLock_correct (hcard : Fintype.card T ≤ 255) (σ : ℕ → T × LockAction) (n : ℕ)
    (hdelivers : (machine T).Delivers init σ n) :
    (∀ k ≤ n, ∀ t t', ((machine T).stateAt init σ k).holds t = true →
      ((machine T).stateAt init σ k).holds t' = true → t = t') ∧
    ((machine T).events acquires init σ n <+: (machine T).events takesTicket init σ n) ∧
    (∀ k < n, ∀ t ticket, σ k = (t, .next) →
      ((machine T).stateAt init σ k).pc t = .lockTest true ticket →
      (((machine T).stateAt init σ (k + 1)).pc t = .lockLeave true ↔
        ∀ t', ¬ ((machine T).stateAt init σ k).holds t' = true ∧
          ¬ ((machine T).stateAt init σ k).Waits t')) ∧
    ∀ i m, i < m → m < n → ∀ t, ((machine T).stateAt init σ i).pc t = .lockEnter true →
      σ i = (t, .next) →
      (∀ l, i < l → l ≤ m → ((machine T).stateAt init σ l).pc t ≠ .idle) →
      ((machine T).stateAt init σ m).pc t = .lockLeave false → σ m = (t, .next) →
      ((machine T).stateAt init σ (m + 1)).condTicketIssue =
          ((machine T).stateAt init σ i).condTicketIssue ∧
        ((machine T).stateAt init σ (m + 1)).condTicketServing =
          ((machine T).stateAt init σ i).condTicketServing := by
  refine ⟨fun k hk t t' => holder_unique hcard hdelivers hk, acquisitions_prefix hcard hdelivers,
    fun k hk t ticket => trial_gets_iff hcard hdelivers hk,
    fun i m him hm t henter hi hcall hleave hσ => ?_⟩
  -- the step that leaves the call releases the mutex and changes no counter
  rw [Machine.stateAt_succ, hσ]
  change (((machine T).stateAt init σ m).advance t).condTicketIssue = _ ∧
    (((machine T).stateAt init σ m).advance t).condTicketServing = _
  unfold TicketingLock.advance
  rw [hleave]
  exact counters_of_failed hcard hdelivers him hm henter hi hcall hleave

end Runs

/-- Thread 0 takes the lock, thread 1 tries to, then waits for it, and is given it by thread 0. -/
def handover : ℕ → Fin 2 × LockAction
  | 0 => (0, .lock false)
  | 5 => (1, .lock true)
  | 10 => (1, .lock false)
  | 14 => (0, .unlock)
  | 6 | 7 | 8 | 9 | 11 | 12 | 13 | 19 | 20 | 21 => (1, .next)
  | _ => (0, .next)

/-- The lock is handed over in order. -/
theorem handover_correct :
    (machine (Fin 2)).events acquires init handover 21 = [0, 1] ∧
      ((machine (Fin 2)).events acquires init handover 21 <+:
        (machine (Fin 2)).events takesTicket init handover 21) ∧
      (((machine (Fin 2)).stateAt init handover 9).pc 1 = .lockLeave true ↔
        ∀ t', ¬ ((machine (Fin 2)).stateAt init handover 8).holds t' = true ∧
          ¬ ((machine (Fin 2)).stateAt init handover 8).Waits t') := by
  have hdelivers : (machine (Fin 2)).Delivers init handover 21 := by
    unfold Machine.Delivers machine
    decide +kernel
  obtain ⟨-, horder, hattempt, -⟩ := ticketingLock_correct (by decide) handover 21 hdelivers
  exact ⟨by decide +kernel, horder, hattempt 8 (by decide) 1 1 rfl (by decide +kernel)⟩

end TicketingLock

end Linux

end Gptp
