import Gptp.Framework.Machine
import Gptp.Port.Operations
import Mathlib.Data.List.Nodup
import Mathlib.Data.List.Perm.Subperm

/-!
# The Linux timer queue

`LinuxTimerQueue` keeps its events in a map from integer keys to `LinuxTimerQueueActionArg`. Each event
has a POSIX timer of its own, and when the timer expires the kernel queues a signal that carries the
key. A thread consumes the signals one by one: it looks the key up, takes the entry out of the map and
runs its callback.

A signal that has been queued stays queued when its timer is deleted, so the state of the system is the
map together with the queued signals (`TimerSystem`). Every call of `addEvent` has a number, by which
the event it adds, the timer it creates and the signal the timer raises are identified.

The key is an `int` in the source and a natural number here. It never decreases, and a call of `addEvent`
raises it past the keys in use, so the two agree until it has reached the largest `int`; what the source does
from there on is not modelled.

* `findKey_not_mem`: the search for a key ends at one that is not in use.
* `addEvent_addsOrKeeps_iff`: `addEvent` is all or nothing unless its timer can be created and cannot be
  armed, which leaves an entry that never fires.
* `TimerSystem.WellFormed`: keys and owners are distinct, and a timer carries the key of its entry.
* `LinuxTimerQueue.timers`: the pending timers of the daemon's model that a queue stands for. Adding and
  cancelling an event are `Daemon.addEventTimer` and `Daemon.deleteEventTimer`, and a callback is the
  expiry of a pending timer.
-/

namespace Gptp

open Framework

/-! ### POSIX timers -/

/-- The `it_value` of a `struct itimerspec`. -/
structure ItValue where
  tvSec : ℕ
  tvNsec : ℕ
  deriving DecidableEq

namespace ItValue

/-- The value that disarms a timer. -/
def zero : ItValue := ⟨0, 0⟩

/-- The value `LinuxTimerQueue::addEvent` arms a timer with. -/
def ofMicros (micros : ℕ) : ItValue := ⟨micros / 1000000, micros % 1000000 * 1000⟩

/-- The microseconds of a value. -/
def micros (v : ItValue) : ℕ := v.tvSec * 1000000 + v.tvNsec / 1000

@[simp] theorem micros_ofMicros (n : ℕ) : (ofMicros n).micros = n := by
  simp only [micros, ofMicros]
  omega

theorem ofMicros_eq_zero {n : ℕ} : ofMicros n = zero ↔ n = 0 := by
  simp only [ofMicros, zero, ItValue.mk.injEq]
  omega

end ItValue

/-- A POSIX timer: the call of `addEvent` that created it, the value its signal carries, the delay it
was set to, and whether it has yet to expire. -/
structure PosixTimer where
  owner : ℕ
  sivalInt : ℕ
  itValue : ItValue
  running : Bool

/-! ### The queue -/

/-- `LinuxTimerQueueActionArg`, with `func` and `inner_arg` as one value. -/
structure LinuxTimerQueueActionArg (τ α : Type) where
  timerHandle : PosixTimer
  innerArg : α
  type : τ

/-- `LinuxTimerQueue`. -/
structure LinuxTimerQueue (τ α : Type) where
  key : ℕ
  timerQueueMap : List (ℕ × LinuxTimerQueueActionArg τ α)

/-- `while (timerQueueMap.find(key) != timerQueueMap.end()) ++key;` for at most `fuel` rounds. -/
def findKey (keys : List ℕ) : ℕ → ℕ → ℕ
  | 0, key => key
  | fuel + 1, key => if key ∈ keys then findKey keys fuel (key + 1) else key

/-- A search that runs out of rounds has passed as many used keys, and stopped at another one. -/
theorem mem_of_findKey_mem {keys : List ℕ} :
    ∀ {fuel key : ℕ}, findKey keys fuel key ∈ keys → ∀ i ≤ fuel, key + i ∈ keys := by
  intro fuel
  induction fuel with
  | zero =>
    intro key h i hi
    obtain rfl : i = 0 := Nat.le_zero.mp hi
    exact h
  | succ fuel ih =>
    intro key h i hi
    rw [findKey] at h
    split at h
    case isFalse hkey => exact absurd h hkey
    case isTrue hkey =>
      cases i with
      | zero => exact hkey
      | succ i =>
        have := ih h i (Nat.le_of_succ_le_succ hi)
        rwa [Nat.add_right_comm, Nat.add_assoc] at this

/-- **The search ends.** There are no more used keys than entries, so the search stops at an unused
key. -/
theorem findKey_not_mem (keys : List ℕ) (key : ℕ) : findKey keys keys.length key ∉ keys := by
  intro h
  -- otherwise the search has passed one key more than there are
  have hsub : (List.range (keys.length + 1)).map (key + ·) ⊆ keys := by
    intro k hk
    obtain ⟨i, hi, rfl⟩ := List.mem_map.mp hk
    exact mem_of_findKey_mem h i (Nat.le_of_lt_succ (List.mem_range.mp hi))
  have hnodup : ((List.range (keys.length + 1)).map (key + ·)).Nodup :=
    List.nodup_range.map fun _ _ h => Nat.add_left_cancel h
  have hlen := (List.subperm_of_subset hnodup hsub).length_le
  simp at hlen

namespace LinuxTimerQueue

variable {τ α : Type}

/-- The keys in use. -/
def keys (q : LinuxTimerQueue τ α) : List ℕ := q.timerQueueMap.map Prod.fst

/-- The key `addEvent` takes next. -/
def nextKey (q : LinuxTimerQueue τ α) : ℕ := findKey q.keys q.keys.length q.key

/-- `LinuxTimerQueue::addEvent`, with the outcomes of `timer_create` and `timer_settime`. An event whose
timer could not be armed stays in the map. -/
def addEvent (owner micros : ℕ) (type : τ) (arg : α) (created armed : Bool)
    (q : LinuxTimerQueue τ α) : LinuxTimerQueue τ α × Bool :=
  if created then
    let itValue := ItValue.ofMicros micros
    -- `timer_settime` with a zero value disarms
    let timer : PosixTimer := ⟨owner, q.nextKey, itValue, armed && itValue ≠ ItValue.zero⟩
    (⟨q.nextKey, q.timerQueueMap ++ [(q.nextKey, ⟨timer, arg, type⟩)]⟩, armed)
  else (⟨q.nextKey, q.timerQueueMap⟩, false)

/-- A call that adds an event is all or nothing: if it fails, the entries are those before, and if it
succeeds, there is one more entry, for the event and under a key that was not in use. -/
def AddsOrKeeps (type : τ) (arg : α) (q : LinuxTimerQueue τ α) (result : LinuxTimerQueue τ α × Bool) :
    Prop :=
  (result.2 = false → result.1.timerQueueMap = q.timerQueueMap) ∧
    (result.2 = true → ∃ key timer, key ∉ q.keys ∧
      result.1.timerQueueMap = q.timerQueueMap ++ [(key, ⟨timer, arg, type⟩)])

/-- **Adding an event is all or nothing** unless the timer can be created and cannot be armed. -/
theorem addEvent_addsOrKeeps_iff (owner micros : ℕ) (type : τ) (arg : α) (created armed : Bool)
    (q : LinuxTimerQueue τ α) :
    q.AddsOrKeeps type arg (q.addEvent owner micros type arg created armed) ↔
      ¬ (created = true ∧ armed = false) := by
  cases created with
  | false =>
    have hkeeps : q.AddsOrKeeps type arg (q.addEvent owner micros type arg false armed) :=
      ⟨fun _ => rfl, fun h => absurd h Bool.false_ne_true⟩
    exact iff_of_true hkeeps fun h => absurd h.1 Bool.false_ne_true
  | true =>
    cases armed with
    | false =>
      -- the entry is in the map before the timer is armed
      refine iff_of_false (fun h => ?_) (not_not.mpr ⟨rfl, rfl⟩)
      have hlength := congrArg List.length (h.1 rfl)
      simp [addEvent] at hlength
    | true =>
      have hadds : q.AddsOrKeeps type arg (q.addEvent owner micros type arg true true) :=
        ⟨fun h => absurd h.symm Bool.false_ne_true,
          fun _ => ⟨q.nextKey, _, findKey_not_mem _ _, rfl⟩⟩
      exact iff_of_true hadds fun h => absurd h.2.symm Bool.false_ne_true

/-- The first event of a queue, whose timer cannot be armed: the call fails and the entry stays. -/
theorem unarmed_entry_stays :
    let q : LinuxTimerQueue Event ℕ := ⟨0, []⟩
    let result := q.addEvent 0 1000 .syncIntervalTimeoutExpires 1 true false
    result.2 = false ∧ result.1.keys = [0] ∧
      ¬ q.AddsOrKeeps .syncIntervalTimeoutExpires 1 result :=
  ⟨rfl, rfl, fun h => absurd (h.1 rfl) (List.cons_ne_nil _ _)⟩

/-- `LinuxTimerQueue::cancelEvent`. -/
def cancelEvent [DecidableEq τ] (type : τ) (q : LinuxTimerQueue τ α) : LinuxTimerQueue τ α :=
  { q with timerQueueMap := q.timerQueueMap.filter fun p => p.2.type ≠ type }

/-- What `LinuxTimerQueueHandler` does with a signal: the entry with its key is taken out of the map,
and its callback is run. -/
def handleSignal (key : ℕ) (q : LinuxTimerQueue τ α) :
    LinuxTimerQueue τ α × Option (LinuxTimerQueueActionArg τ α) :=
  match q.timerQueueMap.lookup key with
  | some arg => ({ q with timerQueueMap := q.timerQueueMap.filter fun p => p.1 ≠ key }, some arg)
  | none => (q, none)

theorem handleSignal_sublist (key : ℕ) (q : LinuxTimerQueue τ α) :
    (q.handleSignal key).1.timerQueueMap.Sublist q.timerQueueMap := by
  unfold handleSignal
  split
  · exact List.filter_sublist
  · exact List.Sublist.refl _

/-- The calls of `addEvent` whose events are in the map. -/
def owners (q : LinuxTimerQueue τ α) : List ℕ :=
  q.timerQueueMap.map fun p => p.2.timerHandle.owner

/-- The timer created by the given call has expired. -/
def markExpired (owner : ℕ) (q : LinuxTimerQueue τ α) : LinuxTimerQueue τ α :=
  { q with timerQueueMap := q.timerQueueMap.map fun p =>
      if p.2.timerHandle.owner = owner then (p.1, { p.2 with timerHandle.running := false }) else p }

/-- The expiry of a timer changes no entry but for its running flag. -/
theorem mem_markExpired {owner : ℕ} {q : LinuxTimerQueue τ α}
    {p : ℕ × LinuxTimerQueueActionArg τ α} (h : p ∈ (q.markExpired owner).timerQueueMap) :
    ∃ p₀ ∈ q.timerQueueMap, p.1 = p₀.1 ∧ p.2.timerHandle.sivalInt = p₀.2.timerHandle.sivalInt ∧
      p.2.timerHandle.owner = p₀.2.timerHandle.owner := by
  obtain ⟨p₀, hp₀, rfl⟩ := List.mem_map.mp h
  refine ⟨p₀, hp₀, ?_⟩
  split <;> exact ⟨rfl, rfl, rfl⟩

@[simp] theorem keys_markExpired (owner : ℕ) (q : LinuxTimerQueue τ α) :
    (q.markExpired owner).keys = q.keys := by
  simp only [markExpired, keys, List.map_map]
  refine List.map_congr_left fun p _ => ?_
  dsimp only [Function.comp_apply]
  split <;> rfl

@[simp] theorem owners_markExpired (owner : ℕ) (q : LinuxTimerQueue τ α) :
    (q.markExpired owner).owners = q.owners := by
  simp only [markExpired, owners, List.map_map]
  refine List.map_congr_left fun p _ => ?_
  dsimp only [Function.comp_apply]
  split <;> rfl

theorem owners_addEvent (owner micros : ℕ) (type : τ) (arg : α) (created armed : Bool)
    (q : LinuxTimerQueue τ α) :
    (q.addEvent owner micros type arg created armed).1.owners =
      if created then q.owners ++ [owner] else q.owners := by
  cases created with
  | false => rfl
  | true =>
    simp only [addEvent, if_true, owners, List.map_append]
    rfl

end LinuxTimerQueue

/-! ### The queue with its signals -/

/-- A queued signal: the value it carries, and the event whose timer raised it. -/
structure Signal where
  sivalInt : ℕ
  raisedBy : ℕ

/-- The timer queue, the number of calls of `addEvent` so far, and the queued signals. -/
structure TimerSystem (τ α : Type) where
  queue : LinuxTimerQueue τ α
  calls : ℕ
  signals : List Signal

/-- The operations on a timer queue, each atomic under its lock. -/
inductive TimerOp (τ α : Type) where
  | addEvent (micros : ℕ) (type : τ) (arg : α) (created armed : Bool)
  | cancelEvent (type : τ)
  /-- The timer that the given call of `addEvent` created expires. -/
  | expire (owner : ℕ)
  /-- The handler consumes the `i`-th queued signal. -/
  | consume (i : ℕ)

/-- A callback that has been run: the event it belongs to, and the event whose timer raised the signal
it was run for. -/
structure Callback where
  owner : ℕ
  raisedBy : ℕ
  deriving DecidableEq

namespace TimerSystem

variable {τ α : Type}

/-- The queue that `createOSTimerQueue` returns. -/
def init : TimerSystem τ α := ⟨⟨0, []⟩, 0, []⟩

/-- The running timer that the given call of `addEvent` created. -/
def runningTimer (owner : ℕ) (s : TimerSystem τ α) : Option PosixTimer :=
  (s.queue.timerQueueMap.map fun p => p.2.timerHandle).find? fun t => t.owner = owner && t.running

/-- One operation. -/
def step [DecidableEq τ] (s : TimerSystem τ α) : TimerOp τ α → TimerSystem τ α
  | .addEvent micros type arg created armed =>
    { s with
      queue := (s.queue.addEvent s.calls micros type arg created armed).1
      calls := s.calls + 1 }
  | .cancelEvent type => { s with queue := s.queue.cancelEvent type }
  | .expire owner => match s.runningTimer owner with
    | some t =>
      { s with queue := s.queue.markExpired owner, signals := s.signals ++ [⟨t.sivalInt, owner⟩] }
    | none => s
  | .consume i => match s.signals[i]? with
    | some signal =>
      { s with queue := (s.queue.handleSignal signal.sivalInt).1, signals := s.signals.eraseIdx i }
    | none => s

/-- The callback an operation runs, if any. -/
def callback (s : TimerSystem τ α) : TimerOp τ α → Option Callback
  | .consume i => match s.signals[i]? with
    | some signal =>
      (s.queue.timerQueueMap.lookup signal.sivalInt).map fun arg =>
        ⟨arg.timerHandle.owner, signal.raisedBy⟩
    | none => none
  | _ => none

/-- An operation cancels the event that the given call of `addEvent` added. -/
def Cancels (s : TimerSystem τ α) (op : TimerOp τ α) (owner : ℕ) : Prop :=
  ∃ p ∈ s.queue.timerQueueMap, op = .cancelEvent p.2.type ∧ p.2.timerHandle.owner = owner

/-- An operation adds an event under a key that a queued signal carries. -/
def TakesStaleKey (s : TimerSystem τ α) (op : TimerOp τ α) : Prop :=
  (∃ micros type arg armed, op = .addEvent micros type arg true armed) ∧
    ∃ signal ∈ s.signals, signal.sivalInt = s.queue.nextKey

/-- The operations as a machine: a timer expires only while it is running, and only queued signals are
consumed. -/
def machine (τ α : Type) [DecidableEq τ] : Machine (TimerSystem τ α) (TimerOp τ α) where
  enabled s op := match op with
    | .expire owner => (s.runningTimer owner).isSome
    | .consume i => i < s.signals.length
    | _ => True
  step := step

/-! ### Invariants -/

/-- The invariant of a timer queue: no key and no owner occurs twice, owners are calls that have been
made, and the timer of an entry carries the entry's key. -/
structure WellFormed (s : TimerSystem τ α) : Prop where
  keys_nodup : s.queue.keys.Nodup
  owners_nodup : s.queue.owners.Nodup
  owner_lt : ∀ owner ∈ s.queue.owners, owner < s.calls
  sivalInt_eq : ∀ p ∈ s.queue.timerQueueMap, p.2.timerHandle.sivalInt = p.1

theorem wellFormed_init : (init : TimerSystem τ α).WellFormed :=
  ⟨List.nodup_nil, List.nodup_nil, by simp [LinuxTimerQueue.owners, init], by simp [init]⟩

/-- Entries may always be taken out of the map. -/
theorem WellFormed.sublist {s s' : TimerSystem τ α} (h : s.WellFormed)
    (hsub : s'.queue.timerQueueMap.Sublist s.queue.timerQueueMap) (hcalls : s'.calls = s.calls) :
    s'.WellFormed where
  keys_nodup := h.keys_nodup.sublist (hsub.map _)
  owners_nodup := h.owners_nodup.sublist (hsub.map _)
  owner_lt owner ho := hcalls ▸ h.owner_lt owner ((hsub.map _).subset ho)
  sivalInt_eq p hp := h.sivalInt_eq p (hsub.subset hp)

/-- The new entry is under an unused key, and belongs to the present call. -/
theorem WellFormed.addEvent {s : TimerSystem τ α} (h : s.WellFormed) (micros : ℕ) (type : τ) (arg : α)
    (created armed : Bool) :
    WellFormed { s with
      queue := (s.queue.addEvent s.calls micros type arg created armed).1
      calls := s.calls + 1 } := by
  have hlt : ∀ owner ∈ s.queue.owners, owner < s.calls + 1 :=
    fun owner ho => Nat.lt_succ_of_lt (h.owner_lt owner ho)
  cases created with
  | false => exact ⟨h.keys_nodup, h.owners_nodup, hlt, h.sivalInt_eq⟩
  | true =>
    -- the key is free, and the call has not been made before
    have hkey : s.queue.nextKey ∉ s.queue.keys := findKey_not_mem _ _
    have howner : s.calls ∉ s.queue.owners := fun ho => Nat.lt_irrefl _ (h.owner_lt _ ho)
    refine ⟨?_, ?_, ?_, ?_⟩
    · simp only [LinuxTimerQueue.addEvent, if_true]
      rw [LinuxTimerQueue.keys, List.map_append, List.map_singleton, ← List.concat_eq_append]
      exact (List.nodup_concat _ _).mpr ⟨hkey, h.keys_nodup⟩
    · rw [LinuxTimerQueue.owners_addEvent, if_pos rfl, ← List.concat_eq_append]
      exact (List.nodup_concat _ _).mpr ⟨howner, h.owners_nodup⟩
    · intro owner ho
      rw [LinuxTimerQueue.owners_addEvent, if_pos rfl, List.mem_append, List.mem_singleton] at ho
      rcases ho with ho | rfl
      · exact hlt owner ho
      · exact Nat.lt_succ_self _
    · intro p hp
      rcases List.mem_append.mp hp with hp | hp
      · exact h.sivalInt_eq p hp
      · rw [List.mem_singleton.mp hp]

/-- The expiry of a timer changes no key, owner or signal value. -/
theorem WellFormed.markExpired {s : TimerSystem τ α} (h : s.WellFormed) (owner : ℕ)
    (signals : List Signal) :
    WellFormed { s with queue := s.queue.markExpired owner, signals := signals } where
  keys_nodup := by
    rw [LinuxTimerQueue.keys_markExpired]
    exact h.keys_nodup
  owners_nodup := by
    rw [LinuxTimerQueue.owners_markExpired]
    exact h.owners_nodup
  owner_lt o ho := by
    rw [LinuxTimerQueue.owners_markExpired] at ho
    exact h.owner_lt o ho
  sivalInt_eq p hp := by
    obtain ⟨p₀, hp₀, hkey, hsival, -⟩ := LinuxTimerQueue.mem_markExpired hp
    rw [hsival, hkey, h.sivalInt_eq p₀ hp₀]

variable [DecidableEq τ]

/-- **The invariant is kept.** -/
theorem WellFormed.step {s : TimerSystem τ α} (h : s.WellFormed) (op : TimerOp τ α) :
    (s.step op).WellFormed := by
  cases op with
  | addEvent micros type arg created armed => exact h.addEvent micros type arg created armed
  | cancelEvent type => exact h.sublist List.filter_sublist rfl
  | expire owner =>
    unfold TimerSystem.step
    dsimp only
    split
    · exact h.markExpired owner _
    · exact h
  | consume i =>
    unfold TimerSystem.step
    dsimp only
    split
    · exact h.sublist (LinuxTimerQueue.handleSignal_sublist _ _) rfl
    · exact h

theorem wellFormed_stateAt (σ : ℕ → TimerOp τ α) (k : ℕ) :
    ((machine τ α).stateAt init σ k).WellFormed :=
  Machine.invariant_all (M := machine τ α) wellFormed_init (fun _ op h => h.step op) k

end TimerSystem

/-! ### The timers of the daemon -/

/-- The entry a lookup finds, with what surrounds it in the map. -/
theorem split_of_lookup {β : Type} {l : List (ℕ × β)} {key : ℕ} {b : β}
    (h : l.lookup key = some b) (hnodup : (l.map Prod.fst).Nodup) :
    ∃ l₁ l₂, l = l₁ ++ (key, b) :: l₂ ∧ l.filter (fun p => p.1 ≠ key) = l₁ ++ l₂ := by
  obtain ⟨l₁, l₂, rfl, hfirst⟩ := List.lookup_eq_some_iff.mp h
  refine ⟨l₁, l₂, rfl, ?_⟩
  rw [List.map_append, List.map_cons, List.nodup_middle, List.nodup_cons] at hnodup
  -- no other entry has the key, so the filter takes out the one entry
  have hkeep : ∀ l : List (ℕ × β), key ∉ l.map Prod.fst →
      l.filter (fun p => p.1 ≠ key) = l := by
    intro l hl
    refine List.filter_eq_self.mpr fun p hp => ?_
    simp only [ne_eq, decide_not, Bool.not_eq_true', decide_eq_false_iff_not]
    exact fun hkey => hl (List.mem_map.mpr ⟨p, hp, hkey⟩)
  have hnot := hnodup.1
  rw [List.mem_append, not_or] at hnot
  rw [List.filter_append, List.filter_cons_of_neg (by simp), hkeep l₁ hnot.1, hkeep l₂ hnot.2]

namespace LinuxTimerQueue

/-- The pending timer that an entry stands for; a callback argument is the index of a port. -/
def timerOf (arg : LinuxTimerQueueActionArg Event ℕ) : Timer :=
  ⟨arg.type, arg.innerArg, UInt32.ofNat arg.timerHandle.itValue.micros⟩

/-- The pending timers that a queue stands for. -/
def timers (q : LinuxTimerQueue Event ℕ) : List Timer := q.timerQueueMap.map fun p => timerOf p.2

variable {F : Type} {q : LinuxTimerQueue Event ℕ} {d : Daemon F}

/-- `addEvent` is `Daemon.addEventTimer`, if the timer can be created and armed. -/
theorem timers_addEvent (h : q.timers = d.timerq) (owner : ℕ) (e : Event) (ns : UInt64) :
    (q.addEvent owner (ns / 1000).toUInt32.toNat e d.port.cfg.ifindex true true).1.timers =
      (d.addEventTimer e ns).timerq := by
  rw [addEvent, if_pos rfl, timers, List.map_append, List.map_singleton, ← timers, h]
  dsimp only [timerOf]
  rw [ItValue.micros_ofMicros, UInt32.ofNat_toNat]
  rfl

/-- `cancelEvent` is `Daemon.deleteEventTimer`. -/
theorem timers_cancelEvent (h : q.timers = d.timerq) (e : Event) :
    (q.cancelEvent e).timers = (d.deleteEventTimer e).timerq := by
  simp only [cancelEvent, timers, Daemon.deleteEventTimer, ← h, List.filter_map]
  rfl

/-- A callback is run for a pending timer, which is taken out of the queue. -/
theorem timers_handleSignal (h : q.timers = d.timerq) (hnodup : q.keys.Nodup) {key : ℕ}
    {arg : LinuxTimerQueueActionArg Event ℕ} (hfound : (q.handleSignal key).2 = some arg) :
    ∃ k, d.timerq[k]? = some (timerOf arg) ∧
      (q.handleSignal key).1.timers = d.timerq.eraseIdx k := by
  unfold handleSignal at hfound ⊢
  cases hlookup : q.timerQueueMap.lookup key with
  | none =>
    rw [hlookup] at hfound
    cases hfound
  | some arg' =>
    rw [hlookup] at hfound
    obtain rfl : arg' = arg := Option.some.inj hfound
    obtain ⟨l₁, l₂, hsplit, hfilter⟩ := split_of_lookup hlookup hnodup
    -- the position of the entry in the map is that of the pending timer
    refine ⟨l₁.length, ?_, ?_⟩
    · rw [← h, timers, hsplit]
      simp
    · rw [← h, timers, timers]
      dsimp only
      rw [hfilter, hsplit, List.map_append, List.map_append, List.map_cons]
      simp [List.eraseIdx_append_of_length_le]

end LinuxTimerQueue

end Gptp
