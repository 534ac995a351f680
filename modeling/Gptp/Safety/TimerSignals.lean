import Gptp.Linux.TimerQueue
import Gptp.Port.Run

/-!
# Callbacks of the Linux timer queue

A callback should run at most once for every event added to the queue, never after the event has been
cancelled, and only for a signal of the event's own timer. The first two hold over every sequence of
operations: an event leaves the map when its callback is run or when it is cancelled, and it never
comes back (`TimerSystem.Gone`).

The third does not. A key is free again as soon as its entry has left the map, and `addEvent` reuses it
even if a signal with this key is still queued; the handler then takes the signal for one of the new
event. It holds of runs in which no event is added under a key that a queued signal carries
(`TimerSystem.SignalsOwn`).
-/

namespace Gptp

open Framework

namespace TimerSystem

variable {τ α : Type}

/-! ### Events that have left the map -/

/-- The event that the given call of `addEvent` was to add is not in the map, and will not be. -/
def Gone (owner : ℕ) (s : TimerSystem τ α) : Prop := owner < s.calls ∧ owner ∉ s.queue.owners

theorem Gone.of_subset {owner : ℕ} {s s' : TimerSystem τ α} (h : s.Gone owner)
    (hsub : s'.queue.owners ⊆ s.queue.owners) (hcalls : s'.calls = s.calls) : s'.Gone owner :=
  ⟨hcalls ▸ h.1, fun ho => h.2 (hsub ho)⟩

/-- What `lookup` finds is an entry of the map. -/
theorem mem_of_lookup {β : Type} {l : List (ℕ × β)} {key : ℕ} {b : β}
    (h : l.lookup key = some b) : (key, b) ∈ l := by
  obtain ⟨l₁, l₂, rfl, -⟩ := List.lookup_eq_some_iff.mp h
  simp

/-- The entry whose callback an operation runs, and the signal it is run for. -/
theorem of_callback {s : TimerSystem τ α} {op : TimerOp τ α} {c : Callback}
    (h : s.callback op = some c) :
    ∃ i signal arg, op = .consume i ∧ s.signals[i]? = some signal ∧
      s.queue.timerQueueMap.lookup signal.sivalInt = some arg ∧
      c = ⟨arg.timerHandle.owner, signal.raisedBy⟩ := by
  cases op with
  | consume i =>
    cases hsignal : s.signals[i]? with
    | none => simp [callback, hsignal] at h
    | some signal =>
      simp only [callback, hsignal] at h
      obtain ⟨arg, harg, rfl⟩ := Option.map_eq_some_iff.mp h
      exact ⟨i, signal, arg, rfl, hsignal, harg, rfl⟩
  | _ => cases h

/-- The callback that is run belongs to an event in the map. -/
theorem owner_mem_of_callback {s : TimerSystem τ α} {op : TimerOp τ α} {c : Callback}
    (h : s.callback op = some c) : c.owner ∈ s.queue.owners := by
  obtain ⟨i, signal, arg, -, -, harg, rfl⟩ := of_callback h
  exact List.mem_map.mpr ⟨_, mem_of_lookup harg, rfl⟩

variable [DecidableEq τ]

/-- An event that has left the map stays away: the events added from then on have other numbers. -/
theorem Gone.step {owner : ℕ} {s : TimerSystem τ α} (h : s.Gone owner) (op : TimerOp τ α) :
    (s.step op).Gone owner := by
  cases op with
  | addEvent micros type arg created armed =>
    -- a new timer gets the number of the call, which no earlier timer has
    refine ⟨Nat.lt_succ_of_lt h.1, fun ho => ?_⟩
    change owner ∈ (s.queue.addEvent s.calls micros type arg created armed).1.owners at ho
    rw [LinuxTimerQueue.owners_addEvent] at ho
    split at ho
    · rcases List.mem_append.mp ho with ho | ho
      · exact h.2 ho
      · exact h.1.ne (List.mem_singleton.mp ho)
    · exact h.2 ho
  | cancelEvent type => exact h.of_subset (List.map_subset _ List.filter_sublist.subset) rfl
  | expire o =>
    unfold TimerSystem.step
    dsimp only
    split
    · refine h.of_subset ?_ rfl
      rw [LinuxTimerQueue.owners_markExpired]
      exact List.Subset.refl _
    · exact h
  | consume i =>
    unfold TimerSystem.step
    dsimp only
    split
    · exact h.of_subset
        (List.map_subset _ (LinuxTimerQueue.handleSignal_sublist _ _).subset) rfl
    · exact h

theorem Gone.stateAt {σ : ℕ → TimerOp τ α} {owner j : ℕ}
    (h : ((machine τ α).stateAt init σ j).Gone owner) :
    ∀ k, j ≤ k → ((machine τ α).stateAt init σ k).Gone owner := by
  intro k hjk
  exact Machine.invariant_from (M := machine τ α)
    (P := fun s => s.Gone owner) hjk h fun l _ _ hl => hl.step (σ l)

/-- An event is gone once its callback has been run. -/
theorem gone_of_callback {s : TimerSystem τ α} (hs : s.WellFormed) {op : TimerOp τ α} {c : Callback}
    (h : s.callback op = some c) : (s.step op).Gone c.owner := by
  have hmem := owner_mem_of_callback h
  obtain ⟨i, signal, arg, rfl, hsignal, harg, rfl⟩ := of_callback h
  obtain ⟨l₁, l₂, hsplit, hfilter⟩ := split_of_lookup harg hs.keys_nodup
  have hstep : s.step (.consume i) =
      { s with
        queue := { s.queue with timerQueueMap := l₁ ++ l₂ }
        signals := s.signals.eraseIdx i } := by
    simp only [TimerSystem.step, hsignal, LinuxTimerQueue.handleSignal, harg, hfilter]
  rw [hstep]
  refine ⟨hs.owner_lt _ hmem, fun ho => ?_⟩
  -- a second entry of the same owner would have been in the map before
  have hnodup := hs.owners_nodup
  rw [LinuxTimerQueue.owners, hsplit, List.map_append, List.map_cons, List.nodup_middle,
    List.nodup_cons, ← List.map_append] at hnodup
  exact hnodup.1 ho

/-- An event is gone once it has been cancelled. -/
theorem gone_of_cancels {s : TimerSystem τ α} (hs : s.WellFormed) {op : TimerOp τ α} {owner : ℕ}
    (h : s.Cancels op owner) : (s.step op).Gone owner := by
  obtain ⟨p, hp, rfl, rfl⟩ := h
  refine ⟨hs.owner_lt _ (List.mem_map.mpr ⟨p, hp, rfl⟩), fun ho => ?_⟩
  obtain ⟨p', hp', howner⟩ := List.mem_map.mp ho
  obtain ⟨hmem, htype⟩ := List.mem_filter.mp hp'
  -- owners are distinct, so the entry that is left is the cancelled one
  obtain rfl : p' = p := List.inj_on_of_nodup_map hs.owners_nodup hmem hp howner
  simp at htype

/-! ### Signals and their events -/

/-- Every queued signal that an entry of the map would answer to was raised by that entry's timer. -/
def SignalsOwn (s : TimerSystem τ α) : Prop :=
  ∀ signal ∈ s.signals, ∀ p ∈ s.queue.timerQueueMap, p.1 = signal.sivalInt →
    p.2.timerHandle.owner = signal.raisedBy

omit [DecidableEq τ] in
theorem SignalsOwn.of_subset {s s' : TimerSystem τ α} (h : s.SignalsOwn)
    (hsignals : s'.signals ⊆ s.signals)
    (hmap : s'.queue.timerQueueMap ⊆ s.queue.timerQueueMap) : s'.SignalsOwn :=
  fun signal hsignal p hp hkey => h signal (hsignals hsignal) p (hmap hp) hkey

omit [DecidableEq τ] in
/-- A running timer is that of an entry. -/
theorem mem_of_runningTimer {s : TimerSystem τ α} {owner : ℕ} {t : PosixTimer}
    (h : s.runningTimer owner = some t) :
    (∃ p ∈ s.queue.timerQueueMap, p.2.timerHandle = t) ∧ t.owner = owner := by
  have hmem := List.mem_of_find?_eq_some h
  have howner := List.find?_some h
  rw [Bool.and_eq_true, decide_eq_true_eq] at howner
  exact ⟨List.mem_map.mp hmem, howner.1⟩

/-- **Signals of their own.** An operation that does not add an event under the key of a queued signal
leaves every signal with the event whose timer raised it. -/
theorem SignalsOwn.step {s : TimerSystem τ α} (h : s.SignalsOwn) (hs : s.WellFormed)
    {op : TimerOp τ α} (hfresh : ¬ s.TakesStaleKey op) : (s.step op).SignalsOwn := by
  cases op with
  | addEvent micros type arg created armed =>
    cases created with
    | false => exact h
    | true =>
      intro signal hsignal p hp hkey
      rcases List.mem_append.mp hp with hp | hp
      · exact h signal hsignal p hp hkey
      · -- the new entry is under a key that no queued signal carries
        rw [List.mem_singleton.mp hp] at hkey
        exact absurd ⟨⟨micros, type, arg, armed, rfl⟩, signal, hsignal, hkey.symm⟩ hfresh
  | cancelEvent type =>
    exact h.of_subset (List.Subset.refl _) List.filter_sublist.subset
  | expire owner =>
    cases htimer : s.runningTimer owner with
    | none =>
      simp only [TimerSystem.step, htimer]
      exact h
    | some t =>
      -- the timer belongs to an entry, and carries the key of that entry
      obtain ⟨⟨p₁, hp₁, rfl⟩, howner⟩ := mem_of_runningTimer htimer
      simp only [TimerSystem.step, htimer]
      intro signal hsignal p hp hkey
      obtain ⟨p₀, hp₀, hkey₀, -, howner₀⟩ := LinuxTimerQueue.mem_markExpired hp
      rw [howner₀]
      rcases List.mem_append.mp hsignal with hold | hnew
      · exact h signal hold p₀ hp₀ (hkey₀.symm.trans hkey)
      · obtain rfl := List.mem_singleton.mp hnew
        have hkeys : p₀.1 = p₁.1 := by rw [← hkey₀, hkey, hs.sivalInt_eq p₁ hp₁]
        obtain rfl : p₀ = p₁ := List.inj_on_of_nodup_map hs.keys_nodup hp₀ hp₁ hkeys
        exact howner
  | consume i =>
    unfold TimerSystem.step
    dsimp only
    split
    · exact h.of_subset (List.eraseIdx_sublist _ _).subset
        (LinuxTimerQueue.handleSignal_sublist _ _).subset
    · exact h

/-! ### Runs -/

/-- Each event's callback is run at most once. -/
theorem callback_at_most_once (σ : ℕ → TimerOp τ α) {k k' : ℕ} (hk : k < k') {c c' : Callback}
    (hc : ((machine τ α).stateAt init σ k).callback (σ k) = some c)
    (hc' : ((machine τ α).stateAt init σ k').callback (σ k') = some c') : c'.owner ≠ c.owner := by
  have hgone : ((machine τ α).stateAt init σ (k + 1)).Gone c.owner :=
    gone_of_callback (wellFormed_stateAt σ k) hc
  intro howner
  -- a callback is run for an event in the map only
  exact (hgone.stateAt k' hk).2 (howner ▸ owner_mem_of_callback hc')

/-- The callback of a cancelled event is not run. -/
theorem callback_not_after_cancel (σ : ℕ → TimerOp τ α) {j k : ℕ} (hj : j < k) {owner : ℕ}
    {c : Callback} (hcancel : ((machine τ α).stateAt init σ j).Cancels (σ j) owner)
    (hc : ((machine τ α).stateAt init σ k).callback (σ k) = some c) : c.owner ≠ owner := by
  have hgone : ((machine τ α).stateAt init σ (j + 1)).Gone owner :=
    gone_of_cancels (wellFormed_stateAt σ j) hcancel
  rintro rfl
  exact (hgone.stateAt k hj).2 (owner_mem_of_callback hc)

omit [DecidableEq τ] in
/-- In a state where signals are their events' own, so is the one a callback is run for. -/
theorem SignalsOwn.callback {s : TimerSystem τ α} (h : s.SignalsOwn) {op : TimerOp τ α} {c : Callback}
    (hc : s.callback op = some c) : c.owner = c.raisedBy := by
  obtain ⟨i, signal, arg, -, hsignal, harg, rfl⟩ := of_callback hc
  exact h signal (List.mem_of_getElem? hsignal) _ (mem_of_lookup harg) rfl

/-- **Callbacks.** In a run that never adds an event under the key of a queued signal, each event's
callback is run at most once, never after the event was cancelled, and only for a signal of the event's
own timer. -/
theorem callbacks_ok (σ : ℕ → TimerOp τ α) (n : ℕ)
    (hfresh : ∀ k < n, ¬ ((machine τ α).stateAt init σ k).TakesStaleKey (σ k)) :
    (∀ k k', k < k' → k' < n → ∀ c c',
      ((machine τ α).stateAt init σ k).callback (σ k) = some c →
      ((machine τ α).stateAt init σ k').callback (σ k') = some c' → c'.owner ≠ c.owner) ∧
    (∀ j k, j < k → k < n → ∀ owner c,
      ((machine τ α).stateAt init σ j).Cancels (σ j) owner →
      ((machine τ α).stateAt init σ k).callback (σ k) = some c → c.owner ≠ owner) ∧
    (∀ k < n, ∀ c,
      ((machine τ α).stateAt init σ k).callback (σ k) = some c → c.owner = c.raisedBy) := by
  refine ⟨fun k k' hk _ c c' => callback_at_most_once σ hk,
    fun j k hj _ owner c => callback_not_after_cancel σ hj, fun k hk c hc => ?_⟩
  have hown : ∀ k ≤ n, ((machine τ α).stateAt init σ k).SignalsOwn := by
    refine Machine.invariant (M := machine τ α) (P := SignalsOwn) (by simp [SignalsOwn, init]) ?_
    intro k hk ih
    exact ih.step (wellFormed_stateAt σ k) (hfresh k hk)
  exact (hown k hk.le).callback hc

/-- An event is added, its timer expires, and the signal is consumed. -/
def plainRun : ℕ → TimerOp ℕ ℕ
  | 0 => .addEvent 1000 0 0 true true
  | 1 => .expire 0
  | _ => .consume 0

/-- The callback of the event is run for its own signal. -/
theorem plainRun_callback :
    ∃ c, ((machine ℕ ℕ).stateAt init plainRun 2).callback (plainRun 2) = some c ∧
      c.owner = c.raisedBy := by
  refine ⟨⟨0, 0⟩, rfl, (callbacks_ok plainRun 3 ?_).2.2 2 (by decide) _ rfl⟩
  intro k hk
  obtain rfl | rfl | rfl : k = 0 ∨ k = 1 ∨ k = 2 := by omega
  · rintro ⟨-, signal, hsignal, -⟩
    cases hsignal
  · rintro ⟨⟨micros, type, arg, armed, hop⟩, -⟩
    cases hop
  · rintro ⟨⟨micros, type, arg, armed, hop⟩, -⟩
    cases hop

/-- An event is cancelled after its timer has expired, and another is added before the signal is
consumed. -/
def staleRun : ℕ → TimerOp ℕ ℕ
  | 0 => .addEvent 1000 0 0 true true
  | 1 => .expire 0
  | 2 => .cancelEvent 0
  | 3 => .addEvent 1000 1 1 true true
  | _ => .consume 0

/-- **The stale signal.** The callback of the second event is run for the signal of the first, while
its own timer is still running. -/
theorem staleRun_callback :
    ((machine ℕ ℕ).stateAt init staleRun 4).callback (staleRun 4) = some ⟨1, 0⟩ ∧
      (((machine ℕ ℕ).stateAt init staleRun 4).runningTimer 1).isSome := by
  decide

end TimerSystem

/-! ### The daemon's timers -/

/-- **Refinement.** A callback that the handler runs is the expiry of a pending timer of the daemon, in
the daemon's own model: the same timer leaves the queue, and its event is handled. -/
theorem Daemon.step_of_callback {F : Type} [Platform F] {s : TimerSystem Event ℕ}
    (hs : s.WellFormed) {d : Daemon F} (h : s.queue.timers = d.timerq) (env : Env) {i : ℕ}
    {c : Callback} (hc : s.callback (.consume i) = some c) :
    ∃ k t, d.timerq[k]? = some t ∧
      d.step ⟨.timer k, env⟩ = processEvent env t.event
        { d with effects := [], timerq := (s.step (.consume i)).queue.timers } := by
  obtain ⟨i', signal, arg, hi, hsignal, harg, -⟩ := TimerSystem.of_callback hc
  obtain rfl : i = i' := TimerOp.consume.inj hi
  have hfound : (s.queue.handleSignal signal.sivalInt).2 = some arg := by
    simp only [LinuxTimerQueue.handleSignal, harg]
  obtain ⟨k, hk, htimers⟩ := LinuxTimerQueue.timers_handleSignal h hs.keys_nodup hfound
  refine ⟨k, _, hk, ?_⟩
  simp only [Daemon.step, hk, TimerSystem.step, hsignal, htimers]

end Gptp
