import Gptp.Linux.TimerQueue
import Gptp.Port.Run

/-!
# Edits of the timer queue

Handlers cancel timers by event and arm new ones. Two things go wrong with that.

The clock passes the port to `deleteEventTimer`, but the queue cancels by the type of the event alone.
With several ports, cancelling a timer of one port takes those of all others away
(`LinuxTimerQueue.deleteEventTimer_exact_iff`).

Announce processing cancels the announce receipt timer before it looks at the message and arms a new
one at every exit. An Announce that is rejected thus leaves the port alone but gives the timeout a new
deadline (`TimedDaemon.rejectedAnnounce_unchanged_iff`), and a stream of rejected Announces holds it
off for as long as it lasts (`TimedDaemon.receiptTimers_of_rejected`). To speak of deadlines, the
pending timers get the time at which they expire (`TimedDaemon`).
-/

namespace Gptp

/-! ### Cancelling for one port -/

namespace LinuxTimerQueue

/-- `IEEE1588Clock::addEventTimer` for the port with index `target`, if the timer can be created and
armed. -/
def addEventTimer (owner target : ℕ) (e : Event) (timeNs : UInt64) (q : LinuxTimerQueue Event ℕ) :
    LinuxTimerQueue Event ℕ :=
  (q.addEvent owner (timeNs / 1000).toUInt32.toNat e target true true).1

/-- `IEEE1588Clock::deleteEventTimer`. The target is not used. -/
def deleteEventTimer (_target : ℕ) (e : Event) (q : LinuxTimerQueue Event ℕ) :
    LinuxTimerQueue Event ℕ :=
  q.cancelEvent e

/-- `IEEE1588Clock::deleteEventTimerLocked`, with the outcome of `getTimerQLock`. -/
def deleteEventTimerLocked (_target : ℕ) (e : Event) (locked : Bool) (q : LinuxTimerQueue Event ℕ) :
    LinuxTimerQueue Event ℕ :=
  if locked then q.cancelEvent e else q

/-- From `q` to `q'` the timers of event `e` for port `p` are gone, and all others are as they were. -/
def RemovesExactly (p : ℕ) (e : Event) (q q' : LinuxTimerQueue Event ℕ) : Prop :=
  q'.timerQueueMap = q.timerQueueMap.filter fun x => ¬ (x.2.type = e ∧ x.2.innerArg = p)

/-- `cancelEvent` serves one port exactly if the other ports have no timer of the event. -/
theorem cancelEvent_removesExactly_iff (q : LinuxTimerQueue Event ℕ) (p : ℕ) (e : Event) :
    RemovesExactly p e q (q.cancelEvent e) ↔
      ∀ x ∈ q.timerQueueMap, x.2.type = e → x.2.innerArg = p := by
  unfold RemovesExactly cancelEvent
  dsimp only
  constructor
  · -- a timer of another port would have to be kept, but is cancelled with the rest
    intro h x hx htype
    by_contra hother
    have hkept : x ∈ q.timerQueueMap.filter fun x => ¬ (x.2.type = e ∧ x.2.innerArg = p) :=
      List.mem_filter.mpr ⟨hx, by simp [hother]⟩
    rw [← h] at hkept
    exact absurd htype (by simpa using (List.mem_filter.mp hkept).2)
  · intro h
    refine List.filter_congr fun x hx => ?_
    have := h x hx
    simp only [decide_eq_decide]
    tauto

/-- **Cancelling for one port.** Both calls remove exactly the timers of their target if and only if no
other port has a timer of the event pending. -/
theorem deleteEventTimer_exact_iff (q : LinuxTimerQueue Event ℕ) (p : ℕ) (e : Event) :
    (RemovesExactly p e q (q.deleteEventTimer p e) ∧
      RemovesExactly p e q (q.deleteEventTimerLocked p e true)) ↔
      ∀ x ∈ q.timerQueueMap, x.2.type = e → x.2.innerArg = p := by
  rw [← cancelEvent_removesExactly_iff]
  exact and_self_iff

/-- A queue with an announce receipt timer for each of two ports. -/
def twoReceiptTimers : LinuxTimerQueue Event ℕ :=
  (addEventTimer 0 1 .announceReceiptTimeoutExpires 3000000000 ⟨0, []⟩).addEventTimer 1 2
    .announceReceiptTimeoutExpires 3000000000

/-- **The timer of the other port is lost.** After the timer of port 1 has been cancelled, that of
port 2 is gone as well. -/
theorem twoReceiptTimers_deleteEventTimer :
    twoReceiptTimers.timerQueueMap.map (fun x => (x.2.type, x.2.innerArg)) =
        [(.announceReceiptTimeoutExpires, 1), (.announceReceiptTimeoutExpires, 2)] ∧
      (twoReceiptTimers.deleteEventTimer 1 .announceReceiptTimeoutExpires).timerQueueMap.length = 0 ∧
      (twoReceiptTimers.deleteEventTimerLocked 1 .announceReceiptTimeoutExpires
        true).timerQueueMap.length = 0 := by
  decide

end LinuxTimerQueue

/-! ### Deadlines -/

/-- What a handler does to the timer queue. -/
inductive TimerEdit where
  | cancel (e : Event)
  | arm (e : Event) (timeNs : UInt64)

namespace TimerEdit

/-- The timer that is armed for a port. -/
def timer (port : ℕ) (e : Event) (timeNs : UInt64) : Timer := ⟨e, port, (timeNs / 1000).toUInt32⟩

/-- The edit of the pending timers. -/
def apply (port : ℕ) (q : List Timer) : TimerEdit → List Timer
  | .cancel e => q.filter fun t => t.event ≠ e
  | .arm e timeNs => q ++ [timer port e timeNs]

/-- The edit of the pending timers with the times at which they expire, in microseconds. -/
def applyAt (port now : ℕ) (q : List (Timer × ℕ)) : TimerEdit → List (Timer × ℕ)
  | .cancel e => q.filter fun x => x.1.event ≠ e
  | .arm e timeNs => q ++ [(timer port e timeNs, now + (timer port e timeNs).micros.toNat)]

theorem map_fst_applyAt (port now : ℕ) (q : List (Timer × ℕ)) (edit : TimerEdit) :
    (edit.applyAt port now q).map Prod.fst = edit.apply port (q.map Prod.fst) := by
  cases edit with
  | cancel e =>
    simp only [applyAt, apply, List.filter_map]
    rfl
  | arm e timeNs => simp [applyAt, apply]

theorem map_fst_foldl_applyAt (port now : ℕ) (edits : List TimerEdit) (q : List (Timer × ℕ)) :
    (edits.foldl (applyAt port now) q).map Prod.fst =
      edits.foldl (apply port) (q.map Prod.fst) := by
  induction edits generalizing q with
  | nil => rfl
  | cons edit edits ih => rw [List.foldl_cons, List.foldl_cons, ih, map_fst_applyAt]

end TimerEdit

variable {F : Type} [Platform F]

namespace Daemon

/-- What Announce processing does to the timer queue. -/
def announceEdits (m : PTPMessageAnnounce) (d : Daemon F) : List TimerEdit :=
  .cancel .announceReceiptTimeoutExpires ::
    ((if d.qualifies m then [.arm .stateChangeEvent 16000000] else []) ++
      [.arm .announceReceiptTimeoutExpires d.announceReceiptTimeout])

theorem timerq_processAnnounce (m : PTPMessageAnnounce) (d : Daemon F) :
    (d.processAnnounce m).1.timerq =
      (d.announceEdits m).foldl (TimerEdit.apply d.port.cfg.ifindex) d.timerq := by
  have hqualifies : (d.deleteEventTimer .announceReceiptTimeoutExpires).qualifies m =
      d.qualifies m := rfl
  unfold processAnnounce announceEdits
  dsimp only
  rw [hqualifies]
  -- both ends of the checks arm the receipt timer again; only a qualified one asks for a state change
  cases d.qualifies m <;> rfl

end Daemon

/-- A daemon with the times at which its pending timers expire, in microseconds. -/
structure TimedDaemon (F : Type) where
  daemon : Daemon F
  pending : List (Timer × ℕ)
  erases : pending.map Prod.fst = daemon.timerq

namespace TimedDaemon

/-- Announce processing at time `now`. -/
def processAnnounce (now : ℕ) (m : PTPMessageAnnounce) (t : TimedDaemon F) : TimedDaemon F where
  daemon := (t.daemon.processAnnounce m).1
  pending := (t.daemon.announceEdits m).foldl
    (TimerEdit.applyAt t.daemon.port.cfg.ifindex now) t.pending
  erases := by
    rw [TimerEdit.map_fst_foldl_applyAt, t.erases]
    exact (t.daemon.timerq_processAnnounce m).symm

/-- The pending announce receipt timers with their deadlines. -/
def receiptTimers (t : TimedDaemon F) : List (Timer × ℕ) :=
  t.pending.filter fun x => x.1.event = .announceReceiptTimeoutExpires

/-- The announce receipt timer of the port, armed at time `now`. -/
def armedReceipt (now : ℕ) (d : Daemon F) : Timer × ℕ :=
  let timer := TimerEdit.timer d.port.cfg.ifindex .announceReceiptTimeoutExpires
    d.announceReceiptTimeout
  (timer, now + timer.micros.toNat)

/-- An Announce that the port rejects: 255 or more steps away, sent by the local clock, or with the
local clock on its path. -/
def Rejected (m : PTPMessageAnnounce) (d : Daemon F) : Prop :=
  255 ≤ m.stepsRemoved ∨ m.sourcePortIdentity.clockId = d.clock.cfg.clockIdentity ∨
    d.clock.cfg.clockIdentity ∈ m.pathTrace

omit [Platform F] in
theorem qualifies_of_rejected {m : PTPMessageAnnounce} {d : Daemon F} (h : Rejected m d) :
    d.qualifies m = false := by
  unfold Daemon.qualifies
  rcases h with h | h | h
  · simp [UInt16.not_lt.mpr h]
  · simp [h]
  · simp [h]

section Rejected

variable {m : PTPMessageAnnounce} {t : TimedDaemon F}

/-- The pending timers after a rejected Announce. -/
theorem pending_processAnnounce (h : Rejected m t.daemon) (now : ℕ) :
    (t.processAnnounce now m).pending =
      t.pending.filter (fun x => x.1.event ≠ .announceReceiptTimeoutExpires) ++
        [armedReceipt now t.daemon] := by
  change (t.daemon.announceEdits m).foldl _ _ = _
  rw [Daemon.announceEdits, qualifies_of_rejected h]
  rfl

/-- A rejected Announce leaves the port and the clock alone. -/
theorem daemon_processAnnounce (h : Rejected m t.daemon) (now : ℕ) :
    (t.processAnnounce now m).daemon.port = t.daemon.port ∧
      (t.processAnnounce now m).daemon.clock = t.daemon.clock := by
  have hqualifies : (t.daemon.deleteEventTimer .announceReceiptTimeoutExpires).qualifies m = false :=
    qualifies_of_rejected h
  change (t.daemon.processAnnounce m).1.port = _ ∧ (t.daemon.processAnnounce m).1.clock = _
  unfold Daemon.processAnnounce
  dsimp only
  rw [hqualifies]
  exact ⟨rfl, rfl⟩

theorem receiptTimers_processAnnounce (h : Rejected m t.daemon) (now : ℕ) :
    (t.processAnnounce now m).receiptTimers = [armedReceipt now t.daemon] := by
  rw [receiptTimers, pending_processAnnounce h, List.filter_append, List.filter_filter]
  have hnone : t.pending.filter (fun x => decide (x.1.event = .announceReceiptTimeoutExpires) &&
      decide (x.1.event ≠ .announceReceiptTimeoutExpires)) = [] := by
    refine List.filter_eq_nil_iff.mpr fun x _ => ?_
    simp
  rw [hnone]
  rfl

end Rejected

/-- **Rejected Announces.** The qualified announce, the port state and the grandmaster data set stay as
they are. The pending timers with their deadlines do exactly if the only announce receipt timer is one
that has been armed at this very moment. -/
theorem rejectedAnnounce_unchanged_iff (t : TimedDaemon F) (now : ℕ) (m : PTPMessageAnnounce)
    (hrejected : Rejected m t.daemon) :
    let t' := t.processAnnounce now m
    (t'.daemon.port.qualifiedAnnounce = t.daemon.port.qualifiedAnnounce ∧
      t'.daemon.port.portState = t.daemon.port.portState ∧
      t'.daemon.clock.grandmaster = t.daemon.clock.grandmaster) ∧
      (t'.pending.Perm t.pending ↔ t.receiptTimers = [armedReceipt now t.daemon]) := by
  intro t'
  obtain ⟨hport, hclock⟩ := daemon_processAnnounce hrejected now
  refine ⟨⟨by rw [hport], by rw [hport], by rw [hclock]⟩, ?_, ?_⟩
  · -- a rearrangement keeps the receipt timers, and after the message there is the new one only
    intro hperm
    have hreceipt := hperm.filter fun x => x.1.event = .announceReceiptTimeoutExpires
    have hafter : t'.receiptTimers = [armedReceipt now t.daemon] :=
      receiptTimers_processAnnounce hrejected now
    rw [receiptTimers] at hafter
    rw [hafter] at hreceipt
    exact List.perm_singleton.mp hreceipt.symm
  · intro honly
    -- the queue consists of the receipt timers and the others
    have hsplit := List.filter_append_perm
      (fun x : Timer × ℕ => decide (x.1.event ≠ .announceReceiptTimeoutExpires)) t.pending
    have hothers : t.pending.filter
        (fun x => !decide (x.1.event ≠ .announceReceiptTimeoutExpires)) = t.receiptTimers := by
      refine List.filter_congr fun x _ => ?_
      simp
    rw [hothers, honly] at hsplit
    rw [pending_processAnnounce hrejected now]
    exact hsplit

/-- **A stream of rejected Announces holds the timeout off.** Whatever the deadlines were, after the last
of them there is one receipt timer, armed at the time of that Announce. -/
theorem receiptTimers_of_rejected (stream : List (ℕ × PTPMessageAnnounce)) (last : ℕ)
    (m : PTPMessageAnnounce) (t : TimedDaemon F)
    (hrejected : ∀ x ∈ stream ++ [(last, m)], Rejected x.2 t.daemon) :
    ((stream ++ [(last, m)]).foldl (fun t x => t.processAnnounce x.1 x.2) t).receiptTimers =
      [armedReceipt last t.daemon] := by
  -- what the earlier messages have armed is cancelled by the next, so only the last one counts
  induction stream generalizing t with
  | nil => exact receiptTimers_processAnnounce (hrejected _ (List.mem_singleton_self _)) last
  | cons x stream ih =>
    obtain ⟨hport, hclock⟩ := daemon_processAnnounce (hrejected x List.mem_cons_self) x.1
    -- the port is left alone, so the timeout it would arm stays the same
    have harmed : armedReceipt last (t.processAnnounce x.1 x.2).daemon = armedReceipt last t.daemon := by
      unfold armedReceipt Daemon.announceReceiptTimeout
      rw [hport]
    rw [List.cons_append, List.foldl_cons, ← harmed]
    refine ih _ fun y hy => ?_
    unfold Rejected
    rw [hclock]
    exact hrejected y (List.mem_cons_of_mem x hy)

/-- A slave whose announce receipt timer, armed with 3 s, expires at the given time. -/
def waitingSlave (expiry : ℕ) : TimedDaemon ℚ where
  daemon :=
    let d := (Start.standard localIdentity).daemon
    { d with
      port.portState := .ptpSlave
      timerq := [⟨.announceReceiptTimeoutExpires, 1, 3000000⟩] }
  pending := [(⟨.announceReceiptTimeoutExpires, 1, 3000000⟩, expiry)]
  erases := rfl

/-- An Announce of the neighbour with too many steps. -/
def distantAnnounce : PTPMessageAnnounce := { neighborAnnounce with stepsRemoved := 255 }

/-- A rejected Announce that arrives as the timer is armed changes nothing. -/
theorem waitingSlave_unchanged :
    ((waitingSlave 3000000).processAnnounce 0 distantAnnounce).pending.Perm
      (waitingSlave 3000000).pending := by
  have hrejected : Rejected distantAnnounce (waitingSlave 3000000).daemon := .inl (by decide)
  exact (rejectedAnnounce_unchanged_iff (waitingSlave 3000000) 0 distantAnnounce hrejected).2.mpr
    (by decide +kernel)

/-- **The timeout is postponed.** The timer would expire at 3 s; a rejected Announce at 2 s moves the
deadline to 5 s, and another one at 4 s to 7 s. -/
theorem waitingSlave_postponed :
    Rejected distantAnnounce (waitingSlave 3000000).daemon ∧
      ((waitingSlave 3000000).processAnnounce 2000000 distantAnnounce).pending =
        [(⟨.announceReceiptTimeoutExpires, 1, 3000000⟩, 5000000)] ∧
      (((waitingSlave 3000000).processAnnounce 2000000 distantAnnounce).processAnnounce 4000000
        distantAnnounce).pending = [(⟨.announceReceiptTimeoutExpires, 1, 3000000⟩, 7000000)] :=
  ⟨.inl (by decide), by decide +kernel, by decide +kernel⟩

end TimedDaemon

end Gptp
