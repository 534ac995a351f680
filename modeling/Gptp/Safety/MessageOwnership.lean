import Gptp.Port.Ownership

/-!
# Which received messages are leaked

After `EtherPort::processMessage` a message should be settled: deleted, or referred to from exactly one
slot of the port. No message is ever both, but some are neither. The garbage flag is clear when a
message is built, and several exits of the handlers return without setting it and without storing the
message: a Signalling message on every path, an Announce that does not qualify, a Follow_Up without a
usable Sync, a peer delay response that does not get the receive lock, and all but requests in the states that
ignore messages. Such a message is leaked.

* `Daemon.receive_settled`: a message is settled exactly if its handler stores it or sets its flag.
* `Daemon.settlesMessage`: for which messages, and with which outcome of `tryPDelayRxLock`, the handlers do
  one of the two.
* `receive_settled_iff`: these are the messages that are settled.
-/

namespace Gptp

open Framework

variable {F : Type} [Platform F]

namespace Daemon

variable {h : MessageHeap}

/-- A message is settled exactly if its handler stores it or sets its garbage flag. -/
theorem receive_settled (env : Env) (msg : PTPMessage) (linkSpeed : UInt32) (d : Daemon F)
    (hs : h.Sound) :
    (d.receiveObjects env msg linkSpeed h).Settled h.next ↔
      d.storesMessage env (compensate d.port.cfg linkSpeed msg) = true ∨
        (d.processMessage env (compensate d.port.cfg linkSpeed msg)).2 = true := by
  unfold receiveObjects
  dsimp only
  generalize compensate d.port.cfg linkSpeed msg = msg'
  cases hstores : d.storesMessage env msg' with
  | true =>
    obtain ⟨s, hstored⟩ := messageObjects_of_stores hs.fresh hstores
    rw [garbage_of_stores hstores, hstored]
    exact iff_of_true (hs.fresh.settled_replace s) (.inl rfl)
  | false =>
    -- the message is still fresh when its flag is looked at
    have hfresh := messageObjects_fresh hs.fresh hstores
    cases hgarbage : (d.processMessage env msg').2 with
    | true => exact iff_of_true hfresh.settled_delete (.inr rfl)
    | false => exact iff_of_false hfresh.not_settled (by simp)

/-- Whether a Follow_Up finds a Sync that it belongs to and that is of the current version of the
timestamper. -/
def findsSync (m : PTPMessageFollowUp) (d : Daemon F) : Bool :=
  d.port.lastSync.any fun sync =>
    syncMatches sync m && sync.timestamp.version = d.port.timestampVersion

/-- The messages that `EtherPort::processMessage` stores or deletes. -/
def settlesMessage (env : Env) (msg : PTPMessage) (d : Daemon F) : Bool :=
  match msg with
  | .sync _ => !d.port.portState.ignoresMessages
  | .pathDelayResp _ | .pathDelayRespFollowUp _ =>
    !d.port.portState.ignoresMessages && env.pdelayRxLock
  | .followUp m => !d.port.portState.ignoresMessages && d.findsSync m
  | .pathDelayReq _ => true
  | .announce m => d.qualifies m
  | .signalling _ => false

theorem garbage_processFollowUp (env : Env) (m : PTPMessageFollowUp) (d : Daemon F) :
    (d.processFollowUp env m).2 = (!d.port.portState.ignoresMessages && d.findsSync m) := by
  have hcase := d.processFollowUp_cases env m
  generalize d.processFollowUp env m = ended at hcase ⊢
  unfold findsSync
  cases hcase with
  | ignored hstate => simp [hstate]
  | orphan _ hsync => simp [hsync]
  | wrong _ hsync hmatch => simp [hsync, hmatch]
  | stale _ hsync _ hversion => simp [hsync, hversion]
  | used hstate hsync hmatch hversion => simp [hstate, hsync, hmatch, hversion]

/-- The messages that are stored or marked as garbage. -/
theorem stores_or_garbage_iff (env : Env) (msg : PTPMessage) (d : Daemon F) :
    d.storesMessage env msg = true ∨ (d.processMessage env msg).2 = true ↔
      d.settlesMessage env msg = true := by
  cases msg with
  | sync m =>
    have hgarbage : (d.processSync m).2 = false := by
      unfold processSync
      split <;> rfl
    simp [storesMessage, settlesMessage, processMessage, hgarbage]
  | followUp m =>
    simp [storesMessage, settlesMessage, processMessage, garbage_processFollowUp]
  | pathDelayReq m =>
    have hgarbage : (d.processPathDelayReq env m).2 = true := by
      unfold processPathDelayReq
      split <;> rfl
    simp [settlesMessage, processMessage, hgarbage]
  | pathDelayResp m =>
    have hgarbage : (d.processMessage env (.pathDelayResp m)).2 = false :=
      tryPDelayRxLock_cases (P := fun r => r.2 = false) rfl (garbage_processPathDelayResp m d)
    simp [storesMessage, settlesMessage, hgarbage]
  | pathDelayRespFollowUp m =>
    cases hlock : env.pdelayRxLock with
    | false =>
      -- without the lock the message is neither stored nor marked
      have hdrops : env.drops (.pathDelayRespFollowUp m) = true := by
        unfold Env.drops
        rw [hlock]
        rfl
      rw [processMessage_of_drops hdrops]
      simp [storesMessage, settlesMessage, hlock]
    | true =>
      -- a follow-up that is not deferred is garbage
      rw [processMessage_pathDelayRespFollowUp hlock, garbage_processPathDelayRespFollowUp]
      simp only [storesMessage, settlesMessage, hlock]
      cases d.port.portState.ignoresMessages <;> cases d.defersFollowUp m <;> decide
  | announce m => simp [storesMessage, settlesMessage, processMessage, processAnnounce]
  | signalling m => simp [storesMessage, settlesMessage, processMessage, processSignalling]

end Daemon

/-- **Received messages.** After `EtherPort::processMessage` the message has been deleted, or exactly
one slot refers to it, exactly if it is one of the messages that the port stores or deletes; for a peer delay
response this takes the receive lock. -/
theorem receive_settled_iff (env : Env) (msg : PTPMessage) (linkSpeed : UInt32) (d : Daemon F)
    (h : MessageHeap) (hs : h.Sound) :
    (d.receiveObjects env msg linkSpeed h).Settled h.next ↔ d.settlesMessage env msg = true := by
  rw [Daemon.receive_settled env msg linkSpeed d hs, Daemon.stores_or_garbage_iff]
  -- the compensation changes the timestamp only
  have hsame : d.settlesMessage env (Daemon.compensate d.port.cfg linkSpeed msg) =
      d.settlesMessage env msg := by
    cases msg <;> rfl
  rw [hsame]

/-- The first Sync of a run is settled. -/
theorem first_sync_settled :
    ((Start.standard localIdentity).daemon.receiveObjects .standard (.sync (neighborSync 0))
      invalidLinkSpeed Heap.empty).Settled 0 :=
  (receive_settled_iff _ _ _ _ _ Heap.Sound.empty).mpr rfl

/-- A Signalling message after POWERUP. -/
def signallingRun : ℕ → Input
  | 0 => .ofEvent .powerup
  | _ => .message (.signalling (neighborSignalling 0 0 0))

/-- The Signalling message is neither deleted nor referred to from a slot. -/
theorem signalling_leaks :
    (processMachine ℚ).Delivers (Start.standard localIdentity).process signallingRun 2 ∧
    ¬ ((processMachine ℚ).stateAt (Start.standard localIdentity).process signallingRun
      2).objects.Settled 0 := by
  refine ⟨by decide +kernel, Heap.Fresh.not_settled ⟨by decide +kernel, fun s => ?_⟩⟩
  cases s <;> decide +kernel

end Gptp
