import Gptp.Framework.Ownership
import Gptp.Port.StepFootprint

/-!
# Who deletes a received message

A received message is an object on the heap. Its handler may store it in a variable of the port (a
`MessageSlot`), deleting what was there, or set its garbage flag, on which
`EtherPort::processMessage` deletes it. The handlers of `Gptp.Port.Receive` are about the contents of
the messages; this module adds the objects. For each handler one definition says what it does to the
slots and which objects it deletes, and `Process` runs the daemon together with its objects.

* `Daemon.receiveObjects`: the objects after `EtherPort::processMessage`; the new message is object
  `h.next`.
* `Daemon.Agrees`: a slot refers to an object exactly if the daemon holds a message there. The two
  descriptions of the slots cannot drift apart (`Process.agrees_stateAt`).
* `Process.sound_stateAt`: in no run is an object deleted twice, referred to from two slots, or
  referred to after it was deleted.
-/

namespace Gptp

open Framework

variable {F : Type} [Platform F]

/-- The variables of the port that refer to received messages. -/
inductive MessageSlot where
  | lastSync
  | lastPDelayResp
  | lastPDelayRespFollowUp
  | qualifiedAnnounce
  deriving DecidableEq

/-- The message objects of a port. -/
abbrev MessageHeap := Heap MessageSlot

/-! ### Handlers -/

namespace Daemon

/-- `PTPMessageAnnounce::processMessage`: `setQualifiedAnnounce` deletes the previous message. -/
def announceObjects (m : PTPMessageAnnounce) (this : ℕ) (d : Daemon F) (h : MessageHeap) :
    MessageHeap :=
  if d.qualifies m then h.replace .qualifiedAnnounce (some this) else h

/-- `PTPMessageSync::processMessage`. -/
def syncObjects (this : ℕ) (d : Daemon F) (h : MessageHeap) : MessageHeap :=
  if d.port.portState.ignoresMessages then h else h.replace .lastSync (some this)

/-- `PTPMessageFollowUp::processMessage`: past the checks for a Sync, it is deleted. -/
def followUpObjects (d : Daemon F) (h : MessageHeap) : MessageHeap :=
  if d.port.portState.ignoresMessages ∨ d.port.lastSync = none then h
  else h.replace .lastSync none

/-- `PTPMessagePathDelayResp::processMessage`, with the receive lock. -/
def respObjects (this : ℕ) (d : Daemon F) (h : MessageHeap) : MessageHeap :=
  if d.port.portState.ignoresMessages then h else h.replace .lastPDelayResp (some this)

/-- Whether `PTPMessagePathDelayRespFollowUp::processMessage` defers the message. -/
def defersFollowUp (m : PTPMessagePathDelayRespFollowUp) (d : Daemon F) : Bool :=
  match d.port.pdelay.lastPDelayReq, d.port.pdelay.lastPDelayResp with
  | some req, some resp => defers req resp m
  | _, _ => false

/-- `PTPMessagePathDelayRespFollowUp::processMessage`, with the receive lock: a deferred message replaces the
one deferred before, unless it is the same; every other exit deletes the response. -/
def respFollowUpObjects (m : PTPMessagePathDelayRespFollowUp) (this : ℕ) (d : Daemon F)
    (h : MessageHeap) : MessageHeap :=
  if d.port.portState.ignoresMessages then h
  else if d.defersFollowUp m then
    if h.slots .lastPDelayRespFollowUp = some this then h
    else h.replace .lastPDelayRespFollowUp (some this)
  else h.replace .lastPDelayResp none

/-- What `processMessage` of the message's class does to the slots. The handlers of peer delay responses
return before they touch a slot if `tryPDelayRxLock` fails. -/
def messageObjects (env : Env) (msg : PTPMessage) (this : ℕ) (d : Daemon F) (h : MessageHeap) :
    MessageHeap :=
  match msg with
  | .sync _ => d.syncObjects this h
  | .followUp _ => d.followUpObjects h
  | .pathDelayReq _ => h
  | .pathDelayResp _ => if env.pdelayRxLock then d.respObjects this h else h
  | .pathDelayRespFollowUp m => if env.pdelayRxLock then d.respFollowUpObjects m this h else h
  | .announce m => d.announceObjects m this h
  | .signalling _ => h

/-- `EtherPort::processMessage`: the message is allocated, handled, and deleted if its garbage flag is
set. -/
def receiveObjects (env : Env) (msg : PTPMessage) (linkSpeed : UInt32) (d : Daemon F)
    (h : MessageHeap) : MessageHeap :=
  let msg := compensate d.port.cfg linkSpeed msg
  let h' := d.messageObjects env msg h.next h.alloc
  if (d.processMessage env msg).2 then h'.delete (some h.next) else h'

/-- The objects under an event: a receipt timeout that makes the port master drops the qualified
announce, and a deferral processes the stored follow-up again. The timer thread has taken the receive lock
before it does so, and the lock is recursive. -/
def eventObjects (e : Event) (d : Daemon F) (h : MessageHeap) : MessageHeap :=
  match e with
  | .announceReceiptTimeoutExpires | .syncReceiptTimeoutExpires =>
    if d.port.cfg.automotiveProfile ∨ d.clock.cfg.priority1 = 255 ∨ d.port.portState = .ptpMaster
    then h else h.replace .qualifiedAnnounce none
  | .pdelayDeferredProcessing =>
    match h.slots .lastPDelayRespFollowUp, d.port.pdelay.lastPDelayRespFollowUp with
    | some this, some m =>
      let h' := d.respFollowUpObjects m this h
      if (d.processPathDelayRespFollowUp m).2 then h'.replace .lastPDelayRespFollowUp none else h'
    | _, _ => h
  | _ => h

end Daemon

/-! ### Runs with objects -/

/-- A daemon with its message objects. -/
structure Process (F : Type) where
  daemon : Daemon F
  objects : MessageHeap

namespace Process

/-- Handles one input. -/
def step (p : Process F) (i : Input) : Process F where
  daemon := p.daemon.step i
  objects := match i.stimulus with
    | .receive msg linkSpeed => p.daemon.receiveObjects i.env msg linkSpeed p.objects
    | _ => match p.daemon.handledEvent i with
      | some e => p.daemon.eventObjects e p.objects
      | none => p.objects

end Process

/-- The daemon and its objects as a machine. -/
def processMachine (F : Type) [Platform F] : Machine (Process F) Input where
  enabled p := p.daemon.enabled
  step := Process.step

instance (p : Process F) (i : Input) : Decidable ((processMachine F).enabled p i) :=
  inferInstanceAs (Decidable (p.daemon.enabled i))

/-- The state in which `main` raises POWERUP: no message has been received. -/
def Start.process (s : Start F) : Process F := ⟨s.daemon, .empty⟩

/-- The daemon runs as it does without the objects. -/
theorem Process.daemon_stateAt (s : Start F) (σ : ℕ → Input) (k : ℕ) :
    ((processMachine F).stateAt s.process σ k).daemon = (machine F).stateAt s.daemon σ k := by
  induction k with
  | zero => rfl
  | succ k ih => exact congrArg (fun d => Daemon.step d (σ k)) ih

/-! ### What a handler does to the slots -/

namespace Daemon

variable {h : MessageHeap}

/-- Whether the handler of a message stores it. -/
def storesMessage (env : Env) (msg : PTPMessage) (d : Daemon F) : Bool :=
  match msg with
  | .sync _ => !d.port.portState.ignoresMessages
  | .pathDelayResp _ => !d.port.portState.ignoresMessages && env.pdelayRxLock
  | .pathDelayRespFollowUp m =>
    !d.port.portState.ignoresMessages && env.pdelayRxLock && d.defersFollowUp m
  | .announce m => d.qualifies m
  | .followUp _ | .pathDelayReq _ | .signalling _ => false

omit [Platform F] in
/-- A message that is stored replaces what was in a slot. -/
theorem messageObjects_of_stores {env : Env} {msg : PTPMessage} {this : ℕ} {d : Daemon F}
    (hfresh : h.Fresh this) (hstores : d.storesMessage env msg = true) :
    ∃ s, d.messageObjects env msg this h = h.replace s (some this) := by
  cases msg with
  | sync m =>
    have hstate : d.port.portState.ignoresMessages = false := by simpa [storesMessage] using hstores
    refine ⟨.lastSync, ?_⟩
    simp only [messageObjects, syncObjects, hstate, Bool.false_eq_true, if_false]
  | pathDelayResp m =>
    obtain ⟨hstate, hlock⟩ := Bool.and_eq_true_iff.mp hstores
    rw [Bool.not_eq_true'] at hstate
    refine ⟨.lastPDelayResp, ?_⟩
    simp only [messageObjects, respObjects, hstate, hlock, Bool.false_eq_true, if_false, if_true]
  | pathDelayRespFollowUp m =>
    obtain ⟨hhandled, hdefers⟩ := Bool.and_eq_true_iff.mp hstores
    obtain ⟨hstate, hlock⟩ := Bool.and_eq_true_iff.mp hhandled
    rw [Bool.not_eq_true'] at hstate
    refine ⟨.lastPDelayRespFollowUp, ?_⟩
    -- a fresh message is not the one that was deferred before
    simp only [messageObjects, respFollowUpObjects, hstate, hlock, hdefers,
      hfresh.2 .lastPDelayRespFollowUp, Bool.false_eq_true, if_false, if_true]
  | announce m => exact ⟨.qualifiedAnnounce, if_pos hstores⟩
  | followUp m => cases hstores
  | pathDelayReq m => cases hstores
  | signalling m => cases hstores

omit [Platform F] in
/-- A message that is not stored may empty a slot. -/
theorem messageObjects_of_not_stores {env : Env} {msg : PTPMessage} {d : Daemon F}
    (hstores : d.storesMessage env msg = false) (this : ℕ) (h : MessageHeap) :
    d.messageObjects env msg this h = h ∨ ∃ s, d.messageObjects env msg this h = h.replace s none := by
  cases msg with
  | sync m =>
    have hstate : d.port.portState.ignoresMessages = true := by simpa [storesMessage] using hstores
    exact .inl (if_pos hstate)
  -- a Follow_Up stores nothing of its own, but it frees the Sync it belongs to
  | followUp m =>
    unfold messageObjects followUpObjects
    dsimp only
    split
    · exact .inl rfl
    · exact .inr ⟨_, rfl⟩
  | pathDelayReq m => exact .inl rfl
  -- a response that does not get the lock leaves every slot as it is
  | pathDelayResp m =>
    unfold messageObjects
    dsimp only
    split
    case isFalse => exact .inl rfl
    case isTrue hlock =>
      have hstate : d.port.portState.ignoresMessages = true := by
        simpa [storesMessage, hlock] using hstores
      exact .inl (if_pos hstate)
  | pathDelayRespFollowUp m =>
    unfold messageObjects respFollowUpObjects
    dsimp only
    split_ifs with hlock hstate hdefers hthis
    · exact .inl rfl
    · exact .inl rfl
    · simp [storesMessage, hlock, hstate, hdefers] at hstores
    · exact .inr ⟨_, rfl⟩
    · exact .inl rfl
  | announce m =>
    refine .inl (if_neg ?_)
    exact Bool.eq_false_iff.mp hstores
  | signalling m => exact .inl rfl

omit [Platform F] in
theorem garbage_processPathDelayResp (m : PTPMessagePathDelayResp) (d : Daemon F) :
    (d.processPathDelayResp m).2 = false := by
  unfold processPathDelayResp
  split <;> rfl

/-- Whether the handler of a message leaves its garbage flag set. -/
theorem garbage_processPathDelayRespFollowUp (m : PTPMessagePathDelayRespFollowUp) (d : Daemon F) :
    (d.processPathDelayRespFollowUp m).2 =
      (!d.port.portState.ignoresMessages && !d.defersFollowUp m) := by
  -- the flag is one of the outcomes of the core step, so its cases decide
  have hstep := d.processPathDelayRespFollowUp_core m
  unfold defersFollowUp
  generalize (d.processPathDelayRespFollowUp m).2 = gc at hstep
  generalize (d.processPathDelayRespFollowUp m).1.core = c' at hstep
  cases hstep with
  | ignored hstate =>
    have hstate' : d.port.portState.ignoresMessages = true := hstate
    rw [hstate']
    rfl
  | dropped hstate hfails =>
    have hstate' : d.port.portState.ignoresMessages = false := hstate
    rw [hstate']
    split
    case h_1 req resp hreq hresp =>
      rw [(hfails req resp hreq hresp).1]
      rfl
    case h_2 => rfl
  | @deferred req resp hstate hreq hresp hdefers =>
    have hreq' : d.port.pdelay.lastPDelayReq = some req := hreq
    have hresp' : d.port.pdelay.lastPDelayResp = some resp := hresp
    rw [hreq', hresp']
    simp [hdefers]
  | @measured req resp hstate hreq hresp hcompletes =>
    have hstate' : d.port.portState.ignoresMessages = false := hstate
    have hreq' : d.port.pdelay.lastPDelayReq = some req := hreq
    have hresp' : d.port.pdelay.lastPDelayResp = some resp := hresp
    rw [hstate', hreq', hresp']
    simp [defers_of_completes hcompletes]

/-- No message is both stored and marked as garbage. -/
theorem garbage_of_stores {env : Env} {msg : PTPMessage} {d : Daemon F}
    (hstores : d.storesMessage env msg = true) : (d.processMessage env msg).2 = false := by
  cases msg with
  | sync m =>
    unfold processMessage processSync
    dsimp only
    split <;> rfl
  | pathDelayResp m =>
    exact tryPDelayRxLock_cases (P := fun r => r.2 = false) rfl (garbage_processPathDelayResp m d)
  | pathDelayRespFollowUp m =>
    obtain ⟨-, hdefers⟩ := Bool.and_eq_true_iff.mp hstores
    refine tryPDelayRxLock_cases (P := fun r => r.2 = false) rfl ?_
    rw [garbage_processPathDelayRespFollowUp, hdefers, Bool.not_true, Bool.and_false]
  | announce m => rfl
  | followUp m => cases hstores
  | pathDelayReq m => cases hstores
  | signalling m => cases hstores

/-! ### Soundness -/

omit [Platform F] in
theorem messageObjects_sound (env : Env) (msg : PTPMessage) {this : ℕ} (d : Daemon F) (hs : h.Sound)
    (hfresh : h.Fresh this) (hlt : this < h.next) : (d.messageObjects env msg this h).Sound := by
  cases hstores : d.storesMessage env msg with
  | true =>
    obtain ⟨s, hstored⟩ := messageObjects_of_stores hfresh hstores
    rw [hstored]
    exact hs.replace_some s hfresh hlt
  | false =>
    rcases messageObjects_of_not_stores hstores this h with hsame | ⟨s, hdropped⟩
    · rw [hsame]
      exact hs
    · rw [hdropped]
      exact hs.replace_none s

omit [Platform F] in
/-- A message that is not stored is still fresh. -/
theorem messageObjects_fresh {env : Env} {msg : PTPMessage} {this : ℕ} {d : Daemon F} (hfresh : h.Fresh this)
    (hstores : d.storesMessage env msg = false) : (d.messageObjects env msg this h).Fresh this := by
  rcases messageObjects_of_not_stores hstores this h with hsame | ⟨s, hdropped⟩
  · rw [hsame]
    exact hfresh
  · rw [hdropped]
    exact hfresh.replace_none s

omit [Platform F] in
theorem next_messageObjects {env : Env} {msg : PTPMessage} {this : ℕ} {d : Daemon F} (hfresh : h.Fresh this) :
    (d.messageObjects env msg this h).next = h.next := by
  cases hstores : d.storesMessage env msg with
  | true =>
    obtain ⟨s, hstored⟩ := messageObjects_of_stores hfresh hstores
    rw [hstored, Heap.next_replace]
  | false =>
    rcases messageObjects_of_not_stores hstores this h with hsame | ⟨s, hdropped⟩
    · rw [hsame]
    · rw [hdropped, Heap.next_replace]

/-- Receiving a message keeps the heap sound. -/
theorem receiveObjects_sound (env : Env) (msg : PTPMessage) (linkSpeed : UInt32) (d : Daemon F)
    (hs : h.Sound) : (d.receiveObjects env msg linkSpeed h).Sound := by
  unfold receiveObjects
  dsimp only
  generalize compensate d.port.cfg linkSpeed msg = msg'
  have hsound := d.messageObjects_sound env msg' hs.alloc hs.fresh (Nat.lt_succ_self h.next)
  split
  case isFalse => exact hsound
  case isTrue hgarbage =>
    -- a message that is deleted has not been stored
    cases hstores : d.storesMessage env msg' with
    | true =>
      rw [garbage_of_stores hstores] at hgarbage
      cases hgarbage
    | false =>
      refine hsound.delete (messageObjects_fresh hs.fresh hstores) ?_
      rw [next_messageObjects hs.fresh]
      exact Nat.lt_succ_self h.next

/-- Handling an event keeps the heap sound. -/
theorem eventObjects_sound (e : Event) (d : Daemon F) (hs : h.Sound) : (d.eventObjects e h).Sound := by
  unfold eventObjects
  split
  · split
    · exact hs
    · exact hs.replace_none _
  · split
    · exact hs
    · exact hs.replace_none _
  · split
    case h_1 this m hthis hm =>
      -- the follow-up that is processed again is the one in the slot
      have hsound : (d.respFollowUpObjects m this h).Sound := by
        unfold respFollowUpObjects
        rw [if_pos hthis]
        split_ifs
        · exact hs
        · exact hs
        · exact hs.replace_none _
      dsimp only
      split
      · exact hsound.replace_none _
      · exact hsound
    case h_2 => exact hs
  · exact hs

end Daemon

/-- **No double delete and no dangling slot.** The objects of every run are sound. -/
theorem Process.sound_stateAt (s : Start F) (σ : ℕ → Input) (k : ℕ) :
    ((processMachine F).stateAt s.process σ k).objects.Sound := by
  refine Machine.invariant_all (M := processMachine F) (P := fun p => p.objects.Sound) Heap.Sound.empty
    (fun p i hs => ?_) k
  change (p.step i).objects.Sound
  unfold Process.step
  dsimp only
  split
  · exact Daemon.receiveObjects_sound _ _ _ _ hs
  · split
    · exact Daemon.eventObjects_sound _ _ hs
    · exact hs

/-! ### Agreement with the daemon -/

/-- Where the daemon keeps the contents of a slot. -/
def MessageSlot.location : MessageSlot → Location
  | .lastSync => .lastSync
  | .lastPDelayResp => .lastPDelayResp
  | .lastPDelayRespFollowUp => .lastPDelayRespFollowUp
  | .qualifiedAnnounce => .qualifiedAnnounce

namespace Daemon

omit [Platform F]

/-- Whether the daemon holds a message in a slot. -/
def holds (d : Daemon F) : MessageSlot → Bool
  | .lastSync => d.port.lastSync.isSome
  | .lastPDelayResp => d.port.pdelay.lastPDelayResp.isSome
  | .lastPDelayRespFollowUp => d.port.pdelay.lastPDelayRespFollowUp.isSome
  | .qualifiedAnnounce => d.port.qualifiedAnnounce.isSome

/-- The slots refer to an object exactly where the daemon holds a message. -/
def Agrees (d : Daemon F) (h : MessageHeap) : Prop := ∀ s, (h.slots s).isSome = d.holds s

theorem holds_of_read {d d' : Daemon F} {s : MessageSlot}
    (h : d'.read s.location = d.read s.location) : d'.holds s = d.holds s := by
  cases s with
  | lastSync => exact congrArg Option.isSome h
  | lastPDelayResp => exact congrArg Option.isSome h
  | lastPDelayRespFollowUp => exact congrArg Option.isSome h
  | qualifiedAnnounce => exact congrArg Option.isSome h

variable {d d' : Daemon F} {h : MessageHeap} {L : List Location}

theorem Agrees.of_holds (hagrees : d.Agrees h) (hholds : ∀ s, d'.holds s = d.holds s) :
    d'.Agrees h := fun s => (hagrees s).trans (hholds s).symm

/-- One slot is assigned, and its location is the only one of a slot that changes. -/
theorem Agrees.replace (hagrees : d.Agrees h) {t : MessageSlot} {o : Option ℕ}
    (hother : ∀ s, s ≠ t → d'.holds s = d.holds s) (ht : d'.holds t = o.isSome) :
    d'.Agrees (h.replace t o) := by
  intro s
  by_cases hs : s = t
  · subst hs
    rw [Heap.slots_replace_self, ht]
  · rw [Heap.slots_replace_of_ne hs, hother s hs]
    exact hagrees s

/-- One slot is assigned or left alone, and no other slot changes. -/
theorem Agrees.keep_or_replace (hagrees : d.Agrees h) {P : Prop} [Decidable P] {t : MessageSlot}
    {o : Option ℕ} (hother : ∀ s, s ≠ t → d'.holds s = d.holds s)
    (ht : d'.holds t = if P then d.holds t else o.isSome) :
    d'.Agrees (if P then h else h.replace t o) := by
  split_ifs at ht ⊢ with hkeep
  · refine hagrees.of_holds fun s => ?_
    by_cases hs : s = t
    · rw [hs, ht]
    · exact hother s hs
  · exact hagrees.replace hother ht

variable [Platform F]

/-- A follow-up of a response, received or deferred. -/
theorem Agrees.respFollowUp (hagrees : d.Agrees h) (m : PTPMessagePathDelayRespFollowUp) (this : ℕ) :
    (d.processPathDelayRespFollowUp m).1.Agrees (d.respFollowUpObjects m this h) := by
  have hgarbage := d.garbage_processPathDelayRespFollowUp m
  have hstep := d.processPathDelayRespFollowUp_core m
  have hmodifies := d.modifies_processPathDelayRespFollowUp m
  generalize (d.processPathDelayRespFollowUp m).1 = d' at hstep hmodifies ⊢
  generalize (d.processPathDelayRespFollowUp m).2 = gc at hstep hgarbage
  have hsync : d'.holds .lastSync = d.holds .lastSync :=
    holds_of_read (hmodifies .lastSync (by decide))
  have hannounce : d'.holds .qualifiedAnnounce = d.holds .qualifiedAnnounce :=
    holds_of_read (hmodifies .qualifiedAnnounce (by decide))
  generalize hcore : d'.core = c' at hstep
  -- the slots of response and follow-up are those of the core
  have hresp : d'.holds .lastPDelayResp = c'.lastPDelayResp.isSome := by rw [← hcore]; rfl
  have hfollowUp : d'.holds .lastPDelayRespFollowUp = c'.lastPDelayRespFollowUp.isSome := by
    rw [← hcore]; rfl
  -- a response that is used up or dropped is deleted, and the follow-up is not stored
  have hdrop (hgc : gc = true) (hnone : c'.lastPDelayResp = none)
      (hkept : c'.lastPDelayRespFollowUp = d.port.pdelay.lastPDelayRespFollowUp) :
      d'.Agrees (d.respFollowUpObjects m this h) := by
    rw [hgc] at hgarbage
    obtain ⟨hstate, hdefers⟩ := Bool.and_eq_true_iff.mp hgarbage.symm
    rw [Bool.not_eq_true'] at hstate hdefers
    unfold respFollowUpObjects
    rw [hstate, hdefers]
    refine hagrees.replace (fun s hs => ?_) (hresp.trans (congrArg Option.isSome hnone))
    cases s with
    | lastSync => exact hsync
    | lastPDelayResp => exact absurd rfl hs
    | lastPDelayRespFollowUp => exact hfollowUp.trans (congrArg Option.isSome hkept)
    | qualifiedAnnounce => exact hannounce
  cases hstep with
  | ignored hstate =>
    have hstate' : d.port.portState.ignoresMessages = true := hstate
    unfold respFollowUpObjects
    rw [if_pos hstate']
    refine hagrees.of_holds fun s => ?_
    cases s with
    | lastSync => exact hsync
    | lastPDelayResp => exact hresp
    | lastPDelayRespFollowUp => exact hfollowUp
    | qualifiedAnnounce => exact hannounce
  | dropped => exact hdrop rfl rfl rfl
  | @measured req resp =>
    have hexchange := d.core.toExchange_measure req resp m
    exact hdrop rfl rfl (congrArg Exchange.lastPDelayRespFollowUp hexchange)
  | deferred hstate =>
    have hstate' : d.port.portState.ignoresMessages = false := hstate
    have hdefers : d.defersFollowUp m = true := by simpa [hstate'] using hgarbage
    unfold respFollowUpObjects
    rw [hstate', hdefers]
    have hother : ∀ s, s ≠ .lastPDelayRespFollowUp → d'.holds s = d.holds s := by
      intro s hs
      cases s with
      | lastSync => exact hsync
      | lastPDelayResp => exact hresp
      | lastPDelayRespFollowUp => exact absurd rfl hs
      | qualifiedAnnounce => exact hannounce
    simp only [Bool.false_eq_true, if_false, if_true]
    split
    case isTrue hthis =>
      -- the follow-up is stored already
      refine hagrees.of_holds fun s => ?_
      by_cases hs : s = .lastPDelayRespFollowUp
      · subst hs
        have hheld := hagrees .lastPDelayRespFollowUp
        rw [hthis] at hheld
        exact hfollowUp.trans hheld
      · exact hother s hs
    case isFalse => exact hagrees.replace hother hfollowUp

/-- The stored Sync after a Follow_Up. -/
theorem lastSync_processFollowUp (env : Env) (m : PTPMessageFollowUp) (d : Daemon F) :
    (d.processFollowUp env m).1.port.lastSync =
      if d.port.portState.ignoresMessages ∨ d.port.lastSync = none then d.port.lastSync
      else none := by
  have hcase := d.processFollowUp_cases env m
  generalize d.processFollowUp env m = ended at hcase ⊢
  -- every case that finds a Sync ends by taking it out
  have htaken {sync : PTPMessageSync} (hstate : d.port.portState.ignoresMessages = false)
      (hsync : d.port.lastSync = some sync) :
      ¬ (d.port.portState.ignoresMessages = true ∨ d.port.lastSync = none) := by
    simp [hstate, hsync]
  cases hcase with
  | ignored hstate => exact (if_pos (.inl hstate)).symm
  | orphan _ hsync => exact (if_pos (.inr hsync)).symm
  | wrong hstate hsync => exact (if_neg (htaken hstate hsync)).symm
  | stale hstate hsync => exact (if_neg (htaken hstate hsync)).symm
  | used hstate hsync => exact (if_neg (htaken hstate hsync)).symm

omit [Platform F] in
/-- The objects of a response that comes while the timer thread has the lock. -/
theorem messageObjects_of_drops {env : Env} {msg : PTPMessage} (hdrops : env.drops msg = true) (this : ℕ) :
    d.messageObjects env msg this h = h := by
  obtain ⟨hneeds, hlock⟩ := Bool.and_eq_true_iff.mp hdrops
  rw [Bool.not_eq_true'] at hlock
  cases msg with
  | pathDelayResp m => exact if_neg (hlock ▸ Bool.false_ne_true)
  | pathDelayRespFollowUp m => exact if_neg (hlock ▸ Bool.false_ne_true)
  | _ => cases hneeds

/-- A received message. -/
theorem Agrees.message (hagrees : d.Agrees h) (env : Env) (msg : PTPMessage) (this : ℕ) :
    (d.processMessage env msg).1.Agrees (d.messageObjects env msg this h) := by
  cases hdrops : env.drops msg with
  | true =>
    rw [processMessage_of_drops hdrops, messageObjects_of_drops hdrops]
    exact hagrees
  | false =>
    have hother (s : MessageSlot) (hs : s.location ∉ msg.footprint) :
        (d.processMessage env msg).1.holds s = d.holds s :=
      holds_of_read (d.processMessage_modifies env msg _ hs)
    cases msg with
    -- each handler touches one slot at most; the others are outside its footprint
    | sync m =>
      refine hagrees.keep_or_replace (fun s hs => hother s ?_) ?_
      · cases s <;> first | exact absurd rfl hs | (dsimp only [PTPMessage.footprint]; decide)
      · change (d.processSync m).1.holds .lastSync = _
        unfold processSync
        split <;> rfl
    | followUp m =>
      refine hagrees.keep_or_replace (fun s hs => hother s ?_) ?_
      · cases s <;> first | exact absurd rfl hs | (dsimp only [PTPMessage.footprint]; decide)
      · have hsync : (d.processFollowUp env m).1.holds .lastSync = _ :=
          congrArg Option.isSome (d.lastSync_processFollowUp env m)
        exact hsync.trans (apply_ite Option.isSome _ _ _)
    | pathDelayReq m =>
      refine hagrees.of_holds fun s => hother s ?_
      exact List.not_mem_nil
    | pathDelayResp m =>
      have hlock := lock_of_not_drops rfl hdrops
      have hobjects : d.messageObjects env (.pathDelayResp m) this h = d.respObjects this h := if_pos hlock
      rw [hobjects]
      refine hagrees.keep_or_replace (fun s hs => hother s ?_) ?_
      · cases s <;> first | exact absurd rfl hs | (dsimp only [PTPMessage.footprint]; decide)
      · rw [processMessage_pathDelayResp hlock]
        unfold processPathDelayResp
        split <;> rfl
    | pathDelayRespFollowUp m =>
      have hlock := lock_of_not_drops rfl hdrops
      have hobjects : d.messageObjects env (.pathDelayRespFollowUp m) this h =
          d.respFollowUpObjects m this h := if_pos hlock
      rw [processMessage_pathDelayRespFollowUp hlock, hobjects]
      exact hagrees.respFollowUp m this
    | announce m =>
      change (d.processAnnounce m).1.Agrees (if d.qualifies m then _ else h)
      -- an announce that does not qualify leaves the slot alone
      rw [← ite_not]
      refine hagrees.keep_or_replace (fun s hs => hother s ?_) ?_
      · cases s <;> first | exact absurd rfl hs | (dsimp only [PTPMessage.footprint]; decide)
      · have hannounce : (d.processAnnounce m).1.holds .qualifiedAnnounce = _ :=
          congrArg Option.isSome (d.qualifiedAnnounce_processAnnounce m)
        rw [ite_not]
        exact hannounce.trans (apply_ite Option.isSome _ _ _)
    | signalling m =>
      refine hagrees.of_holds fun s => hother s ?_
      cases s <;> (dsimp only [PTPMessage.footprint]; decide)

/-- A receipt timeout. -/
theorem Agrees.receiptTimeout (hagrees : d.Agrees h) (env : Env) {e : Event}
    (he : e = .announceReceiptTimeoutExpires ∨ e = .syncReceiptTimeoutExpires) :
    (d.processEvent env e).Agrees (d.eventObjects e h) := by
  have hannounce : (d.processEvent env e).holds .qualifiedAnnounce = _ :=
    congrArg Option.isSome (d.qualifiedAnnounce_receiptTimeout env he)
  have hobjects : d.eventObjects e h =
      if d.port.cfg.automotiveProfile ∨ d.clock.cfg.priority1 = 255 ∨ d.port.portState = .ptpMaster
      then h else h.replace .qualifiedAnnounce none := by
    rcases he with rfl | rfl <;> rfl
  rw [hobjects]
  refine hagrees.keep_or_replace (fun s hs => ?_) (hannounce.trans (apply_ite Option.isSome _ _ _))
  refine holds_of_read (d.processEvent_modifies env e _ ?_)
  rcases he with rfl | rfl <;> cases s <;> first | exact absurd rfl hs | decide

/-- A deferral. -/
theorem Agrees.deferred (hagrees : d.Agrees h) (env : Env) :
    (d.processEvent env .pdelayDeferredProcessing).Agrees
      (d.eventObjects .pdelayDeferredProcessing h) := by
  have hheld := hagrees .lastPDelayRespFollowUp
  change d.mediaPdelayDeferred.Agrees _
  unfold mediaPdelayDeferred eventObjects
  dsimp only
  -- slot and heap agree on whether there is a follow-up, so two of the four cases remain
  cases hm : d.port.pdelay.lastPDelayRespFollowUp with
  | none =>
    cases hthis : h.slots .lastPDelayRespFollowUp with
    | none =>
      refine hagrees.of_holds fun s => ?_
      cases s <;> rfl
    | some this => simp [hthis, holds, hm] at hheld
  | some m =>
    cases hthis : h.slots .lastPDelayRespFollowUp with
    | none => simp [hthis, holds, hm] at hheld
    | some this =>
      have hprocess := hagrees.respFollowUp m this
      dsimp only
      split
      · refine hprocess.replace (fun s hs => ?_) rfl
        cases s with
        | lastPDelayRespFollowUp => exact absurd rfl hs
        | _ => rfl
      · exact hprocess

/-- An event. -/
theorem Agrees.event (hagrees : d.Agrees h) (env : Env) (e : Event) :
    (d.processEvent env e).Agrees (d.eventObjects e h) := by
  have hother (hfootprint : ∀ s : MessageSlot, s.location ∉ e.footprint) :
      (d.processEvent env e).Agrees h :=
    hagrees.of_holds fun s => holds_of_read (d.processEvent_modifies env e _ (hfootprint s))
  cases e with
  | announceReceiptTimeoutExpires => exact hagrees.receiptTimeout env (.inl rfl)
  | syncReceiptTimeoutExpires => exact hagrees.receiptTimeout env (.inr rfl)
  | pdelayDeferredProcessing => exact hagrees.deferred env
  | _ => exact hother (by intro s; cases s <;> decide)

/-- What an event does to the objects depends on the clock and the port alone. -/
theorem eventObjects_congr (e : Event) (hclock : d'.clock = d.clock) (hport : d'.port = d.port) :
    d'.eventObjects e h = d.eventObjects e h := by
  obtain ⟨clock, port, timerq, effects⟩ := d
  obtain ⟨clock', port', timerq', effects'⟩ := d'
  obtain rfl : clock' = clock := hclock
  obtain rfl : port' = port := hport
  unfold eventObjects
  simp only [garbage_processPathDelayRespFollowUp]
  rfl

end Daemon

/-- **Agreement.** In every run the slots refer to an object exactly where the daemon holds a
message. -/
theorem Process.agrees_stateAt (s : Start F) (σ : ℕ → Input) (k : ℕ) :
    ((processMachine F).stateAt s.process σ k).daemon.Agrees
      ((processMachine F).stateAt s.process σ k).objects := by
  have hinit : s.daemon.Agrees Heap.empty := by
    intro slot
    unfold Start.daemon
    cases s.restored <;> cases slot <;> rfl
  refine Machine.invariant_all (M := processMachine F) (P := fun p => p.daemon.Agrees p.objects) hinit
    (fun p i hagrees => ?_) k
  change (p.step i).daemon.Agrees (p.step i).objects
  unfold Process.step
  dsimp only
  have hsame (d : Daemon F) (hport : d.port = p.daemon.port) : d.Agrees p.objects := by
    refine hagrees.of_holds fun slot => ?_
    cases slot <;> simp only [Daemon.holds, hport]
  split
  case h_1 msg linkSpeed hi =>
    have halloc : Daemon.Agrees { p.daemon with effects := [] } p.objects.alloc :=
      hsame { p.daemon with effects := [] } rfl
    have hmessage := halloc.message i.env
      (Daemon.compensate p.daemon.port.cfg linkSpeed msg) p.objects.next
    have hstep : p.daemon.step i = (Daemon.processMessage i.env
        (Daemon.compensate p.daemon.port.cfg linkSpeed msg) { p.daemon with effects := [] }).1 := by
      unfold Daemon.step
      rw [hi]
      rfl
    have hobjects : Daemon.messageObjects i.env (Daemon.compensate p.daemon.port.cfg linkSpeed msg)
        p.objects.next { p.daemon with effects := [] } p.objects.alloc =
        p.daemon.messageObjects i.env (Daemon.compensate p.daemon.port.cfg linkSpeed msg)
          p.objects.next p.objects.alloc := by
      cases msg <;> rfl
    rw [hobjects] at hmessage
    rw [hstep]
    unfold Daemon.receiveObjects
    dsimp only
    -- deleting the message does not concern the slots
    split <;> exact hmessage
  case h_2 hnot =>
    cases he : p.daemon.handledEvent i with
    | some e =>
      obtain ⟨d₀, hclock, hport, hstep⟩ := Daemon.step_of_handledEvent he
      have hevent := (hsame d₀ hport).event i.env e
      rw [Daemon.eventObjects_congr e hclock hport] at hevent
      rw [hstep]
      exact hevent
    | none =>
      -- a new link speed, or the expiry of a timer that is not pending
      refine hagrees.of_holds fun slot => Daemon.holds_of_read (Daemon.read_step ?_ ?_ ?_)
      · intro e he'
        cases he.symm.trans he'
      · intro msg linkSpeed hi _
        exact absurd hi (hnot msg linkSpeed)
      · cases slot <;> decide

end Gptp
