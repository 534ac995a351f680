import Gptp.Framework.Network
import Gptp.Port.Wire
import Gptp.Segment.Frames

/-!
# Daemons on a segment

Several daemons whose ports are attached to one segment, as a network of nodes (`Framework.NodeModel`). A
station handles events, timers and link changes on its own; what it hands to its network interface is
transmitted, and reaches the listening threads of the other stations as frames, with a timestamp and a
receive buffer that are up to the platform of the receiver. Frames may be lost, delayed, reordered and
duplicated.

* `station`, `segment`: the model.
* `Handles`, `Hears`: what happens in a step of a segment, in terms of the steps of one daemon and of
  messages that arrive.
* `Promises`, `segment_promises`: what every message of a station has in common in every run, and that
  no step changes the configuration of a station.
* `slot_run`, `stable_run`, `invariant_run`: the rules for what one station stores and keeps.
-/

namespace Gptp

open Framework

variable {F : Type} [Platform F]

/-! ### Stations -/

/-- A message that was handed to the network interface, and the time that is written to it if it is a
Sync. -/
structure Transmission where
  message : PTPMessage
  time : Timestamp

/-- What a station handles on its own, and what `IEEE1588Clock::getTime` returns meanwhile. -/
structure StationInput where
  input : Input
  time : Timestamp

/-- What the platform of a receiver adds to a frame: the answers of the operating system, the RX
timestamp if there is one, and the memory the frame is copied over. -/
structure Arrival where
  env : Env
  rx : Option Timestamp
  stack : Mem

variable (F) in
/-- The frame of a transmission. -/
def Transmission.frame (t : Transmission) : Frame := t.message.frame F t.time

namespace Daemon

/-- What has been transmitted in the current step. -/
def transmissions (time : Timestamp) (d : Daemon F) : List Transmission := d.sends.map (⟨·, time⟩)

/-- The input that a frame becomes, if it can be decoded. -/
def heard (t : Transmission) (a : Arrival) (d : Daemon F) : Option Input :=
  (buildPTPMessage F ((t.frame F).buffer a.stack) (t.frame F).received a.rx).map fun msg =>
    ⟨.receive msg d.port.linkSpeed, a.env⟩

end Daemon

variable (F) in
/-- A daemon as a node. Nothing but a Sync carries a time, and no message is answered by one. -/
def station : NodeModel (Daemon F) StationInput Transmission Arrival where
  enabled d x := (∀ msg linkSpeed, x.input.stimulus ≠ .receive msg linkSpeed) ∧ d.enabled x.input
  act d x := (d.step x.input, (d.step x.input).transmissions x.time)
  receive d t a := match d.heard t a with
    | none => (d, [])
    | some i => (d.step i, (d.step i).transmissions .zero)

instance (x : Stimulus) : Decidable (∀ msg linkSpeed, x ≠ .receive msg linkSpeed) :=
  match x with
  | .receive msg linkSpeed => isFalse fun h => h msg linkSpeed rfl
  | .event _ => isTrue fun _ _ h => Stimulus.noConfusion h
  | .timer _ => isTrue fun _ _ h => Stimulus.noConfusion h
  | .setLinkSpeed _ => isTrue fun _ _ h => Stimulus.noConfusion h

instance (d : Daemon F) (x : StationInput) : Decidable ((station F).enabled d x) :=
  inferInstanceAs (Decidable (_ ∧ d.enabled x.input))

namespace Daemon

/-- What `heard` comes to, without the octets of the frame. -/
def understood (t : Transmission) (a : Arrival) (d : Daemon F) : Option Input :=
  if t.message.Fits then
    (t.message.decoded F t.time ((t.frame F).buffer a.stack) a.rx).map fun msg =>
      ⟨.receive msg d.port.linkSpeed, a.env⟩
  else d.heard t a

theorem heard_eq_understood (t : Transmission) (a : Arrival) (d : Daemon F) :
    d.heard t a = d.understood t a := by
  unfold understood
  split
  · rename_i hfits
    unfold heard Transmission.frame
    rw [PTPMessage.buildPTPMessage_frame hfits]
  · rfl

end Daemon

variable (F) in
/-- A station that is given messages in place of frames. -/
def messageStation : NodeModel (Daemon F) StationInput Transmission Arrival where
  enabled := (station F).enabled
  act := (station F).act
  receive d t a := match d.understood t a with
    | none => (d, [])
    | some i => (d.step i, (d.step i).transmissions .zero)

/-- Frames are transparent: encoding a message, padding and truncating its frame, and decoding it come to
handing over the message. -/
theorem station_eq_messageStation : station F = messageStation F := by
  have hreceive : (station F).receive = (messageStation F).receive := by
    funext d t a
    unfold station messageStation
    dsimp only
    rw [d.heard_eq_understood t a]
  exact congrArg (NodeModel.mk (station F).enabled (station F).act) hreceive

/-- What a frame does to a station is one turn of the loop of its listening thread. -/
theorem station_receive_fst (d : Daemon F) (t : Transmission) (a : Arrival) :
    ((station F).receive d t a).1 = (d.listen a.env (.succeed (t.frame F) a.rx a.stack)).1 := by
  unfold station Daemon.heard Daemon.listen Daemon.processBuffer
  dsimp only
  cases buildPTPMessage F ((t.frame F).buffer a.stack) (t.frame F).received a.rx <;> rfl

/-- The state of a segment, and what can happen on it. -/
abbrev Segment (ι F : Type) := Network ι (Daemon F) Transmission

abbrev SegmentInput (ι : Type) := NetworkInput ι StationInput Arrival

variable {ι : Type} [DecidableEq ι]

variable (F ι) in
/-- The stations of a segment, interleaved. -/
abbrev segment : Machine (Segment ι F) (SegmentInput ι) := (station F).network

instance (s : Segment ι F) (x : SegmentInput ι) : Decidable ((segment F ι).enabled s x) :=
  inferInstanceAs (Decidable ((station F).networkEnabled s x))

/-- The stations as they are started, before anything has been transmitted. -/
def Segment.start (s : ι → Start F) : Segment ι F where
  node i := (s i).daemon
  sent := []

/-! ### Promises -/

variable (F) in
/-- What the messages of a station with the given configuration have in common. A Signalling message does
not name its source; an Announce has the attributes of the station, whatever grandmaster it names. -/
def Promises (clock : ClockConfig) (port : PortConfig) : PTPMessage → Prop
  | .signalling _ => True
  | .announce m => m.sourcePortIdentity = port.portIdentity ∧
    m.grandmaster = { clock.ownGrandmaster with clockIdentity := m.grandmasterIdentity } ∧
    m.stepsRemoved = 0 ∧ m.pathTrace = [clock.clockIdentity]
  | .followUp m => m.sourcePortIdentity = port.portIdentity ∧ m.correctionField = 0 ∧
    m.tlv.cumulativeScaledRateOffset = (FollowUpTLV.init F).cumulativeScaledRateOffset
  | m => m.common.sourcePortIdentity = port.portIdentity

/-- Every message of a station fits into the receive buffer of another. -/
theorem Promises.fits {clock : ClockConfig} {port : PortConfig} {m : PTPMessage}
    (h : Promises F clock port m) : m.Fits := by
  cases m with
  | announce m =>
    obtain ⟨-, -, -, htrace⟩ := h
    change m.payloadLength ≤ Frame.bufferSize
    rw [PTPMessageAnnounce.payloadLength_eq, htrace]
    exact (show 76 ≤ 128 by omega)
  | sync m => exact (show 44 ≤ 128 by omega)
  | followUp m => exact (show 76 ≤ 128 by omega)
  | signalling m => exact (show 60 ≤ 128 by omega)
  | pathDelayReq m => exact (show 54 ≤ 128 by omega)
  | pathDelayResp m => exact (show 54 ≤ 128 by omega)
  | pathDelayRespFollowUp m => exact (show 54 ≤ 128 by omega)

namespace Daemon

/-- **What a step sends keeps the promises.** -/
theorem promises_of_transmits {d : Daemon F} {i : Input} {w : List PTPMessage × SequenceIds}
    (h : Transmits d i w) : ∀ m ∈ w.1, Promises F d.clock.cfg d.port.cfg m := by
  have hsync : Promises F d.clock.cfg d.port.cfg (.sync (d.syncMessage i.env)) := rfl
  intro m hm
  cases h with
  | silent he => cases hm
  | response hi hreq hstate => rcases List.mem_pair.mp hm with rfl | rfl <;> exact rfl
  | event he h =>
    cases h with
    | silent | halted => cases hm
    | signalling he s hs =>
      obtain rfl := List.mem_singleton.mp hm
      exact trivial
    | announce =>
      obtain rfl := List.mem_singleton.mp hm
      exact ⟨rfl, rfl, rfl, rfl⟩
    | sync =>
      obtain rfl := List.mem_singleton.mp hm
      exact hsync
    | syncFollowUp =>
      rcases List.mem_pair.mp hm with rfl | rfl
      · exact hsync
      · exact ⟨rfl, rfl, rfl⟩
    | request =>
      obtain rfl := List.mem_singleton.mp hm
      exact rfl

theorem promises_step (d : Daemon F) (i : Input) :
    ∀ m ∈ (d.step i).sends, Promises F d.clock.cfg d.port.cfg m :=
  promises_of_transmits (d.transmits_step i)

theorem promises_transmissions (d : Daemon F) (i : Input) (time : Timestamp) :
    ∀ t ∈ (d.step i).transmissions time, Promises F d.clock.cfg d.port.cfg t.message := by
  intro t ht
  obtain ⟨m, hm, rfl⟩ := List.mem_map.mp ht
  exact d.promises_step i m hm

end Daemon

/-! ### What happens in a step -/

/-- In a step of a segment, station `i` handles an input: one of its own, or what a copy of an earlier
transmission of another station becomes. -/
inductive Handles (s : Segment ι F) (x : SegmentInput ι) (i : ι) (input : Input) : Prop
  | act (time : Timestamp) (hx : x = .act i ⟨input, time⟩) (henabled : (s.node i).enabled input)
      (hlocal : ∀ msg linkSpeed, input.stimulus ≠ .receive msg linkSpeed)
  | hear (t : ℕ) (a : Arrival) (c : ι) (sent : Transmission) (hx : x = .deliver i t a)
      (hsent : s.sent[t]? = some (c, sent)) (hother : c ≠ i)
      (hheard : (s.node i).heard sent a = some input)

/-- A copy of transmission `t`, of station `c`, reaches station `i` as `msg`. -/
structure Hears (s : Segment ι F) (x : SegmentInput ι) (i c : ι) (t : ℕ) (a : Arrival)
    (sent msg : PTPMessage) : Prop where
  deliver : x = .deliver i t a
  transmitted : ∃ time, s.sent[t]? = some (c, ⟨sent, time⟩)
  other : c ≠ i
  arrives : sent.Arrives a.rx msg

/-- The station and the input that it handles in a step of a segment, if any. -/
def Segment.handled (s : Segment ι F) : SegmentInput ι → Option (ι × Input)
  | .act i x => some (i, x.input)
  | .deliver i t a => s.sent[t]?.bind fun e => ((s.node i).understood e.2 a).map (i, ·)

namespace Handles

variable {s : Segment ι F} {x : SegmentInput ι} {i : ι} {input : Input}

omit [DecidableEq ι] in
theorem node_eq (h : Handles s x i input) : x.node = i := by
  cases h with
  | act time hx => rw [hx]; rfl
  | hear t a c sent hx => rw [hx]; rfl

omit [DecidableEq ι] in
theorem reaction (h : Handles s x i input) :
    ∃ time, (station F).reaction s x =
      ((s.node i).step input, ((s.node i).step input).transmissions time) := by
  cases h with
  | act time hx => exact ⟨time, by rw [hx]; rfl⟩
  | hear t a c sent hx hsent hother hheard =>
    refine ⟨.zero, ?_⟩
    rw [hx, NodeModel.reaction_deliver a hsent]
    unfold station
    dsimp only
    rw [hheard]

omit [DecidableEq ι] in
theorem handled (h : Handles s x i input) : Segment.handled s x = some (i, input) := by
  cases h with
  | act time hx => rw [hx]; rfl
  | hear t a c sent hx hsent hother hheard =>
    rw [hx, Segment.handled, hsent, Option.bind_some, ← Daemon.heard_eq_understood, hheard]
    rfl

omit [DecidableEq ι] in
/-- A station handles one input at a time. -/
theorem unique {input' : Input} (h : Handles s x i input) (h' : Handles s x i input') :
    input = input' := by
  obtain ⟨-, heq⟩ := Prod.mk.inj (Option.some.inj (h.handled.symm.trans h'.handled))
  exact heq

omit [DecidableEq ι] in
/-- A message that is handled has been heard. -/
theorem hears (h : Handles s x i input) (hfits : ∀ i t, (i, t) ∈ s.sent → t.message.Fits)
    {msg : PTPMessage} {linkSpeed : UInt32} (hinput : input.stimulus = .receive msg linkSpeed) :
    linkSpeed = (s.node i).port.linkSpeed ∧ ∃ c t a sent, Hears s x i c t a sent msg := by
  cases h with
  | act time hx henabled hlocal => exact absurd hinput (hlocal msg linkSpeed)
  | hear t a c sent hx hsent hother hheard =>
    unfold Daemon.heard at hheard
    obtain ⟨msg', hdecode, rfl⟩ := Option.map_eq_some_iff.mp hheard
    obtain ⟨rfl, rfl⟩ := Stimulus.receive.inj hinput
    have harrives := PTPMessage.arrives (hfits c sent (List.mem_of_getElem? hsent)) hdecode
    exact ⟨rfl, c, t, a, sent.message, hx, ⟨sent.time, hsent⟩, hother, harrives⟩

end Handles

omit [DecidableEq ι] in
/-- A deliverable step is one in which a daemon handles an input, or nothing happens. -/
theorem handles_of_enabled {s : Segment ι F} {x : SegmentInput ι}
    (henabled : (station F).networkEnabled s x) :
    (station F).reaction s x = (s.node x.node, []) ∨ ∃ input, Handles s x x.node input := by
  cases x with
  | act i x => exact .inr ⟨x.input, .act x.time rfl henabled.2 henabled.1⟩
  | deliver i t a =>
    obtain ⟨c, sent, hsent, hother⟩ := henabled
    cases hheard : (s.node i).heard sent a with
    | none =>
      refine .inl ?_
      rw [NodeModel.reaction_deliver a hsent]
      unfold station
      dsimp only
      rw [hheard]
      rfl
    | some input => exact .inr ⟨input, .hear t a c sent rfl hsent hother hheard⟩

omit [DecidableEq ι] in
theorem handles_of_handled {s : Segment ι F} {x : SegmentInput ι} {i : ι} {input : Input}
    (henabled : (station F).networkEnabled s x) (h : Segment.handled s x = some (i, input)) :
    Handles s x i input := by
  cases x with
  | act j x =>
    obtain ⟨rfl, rfl⟩ := Prod.mk.inj (Option.some.inj h)
    exact .act x.time rfl henabled.2 henabled.1
  | deliver j t a =>
    obtain ⟨c, sent, hsent, hother⟩ := henabled
    rw [Segment.handled, hsent, Option.bind_some, ← Daemon.heard_eq_understood] at h
    obtain ⟨input', hheard, heq⟩ := Option.map_eq_some_iff.mp h
    obtain ⟨rfl, rfl⟩ := Prod.mk.inj heq
    exact .hear t a c sent rfl hsent hother hheard

/-! ### Runs -/

/-- The segment after `k` steps. -/
abbrev Segment.run (s : ι → Start F) (σ : ℕ → SegmentInput ι) (k : ℕ) : Segment ι F :=
  (segment F ι).stateAt (Segment.start s) σ k

/-- A run, without the octets of the frames. -/
theorem run_eq_messageStation (s : ι → Start F) (σ : ℕ → SegmentInput ι) (k : ℕ) :
    Segment.run s σ k = (messageStation F).network.stateAt (Segment.start s) σ k := by
  rw [Segment.run, segment, station_eq_messageStation]

/-- The daemon has the configuration it was started with. -/
def Daemon.Configured (s : Start F) (d : Daemon F) : Prop :=
  d.clock.cfg = s.clockConfig ∧ d.port.cfg = s.portConfig

theorem Daemon.Configured.step {s : Start F} {d : Daemon F} (h : d.Configured s) (i : Input) :
    (d.step i).Configured s :=
  ⟨(d.step_cfg i).1.trans h.1, (d.step_cfg i).2.trans h.2⟩

section Runs

variable {s : ι → Start F} {σ : ℕ → SegmentInput ι} {n k : ℕ} {i : ι}

theorem node_run_of_handles {input : Input} (h : Handles (Segment.run s σ k) (σ k) i input) :
    (Segment.run s σ (k + 1)).node i = ((Segment.run s σ k).node i).step input := by
  obtain ⟨time, hreaction⟩ := h.reaction
  obtain rfl := h.node_eq
  exact (NodeModel.step_node_self (σ k)).trans (congrArg Prod.fst hreaction)

variable (hdelivers : (segment F ι).Delivers (Segment.start s) σ n)

include hdelivers

/-- A station changes in its own turns only, by steps of its daemon. -/
theorem node_run_succ (hk : k < n) (i : ι) :
    (Segment.run s σ (k + 1)).node i = (Segment.run s σ k).node i ∨
      ∃ input, Handles (Segment.run s σ k) (σ k) i input := by
  by_cases hi : i = (σ k).node
  · subst hi
    refine (handles_of_enabled (hdelivers k hk)).imp_left fun hdeaf => ?_
    exact (NodeModel.step_node_self (σ k)).trans (congrArg Prod.fst hdeaf)
  · exact .inl (NodeModel.step_node_of_ne hi)

/-- **Promises are kept.** In every run each station keeps its configuration, and what it has transmitted
is as `Promises` says. -/
theorem segment_promises (hk : k ≤ n) :
    (∀ i, ((Segment.run s σ k).node i).Configured (s i)) ∧
      ∀ i t, (i, t) ∈ (Segment.run s σ k).sent →
        Promises F (s i).clockConfig (s i).portConfig t.message := by
  refine NodeModel.guarantee (s := Segment.start s) (P := fun i (d : Daemon F) => d.Configured (s i))
    (Q := fun i (t : Transmission) => Promises F (s i).clockConfig (s i).portConfig t.message)
    (fun i => (s i).daemon_cfg) rfl ?_ ?_ hdelivers k hk
  · rintro i d x ⟨hclock, hport⟩ -
    refine ⟨Daemon.Configured.step ⟨hclock, hport⟩ _, ?_⟩
    rw [← hclock, ← hport]
    exact d.promises_transmissions x.input x.time
  · rintro i j d t a - ⟨hclock, hport⟩ -
    unfold station
    dsimp only
    cases d.heard t a with
    | none => exact ⟨⟨hclock, hport⟩, fun m hm => absurd hm List.not_mem_nil⟩
    | some input =>
      refine ⟨Daemon.Configured.step ⟨hclock, hport⟩ _, ?_⟩
      rw [← hclock, ← hport]
      exact d.promises_transmissions input .zero

theorem configured_run (hk : k ≤ n) (i : ι) : ((Segment.run s σ k).node i).Configured (s i) :=
  (segment_promises hdelivers hk).1 i

/-- What a station has heard, another station has transmitted under its promise. -/
theorem hears_of_handles (hk : k < n) {input : Input} {msg : PTPMessage} {linkSpeed : UInt32}
    (h : Handles (Segment.run s σ k) (σ k) i input)
    (hinput : input.stimulus = .receive msg linkSpeed) :
    linkSpeed = ((Segment.run s σ k).node i).port.linkSpeed ∧
      ∃ c t a sent, Hears (Segment.run s σ k) (σ k) i c t a sent msg ∧
        Promises F (s c).clockConfig (s c).portConfig sent := by
  have hpromises := (segment_promises hdelivers hk.le).2
  obtain ⟨hspeed, c, t, a, sent, hhears⟩ :=
    h.hears (fun i t ht => (hpromises i t ht).fits) hinput
  obtain ⟨time, hsent⟩ := hhears.transmitted
  exact ⟨hspeed, c, t, a, sent, hhears, hpromises c _ (List.mem_of_getElem? hsent)⟩

/-- **Origin of a slot's value.** If a step of a daemon leaves a value in a slot only if the value was
there before or the step fills it, then a value found in the slot of a station was put there in an
earlier turn of the station, and has been there since. -/
theorem slot_run {α : Type} (slot : Daemon F → Option α) (fills : Daemon F → Input → α → Prop)
    (h₀ : slot (s i).daemon = none)
    (hstep : ∀ d input a, slot (d.step input) = some a → slot d = some a ∨ fills d input a)
    (hk : k ≤ n) {a : α} (ha : slot ((Segment.run s σ k).node i) = some a) :
    ∃ j < k, (∃ input, Handles (Segment.run s σ j) (σ j) i input ∧
        fills ((Segment.run s σ j).node i) input a) ∧
      ∀ l, j < l → l ≤ k → slot ((Segment.run s σ l).node i) = some a := by
  induction k with
  | zero => exact absurd (h₀.symm.trans ha) nofun
  | succ k ih =>
    -- the value was there already, or this step has filled the slot
    have hcases : slot ((Segment.run s σ k).node i) = some a ∨
        ∃ input, Handles (Segment.run s σ k) (σ k) i input ∧
          fills ((Segment.run s σ k).node i) input a := by
      rcases node_run_succ hdelivers hk i with hnode | ⟨input, h⟩
      · exact .inl (hnode ▸ ha)
      · rw [node_run_of_handles h] at ha
        exact (hstep _ input a ha).imp_right fun hfills => ⟨input, h, hfills⟩
    rcases hcases with hold | hnew
    · obtain ⟨j, hj, hfills, hsince⟩ := ih (Nat.le_of_succ_le hk) hold
      refine ⟨j, hj.trans (Nat.lt_succ_self k), hfills, fun l hl hlk => ?_⟩
      rcases Nat.lt_or_eq_of_le hlk with hlt | rfl
      · exact hsince l hl (Nat.le_of_lt_succ hlt)
      · exact ha
    · refine ⟨k, Nat.lt_succ_self k, hnew, fun l hl hlk => ?_⟩
      obtain rfl : l = k + 1 := Nat.le_antisymm hlk hl
      exact ha

/-- A property of one station that every turn of the station keeps: from the position where it holds on, it
holds. -/
theorem stable_run {P : Daemon F → Prop}
    (hstep : ∀ k < n, ∀ input, Handles (Segment.run s σ k) (σ k) i input →
      P ((Segment.run s σ k).node i) → P (((Segment.run s σ k).node i).step input))
    {j : ℕ} (hj : P ((Segment.run s σ j).node i)) (hjk : j ≤ k) (hk : k ≤ n) :
    P ((Segment.run s σ k).node i) := by
  refine Machine.invariant_from (M := segment F ι) (P := fun t : Segment ι F => P (t.node i)) hjk hj ?_
  intro l _ hlk hinv
  have hl : l < n := hlk.trans_le hk
  change P ((Segment.run s σ (l + 1)).node i)
  rcases node_run_succ hdelivers hl i with hnode | ⟨input, h⟩
  · rw [hnode]
    exact hinv
  · rw [node_run_of_handles h]
    exact hstep l hl input h hinv

/-- An invariant of one station: it holds at the start, and every turn of the station keeps it. -/
theorem invariant_run {P : Daemon F → Prop} (h₀ : P (s i).daemon)
    (hstep : ∀ k < n, ∀ input, Handles (Segment.run s σ k) (σ k) i input →
      P ((Segment.run s σ k).node i) → P (((Segment.run s σ k).node i).step input)) :
    ∀ k ≤ n, P ((Segment.run s σ k).node i) :=
  fun k hk => stable_run hdelivers hstep (j := 0) h₀ (Nat.zero_le k) hk

end Runs

/-- The type of the message that an input is, if it is one. -/
def Input.messageType (i : Input) : Option MessageType :=
  match i.stimulus with
  | .receive msg _ => some msg.messageType
  | _ => none

theorem Input.receive_of_messageType {i : Input} {type : MessageType}
    (h : i.messageType = some type) :
    ∃ msg linkSpeed, i.stimulus = .receive msg linkSpeed ∧ msg.messageType = type := by
  unfold messageType at h
  cases hi : i.stimulus with
  | receive msg linkSpeed =>
    rw [hi] at h
    exact ⟨msg, linkSpeed, rfl, Option.some.inj h⟩
  | event | timer | setLinkSpeed =>
    rw [hi] at h
    cases h

/-- A message of a given type is handled, which can be found out by running the stations without
frames. -/
theorem exists_handles_of_messageType {s : ι → Start F} {σ : ℕ → SegmentInput ι} {n k : ℕ} {i : ι}
    (type : MessageType) (hdelivers : (segment F ι).Delivers (Segment.start s) σ n) (hk : k < n)
    (h : (Segment.handled ((messageStation F).network.stateAt (Segment.start s) σ k) (σ k)).map
      (fun e => (e.1, e.2.messageType)) = some (i, some type)) :
    ∃ input msg linkSpeed, Handles (Segment.run s σ k) (σ k) i input ∧
      input.stimulus = .receive msg linkSpeed ∧ msg.messageType = type := by
  rw [← run_eq_messageStation] at h
  obtain ⟨⟨j, input⟩, hhandled, heq⟩ := Option.map_eq_some_iff.mp h
  obtain ⟨rfl, htype⟩ := Prod.mk.inj heq
  obtain ⟨msg, linkSpeed, hinput, rfl⟩ := Input.receive_of_messageType htype
  exact ⟨input, msg, linkSpeed, handles_of_handled (hdelivers k hk) hhandled, hinput, rfl⟩

/-! ### A segment of two stations -/

/-- Two stations whose saved state says that the link is capable: a master, and a clock that has not found its
role yet and whose priority is lower. -/
def twoStations : Bool → Start ℚ
  | false =>
    { Start.capable (some .ptpMaster) with
      clockConfig := { ClockConfig.standard localIdentity with priority1 := 200 } }
  | true =>
    { Start.capable none with
      clockConfig := .standard neighborIdentity
      portConfig := .standard neighborIdentity }

/-- A platform that reports `ns` nanoseconds past a full second as the time of a transmission. -/
def Env.sentAt (ns secs : UInt32) : Env := { Env.standard with txTimestamp := some ⟨ns, secs, 0, 0⟩ }

/-- A station handles a stimulus, and what it sends leaves at the given time. -/
def SegmentInput.at (i : Bool) (stimulus : Stimulus) (ns secs : UInt32) : SegmentInput Bool :=
  .act i ⟨⟨stimulus, .sentAt ns secs⟩, .zero⟩

/-- A copy of transmission `t` arrives at the given time, and what is sent in return leaves a microsecond
later. -/
def SegmentInput.arrival (i : Bool) (t : ℕ) (ns secs : UInt32) : SegmentInput Bool :=
  .deliver i t ⟨.sentAt (ns + 1000) secs, some ⟨ns, secs, 0, 0⟩, fun _ => 0⟩

/-- The master announces itself and the other station follows it; the master sends a Sync and its
Follow_Up, and measures the delay of the link. The clock of the slave is 700 nanoseconds ahead, and every
message takes 100 nanoseconds. -/
def twoStationsRun : ℕ → SegmentInput Bool
  | 0 => .at false (.event .powerup) 0 0
  | 1 => .at false (.timer 0) 0 0
  | 2 => .arrival true 0 0 0
  | 3 => .at true (.timer 0) 0 0
  | 4 => .at false (.timer 0) 0 1
  | 5 => .arrival true 1 800 1
  | 6 => .arrival true 2 900 1
  | 7 => .at false (.timer 1) 0 2
  | 8 => .arrival true 3 800 2
  | 9 => .arrival false 4 1200 2
  | _ => .arrival false 5 1300 2

theorem delivers_twoStations :
    (segment ℚ Bool).Delivers (Segment.start twoStations) twoStationsRun 11 := by
  have hdelivers : ∀ k < 11, (station ℚ).networkEnabled
      ((messageStation ℚ).network.stateAt (Segment.start twoStations) twoStationsRun k)
      (twoStationsRun k) := by decide +kernel
  intro k hk
  have henabled := hdelivers k hk
  rw [← run_eq_messageStation] at henabled
  exact henabled

end Gptp
