import Gptp.Segment.Model

/-!
# Where a transmission comes from

What a station of a segment hears was transmitted by a step of another station, and a receiver has
nothing but the source and the sequence number of a message to tell which step that was. The numbers are
counters of 16 bits, so they tell as long as the counter has not come round.

* `sent_origin`: a transmission comes from a step of its sender.
* `Departs`, `Lands`: the times at which a message leaves and a copy of it arrives.
* `eq_of_sequenceId`: steps of one station that use the same number are the same step, up to 65536 of them.
-/

namespace Gptp

open Framework

variable {F : Type} [Platform F] {ι : Type} [DecidableEq ι]

/-- The event that a station is made to handle in a step of a segment, if any. -/
def Segment.handledEvent (s : Segment ι F) : SegmentInput ι → Option (ι × Event)
  | .act i x => ((s.node i).handledEvent x.input).map (i, ·)
  | .deliver _ _ _ => none

omit [DecidableEq ι] in
theorem Handles.handledEvent {s : Segment ι F} {x : SegmentInput ι} {i : ι} {input : Input}
    (h : Handles s x i input) :
    Segment.handledEvent s x = ((s.node i).handledEvent input).map (i, ·) := by
  cases h with
  | act time hx => rw [hx]; rfl
  | hear t a c sent hx hsent hother hheard =>
    unfold Daemon.heard at hheard
    obtain ⟨msg, -, rfl⟩ := Option.map_eq_some_iff.mp hheard
    rw [hx]
    rfl

omit [DecidableEq ι] in
theorem handles_of_handledEvent {s : Segment ι F} {x : SegmentInput ι} {i : ι} {e : Event}
    (henabled : (station F).networkEnabled s x) (he : Segment.handledEvent s x = some (i, e)) :
    ∃ input, Handles s x i input ∧ (s.node i).handledEvent input = some e := by
  cases x with
  | act j x =>
    obtain ⟨e', he', heq⟩ := Option.map_eq_some_iff.mp he
    obtain ⟨rfl, rfl⟩ := Prod.mk.inj heq
    exact ⟨x.input, .act x.time rfl henabled.2 henabled.1, he'⟩
  | deliver j t a => cases he

/-! ### Times -/

/-- The first message that is sent in a step, as a transmission of its sender. The platform reports the time
at which it has left, and whether that time was obtained. -/
structure Departure (ι : Type) where
  transmission : ℕ
  sender : ι
  message : PTPMessage
  tx : Timestamp × Bool

/-- A copy of a transmission reaches a station at some time. -/
structure Landing (ι : Type) where
  transmission : ℕ
  receiver : ι
  rx : Timestamp

namespace Segment

def departure (s : Segment ι F) (x : SegmentInput ι) : Option (Departure ι) :=
  (s.handled x).bind fun e => ((s.node e.1).step e.2).sends[0]?.map fun m =>
    ⟨s.sent.length, e.1, m, (s.node e.1).getTxTimestamp e.2.env⟩

def landing (s : Segment ι F) : SegmentInput ι → Option (Landing ι)
  | .act _ _ => none
  | .deliver i t a => a.rx.map fun ts =>
    ⟨t, i, Daemon.rxCompensate (s.node i).port.cfg (s.node i).port.linkSpeed ts⟩

end Segment

/-- In step `p` station `c` sends `m` as transmission `t`, which leaves at `tx`. -/
def Departs (s : ι → Start F) (σ : ℕ → SegmentInput ι) (p t : ℕ) (c : ι) (m : PTPMessage)
    (tx : Timestamp × Bool) : Prop :=
  (Segment.run s σ p).departure (σ p) = some ⟨t, c, m, tx⟩

/-- In step `j` a copy of transmission `t` reaches station `i` at the time `rx`. -/
def Lands (s : ι → Start F) (σ : ℕ → SegmentInput ι) (j t : ℕ) (i : ι) (rx : Timestamp) : Prop :=
  (Segment.run s σ j).landing (σ j) = some ⟨t, i, rx⟩

section Times

variable {s : ι → Start F} {σ : ℕ → SegmentInput ι} {p j t : ℕ} {i c : ι}

theorem departs_of_handles {input : Input} {m : PTPMessage} {tx : Timestamp × Bool}
    (h : Handles (Segment.run s σ p) (σ p) c input)
    (hm : (((Segment.run s σ p).node c).step input).sends[0]? = some m)
    (htx : ((Segment.run s σ p).node c).getTxTimestamp input.env = tx) :
    Departs s σ p (Segment.run s σ p).sent.length c m tx := by
  unfold Departs Segment.departure
  rw [h.handled, Option.bind_some, hm, htx]
  rfl

/-- A message whose time of transmission was not obtained is given the time INVALID_TIMESTAMP. -/
theorem Departs.tx_of_failed {m : PTPMessage} {tx : Timestamp × Bool} (h : Departs s σ p t c m tx)
    (hfailed : tx.2 = false) : tx.1 = Timestamp.invalid := by
  obtain ⟨e, -, hmap⟩ := Option.bind_eq_some_iff.mp h
  obtain ⟨m', -, heq⟩ := Option.map_eq_some_iff.mp hmap
  obtain ⟨-, -, -, rfl⟩ := Departure.mk.inj heq
  exact Daemon.getTxTimestamp_of_failed hfailed

theorem lands_of_deliver {a : Arrival} {ts : Timestamp} (hdeliver : σ j = .deliver i t a)
    (hrx : a.rx = some ts) :
    Lands s σ j t i (Daemon.rxCompensate ((Segment.run s σ j).node i).port.cfg
      ((Segment.run s σ j).node i).port.linkSpeed ts) := by
  unfold Lands Segment.landing
  rw [hdeliver]
  dsimp only
  rw [hrx, Option.map_some]

theorem Lands.delivery {rx : Timestamp} (h : Lands s σ j t i rx) : (σ j).delivery = some (i, t) := by
  unfold Lands Segment.landing at h
  cases hx : σ j with
  | act i x =>
    rw [hx] at h
    cases h
  | deliver i t a =>
    rw [hx] at h
    obtain ⟨ts, -, heq⟩ := Option.map_eq_some_iff.mp h
    obtain ⟨rfl, rfl, -⟩ := Landing.mk.inj heq
    rfl

end Times

/-- In step `k` station `c` handles `e` in a state that is `capable`. -/
def Counts (s : ι → Start F) (σ : ℕ → SegmentInput ι) (c : ι) (e : Event) (capable : Daemon F → Bool)
    (k : ℕ) : Prop :=
  Segment.handledEvent (Segment.run s σ k) (σ k) = some (c, e) ∧
    capable ((Segment.run s σ k).node c) = true

instance (s : ι → Start F) (σ : ℕ → SegmentInput ι) (c : ι) (e : Event) (capable : Daemon F → Bool) :
    DecidablePred (Counts s σ c e capable) :=
  fun _ => inferInstanceAs (Decidable (_ ∧ _))

theorem counts_iff {s : ι → Start F} {σ : ℕ → SegmentInput ι} {c : ι} {e : Event}
    {capable : Daemon F → Bool} {k : ℕ} {input : Input}
    (h : Handles (Segment.run s σ k) (σ k) c input) :
    Counts s σ c e capable k ↔ ((Segment.run s σ k).node c).handledEvent input = some e ∧
      capable ((Segment.run s σ k).node c) = true := by
  unfold Counts
  rw [h.handledEvent]
  refine and_congr_left fun _ => ⟨fun he => ?_, fun he => ?_⟩
  · obtain ⟨e', he', heq⟩ := Option.map_eq_some_iff.mp he
    obtain ⟨-, rfl⟩ := Prod.mk.inj heq
    exact he'
  · rw [he]
    rfl

/-! ### Runs -/

section Runs

variable {s : ι → Start F} {σ : ℕ → SegmentInput ι} {n k : ℕ} {i c : ι}
  (hdelivers : (segment F ι).Delivers (Segment.start s) σ n)

include hdelivers

/-- **Origin of a transmission.** It is one of the messages that a step of its sender has sent. -/
theorem sent_origin (hk : k ≤ n) {t : ℕ} {sent : Transmission}
    (ht : (Segment.run s σ k).sent[t]? = some (c, sent)) :
    ∃ p < k, ∃ input q, Handles (Segment.run s σ p) (σ p) c input ∧
      (((Segment.run s σ p).node c).step input).sends[q]? = some sent.message ∧
      t = (Segment.run s σ p).sent.length + q := by
  obtain ⟨p, hp, hnode, q, hq, rfl⟩ := NodeModel.exists_emission (N := station F) rfl ht
  refine ⟨p, hp, ?_⟩
  rcases handles_of_enabled (hdelivers p (hp.trans_le hk)) with hdeaf | ⟨input, h⟩
  · -- a step in which nothing happens transmits nothing
    rw [hdeaf] at hq
    cases hq
  · obtain ⟨time, hreaction⟩ := h.reaction
    rw [hreaction] at hq
    change (List.map _ _)[q]? = _ at hq
    rw [List.getElem?_map] at hq
    obtain ⟨m, hm, rfl⟩ := Option.map_eq_some_iff.mp hq
    rw [hnode] at h hm
    exact ⟨input, q, h, hm, rfl⟩

/-- **Sequence numbers tell steps apart.** A counter of a station advances with the events of one kind that
find the station capable. Two such events that find the counter at the same number are the same, if there
are at most 65536 of them. -/
theorem eq_of_sequenceId (counter : Daemon F → UInt16) (capable : Daemon F → Bool) {e : Event}
    (hstep : ∀ d input, counter (d.step input) =
      if d.handledEvent input = some e ∧ capable d = true then counter d + 1 else counter d)
    (hcount : Nat.count (Counts s σ c e capable) n ≤ 65536)
    {j : ℕ} (hj : j < n) (hk : k < n) (hcj : Counts s σ c e capable j) (hck : Counts s σ c e capable k)
    (heq : counter ((Segment.run s σ j).node c) = counter ((Segment.run s σ k).node c)) : j = k := by
  refine eq_of_counter_eq (n := n) (c := fun k => counter ((Segment.run s σ k).node c)) (· + 1)
    (Counts s σ c e capable) (fun k hk => ?_) ?_ hcount hj hk hcj hck heq
  · -- the counter advances in the turns of the station
    by_cases hturn : ∃ input, Handles (Segment.run s σ k) (σ k) c input
    · obtain ⟨input, h⟩ := hturn
      rw [node_run_of_handles h, hstep]
      exact if_congr (counts_iff h).symm rfl rfl
    · rw [(node_run_succ hdelivers hk c).resolve_right hturn]
      refine (if_neg ?_).symm
      rintro ⟨he, -⟩
      obtain ⟨input, h, -⟩ := handles_of_handledEvent (hdelivers k hk) he
      exact hturn ⟨input, h⟩
  · exact injOn_iterate_add_one_uint16 _

end Runs

end Gptp
