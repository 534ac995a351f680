import Gptp.Framework.Machine
import Mathlib.Data.List.Infix
import Mathlib.Data.Nat.Count
import Mathlib.Logic.Function.Iterate

/-!
# Nodes on a network

A network is a family of nodes and the list of everything that has ever been transmitted. In one step
either a node acts on its own, or a copy of some earlier transmission of another node reaches it. What
the node transmits in the step is appended to the list. Nothing is ever taken off the list, and a node
need not be reached by anything: copies may be lost, delayed, reordered and duplicated at will. A result
that needs less than that assumes it of the run.

* `NodeModel.network`: the machine that interleaves the nodes.
* `NodeModel.exists_emission`: what has been transmitted was transmitted by a step of its sender.
* `NodeModel.guarantee`: the assume-guarantee rule. If each node keeps its invariant and its promise
  about what it transmits as long as the other nodes keep theirs, all of them do.
* `eq_of_counter_eq`: two steps that read the same value off a running counter are the same step, unless
  the counter has come round.
-/

namespace Framework

/-- What a node does by itself (`act`) and with a copy of a message (`receive`). Both return what the
node transmits. -/
structure NodeModel (Node Input Msg Arrival : Type) where
  enabled : Node → Input → Prop
  act : Node → Input → Node × List Msg
  receive : Node → Msg → Arrival → Node × List Msg

/-- The nodes of a network, and all transmissions so far with their senders. -/
structure Network (ι Node Msg : Type) where
  node : ι → Node
  sent : List (ι × Msg)

/-- A node acts, or a copy of transmission `t` reaches a node. -/
inductive NetworkInput (ι Input Arrival : Type) where
  | act (i : ι) (x : Input)
  | deliver (i : ι) (t : ℕ) (a : Arrival)

/-- The node whose turn it is. -/
def NetworkInput.node {ι Input Arrival : Type} : NetworkInput ι Input Arrival → ι
  | .act i _ => i
  | .deliver i _ _ => i

/-- The node and the message of which a copy reaches it. -/
def NetworkInput.delivery {ι Input Arrival : Type} : NetworkInput ι Input Arrival → Option (ι × ℕ)
  | .act _ _ => none
  | .deliver i t _ => some (i, t)

namespace NodeModel

variable {ι Node Input Msg Arrival : Type} (N : NodeModel Node Input Msg Arrival)

/-- What becomes of the node whose turn it is, and what it transmits. -/
def reaction (s : Network ι Node Msg) : NetworkInput ι Input Arrival → Node × List Msg
  | .act i x => N.act (s.node i) x
  | .deliver i t a => match s.sent[t]? with
    | some (_, m) => N.receive (s.node i) m a
    | none => (s.node i, [])

variable [DecidableEq ι]

/-- One step of the network. -/
def step (s : Network ι Node Msg) (x : NetworkInput ι Input Arrival) : Network ι Node Msg where
  node := Function.update s.node x.node (N.reaction s x).1
  sent := s.sent ++ (N.reaction s x).2.map (x.node, ·)

/-- A node hears the others, and only what has been transmitted. -/
def networkEnabled (s : Network ι Node Msg) : NetworkInput ι Input Arrival → Prop
  | .act i x => N.enabled (s.node i) x
  | .deliver i t _ => ∃ j m, s.sent[t]? = some (j, m) ∧ j ≠ i

/-- Whether a node hears a transmission. -/
def audible (s : Network ι Node Msg) (i : ι) (t : ℕ) : Bool :=
  s.sent[t]?.any fun e => decide (e.1 ≠ i)

theorem audible_iff {s : Network ι Node Msg} {i : ι} {t : ℕ} :
    audible s i t = true ↔ ∃ j m, s.sent[t]? = some (j, m) ∧ j ≠ i := by
  unfold audible
  cases s.sent[t]? with
  | none => simp
  | some e =>
    obtain ⟨j, m⟩ := e
    simp

instance [∀ d x, Decidable (N.enabled d x)] (s : Network ι Node Msg) :
    (x : NetworkInput ι Input Arrival) → Decidable (N.networkEnabled s x)
  | .act i x => inferInstanceAs (Decidable (N.enabled (s.node i) x))
  | .deliver _ _ _ => decidable_of_iff _ audible_iff

/-- The nodes interleaved. -/
def network : Machine (Network ι Node Msg) (NetworkInput ι Input Arrival) where
  enabled := N.networkEnabled
  step := N.step

variable {N} {s : Network ι Node Msg} {σ : ℕ → NetworkInput ι Input Arrival}

/-! ### One step -/

@[simp] theorem step_node_self (x : NetworkInput ι Input Arrival) :
    (N.step s x).node x.node = (N.reaction s x).1 :=
  Function.update_self ..

theorem step_node_of_ne {x : NetworkInput ι Input Arrival} {i : ι} (h : i ≠ x.node) :
    (N.step s x).node i = s.node i :=
  Function.update_of_ne h ..

omit [DecidableEq ι] in
theorem reaction_deliver {i j : ι} {t : ℕ} {m : Msg} (a : Arrival) (ht : s.sent[t]? = some (j, m)) :
    N.reaction s (.deliver i t a) = N.receive (s.node i) m a := by
  rw [reaction, ht]

/-! ### Transmissions -/

variable (N s σ) in
/-- Step `k` transmits `m` as transmission `t` of node `i`. -/
def Emits (k t : ℕ) (i : ι) (m : Msg) : Prop :=
  (σ k).node = i ∧ ∃ p, (N.reaction (N.network.stateAt s σ k) (σ k)).2[p]? = some m ∧
    t = (N.network.stateAt s σ k).sent.length + p

/-- **Origin of a transmission.** What has been transmitted was transmitted by a step of its sender. -/
theorem exists_emission (hs : s.sent = []) {n t : ℕ} {i : ι} {m : Msg}
    (ht : (N.network.stateAt s σ n).sent[t]? = some (i, m)) : ∃ k < n, N.Emits s σ k t i m := by
  induction n with
  | zero =>
    rw [Machine.stateAt_zero, hs] at ht
    cases ht
  | succ n ih =>
    -- either it was there before the last step, or the last step has appended it
    change ((N.network.stateAt s σ n).sent ++ _)[t]? = _ at ht
    rcases lt_or_ge t (N.network.stateAt s σ n).sent.length with hold | hnew
    · rw [List.getElem?_append_left hold] at ht
      obtain ⟨k, hk, hemits⟩ := ih ht
      exact ⟨k, hk.trans (Nat.lt_succ_self n), hemits⟩
    · rw [List.getElem?_append_right hnew, List.getElem?_map, Option.map_eq_some_iff] at ht
      obtain ⟨m', hm', heq⟩ := ht
      obtain ⟨rfl, rfl⟩ := Prod.mk.inj heq
      exact ⟨n, Nat.lt_succ_self n, rfl, _, hm', (Nat.add_sub_cancel' hnew).symm⟩

/-! ### Assume and guarantee -/

/-- **Assume-guarantee rule.** Every node has an invariant `P` and a promise `Q` about what it transmits.
If acting keeps both, and receiving what another node may transmit under its promise keeps both, they
hold throughout every run. -/
theorem guarantee {P : ι → Node → Prop} {Q : ι → Msg → Prop} {n : ℕ}
    (h₀ : ∀ i, P i (s.node i)) (hs : s.sent = [])
    (hact : ∀ i d x, P i d → N.enabled d x →
      P i (N.act d x).1 ∧ ∀ m ∈ (N.act d x).2, Q i m)
    (hreceive : ∀ i j d m a, j ≠ i → P i d → Q j m →
      P i (N.receive d m a).1 ∧ ∀ m' ∈ (N.receive d m a).2, Q i m')
    (hdelivers : N.network.Delivers s σ n) :
    ∀ k ≤ n, (∀ i, P i ((N.network.stateAt s σ k).node i)) ∧
      ∀ i m, (i, m) ∈ (N.network.stateAt s σ k).sent → Q i m := by
  refine Machine.invariant (M := N.network)
    (P := fun t : Network ι Node Msg => (∀ i, P i (t.node i)) ∧ ∀ i m, (i, m) ∈ t.sent → Q i m)
    ⟨h₀, fun i m hm => ?_⟩ ?_
  · rw [hs] at hm
    cases hm
  rintro k hk ⟨hnodes, hsent⟩
  generalize hsk : N.network.stateAt s σ k = t at hnodes hsent
  have henabled := hdelivers k hk
  rw [hsk] at henabled
  -- the node whose turn it is keeps both
  have hturn : P (σ k).node (N.reaction t (σ k)).1 ∧ ∀ m ∈ (N.reaction t (σ k)).2, Q (σ k).node m := by
    cases hx : σ k with
    | act i x =>
      rw [hx] at henabled
      exact hact i _ x (hnodes i) henabled
    | deliver i p a =>
      rw [hx] at henabled
      obtain ⟨j, m, hm, hne⟩ := henabled
      rw [reaction_deliver a hm]
      exact hreceive i j _ m a hne (hnodes i) (hsent j m (List.mem_of_getElem? hm))
  refine ⟨fun i => ?_, fun i m hm => ?_⟩
  · by_cases hi : i = (σ k).node
    · subst hi
      change P _ ((N.step t (σ k)).node _)
      rw [step_node_self]
      exact hturn.1
    · change P _ ((N.step t (σ k)).node _)
      rw [step_node_of_ne hi]
      exact hnodes i
  · change (i, m) ∈ t.sent ++ _ at hm
    rcases List.mem_append.mp hm with hold | hnew
    · exact hsent i m hold
    · obtain ⟨m', hm', heq⟩ := List.mem_map.mp hnew
      obtain ⟨rfl, rfl⟩ := Prod.mk.inj heq
      exact hturn.2 _ hm'

end NodeModel

/-! ### Running counters -/

/-- A counter that some steps advance has been advanced once for each of them. -/
theorem counter_eq_iterate {α : Type} {next : α → α} {c : ℕ → α} {ticks : ℕ → Prop}
    [DecidablePred ticks] {n : ℕ} (hstep : ∀ k < n, c (k + 1) = if ticks k then next (c k) else c k) :
    ∀ k ≤ n, c k = next^[Nat.count ticks k] (c 0) := by
  intro k
  induction k with
  | zero => exact fun _ => rfl
  | succ k ih =>
    intro hk
    rw [hstep k hk, ih (Nat.le_of_succ_le hk), Nat.count_succ]
    split
    · rw [Function.iterate_succ_apply']
    · rw [Nat.add_zero]

/-- **Running counters.** Two steps that advance the counter and read the same value off it are the same
step, if the counter has not come round. -/
theorem eq_of_counter_eq {α : Type} (next : α → α) {c : ℕ → α} (ticks : ℕ → Prop)
    [DecidablePred ticks] {n period : ℕ}
    (hstep : ∀ k < n, c (k + 1) = if ticks k then next (c k) else c k)
    (hperiod : Set.InjOn (fun k => next^[k] (c 0)) {k | k < period})
    (hcount : Nat.count ticks n ≤ period) {j k : ℕ} (hj : j < n) (hk : k < n) (htj : ticks j)
    (htk : ticks k) (heq : c j = c k) : j = k := by
  have hbelow {l : ℕ} (hl : l < n) (htl : ticks l) : Nat.count ticks l < period :=
    (Nat.count_strict_mono htl hl).trans_le hcount
  rw [counter_eq_iterate hstep j hj.le, counter_eq_iterate hstep k hk.le] at heq
  exact Nat.count_injective htj htk (hperiod (hbelow hj htj) (hbelow hk htk) heq)

theorem iterate_add_one_uint16 (c : UInt16) (k : ℕ) : (· + 1)^[k] c = c + UInt16.ofNat k := by
  induction k with
  | zero => simp
  | succ k ih => rw [Function.iterate_succ_apply', ih, UInt16.ofNat_add, UInt16.add_assoc]; rfl

/-- A counter of 16 bits comes round after 65536 steps, and not before. -/
theorem injOn_iterate_add_one_uint16 (c : UInt16) :
    Set.InjOn (fun k => (· + 1)^[k] c) {k | k < 65536} := by
  intro j hj k hk heq
  simp only [iterate_add_one_uint16, UInt16.add_right_inj] at heq
  have hnat := congrArg UInt16.toNat heq
  rw [UInt16.toNat_ofNat', UInt16.toNat_ofNat', Nat.mod_eq_of_lt hj, Nat.mod_eq_of_lt hk] at hnat
  exact hnat

end Framework
