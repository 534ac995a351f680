import Gptp.Port.Receive
import Mathlib.Data.List.Induction
import Mathlib.Logic.Function.Basic

/-!
# Best master selection

`CommonPort::processStateChange` works on all ports registered with a clock, so it is modelled on a
`Bridge`: a clock with the ports registered with it. The port table is a C array with NULL for empty
slots; a scan that passes its end has no defined outcome and is modelled by `none`.

A daemon is a bridge with one registered port (`Daemon.toBridge`), and its state change is that of
the bridge.
-/

namespace Gptp

variable {F : Type} [Platform F]

/-- `MAX_PORTS`. -/
def maxPorts : ℕ := 32

/-! ### The port table -/

/-- `number_ports` and `port_list`; a slot holds the index of the port registered in it. -/
structure PortList where
  numberPorts : ℕ
  slots : ℕ → Option ℕ

/-- `IEEE1588Clock::registerPort`. A port with index `MAX_PORTS` is counted but not entered. -/
def PortList.registerPort (l : PortList) (index : ℕ) : PortList where
  numberPorts := l.numberPorts + 1
  slots := if index < maxPorts then Function.update l.slots (index - 1) (some index) else l.slots

/-- The port table after the given registrations. -/
def PortList.ofIndices (indices : List ℕ) : PortList :=
  indices.foldl PortList.registerPort ⟨0, fun _ => none⟩

/-- `while (ports[j] == NULL) ++j;` with `fuel` slots left in the table: the slot the scan stops at
and the index of the port in it. -/
def PortList.nextSlot (l : PortList) : ℕ → ℕ → Option (ℕ × ℕ)
  | 0, _ => none
  | fuel + 1, j => match l.slots j with
    | some index => some (j, index)
    | none => l.nextSlot fuel (j + 1)

/-- The scan from slot `j` to the end of the table. -/
def PortList.scan (l : PortList) (j : ℕ) : Option (ℕ × ℕ) := l.nextSlot (maxPorts - j) j

namespace PortList

/-- The scan stops at the first occupied slot. -/
theorem nextSlot_eq_some {l : PortList} {k i : ℕ} (hk : l.slots k = some i) :
    ∀ {fuel j : ℕ}, j ≤ k → k < j + fuel → (∀ m, j ≤ m → m < k → l.slots m = none) →
      l.nextSlot fuel j = some (k, i) := by
  intro fuel
  induction fuel with
  | zero => intro j hj hk'; omega
  | succ fuel ih =>
    intro j hj hlt hempty
    rcases hj.eq_or_lt with rfl | hjk
    · simp [nextSlot, hk]
    · rw [nextSlot, hempty j le_rfl hjk]
      exact ih hjk (by omega) (fun m hm hm' => hempty m (by omega) hm')

/-- The scan of an empty rest of the table passes its end. -/
theorem nextSlot_eq_none {l : PortList} :
    ∀ {fuel j : ℕ}, (∀ m, j ≤ m → m < j + fuel → l.slots m = none) → l.nextSlot fuel j = none := by
  intro fuel
  induction fuel with
  | zero => intro j _; rfl
  | succ fuel ih =>
    intro j hempty
    rw [nextSlot, hempty j le_rfl (by omega)]
    exact ih (fun m hm hm' => hempty m (by omega) (by omega))

theorem ofIndices_append (is : List ℕ) (i : ℕ) :
    ofIndices (is ++ [i]) = (ofIndices is).registerPort i := by
  simp [ofIndices]

theorem numberPorts_ofIndices (is : List ℕ) : (ofIndices is).numberPorts = is.length := by
  induction is using List.reverseRecOn with
  | nil => rfl
  | append_singleton is i ih => simp [ofIndices_append, registerPort, ih]

/-- Slot `j` holds port `j + 1` if that port is registered, except that `MAX_PORTS` is never
entered. -/
theorem slots_ofIndices {is : List ℕ} (hpos : ∀ i ∈ is, 1 ≤ i) (j : ℕ) :
    (ofIndices is).slots j = if j + 1 ∈ is ∧ j + 1 < maxPorts then some (j + 1) else none := by
  induction is using List.reverseRecOn with
  | nil => simp [ofIndices]
  | append_singleton is i ih =>
    have hi : 1 ≤ i := hpos i (by simp)
    have ih := ih fun i' h => hpos i' (by simp [h])
    rw [ofIndices_append, registerPort]
    by_cases hlt : i < maxPorts
    · by_cases hj : j = i - 1
      · have hj' : j + 1 = i := by omega
        simp [hlt, hj, Nat.sub_add_cancel hi]
      · have hj' : j + 1 ≠ i := by omega
        simp [hlt, hj, hj', ih]
    · -- an index beyond the array is not registered
      have : ¬ (j + 1 = i ∧ j + 1 < maxPorts) := by omega
      simp only [hlt, if_false, ih, List.mem_append, List.mem_singleton]
      congr 1
      apply propext
      constructor
      · rintro ⟨h, h'⟩; exact ⟨.inl h, h'⟩
      · rintro ⟨h | h, h'⟩
        · exact ⟨h, h'⟩
        · exact absurd ⟨h, h'⟩ this
end PortList

/-! ### Bridges -/

/-- A clock with its registered ports: `ports i` is the port with index `i`, and `registered` lists
the indices in the order of registration. -/
structure Bridge (F : Type) where
  clock : Clock F
  ports : ℕ → EtherPort F
  registered : List ℕ
  timerq : List Timer
  effects : List (Effect F)

/-- `IEEE1588Clock::isBetterThan`; a missing announce is worse than any clock. -/
def Clock.isBetterThan (c : Clock F) (msg : Option PTPMessageAnnounce) : Bool :=
  match msg with
  | none => true
  | some m =>
    memcmpLt (bestMasterKey c.cfg.priority1 c.cfg.clockQuality c.cfg.priority2 c.cfg.clockIdentity)
      m.key

omit [Platform F] in
theorem Clock.isBetterThan_congr {c c' : Clock F} (h : c'.cfg = c.cfg)
    (m : Option PTPMessageAnnounce) : c'.isBetterThan m = c.isBetterThan m := by
  cases m with
  | none => rfl
  | some m => rw [isBetterThan, isBetterThan, h]

/-- The grandmaster data set an Announce advertises. -/
def PTPMessageAnnounce.grandmaster (m : PTPMessageAnnounce) : GrandmasterInfo where
  clockIdentity := m.grandmasterIdentity
  clockQuality := m.grandmasterClockQuality
  priority1 := m.grandmasterPriority1
  priority2 := m.grandmasterPriority2

namespace Bridge

/-- `IEEE1588Clock::getPortList`. -/
def portList (b : Bridge F) : PortList := PortList.ofIndices b.registered

/-- The daemon state seen by the methods of one port. -/
def view (i : ℕ) (b : Bridge F) : Daemon F := ⟨b.clock, b.ports i, b.timerq, b.effects⟩

/-- Runs a method of port `i`. -/
def onPort (i : ℕ) (f : Daemon F → Daemon F) (b : Bridge F) : Bridge F :=
  let d := f (b.view i)
  { b with
    clock := d.clock
    ports := Function.update b.ports i d.port
    timerq := d.timerq
    effects := d.effects }

/-- A port that takes part in the selection: neither PTP_DISABLED nor PTP_FAULTY. -/
def eligible (b : Bridge F) (i : ℕ) : Bool := !(b.ports i).portState.ignoresMessages

/-- EBest: the announce and the port holding it. -/
abbrev Best := Option (ℕ × PTPMessageAnnounce)

/-- One pass of the loop that finds EBest, at port `i`. -/
def considerERBest (b : Bridge F) (i : ℕ) (best : Best) : Best :=
  match (b.ports i).qualifiedAnnounce, best with
  | none, best => best
  | some a, none => some (i, a)
  | some a, some (h, e) => if a.isBetterThan e then some (i, a) else some (h, e)

/-- The loop that finds EBest: `n` passes, the scan starting at slot `j`. A pass leaves `j` at the
slot it stopped at and does not move past it. -/
def findEBest (b : Bridge F) : ℕ → ℕ → Best → Option Best
  | 0, _, best => some best
  | n + 1, j, best => match b.portList.scan j with
    | none => none
    | some (j, i) =>
      if b.eligible i then b.findEBest n j (b.considerERBest i best)
      else b.findEBest n j best

/-- One pass of the loop that assigns states, at port `i`: the new bridge and the new EBest. -/
def assignState (changedExternalMaster : Bool) (i : ℕ) (best : Best) (b : Bridge F) :
    Bridge F × Best :=
  if b.clock.isBetterThan (best.map Prod.snd) then
    (b.onPort i (·.recommendState .ptpMaster changedExternalMaster), none)
  else match best with
    | some (h, e) =>
      if h = i then
        let b := b.onPort i (·.recommendState .ptpSlave changedExternalMaster)
        ({ b with clock.grandmaster := e.grandmaster }, best)
      else (b.onPort i (·.recommendState .ptpMaster changedExternalMaster), best)
    | none => (b, none)

/-- The loop that assigns states. -/
def assignStates (changedExternalMaster : Bool) : ℕ → ℕ → Best → Bridge F → Option (Bridge F)
  | 0, _, _, b => some b
  | n + 1, j, best, b => match b.portList.scan j with
    | none => none
    | some (j, i) =>
      if b.eligible i then
        let (b, best) := b.assignState changedExternalMaster i best
        assignStates changedExternalMaster n j best b
      else assignStates changedExternalMaster n j best b

/-- What `processStateChange` records about EBest before it assigns states. -/
def recordEBest (e : PTPMessageAnnounce) (b : Bridge F) : Bridge F :=
  let b := { b with clock.lastEBestIdentity := e.grandmasterIdentity }
  if b.clock.isBetterThan (some e) then
    { b with clock.grandmaster := b.clock.cfg.ownGrandmaster } else b

/-- `CommonPort::processStateChange`. -/
def processStateChange (b : Bridge F) : Option (Bridge F) :=
  if b.clock.cfg.priority1 = 255 then some b
  else match b.findEBest b.portList.numberPorts 0 none with
    | none => none
    | some none => some b
    | some (some (h, e)) =>
      let changed : Bool := e.grandmasterIdentity ≠ b.clock.lastEBestIdentity
      (b.recordEBest e).assignStates changed b.portList.numberPorts 0 (some (h, e))

end Bridge

/-! ### A clock with one port -/

/-- The state change of the only port of a clock, with the given EBest. -/
def Daemon.assignRole (d : Daemon F) (e : PTPMessageAnnounce) : Daemon F :=
  let changed : Bool := e.grandmasterIdentity ≠ d.clock.lastEBestIdentity
  let d' := d.setLastEBestIdentity e.grandmasterIdentity
  if d.clock.isBetterThan (some e) then
    (d'.setGrandmaster d.clock.cfg.ownGrandmaster).recommendState .ptpMaster changed
  else (d'.recommendState .ptpSlave changed).setGrandmaster e.grandmaster

namespace Bridge

section Single

variable {b : Bridge F} {p : ℕ}

omit [Platform F] in
theorem numberPorts_single (hsingle : b.registered = [p]) : b.portList.numberPorts = 1 := by
  rw [portList, hsingle]
  rfl

omit [Platform F] in
/-- The table of a clock with one port: that port, unless its index is `MAX_PORTS` or more. -/
theorem scan_single (hsingle : b.registered = [p]) :
    b.portList.scan 0 = if p < maxPorts then some (p - 1, p) else none := by
  have hslots : b.portList = PortList.registerPort ⟨0, fun _ => none⟩ p := by
    rw [portList, hsingle]
    rfl
  rw [hslots, PortList.scan]
  split
  case isTrue h =>
    refine PortList.nextSlot_eq_some ?_ (Nat.zero_le _) (by omega) fun m _ hm => ?_
    · simp [PortList.registerPort, h]
    · simp [PortList.registerPort, h, hm.ne]
  case isFalse h =>
    exact PortList.nextSlot_eq_none fun m _ _ => by simp [PortList.registerPort, h]

omit [Platform F] in
theorem view_onPort (f : Daemon F → Daemon F) : (b.onPort p f).view p = f (b.view p) := by
  simp [onPort, view]

/-- A pass at the holder of EBest, seen from that port. -/
theorem view_assignState (changed : Bool) (e : PTPMessageAnnounce) :
    (b.assignState changed p (some (p, e))).1.view p =
      if b.clock.isBetterThan (some e) then (b.view p).recommendState .ptpMaster changed
      else ((b.view p).recommendState .ptpSlave changed).setGrandmaster e.grandmaster := by
  unfold assignState
  rw [Option.map_some]
  split
  · exact view_onPort _
  · have hslave := view_onPort (b := b) (p := p) (·.recommendState .ptpSlave changed)
    dsimp only at hslave ⊢
    rw [if_pos rfl, ← hslave]
    rfl

omit [Platform F] in
theorem view_recordEBest (e : PTPMessageAnnounce) :
    (b.recordEBest e).view p =
      if b.clock.isBetterThan (some e) then
        ((b.view p).setLastEBestIdentity e.grandmasterIdentity).setGrandmaster
          b.clock.cfg.ownGrandmaster
      else (b.view p).setLastEBestIdentity e.grandmasterIdentity := by
  have hbetter : Clock.isBetterThan { b.clock with lastEBestIdentity := e.grandmasterIdentity }
      (some e) = b.clock.isBetterThan (some e) := rfl
  unfold recordEBest
  dsimp only
  rw [hbetter]
  split <;> rfl

/-- The loop over the only port assigns its role. -/
theorem assignStates_single (hsingle : b.registered = [p]) (hlt : p < maxPorts)
    (helig : b.eligible p) (e : PTPMessageAnnounce) :
    ((b.recordEBest e).assignStates (decide (e.grandmasterIdentity ≠ b.clock.lastEBestIdentity)) 1 0
        (some (p, e))).map (·.view p) = some ((b.view p).assignRole e) := by
  obtain ⟨hregistered, helig', hcfg⟩ : (b.recordEBest e).registered = [p] ∧
      (b.recordEBest e).eligible p = true ∧ (b.recordEBest e).clock.cfg = b.clock.cfg := by
    unfold recordEBest
    dsimp only
    split <;> exact ⟨hsingle, helig, rfl⟩
  -- what has been recorded does not bear on the comparison
  have hbetter := Clock.isBetterThan_congr hcfg (some e)
  rw [assignStates, scan_single hregistered, if_pos hlt]
  dsimp only
  rw [if_pos helig']
  refine congrArg some ?_
  dsimp only
  rw [view_assignState, hbetter, view_recordEBest]
  unfold Daemon.assignRole
  rw [show (b.view p).clock = b.clock from rfl]
  dsimp only
  split <;> rfl

omit [Platform F] in
/-- The announce of the only port is EBest, if the port takes part. -/
theorem findEBest_single (hsingle : b.registered = [p]) (hlt : p < maxPorts) :
    b.findEBest b.portList.numberPorts 0 none =
      some (if b.eligible p then (b.ports p).qualifiedAnnounce.map (p, ·) else none) := by
  rw [numberPorts_single hsingle, findEBest, scan_single hsingle, if_pos hlt]
  dsimp only
  split
  · unfold considerERBest
    cases (b.ports p).qualifiedAnnounce <;> rfl
  · rfl

/-- **The state change of a clock with one port.** The announce of the port is EBest. -/
theorem processStateChange_single (hsingle : b.registered = [p]) (hlt : p < maxPorts)
    (hprio : b.clock.cfg.priority1 ≠ 255) (helig : b.eligible p) {e : PTPMessageAnnounce}
    (he : (b.ports p).qualifiedAnnounce = some e) :
    b.processStateChange.map (·.view p) = some ((b.view p).assignRole e) := by
  unfold processStateChange
  rw [if_neg hprio, findEBest_single hsingle hlt, if_pos helig, he, numberPorts_single hsingle]
  exact assignStates_single hsingle hlt helig e

/-- Without a clock to rank, a port in the table or an announce nothing happens. -/
theorem processStateChange_idle (hsingle : b.registered = [p])
    (hidle : b.clock.cfg.priority1 = 255 ∨ maxPorts ≤ p ∨ b.eligible p = false ∨
      (b.ports p).qualifiedAnnounce = none) :
    b.processStateChange = some b ∨ b.processStateChange = none := by
  unfold processStateChange
  split_ifs with hprio
  · exact .inl rfl
  by_cases hlt : p < maxPorts
  · rw [findEBest_single hsingle hlt]
    rcases hidle with h | h | h | h
    · exact absurd h hprio
    · omega
    · rw [h]
      exact .inl rfl
    · rw [h, Option.map_none, ite_self]
      exact .inl rfl
  · rw [numberPorts_single hsingle, findEBest, scan_single hsingle, if_neg hlt]
    exact .inr rfl

end Single

end Bridge

/-! ### The daemon as a bridge with one port -/

namespace Daemon

/-- The daemon's clock with its one registered port. -/
def toBridge (d : Daemon F) : Bridge F where
  clock := d.clock
  ports := fun _ => d.port
  registered := [d.port.cfg.ifindex]
  timerq := d.timerq
  effects := d.effects

/-- `CommonPort::processStateChange` on the daemon's one port. -/
def processStateChange (d : Daemon F) : Daemon F :=
  (d.toBridge.processStateChange.map (·.view d.port.cfg.ifindex)).getD d

/-- **The state change of a daemon.** Its port is the only candidate: nothing happens without an
announce, and otherwise the announce is EBest. -/
theorem processStateChange_eq (d : Daemon F) :
    d.processStateChange =
      if d.clock.cfg.priority1 = 255 ∨ maxPorts ≤ d.port.cfg.ifindex ∨
          d.port.portState.ignoresMessages then d
      else match d.port.qualifiedAnnounce with
        | none => d
        | some e => d.assignRole e := by
  have hsingle : d.toBridge.registered = [d.port.cfg.ifindex] := rfl
  have hview : d.toBridge.view d.port.cfg.ifindex = d := rfl
  have helig : d.toBridge.eligible d.port.cfg.ifindex = !d.port.portState.ignoresMessages := rfl
  -- in each of these cases no state is assigned
  have hidle (h : d.toBridge.clock.cfg.priority1 = 255 ∨ maxPorts ≤ d.port.cfg.ifindex ∨
      d.toBridge.eligible d.port.cfg.ifindex = false ∨
        (d.toBridge.ports d.port.cfg.ifindex).qualifiedAnnounce = none) :
      d.processStateChange = d := by
    unfold processStateChange
    rcases Bridge.processStateChange_idle hsingle h with h | h
    · rw [h, Option.map_some, Option.getD_some, hview]
    · rw [h]
      rfl
  split_ifs with hnothing
  · refine hidle (hnothing.imp_right (Or.imp_right fun hignores => .inl ?_))
    rw [helig, hignores]
    rfl
  obtain ⟨hprio, hindex, hignores⟩ : _ ∧ _ ∧ _ := by simpa only [not_or] using hnothing
  have helig' : d.toBridge.eligible d.port.cfg.ifindex = true := by
    rw [helig]
    simpa using hignores
  cases hannounce : d.port.qualifiedAnnounce with
  | none => exact hidle (.inr (.inr (.inr hannounce)))
  | some e =>
    have hchange :=
      Bridge.processStateChange_single hsingle (Nat.not_le.mp hindex) hprio helig' hannounce
    unfold processStateChange
    rw [hchange, Option.getD_some, hview]

end Daemon

end Gptp
