import Gptp.Framework.Machine
import Gptp.Framework.SortedSearch
import Gptp.Message.Types
import Mathlib.Data.Finset.Card

/-!
# The list of peers

The Windows daemon keeps the addresses of its peers in a sorted vector, `PeerList`. A peer address is
either a MAC or an IP address, in one union of six octets of which an IP address uses the first four. Two
addresses are compared by the kind of the left operand only: an IP address compares its four octets with
the first four of a MAC address, and a MAC address compares its six with an IP address and what lies behind
it.

The vector stays sorted all the same, by all six octets (`PeerList.WellFormed`), because four octets of a
longer address do not contradict its order. So a search never misses an entry. What it can do is take an
entry of the other kind for the address it looks for.

* `PeerList.WellFormed.call_eq_iff`: a call behaves as on a finite set of addresses, unless its address is
  taken for another one (`Collides`).
* `PeerList.finiteSet_iff`: so does a sequence of calls.
-/

namespace Gptp

open Framework

/-- `AddrWhich`. -/
inductive AddrWhich where
  | macAddr
  | ipAddr
  | invalidAddr
  deriving DecidableEq

/-- The octets by which addresses of a kind are compared: `ETHER_ADDR_OCTETS` or `IP_ADDR_OCTETS`. -/
def AddrWhich.size : AddrWhich → ℕ
  | .macAddr => 6
  | .ipAddr => 4
  | .invalidAddr => 0

/-- `PeerAddr`: the octets are those of the union. -/
structure PeerAddr where
  which : AddrWhich
  octets : Fin 6 → UInt8

namespace PeerAddr

/-- The first `n` octets of the union. -/
def memory (n : ℕ) (a : PeerAddr) : List UInt8 := (List.ofFn a.octets).take n

/-- `PeerAddr::operator==`. -/
def beq (a other : PeerAddr) : Bool :=
  match a.which with
  | .macAddr => other.memory 6 == a.memory 6
  | .ipAddr => other.memory 4 == a.memory 4
  | .invalidAddr => false

/-- `PeerAddr::operator<`. -/
def blt (a other : PeerAddr) : Bool :=
  match a.which with
  | .macAddr => memcmpLt (other.memory 6) (a.memory 6)
  | .ipAddr => memcmpLt (other.memory 4) (a.memory 4)
  | .invalidAddr => false

/-- The kind and the address. -/
def pair (a : PeerAddr) : AddrWhich × List UInt8 := (a.which, a.memory a.which.size)

end PeerAddr

/-- `PeerAddrWithState`. -/
structure PeerAddrWithState (S : Type) where
  addr : PeerAddr
  state : S

/-- `PeerList`, with the handler that initializes the state of a peer. The remove handler only decides
whether a message is printed. -/
structure PeerList (S : Type) where
  /-- `init`, if it is set; it may fail. -/
  init : Option (PeerAddr → Option S)
  internalVector : List (PeerAddrWithState S)

namespace PeerList

variable {S : Type}

/-- The loop of `PeerList::find`. -/
def findFrom (addr : PeerAddr) : List (PeerAddrWithState S) → ℕ × Bool
  | [] => (0, false)
  | e :: v =>
    if addr.beq e.addr then (0, true)
    else if addr.blt e.addr then (0, false)
    else ((findFrom addr v).1 + 1, (findFrom addr v).2)

/-- `PeerList::find`: the position, and whether the address is found. -/
def find (addr : PeerAddr) (l : PeerList S) : ℕ × Bool := findFrom addr l.internalVector

/-- `PeerList::add`. A peer whose state cannot be initialized is not added, and the call succeeds
nevertheless. -/
def add (addr : PeerAddr) (l : PeerList S) : PeerList S × Bool :=
  let (it, found) := l.find addr
  if found then (l, false)
  else match l.init with
    | some init => match init addr with
      | some state =>
        ({ l with internalVector := l.internalVector.insertIdx it ⟨addr, state⟩ }, true)
      | none => (l, true)
    | none => (l, true)

/-- `PeerList::remove`. -/
def remove (addr : PeerAddr) (l : PeerList S) : PeerList S × Bool :=
  let (it, found) := l.find addr
  if found then ({ l with internalVector := l.internalVector.eraseIdx it }, true) else (l, false)

end PeerList

/-! ### Calls -/

/-- What a call does. -/
inductive PeerOp where
  | add
  | remove
  | find
  deriving DecidableEq

/-- A call with a MAC or an IP address. -/
structure PeerCall where
  op : PeerOp
  addr : PeerAddr
  known : addr.which ≠ .invalidAddr

/-- A call on a list: the list after it, and its result. -/
def PeerList.call {S : Type} (l : PeerList S) (c : PeerCall) : PeerList S × Bool :=
  match c.op with
  | .add => l.add c.addr
  | .remove => l.remove c.addr
  | .find => (l, (l.find c.addr).2)

/-- A call on a finite set of addresses. -/
def PeerCall.onSet (c : PeerCall) (s : Finset (AddrWhich × List UInt8)) :
    Finset (AddrWhich × List UInt8) × Bool :=
  match c.op with
  | .add => (insert c.addr.pair s, decide (c.addr.pair ∉ s))
  | .remove => (s.erase c.addr.pair, decide (c.addr.pair ∈ s))
  | .find => (s, decide (c.addr.pair ∈ s))

/-- A list among the calls it receives. -/
def PeerList.machine (S : Type) : Machine (PeerList S) PeerCall where
  enabled _ _ := True
  step l c := (l.call c).1

/-- The set among the same calls. -/
def PeerCall.setMachine : Machine (Finset (AddrWhich × List UInt8)) PeerCall where
  enabled _ _ := True
  step s c := (c.onSet s).1

/-! ### Keys -/

namespace PeerAddr

/-- The number that the octets of an address are for addresses of a kind. -/
def key (w : AddrWhich) (a : PeerAddr) : ℕ := valueBE (a.memory w.size)

theorem length_memory {n : ℕ} (hn : n ≤ 6) (a : PeerAddr) : (a.memory n).length = n := by
  rw [memory, List.length_take, List.length_ofFn, min_eq_left hn]

theorem AddrWhich.size_le (w : AddrWhich) : w.size ≤ 6 := by
  cases w <;> decide

theorem memory_eq_iff (w : AddrWhich) {a b : PeerAddr} :
    a.memory w.size = b.memory w.size ↔ a.key w = b.key w := by
  refine ⟨fun h => congrArg valueBE h, valueBE_injective ?_⟩
  rw [length_memory (AddrWhich.size_le w), length_memory (AddrWhich.size_le w)]

theorem memcmpLt_memory (w : AddrWhich) {a b : PeerAddr} :
    memcmpLt (a.memory w.size) (b.memory w.size) = true ↔ a.key w < b.key w := by
  refine memcmpLt_iff_valueBE ?_
  rw [length_memory (AddrWhich.size_le w), length_memory (AddrWhich.size_le w)]

/-- The key of an IP address is the leading part of that of a MAC address. -/
theorem key_ipAddr (a : PeerAddr) : a.key .ipAddr = a.key .macAddr / 65536 := by
  have hall : a.memory 6 = a.memory 4 ++ (List.ofFn a.octets).drop 4 := by
    have hlength : (List.ofFn a.octets).length ≤ 6 := List.length_ofFn.le
    rw [memory, memory, List.take_of_length_le hlength, List.take_append_drop]
  have hrest : ((List.ofFn a.octets).drop 4).length = 2 := by
    rw [List.length_drop, List.length_ofFn]
  have hvalue : a.key .macAddr =
      valueBE ((List.ofFn a.octets).drop 4) + 256 ^ 2 * a.key .ipAddr := by
    rw [key, AddrWhich.size, hall, valueBE_append, hrest]
    rfl
  have hlt := valueBE_lt ((List.ofFn a.octets).drop 4)
  rw [hrest] at hlt
  omega

variable {a b e : PeerAddr} {w : AddrWhich}

/-- The order of six octets is that of four, as far as these tell. -/
theorem key_le_of_macAddr (h : a.key .macAddr ≤ b.key .macAddr) (hw : w ≠ .invalidAddr) :
    a.key w ≤ b.key w := by
  cases w with
  | macAddr => exact h
  | ipAddr =>
    rw [key_ipAddr, key_ipAddr]
    exact Nat.div_le_div_right h
  | invalidAddr => exact absurd rfl hw

theorem macAddr_lt_of_key (h : a.key w < b.key w) (hw : w ≠ .invalidAddr) :
    a.key .macAddr < b.key .macAddr := by
  by_contra hle
  exact absurd (key_le_of_macAddr (Nat.not_lt.mp hle) hw) (Nat.not_le.mpr h)

theorem beq_iff (ha : a.which ≠ .invalidAddr) : a.beq e = true ↔ e.key a.which = a.key a.which := by
  rw [← memory_eq_iff]
  unfold beq
  cases hw : a.which with
  | macAddr => exact beq_iff_eq
  | ipAddr => exact beq_iff_eq
  | invalidAddr => exact absurd hw ha

theorem blt_iff (ha : a.which ≠ .invalidAddr) : a.blt e = true ↔ e.key a.which < a.key a.which := by
  rw [← memcmpLt_memory]
  unfold blt
  cases hw : a.which with
  | macAddr => exact Iff.rfl
  | ipAddr => exact Iff.rfl
  | invalidAddr => exact absurd hw ha

theorem pair_eq_iff : a.pair = b.pair ↔ a.which = b.which ∧ a.key b.which = b.key b.which := by
  rw [← memory_eq_iff, pair, pair, Prod.mk.injEq]
  refine and_congr_right fun h => ?_
  rw [h]

end PeerAddr

/-! ### The vector -/

namespace PeerList

variable {S : Type}

/-- The addresses in a list. -/
def addrs (l : PeerList S) : List PeerAddr := l.internalVector.map PeerAddrWithState.addr

/-- The set that a list stands for. -/
def peers (l : PeerList S) : Finset (AddrWhich × List UInt8) := (l.addrs.map PeerAddr.pair).toFinset

/-- The invariant of a list: it is sorted by all six octets, and no address is in it twice. -/
structure WellFormed (l : PeerList S) : Prop where
  known : ∀ a ∈ l.addrs, a.which ≠ .invalidAddr
  sorted : l.addrs.Pairwise fun a b => b.key .macAddr < a.key .macAddr
  nodup : (l.addrs.map PeerAddr.pair).Nodup

theorem findFrom_eq_search {a : PeerAddr} (ha : a.which ≠ .invalidAddr)
    (v : List (PeerAddrWithState S)) :
    findFrom a v = search (PeerAddr.key a.which) (a.key a.which) (v.map PeerAddrWithState.addr) := by
  induction v with
  | nil => rfl
  | cons e v ih =>
    rw [findFrom, List.map_cons, search, ih]
    simp only [PeerAddr.beq_iff ha, PeerAddr.blt_iff ha]

section Call

variable {l : PeerList S} {a : PeerAddr}

theorem mem_peers {p : AddrWhich × List UInt8} : p ∈ l.peers ↔ ∃ b ∈ l.addrs, b.pair = p := by
  rw [peers, List.mem_toFinset, List.mem_map]

/-- The search of a list finds the first address that compares equal, or ends where one belongs. -/
theorem WellFormed.find_cases (hl : l.WellFormed) (ha : a.which ≠ .invalidAddr) :
    (∃ l₁ e l₂, Finds (PeerAddr.key a.which) (a.key a.which) l.addrs l₁ e l₂ ∧
        l.find a = (l₁.length, true)) ∨
      ∃ l₁ l₂, Misses (PeerAddr.key a.which) (a.key a.which) l.addrs l₁ l₂ ∧
        l.find a = (l₁.length, false) := by
  rw [find, findFrom_eq_search ha]
  exact search_spec _ _ (hl.sorted.imp fun h => PeerAddr.key_le_of_macAddr h.le ha)

/-- Adding an address that is not found puts it where the search has ended. -/
theorem add_of_misses {init : PeerAddr → S} (hinit : l.init = some fun a => some (init a))
    {l₁ l₂ : List PeerAddr} (hsplit : l.addrs = l₁ ++ l₂) (hfind : l.find a = (l₁.length, false)) :
    (l.add a).2 = true ∧ (l.add a).1.init = l.init ∧ (l.add a).1.addrs = l₁ ++ a :: l₂ := by
  unfold add
  rw [hfind, hinit]
  refine ⟨rfl, rfl, ?_⟩
  calc (l.internalVector.insertIdx l₁.length ⟨a, init a⟩).map PeerAddrWithState.addr
      = l.addrs.insertIdx l₁.length a := List.map_insertIdx ..
    _ = l₁ ++ a :: l₂ := by rw [hsplit, insertIdx_length]

theorem add_of_found {i : ℕ} (hfind : l.find a = (i, true)) : l.add a = (l, false) := by
  rw [add, hfind]
  rfl

/-- Removing an address that is found takes out the entry at which the search has ended. -/
theorem remove_of_finds {l₁ l₂ : List PeerAddr} {e : PeerAddr} (hsplit : l.addrs = l₁ ++ e :: l₂)
    (hfind : l.find a = (l₁.length, true)) :
    (l.remove a).2 = true ∧ (l.remove a).1.init = l.init ∧ (l.remove a).1.addrs = l₁ ++ l₂ := by
  unfold remove
  rw [hfind]
  refine ⟨rfl, rfl, ?_⟩
  calc (l.internalVector.eraseIdx l₁.length).map PeerAddrWithState.addr
      = l.addrs.eraseIdx l₁.length := (List.eraseIdx_map ..).symm
    _ = l₁ ++ l₂ := by rw [hsplit, eraseIdx_length]

theorem remove_of_not_found {i : ℕ} (hfind : l.find a = (i, false)) : l.remove a = (l, false) := by
  rw [remove, hfind]
  rfl

/-! ### The invariant -/

/-- An address that is not found may be put where the search has ended. -/
theorem WellFormed.of_misses (hl : l.WellFormed) (ha : a.which ≠ .invalidAddr) {l₁ l₂ : List PeerAddr}
    (hmisses : Misses (PeerAddr.key a.which) (a.key a.which) l.addrs l₁ l₂) {l' : PeerList S}
    (hl' : l'.addrs = l₁ ++ a :: l₂) : l'.WellFormed := by
  have hperm : l'.addrs.Perm (a :: l.addrs) := by
    rw [hl', hmisses.split]
    exact List.perm_middle
  refine ⟨?_, ?_, ?_⟩
  · intro b hb
    rcases List.mem_cons.mp (hperm.subset hb) with rfl | hb
    · exact ha
    · exact hl.known b hb
  · have hsorted := hl.sorted
    rw [hmisses.split, List.pairwise_append] at hsorted
    obtain ⟨hbefore, hbehind, hcross⟩ := hsorted
    rw [hl', List.pairwise_append]
    refine ⟨hbefore, List.pairwise_cons.mpr ⟨?_, hbehind⟩, ?_⟩
    · exact fun b hb => PeerAddr.macAddr_lt_of_key (hmisses.behind b hb) ha
    · intro b hb b' hb'
      rcases List.mem_cons.mp hb' with rfl | hb'
      · exact PeerAddr.macAddr_lt_of_key (hmisses.before b hb) ha
      · exact hcross b hb b' hb'
  · rw [(hperm.map PeerAddr.pair).nodup_iff, List.map_cons, List.nodup_cons]
    refine ⟨?_, hl.nodup⟩
    intro hmem
    obtain ⟨b, hb, hpair⟩ := List.mem_map.mp hmem
    exact hmisses.key_ne hb (PeerAddr.pair_eq_iff.mp hpair).2

/-- Any entries may be taken out. -/
theorem WellFormed.sublist (hl : l.WellFormed) {l' : PeerList S}
    (hsub : l'.addrs.Sublist l.addrs) : l'.WellFormed :=
  ⟨fun b hb => hl.known b (hsub.subset hb), hl.sorted.sublist hsub, hl.nodup.sublist (hsub.map _)⟩

/-- **The invariant is kept** by every call, collisions included. -/
theorem WellFormed.call {init : PeerAddr → S} (hinit : l.init = some fun a => some (init a))
    (hl : l.WellFormed) (c : PeerCall) :
    (l.call c).1.WellFormed ∧ (l.call c).1.init = l.init := by
  unfold PeerList.call
  cases c.op with
  | find => exact ⟨hl, rfl⟩
  | add =>
    rcases hl.find_cases c.known with ⟨l₁, e, l₂, -, hfind⟩ | ⟨l₁, l₂, hmisses, hfind⟩
    · dsimp only
      rw [add_of_found hfind]
      exact ⟨hl, rfl⟩
    · obtain ⟨-, hinit', haddrs⟩ := add_of_misses hinit hmisses.split hfind
      exact ⟨hl.of_misses c.known hmisses haddrs, hinit'⟩
  | remove =>
    rcases hl.find_cases c.known with ⟨l₁, e, l₂, hfinds, hfind⟩ | ⟨l₁, l₂, -, hfind⟩
    · obtain ⟨-, hinit', haddrs⟩ := remove_of_finds hfinds.split hfind
      refine ⟨hl.sublist ?_, hinit'⟩
      rw [haddrs, hfinds.split]
      exact (List.sublist_cons_self e l₂).append_left l₁
    · dsimp only
      rw [remove_of_not_found hfind]
      exact ⟨hl, rfl⟩

/-! ### Collisions -/

/-- The address of a call is taken for one of the other kind. A MAC address is taken for an IP address
that has the same octets behind it. An IP address is taken for a MAC address that begins with it, if it is
not in the list itself; and it is removed in place of a MAC address that begins with it and lies before
it. -/
def Collides (c : PeerCall) (l : PeerList S) : Prop :=
  match c.addr.which with
  | .macAddr => ∃ e ∈ l.addrs, e.which = .ipAddr ∧ e.memory 6 = c.addr.memory 6
  | .ipAddr => ∃ e ∈ l.addrs, e.which = .macAddr ∧ e.memory 4 = c.addr.memory 4 ∧
      ∀ e' ∈ l.addrs, e'.pair = c.addr.pair →
        c.op = .remove ∧ memcmpLt (e'.memory 6) (e.memory 6) = true
  | .invalidAddr => False

theorem collides_of_macAddr {c : PeerCall} (hc : c.addr.which = .macAddr) :
    Collides c l ↔ ∃ e ∈ l.addrs, e.which = .ipAddr ∧ e.key .macAddr = c.addr.key .macAddr := by
  unfold Collides
  rw [hc]
  simp only [← PeerAddr.memory_eq_iff, AddrWhich.size]

theorem collides_of_ipAddr {c : PeerCall} (hc : c.addr.which = .ipAddr) :
    Collides c l ↔ ∃ e ∈ l.addrs, e.which = .macAddr ∧ e.key .ipAddr = c.addr.key .ipAddr ∧
      ∀ e' ∈ l.addrs, e'.pair = c.addr.pair →
        c.op = .remove ∧ e'.key .macAddr < e.key .macAddr := by
  unfold Collides
  rw [hc]
  simp only [← PeerAddr.memory_eq_iff, ← PeerAddr.memcmpLt_memory, AddrWhich.size]

theorem which_eq_or {b : PeerAddr} (hb : b.which ≠ .invalidAddr) :
    b.which = .macAddr ∨ b.which = .ipAddr := by
  cases hw : b.which with
  | macAddr => exact .inl rfl
  | ipAddr => exact .inr rfl
  | invalidAddr => exact absurd hw hb

theorem not_collides_of_misses {c : PeerCall} {l₁ l₂ : List PeerAddr}
    (hmisses : Misses (PeerAddr.key c.addr.which) (c.addr.key c.addr.which) l.addrs l₁ l₂) :
    ¬ Collides c l := by
  rcases which_eq_or c.known with hw | hw
  · rw [collides_of_macAddr hw]
    rw [hw] at hmisses
    rintro ⟨e, he, -, hkey⟩
    exact hmisses.key_ne he hkey
  · rw [collides_of_ipAddr hw]
    rw [hw] at hmisses
    rintro ⟨e, he, -, hkey, -⟩
    exact hmisses.key_ne he hkey

section Found

variable {c : PeerCall} {l₁ l₂ : List PeerAddr} {e : PeerAddr}

/-- The entries behind the one found are smaller. -/
theorem WellFormed.behind_lt (hl : l.WellFormed) (hsplit : l.addrs = l₁ ++ e :: l₂) :
    ∀ b ∈ l₂, b.key .macAddr < e.key .macAddr := by
  have hsorted := hl.sorted
  rw [hsplit, List.pairwise_append] at hsorted
  exact (List.pairwise_cons.mp hsorted.2.1).1

/-- A MAC address that is found is in the list, unless it is taken for an IP address. -/
theorem WellFormed.collides_iff_of_macAddr (hl : l.WellFormed) (hw : c.addr.which = .macAddr)
    (hfinds : Finds (PeerAddr.key c.addr.which) (c.addr.key c.addr.which) l.addrs l₁ e l₂) :
    (Collides c l ↔ e.pair ≠ c.addr.pair) ∧ (c.addr.pair ∈ l.peers ↔ e.pair = c.addr.pair) := by
  rw [hw] at hfinds
  -- six octets are in the list once at most
  have honly : ∀ b ∈ l.addrs, b.key .macAddr = c.addr.key .macAddr → b = e := by
    intro b hb hkey
    refine (hfinds.mem_of_key_eq hb hkey).resolve_right fun hbehind => ?_
    exact absurd (hl.behind_lt hfinds.split b hbehind) (hkey.trans hfinds.eq.symm).not_lt
  have hpair : e.pair = c.addr.pair ↔ e.which = .macAddr := by
    rw [PeerAddr.pair_eq_iff, hw]
    exact and_iff_left hfinds.eq
  refine ⟨?_, ?_⟩
  · rw [collides_of_macAddr hw, ne_eq, hpair]
    constructor
    · rintro ⟨b, hb, hip, hkey⟩
      rw [← honly b hb hkey, hip]
      exact AddrWhich.noConfusion
    · intro hnot
      have hip := (which_eq_or (hl.known e hfinds.mem)).resolve_left hnot
      exact ⟨e, hfinds.mem, hip, hfinds.eq⟩
  · rw [mem_peers]
    constructor
    · rintro ⟨b, hb, hb'⟩
      have hkey := (PeerAddr.pair_eq_iff.mp hb').2
      rw [hw] at hkey
      rwa [← honly b hb hkey]
    · exact fun h => ⟨e, hfinds.mem, h⟩

/-- An IP address that is found is taken for a MAC address if it is not in the list; and the entry found
is another one if the list has a MAC address before it. -/
theorem WellFormed.collides_iff_of_ipAddr (hl : l.WellFormed) (hw : c.addr.which = .ipAddr)
    (hfinds : Finds (PeerAddr.key c.addr.which) (c.addr.key c.addr.which) l.addrs l₁ e l₂) :
    Collides c l ↔ if c.op = .remove then e.pair ≠ c.addr.pair else c.addr.pair ∉ l.peers := by
  have hbehind := hl.behind_lt hfinds.split
  rw [hw] at hfinds
  have hpair : e.pair = c.addr.pair ↔ e.which = .ipAddr := by
    rw [PeerAddr.pair_eq_iff, hw]
    exact and_iff_left hfinds.eq
  have hmac (hnot : e.pair ≠ c.addr.pair) : e.which = .macAddr :=
    (which_eq_or (hl.known e hfinds.mem)).resolve_right (mt hpair.mpr hnot)
  rw [collides_of_ipAddr hw]
  split_ifs with hop
  · constructor
    · rintro ⟨b, hb, hbmac, hkey, hall⟩ heq
      -- a MAC address with these four octets is behind the entry found
      have hlt := (hall e hfinds.mem heq).2
      rcases hfinds.mem_of_key_eq hb hkey with rfl | hb
      · exact absurd hlt (Nat.lt_irrefl _)
      · exact absurd hlt (hbehind b hb).not_gt
    · intro hnot
      refine ⟨e, hfinds.mem, hmac hnot, hfinds.eq, ?_⟩
      intro b hb hb'
      have hkey := (PeerAddr.pair_eq_iff.mp hb').2
      rw [hw] at hkey
      rcases hfinds.mem_of_key_eq hb hkey with rfl | hb
      · exact absurd hb' hnot
      · exact ⟨hop, hbehind b hb⟩
  · constructor
    · rintro ⟨b, hb, hbmac, hkey, hall⟩ hmem
      obtain ⟨b', hb', hpair'⟩ := mem_peers.mp hmem
      exact hop (hall b' hb' hpair').1
    · intro hnot
      have habsent : ∀ b ∈ l.addrs, b.pair ≠ c.addr.pair :=
        fun b hb hb' => hnot (mem_peers.mpr ⟨b, hb, hb'⟩)
      have hmac := hmac (habsent e hfinds.mem)
      exact ⟨e, hfinds.mem, hmac, hfinds.eq, fun b hb hb' => absurd hb' (habsent b hb)⟩

theorem WellFormed.collides_iff_of_finds (hl : l.WellFormed)
    (hfinds : Finds (PeerAddr.key c.addr.which) (c.addr.key c.addr.which) l.addrs l₁ e l₂) :
    Collides c l ↔ if c.op = .remove then e.pair ≠ c.addr.pair else c.addr.pair ∉ l.peers := by
  rcases which_eq_or c.known with hw | hw
  · obtain ⟨hcollides, hmem⟩ := hl.collides_iff_of_macAddr hw hfinds
    rw [hcollides, hmem, ne_eq, ite_self]
  · exact hl.collides_iff_of_ipAddr hw hfinds

/-- Taking out an entry takes out its address, and no other. -/
theorem WellFormed.peers_of_erased (hl : l.WellFormed) (hsplit : l.addrs = l₁ ++ e :: l₂)
    {l' : PeerList S} (hl' : l'.addrs = l₁ ++ l₂) : l'.peers = l.peers.erase e.pair := by
  have hnodup := hl.nodup
  rw [hsplit, List.map_append, List.map_cons, List.nodup_middle, List.nodup_cons] at hnodup
  ext p
  rw [Finset.mem_erase, mem_peers, mem_peers, hl', hsplit]
  constructor
  · rintro ⟨b, hb, rfl⟩
    refine ⟨?_, b, ?_, rfl⟩
    · intro heq
      refine hnodup.1 ?_
      rw [← List.map_append, ← heq]
      exact List.mem_map_of_mem hb
    · exact List.mem_append.mpr ((List.mem_append.mp hb).imp_right (List.mem_cons_of_mem e))
  · rintro ⟨hne, b, hb, rfl⟩
    refine ⟨b, ?_, rfl⟩
    rcases List.mem_append.mp hb with hb | hb
    · exact List.mem_append_left _ hb
    · rcases List.mem_cons.mp hb with rfl | hb
      · exact absurd rfl hne
      · exact List.mem_append_right _ hb

end Found

/-- Putting in an entry puts in its address, and no other. -/
theorem peers_of_inserted {l' : PeerList S} {l₁ l₂ : List PeerAddr} (hsplit : l.addrs = l₁ ++ l₂)
    (hl' : l'.addrs = l₁ ++ a :: l₂) : l'.peers = insert a.pair l.peers := by
  ext p
  rw [Finset.mem_insert, mem_peers, mem_peers, hl', hsplit]
  simp only [List.mem_append, List.mem_cons]
  constructor
  · rintro ⟨b, hb | rfl | hb, rfl⟩
    · exact .inr ⟨b, .inl hb, rfl⟩
    · exact .inl rfl
    · exact .inr ⟨b, .inr hb, rfl⟩
  · rintro (rfl | ⟨b, hb, rfl⟩)
    · exact ⟨a, .inr (.inl rfl), rfl⟩
    · exact ⟨b, hb.imp_right .inr, rfl⟩

/-- **One call.** It behaves as on the finite set of addresses in the list if and only if it does not
collide. -/
theorem WellFormed.call_eq_iff {init : PeerAddr → S} (hinit : l.init = some fun a => some (init a))
    (hl : l.WellFormed) (c : PeerCall) :
    (l.call c).2 = (c.onSet l.peers).2 ∧ (l.call c).1.peers = (c.onSet l.peers).1 ↔
      ¬ Collides c l := by
  rcases hl.find_cases c.known with ⟨l₁, e, l₂, hfinds, hfind⟩ | ⟨l₁, l₂, hmisses, hfind⟩
  · rw [hl.collides_iff_of_finds hfinds]
    unfold PeerList.call PeerCall.onSet
    cases hop : c.op with
    | add =>
      rw [if_neg (by decide), not_not]
      dsimp only
      rw [add_of_found hfind, eq_comm, decide_eq_false_iff_not, not_not]
      exact and_iff_left_of_imp fun h => (Finset.insert_eq_of_mem h).symm
    | remove =>
      obtain ⟨hret, -, haddrs⟩ := remove_of_finds hfinds.split hfind
      rw [if_pos rfl, not_not]
      dsimp only
      rw [hret, hl.peers_of_erased hfinds.split haddrs, eq_comm, decide_eq_true_iff]
      have hmem : e.pair ∈ l.peers := mem_peers.mpr ⟨e, hfinds.mem, rfl⟩
      constructor
      · rintro ⟨-, herase⟩
        -- another entry would be missing
        by_contra hne
        exact Finset.notMem_erase e.pair l.peers (herase ▸ Finset.mem_erase.mpr ⟨hne, hmem⟩)
      · intro heq
        rw [← heq]
        exact ⟨hmem, rfl⟩
    | find =>
      rw [if_neg (by decide), not_not]
      dsimp only
      rw [hfind, eq_comm, decide_eq_true_iff]
      exact and_iff_left rfl
  · refine iff_of_true ?_ (not_collides_of_misses hmisses)
    have habsent : c.addr.pair ∉ l.peers := by
      rw [mem_peers]
      rintro ⟨b, hb, hb'⟩
      exact hmisses.key_ne hb (PeerAddr.pair_eq_iff.mp hb').2
    unfold PeerList.call PeerCall.onSet
    cases hop : c.op with
    | add =>
      obtain ⟨hret, -, haddrs⟩ := add_of_misses hinit hmisses.split hfind
      exact ⟨hret.trans (decide_eq_true habsent).symm, peers_of_inserted hmisses.split haddrs⟩
    | remove =>
      dsimp only
      rw [remove_of_not_found hfind]
      exact ⟨(decide_eq_false habsent).symm, (Finset.erase_eq_of_notMem habsent).symm⟩
    | find =>
      dsimp only
      rw [hfind]
      exact ⟨(decide_eq_false habsent).symm, rfl⟩

end Call

/-! ### Sequences of calls -/

/-- The list whose init handler gives every peer a state. -/
def new (init : PeerAddr → S) : PeerList S := ⟨some fun a => some (init a), []⟩

/-- The list after `k` calls. -/
abbrev after (init : PeerAddr → S) (σ : ℕ → PeerCall) (k : ℕ) : PeerList S :=
  (machine S).stateAt (new init) σ k

/-- Call `k` behaves as on a finite set: its result is that of the set, and so are the addresses after
it. -/
def BehavesAsSet (init : PeerAddr → S) (σ : ℕ → PeerCall) (k : ℕ) : Prop :=
  ((after init σ k).call (σ k)).2 =
      ((σ k).onSet (PeerCall.setMachine.stateAt ∅ σ k)).2 ∧
    (after init σ (k + 1)).peers = PeerCall.setMachine.stateAt ∅ σ (k + 1)

/-- **The list as a finite set.** A sequence of calls on an empty list behaves as on a finite set of
addresses if and only if none of the calls collides. -/
theorem finiteSet_iff (init : PeerAddr → S) (σ : ℕ → PeerCall) (n : ℕ) :
    (∀ k < n, BehavesAsSet init σ k) ↔ ∀ k < n, ¬ Collides (σ k) (after init σ k) := by
  refine checks_iff_no_breach
    (p := fun k => ((after init σ k).WellFormed ∧
      (after init σ k).init = some fun a => some (init a)) ∧
      (after init σ k).peers = PeerCall.setMachine.stateAt ∅ σ k) ?_ ?_ ?_
  · exact ⟨⟨⟨by simp [addrs, new], List.Pairwise.nil, List.nodup_nil⟩, rfl⟩, rfl⟩
  · rintro k - ⟨⟨hl, hinit⟩, hpeers⟩
    rw [← hl.call_eq_iff hinit, hpeers]
    rfl
  · rintro k - ⟨⟨hl, hinit⟩, hpeers⟩ hcollides
    obtain ⟨hl', hinit'⟩ := hl.call hinit (σ k)
    refine ⟨⟨hl', hinit'.trans hinit⟩, ?_⟩
    have hset := ((hl.call_eq_iff hinit (σ k)).mpr hcollides).2
    rw [hpeers] at hset
    exact hset

/-- A MAC address. -/
def macPeer : PeerAddr := ⟨.macAddr, [10, 0, 0, 1, 5, 6].get⟩

/-- An IP address that the MAC address begins with. -/
def ipPeer : PeerAddr := ⟨.ipAddr, [10, 0, 0, 1, 0, 0].get⟩

/-- With the MAC address in the list, the IP address is found, cannot be added, and is removed in place
of the MAC address. -/
theorem ipPeer_collides :
    let l := ((new fun _ => ()).add macPeer).1
    (l.addrs.map PeerAddr.pair = [macPeer.pair]) ∧ (l.find ipPeer).2 = true ∧
      (l.add ipPeer).2 = false ∧ (l.remove ipPeer).2 = true ∧ (l.remove ipPeer).1.addrs.length = 0 ∧
      ¬ ∀ k < 2, BehavesAsSet (fun _ => ())
        (fun k => ⟨.add, if k = 0 then macPeer else ipPeer, by split <;> decide⟩) k := by
  intro l
  refine ⟨by decide, by decide, by decide, by decide, by decide, ?_⟩
  intro h
  exact absurd (h 1 (by decide)).1 (by decide)

end PeerList

end Gptp
