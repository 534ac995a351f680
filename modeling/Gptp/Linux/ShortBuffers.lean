import Gptp.Linux.Persistence

/-!
# Saving to and restoring from short buffers

The four functions of `Gptp.Linux.Persistence` detect a short buffer in the middle, at the first field that
does not fit. Up to there they have copied.

* `transfers_fitting`: whatever the count, each function copies the longest sequence of first fields that
  fits, and leaves in the count the octets left or missing.
* `restore_unchanged_iff`: a restore that fails leaves its object alone only if no field fitted, or the
  fields that did held the restored values before. `main` keeps the object either way.
-/

namespace Gptp

open Framework

variable {F : Type}

/-! ### What is transferred -/

/-- A call that was given `count` octets has copied the longest sequence of first fields that fits, and
reports how many octets are left or missing. -/
structure TransfersFitting {σ τ : Type} (fs : List (Member σ)) (count : Int64) (x : Transferred τ)
    (copied : List (Member σ) → τ) : Prop where
  ret_iff : x.ret = true ↔ (totalSize fs : ℤ) ≤ count.toInt
  left : x.ret = true → x.count.toInt = count.toInt - totalSize fs
  missing : x.ret = false → x.count.toInt = totalSize fs - count.toInt
  target : ∃ gs, LongestFitting fs count.toInt.toNat gs ∧ x.target = copied gs

/-- A count that is not negative is one of octets. -/
theorem exists_count {count : Int64} (h : 0 ≤ count.toInt) :
    ∃ k : ℕ, k < 2 ^ 63 ∧ count = Int64.ofNat k ∧ count.toInt = k := by
  obtain ⟨k, hk⟩ := Int.eq_ofNat_of_zero_le h
  have hlt : k < 2 ^ 63 := by
    have := count.toInt_lt
    omega
  refine ⟨k, hlt, ?_, hk⟩
  rw [← Int64.toInt_inj, hk, Int64.toInt_ofNat_of_lt hlt]

/-- A call that leaves the cursor behind its fields reports as it should. -/
theorem TransfersFitting.of_advanceAll {σ τ : Type} {fs : List (Member σ)}
    (hsize : totalSize fs < 2 ^ 63) {k a : ℕ} (hk : k < 2 ^ 63) {x : Cursor × τ}
    {copied : List (Member σ) → τ} (hcursor : x.1 = advanceAll fs (.room a k))
    (htarget : x.2 = copied (fitting fs k)) :
    TransfersFitting fs (Int64.ofNat k) (.of x) copied := by
  rw [advanceAll_room fs hk hsize] at hcursor
  have hcount := Int64.toInt_ofNat_of_lt hk
  have hlongest : ∃ gs, LongestFitting fs (Int64.ofNat k).toInt.toNat gs ∧
      (Transferred.of x).target = copied gs := by
    refine ⟨fitting fs k, ?_, htarget⟩
    rw [hcount, Int.toNat_natCast]
    exact longestFitting fs k
  by_cases hle : totalSize fs ≤ k
  · rw [if_pos hle] at hcursor
    have hret : (Transferred.of x).ret = true := congrArg Cursor.ret hcursor
    have hleft : (Transferred.of x).count = Int64.ofNat (k - totalSize fs) :=
      congrArg Cursor.count hcursor
    refine ⟨iff_of_true hret (by omega), fun _ => ?_, fun h => ?_, hlongest⟩
    · rw [hleft, Int64.toInt_ofNat_of_lt (by omega), hcount]
      omega
    · rw [hret] at h
      cases h
  · rw [if_neg hle] at hcursor
    have hret : (Transferred.of x).ret = false := congrArg Cursor.ret hcursor
    have hmissing : (Transferred.of x).count = Int64.ofNat (totalSize fs - k) :=
      congrArg Cursor.count hcursor
    refine ⟨iff_of_false (by simp [hret]) (by omega), fun h => ?_, fun _ => ?_, hlongest⟩
    · rw [hret] at h
      cases h
    · rw [hmissing, Int64.toInt_ofNat_of_lt (by omega), hcount]
      omega

namespace Abi

variable {abi : Abi F} (habi : abi.serializedSize < 2 ^ 63)
include habi

theorem clockSize_lt : totalSize (Clock.serialized abi) < 2 ^ 63 :=
  (Nat.le_add_right _ _).trans_lt habi

theorem portSize_lt : totalSize (EtherPort.serialized abi) < 2 ^ 63 :=
  (Nat.le_add_left _ _).trans_lt habi

end Abi

/-- **Short buffers.** Given any count that is not negative, saving and restoring the clock and the port
transfer the longest sequence of first fields that fits, at consecutive places, and nothing else. They
succeed if and only if these are all fields, and leave the octets left or missing in the count. -/
theorem transfers_fitting (abi : Abi F) (habi : abi.serializedSize < 2 ^ 63) (count : Int64)
    (hcount : 0 ≤ count.toInt) (a : ℕ) (m : Mem) (clock : Clock F) (port : EtherPort F) :
    TransfersFitting (Clock.serialized abi) count (clock.serializeState abi (some a) count m)
        (fun gs => m.store a (image gs clock)) ∧
      TransfersFitting (Clock.restored abi) count (clock.restoreSerializedState abi m a count)
        (fun gs => assignFrom gs m a clock) ∧
      TransfersFitting (EtherPort.restored abi) count (port.restoreSerializedState abi m a count)
        (fun gs => assignFrom gs m a port) ∧
      (port.portState = .ptpMaster ∨ port.portState = .ptpSlave →
        TransfersFitting (EtherPort.serialized abi) count
          (port.serializeState abi (some a) count m) (fun gs => m.store a (image gs port))) := by
  obtain ⟨k, hk, rfl, -⟩ := exists_count hcount
  have hclock := Abi.clockSize_lt habi
  have hport := Abi.portSize_lt habi
  refine ⟨?_, ?_, ?_, ?_⟩
  · exact .of_advanceAll hclock hk (writeAll_fst ..) (writeAll_snd_room _ clock m hk hclock)
  · exact .of_advanceAll hclock hk (readAll_fst ..) (readAll_snd_room _ m clock hk hclock)
  · exact .of_advanceAll hport hk (readAll_fst ..) (readAll_snd_room _ m port hk hport)
  · intro hstate
    rw [EtherPort.serializeState_of_saved hstate]
    exact .of_advanceAll hport hk (writeAll_fst ..) (writeAll_snd_room _ port m hk hport)

/-- Twenty octets are not enough for a port: nine are missing. -/
theorem octetsPort_twenty :
    let saved := octetsPort.serializeState octetsAbi (some 100) 20 fun _ => 0
    saved.ret = false ∧ saved.count.toInt = 9 := by
  have h := (transfers_fitting octetsAbi (by rw [Abi.serializedSize_eq]; decide) 20 (by decide) 100
    (fun _ => 0) octetsClock octetsPort).2.2.2 (.inl rfl)
  have hret := Bool.eq_false_iff.mpr fun hret => absurd (h.ret_iff.mp hret) (by decide)
  exact ⟨hret, h.missing hret⟩

/-! ### Failed restores -/

theorem Clock.independent_restored (abi : Abi F) : Independent (Clock.restored abi) := by
  refine ⟨?_, ?_⟩
  · intro f hf
    simp only [restored, List.mem_cons, List.not_mem_nil, or_false] at hf
    rcases hf with rfl | rfl | rfl <;>
      exact Member.assign_of_bytes _ (fun _ _ => rfl) fun _ => rfl
  · simp only [restored, List.pairwise_cons, List.mem_cons, List.not_mem_nil, or_false,
      forall_eq_or_imp, forall_eq, List.Pairwise.nil, and_true, false_implies, implies_true]
    exact ⟨⟨fun _ _ => rfl, fun _ _ => rfl⟩, fun _ _ => rfl⟩

theorem EtherPort.independent_restored (abi : Abi F) : Independent (EtherPort.restored abi) := by
  refine ⟨?_, ?_⟩
  · intro f hf
    simp only [restored, List.mem_cons, List.not_mem_nil, or_false] at hf
    rcases hf with rfl | rfl | rfl | rfl <;>
      exact Member.assign_of_bytes _ (fun _ _ => rfl) fun _ => rfl
  · simp only [restored, List.pairwise_cons, List.mem_cons, List.not_mem_nil, or_false,
      forall_eq_or_imp, forall_eq, List.Pairwise.nil, and_true, false_implies, implies_true]
    exact ⟨⟨fun _ _ => rfl, fun _ _ => rfl, fun _ _ => rfl⟩, ⟨fun _ _ => rfl, fun _ _ => rfl⟩,
      fun _ _ => rfl⟩

/-- A restore leaves its object alone, unless it has succeeded. -/
def LeavesUnlessRestored {σ : Type} (s : σ) (x : Transferred σ) : Prop :=
  x.ret = false → x.target = s

/-- When restoring `fs` from `count` octets at `a` leaves an object alone unless it succeeds: there is
room for all fields, or the fields for which there is room hold the restored values already. With a
negative count there is room for none. -/
def RestoreIsSafe {σ : Type} (fs : List (Member σ)) (m : Mem) (a : ℕ) (count : Int64) (s : σ) : Prop :=
  count.toInt < 0 ∨ (totalSize fs : ℤ) ≤ count.toInt ∨ Agree (fitting fs count.toInt.toNat) m a s

theorem leavesUnlessRestored_iff {σ : Type} {fs : List (Member σ)} (hsize : totalSize fs < 2 ^ 63)
    (hindependent : Independent fs) (m : Mem) (a : ℕ) (count : Int64) (s : σ) :
    LeavesUnlessRestored s (.of (readAll fs m ⟨true, count, a⟩ s)) ↔
      RestoreIsSafe fs m a count s := by
  by_cases hneg : count.toInt < 0
  · have hkept := readAll_snd_of_neg fs m (c := ⟨true, count, a⟩) hneg s hsize
    exact iff_of_true (fun _ => hkept) (.inl hneg)
  · obtain ⟨k, hk, rfl, hcount⟩ := exists_count (Int.not_lt.mp hneg)
    have hret : (readAll fs m (.room a k) s).1.ret = false ↔ ¬ totalSize fs ≤ k := by
      rw [readAll_fst, advanceAll_room fs hk hsize]
      split_ifs with hle
      · exact iff_of_false Bool.noConfusion (not_not.mpr hle)
      · exact iff_of_true rfl hle
    have htarget := readAll_snd_room fs m (a := a) s hk hsize
    have hagree := assignFrom_eq_self_iff (hindependent.sublist
      (longestFitting fs k).initial.sublist) m a s
    rw [RestoreIsSafe, or_iff_right hneg, hcount, Int.toNat_natCast, ← hagree, ← htarget,
      Nat.cast_le, or_iff_not_imp_left, ← hret]
    rfl

/-- **When a failed restore leaves everything alone.** Restoring the clock or the port is all or nothing
exactly for the buffers for which it is safe. -/
theorem restore_unchanged_iff (abi : Abi F) (habi : abi.serializedSize < 2 ^ 63) (m : Mem) (a : ℕ)
    (count : Int64) (clock : Clock F) (port : EtherPort F) :
    (LeavesUnlessRestored clock (clock.restoreSerializedState abi m a count) ↔
        RestoreIsSafe (Clock.restored abi) m a count clock) ∧
      (LeavesUnlessRestored port (port.restoreSerializedState abi m a count) ↔
        RestoreIsSafe (EtherPort.restored abi) m a count port) :=
  ⟨leavesUnlessRestored_iff (Abi.clockSize_lt habi) (Clock.independent_restored abi) m a count clock,
    leavesUnlessRestored_iff (Abi.portSize_lt habi) (EtherPort.independent_restored abi) m a count
      port⟩

/-- A storage that ends five octets into the fields of the port leaves a port alone that is a master on a
capable link already, whatever it knows about the delay. -/
theorem octetsPort_unchanged :
    let m : Mem := Mem.store (fun _ => 0) 0 (octetsAbi.image octetsClock octetsPort)
    let port : EtherPort (Fin 16 → UInt8) := { octetsPort with link.oneWayDelay := 3600000000000 }
    (port.restoreSerializedState octetsAbi m 40 5).ret = false ∧
      (port.restoreSerializedState octetsAbi m 40 5).target = port := by
  intro m port
  have hret : (port.restoreSerializedState octetsAbi m 40 5).ret = false := by decide +kernel
  -- two fields fit, and hold what is stored
  have hagree : Agree (fitting (EtherPort.restored octetsAbi) 5) m 40 port := ⟨rfl, rfl, trivial⟩
  exact ⟨hret, (restore_unchanged_iff octetsAbi (by rw [Abi.serializedSize_eq]; decide) m 40 5
    octetsClock port).2.mpr (.inr (.inr hagree)) hret⟩

/-- A storage that ends five octets into the fields of the port: the port comes up as a master on a
capable link, but without the delay of that link. -/
theorem truncated_storage :
    let m : Mem := Mem.store (fun _ => 0) 0 (octetsAbi.image octetsClock octetsPort)
    let port : EtherPort (Fin 16 → UInt8) := { octetsPort with
      portState := .ptpInitializing
      link.asCapable := false
      link.oneWayDelay := 3600000000000 }
    let restored := mainRestore octetsAbi (some 0) 45 m octetsClock port
    (port.restoreSerializedState octetsAbi m 40 5).ret = false ∧
      ¬ LeavesUnlessRestored port (port.restoreSerializedState octetsAbi m 40 5) ∧
      restored.1.restorefailed = true ∧
      restored.2.2.portState = .ptpMaster ∧ restored.2.2.link.asCapable = true ∧
      restored.2.2.link.oneWayDelay = 3600000000000 := by
  intro m port restored
  have hret : (port.restoreSerializedState octetsAbi m 40 5).ret = false := by decide +kernel
  have hstate : (port.restoreSerializedState octetsAbi m 40 5).target.portState = .ptpMaster := by
    decide +kernel
  refine ⟨hret, ?_, by decide +kernel, by decide +kernel, by decide +kernel, by decide +kernel⟩
  intro h
  rw [h hret] at hstate
  cases hstate

end Gptp
