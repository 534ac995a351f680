import Gptp.Linux.Reception
import Gptp.Message.Timestamps

/-!
# Compensating timestamps for the PHY delay

The timestamp of a sent event message is increased, and that of a received one decreased, by the delay
of the PHY, with the operators of `Timestamp`. For operands at large the operators are exact under the
conditions of `Timestamp.add_exact_iff` and `Timestamp.sub_exact_iff`. A PHY delay has no seconds, so
its low word is zero and the sum misses no carry; the difference loses seconds if it crosses a multiple of
`2 ^ 32` seconds from `2 ^ 33` seconds on.
-/

namespace Gptp

variable {F : Type}

/-! ### The operators -/

namespace Timestamp

/-- The sum of two normalised timestamps is normalised and has the sum of the values, except where the
carry out of the nanoseconds meets a low word of all ones on the right. -/
theorem add_exact_iff {a b : Timestamp} (ha : a.Normalized) (hb : b.Normalized)
    (hversion : a.version = b.version) (hsum : a.value + b.value < 2 ^ 48 * 10 ^ 9) :
    (a.add b).version = a.version ∧
      ((a.add b).Normalized ∧ (a.add b).value = a.value + b.value ↔ ¬ MissesCarry a b) := by
  refine ⟨if_pos hversion, ?_⟩
  rw [and_iff_right (ha.add hb)]
  have hvalue := value_add ha hb hsum
  split_ifs at hvalue with hmissed
  · refine iff_of_false (fun heq => ?_) (not_not_intro hmissed)
    omega
  · exact iff_of_true (by omega) hmissed

/-- One nanosecond and `2 ^ 32` seconds less one nanosecond make zero. -/
theorem add_wraps_to_zero :
    let a : Timestamp := ⟨1, 0, 0, 1⟩
    let b : Timestamp := ⟨999999999, 0xFFFFFFFF, 0, 1⟩
    a.Normalized ∧ b.Normalized ∧ a.version = b.version ∧ a.value + b.value = 2 ^ 32 * 10 ^ 9 ∧
      a.add b = ⟨0, 0, 0, 1⟩ := by
  decide +kernel

/-- The same two values in the other order are added exactly. -/
theorem add_exact_swapped :
    let a : Timestamp := ⟨999999999, 0xFFFFFFFF, 0, 1⟩
    let b : Timestamp := ⟨1, 0, 0, 1⟩
    (a.add b).Normalized ∧ (a.add b).value = a.value + b.value := by
  intro a b
  have ha : a.Normalized := by decide +kernel
  have hb : b.Normalized := by decide +kernel
  have hsum : a.value + b.value < 2 ^ 48 * 10 ^ 9 := by decide +kernel
  have hcarry : ¬ MissesCarry a b := by decide +kernel
  exact (add_exact_iff ha hb rfl hsum).2.mpr hcarry

end Timestamp

/-! ### The delay of a PHY -/

/-- A delay without seconds and with at most a 16-bit number of nanoseconds. -/
def Timestamp.IsPhyDelay (t : Timestamp) : Prop :=
  t.nanoseconds.toNat < 2 ^ 16 ∧ t.secondsLs = 0 ∧ t.secondsMs = 0

theorem Timestamp.isPhyDelay_toUInt32 (ns : UInt16) (version : UInt8) :
    IsPhyDelay ⟨ns.toUInt32, 0, 0, version⟩ := by
  refine ⟨?_, rfl, rfl⟩
  rw [UInt16.toNat_toUInt32]
  exact ns.toNat_lt

theorem Timestamp.IsPhyDelay.normalized {t : Timestamp} (h : t.IsPhyDelay) : t.Normalized :=
  h.1.trans (by norm_num)

namespace PortConfig

variable (c : PortConfig) (linkSpeed : UInt32)

-- a link speed without an entry in the table has no delay

theorem isPhyDelay_getTxPhyDelay : (c.getTxPhyDelay linkSpeed).IsPhyDelay := by
  unfold getTxPhyDelay
  split
  · exact Timestamp.isPhyDelay_toUInt32 _ _
  · exact Timestamp.isPhyDelay_toUInt32 0 _

theorem isPhyDelay_getRxPhyDelay : (c.getRxPhyDelay linkSpeed).IsPhyDelay := by
  unfold getRxPhyDelay
  split
  · exact Timestamp.isPhyDelay_toUInt32 _ _
  · exact Timestamp.isPhyDelay_toUInt32 0 _

end PortConfig

/-! ### Sent event messages -/

namespace Daemon

variable {env : Env} {ts : Timestamp}

/-- A normalised hardware timestamp is normalised after compensation. -/
theorem normalized_getTxTimestamp (hts : env.txTimestamp = some ts) (h : ts.Normalized)
    (d : Daemon F) : (d.getTxTimestamp env).1.Normalized := by
  unfold getTxTimestamp
  rw [hts]
  exact h.add (d.port.cfg.isPhyDelay_getTxPhyDelay _).normalized

end Daemon

/-! ### Received event messages -/

section Rx

variable (cfg : PortConfig) (linkSpeed : UInt32)

/-- The compensation of an event message is that of its timestamp. -/
theorem timestamp_compensate {msg : PTPMessage} (hevent : Linux.isEvent msg) :
    Linux.timestamp (Daemon.compensate cfg linkSpeed msg) =
      Daemon.rxCompensate cfg linkSpeed (Linux.timestamp msg) := by
  cases msg with
  | sync m => rfl
  | pathDelayReq m => rfl
  | pathDelayResp m => rfl
  | followUp m => exact absurd hevent Bool.false_ne_true
  | pathDelayRespFollowUp m => exact absurd hevent Bool.false_ne_true
  | announce m => exact absurd hevent Bool.false_ne_true
  | signalling m => exact absurd hevent Bool.false_ne_true

end Rx

namespace Timestamp

/-- The difference of two normalised timestamps is exact if the low words do not borrow, or if the
nanoseconds borrow as well and the high words differ by one. -/
theorem lostSeconds_eq_zero_iff (a b : Timestamp) :
    lostSeconds a b = 0 ↔ ¬ BorrowsLs a b ∨
      (a.nanoseconds.toNat < b.nanoseconds.toNat ∧ a.secondsMs.toNat = b.secondsMs.toNat + 1) := by
  unfold lostSeconds borrowNanoseconds
  split_ifs <;> simp_all

theorem value_sub_eq_iff {a b : Timestamp} (ha : a.Normalized) (hb : b.Normalized)
    (hle : b.value ≤ a.value) : (a.sub b).value = a.value - b.value ↔ lostSeconds a b = 0 := by
  have hvalue := value_sub ha hb hle
  omega

/-- Subtracting less than a second loses seconds only below a multiple of `2 ^ 32` seconds, and not
below the first. -/
theorem lostSeconds_eq_zero_iff_of_subsecond {a b : Timestamp} (ha : a.Normalized)
    (hb : b.Normalized) (hle : b.value ≤ a.value) (hls : b.secondsLs = 0) (hms : b.secondsMs = 0) :
    lostSeconds a b = 0 ↔
      ¬ (a.secondsLs = 0 ∧ a.nanoseconds < b.nanoseconds ∧ 2 ≤ a.secondsMs) := by
  have hhigh := secondsMs_le_of_value_le ha hb hle
  rw [lostSeconds_eq_zero_iff, ← UInt32.toNat_inj, UInt32.lt_iff_toNat_lt, UInt16.le_iff_toNat_le]
  unfold BorrowsLs borrowNanoseconds at *
  rw [hls, hms] at *
  simp only [UInt32.toNat_zero, UInt16.toNat_zero, UInt16.reduceToNat] at *
  split_ifs at * <;> omega

/-- Subtraction keeps timestamps normalised. -/
theorem Normalized.sub {a b : Timestamp} (ha : a.Normalized) (hb : b.Normalized) :
    (a.sub b).Normalized := by
  rw [Normalized, toNat_nanoseconds_sub ha hb, borrowNanoseconds]
  unfold Normalized at ha hb
  split_ifs <;> omega

/-- The difference `a - b` of two normalised timestamps with `b ≤ a` is normalised and has the
difference of the values exactly if the low words do not borrow, or if the nanoseconds borrow too and
the high words differ by one. For the compensation of a received event message, it has unless the
delay takes the timestamp below a multiple of `2 ^ 32` seconds other than the first. -/
theorem sub_exact_iff (a b : Timestamp) (cfg : PortConfig) (linkSpeed : UInt32) (msg : PTPMessage) :
    (a.Normalized → b.Normalized → a.version = b.version → b.value ≤ a.value →
      (a.sub b).version = a.version ∧
        ((a.sub b).Normalized ∧ (a.sub b).value = a.value - b.value ↔
          ¬ BorrowsLs a b ∨ (a.nanoseconds.toNat < b.nanoseconds.toNat ∧
            a.secondsMs.toNat = b.secondsMs.toNat + 1))) ∧
    (Linux.isEvent msg →
      let ts := Linux.timestamp msg
      let delay := cfg.getRxPhyDelay linkSpeed
      let ts' := Linux.timestamp (Daemon.compensate cfg linkSpeed msg)
      ts.Normalized → delay.value ≤ ts.value →
        ts'.version = ts.version ∧
          (ts'.Normalized ∧ ts'.value = ts.value - delay.value ↔
            ¬ (ts.secondsLs = 0 ∧ ts.nanoseconds < delay.nanoseconds ∧ 2 ≤ ts.secondsMs))) := by
  constructor
  · intro ha hb hversion hle
    refine ⟨if_pos hversion, ?_⟩
    rw [and_iff_right (ha.sub hb), value_sub_eq_iff ha hb hle, lostSeconds_eq_zero_iff]
  · intro hevent ts delay ts' hts hle
    obtain ⟨-, hls, hms⟩ := cfg.isPhyDelay_getRxPhyDelay linkSpeed
    -- the delay is subtracted under the version of the timestamp, which does not change its value
    have hsub : ts' = ts.sub { delay with version := ts.version } :=
      timestamp_compensate cfg linkSpeed hevent
    have hdelay : Normalized { delay with version := ts.version } :=
      (cfg.isPhyDelay_getRxPhyDelay linkSpeed).normalized
    rw [hsub]
    refine ⟨if_pos rfl, ?_⟩
    rw [and_iff_right (hts.sub hdelay)]
    exact (value_sub_eq_iff hts hdelay hle).trans
      (lostSeconds_eq_zero_iff_of_subsecond hts hdelay hle hls hms)

/-- A Sync received at `ts`. -/
def syncReceivedAt (ts : Timestamp) : PTPMessage :=
  .sync { neighborSync 1 with timestamp := ts }

/-- A difference whose low words alone borrow is a second short. The compensation of a Sync received
at `2 ^ 33` seconds, over a link with a receive delay, is `2 ^ 32` seconds short. -/
theorem sub_loses_seconds :
    let a : Timestamp := ⟨0, 0, 1, 1⟩
    let b : Timestamp := ⟨0, 1, 0, 1⟩
    let cfg := PortConfig.standard localIdentity
    let ts : Timestamp := ⟨0, 0, 2, 1⟩
    let ts' := Linux.timestamp (Daemon.compensate cfg 1000000 (syncReceivedAt ts))
    (a.Normalized ∧ b.Normalized ∧ a.version = b.version ∧ b.value ≤ a.value ∧
        (a.sub b).value + 10 ^ 9 = a.value - b.value) ∧
      ts.Normalized ∧ (cfg.getRxPhyDelay 1000000).value ≤ ts.value ∧
        ts'.value + 2 ^ 32 * 10 ^ 9 = ts.value - (cfg.getRxPhyDelay 1000000).value := by
  decide +kernel

/-- The same differences, from a larger low word and from `2 ^ 32` seconds. -/
theorem sub_exact_first_multiple :
    let a : Timestamp := ⟨0, 1, 1, 1⟩
    let b : Timestamp := ⟨0, 1, 0, 1⟩
    let cfg := PortConfig.standard localIdentity
    let ts : Timestamp := ⟨0, 0, 1, 1⟩
    let ts' := Linux.timestamp (Daemon.compensate cfg 1000000 (syncReceivedAt ts))
    (a.sub b).value = a.value - b.value ∧
      ts'.value = ts.value - (cfg.getRxPhyDelay 1000000).value := by
  intro a b cfg ts ts'
  have ha : a.Normalized := by decide +kernel
  have hb : b.Normalized := by decide +kernel
  have hle : b.value ≤ a.value := by decide +kernel
  have hborrow : ¬ BorrowsLs a b := by decide +kernel
  have hts : ts.Normalized := by decide +kernel
  have hdelay : (cfg.getRxPhyDelay 1000000).value ≤ ts.value := by decide +kernel
  have hcross : ¬ (ts.secondsLs = 0 ∧
      ts.nanoseconds < (cfg.getRxPhyDelay 1000000).nanoseconds ∧ 2 ≤ ts.secondsMs) := by
    decide +kernel
  obtain ⟨hsub, hcompensate⟩ := sub_exact_iff a b cfg 1000000 (syncReceivedAt ts)
  exact ⟨((hsub ha hb rfl hle).2.mpr (.inl hborrow)).2, ((hcompensate rfl hts hdelay).2.mpr hcross).2⟩

end Timestamp

end Gptp
