import Gptp.Message.Nanoseconds
import Gptp.Port.CoreReceive
import Gptp.Port.Run

/-!
# The measured link delay

With the transmission `t₁` and the receipt `t₂` of a request and the transmission `t₃` and the receipt
`t₄` of its response, the link delay is half of `(t₄ - t₁) - k (t₃ - t₂)`, the round trip less the
turn-around at the peer, converted to local time by the peer rate `k`. The source assembles the two
differences from the words of the timestamps in 64-bit arithmetic that overflows on the way, holds one
in a signed and one in an unsigned variable, and subtracts them.

* `Daemon.elapsedNs_eq`: a difference of timestamps is that of their values, converted to a signed
  word, whatever overflows in between.
* `Daemon.oneWayDelay_of_completes`: the delay stored by a follow-up that completes an exchange.
* `Daemon.linkDelay_stored`: for differences below `2 ^ 62` it is the formula on signed words.
-/

namespace Gptp

open Framework

namespace Daemon

/-! ### Differences of timestamps -/

/-- The words of two timestamps combine to the difference of their values. -/
theorem elapsedNs_eq (later earlier : Timestamp) :
    elapsedNs later earlier = Int64.ofInt (later.value - earlier.value) := by
  have hvalue : (later.value : ℤ) - earlier.value =
      ((later.secondsMs.toNat : ℤ) - earlier.secondsMs.toNat) * 4294967296 * 1000000000 +
        ((later.secondsLs.toNat : ℤ) - earlier.secondsLs.toNat) * 1000000000 +
        ((later.nanoseconds.toNat : ℤ) - earlier.nanoseconds.toNat) := by
    unfold Timestamp.value Timestamp.wholeSeconds
    push_cast
    ring
  rw [hvalue, elapsedNs]
  simp only [Int64.ofInt_add, Int64.ofInt_sub, Int64.ofInt_mul, Int64.ofInt_eq_ofNat]
  rfl

/-- The turn-around as the unsigned variable holds it. -/
theorem toNat_elapsedNs {later earlier : Timestamp} (hle : earlier.value ≤ later.value)
    (hlt : (later.value : ℤ) - earlier.value < 2 ^ 62) :
    ((elapsedNs later earlier).toUInt64.toNat : ℤ) = later.value - earlier.value := by
  have htoInt : (elapsedNs later earlier).toInt = later.value - earlier.value := by
    rw [elapsedNs_eq, Int64.toInt_ofInt]
    exact bmod_eq_self (by omega) (by omega)
  rw [toNat_toUInt64_of_nonneg (by omega), htoInt]

/-! ### The delay -/

/-- The rate by which a turn-around is converted: the peer rate if it is within 0.2 percent of one. -/
def turnAroundRate (r : ℚ) : ℚ := if 998 / 1000 < r ∧ r < 1002 / 1000 then r else 1

/-- Truncation does nothing to an integer. -/
theorem truncate_intCast (n : ℤ) : truncate n = n := by
  unfold truncate
  split_ifs
  · exact Int.floor_intCast n
  · exact Int.ceil_intCast n

/-- The formula on signed words: the round trip less the converted turn-around, halved. -/
theorem linkDelay_eq (req : PTPMessagePathDelayReq) (resp : PTPMessagePathDelayResp)
    (m : PTPMessagePathDelayRespFollowUp) (r : ℚ)
    (hle : resp.requestReceiptTimestamp.value ≤ m.responseOriginTimestamp.value)
    (hlt : (m.responseOriginTimestamp.value : ℤ) - resp.requestReceiptTimestamp.value < 2 ^ 62) :
    linkDelay req resp m r =
      (Int64.ofInt (resp.timestamp.value - req.timestamp.value) -
        Int64.ofInt (truncate (turnAroundRate r *
          ((m.responseOriginTimestamp.value : ℤ) - resp.requestReceiptTimestamp.value : ℤ)))) / 2 := by
  have hturn := toNat_elapsedNs hle hlt
  unfold linkDelay
  dsimp only
  rw [UInt64.toInt64_sub, Int64.toInt64_toUInt64, elapsedNs_eq resp.timestamp]
  by_cases hr : 998 / 1000 < r ∧ r < 1002 / 1000
  · have hplausible : (Platform.lt (Platform.ofRat (998 / 1000)) r &&
        Platform.lt r (Platform.ofRat (1002 / 1000))) = true := by
      simpa [Platform.lt, Platform.ofRat] using hr
    -- the product is taken of the unsigned turn-around
    rw [if_pos hplausible, Int64.toInt64_toUInt64, turnAroundRate, if_pos hr, mul_comm, ← hturn]
    rfl
  · have hplausible : ¬ (Platform.lt (Platform.ofRat (998 / 1000)) r &&
        Platform.lt r (Platform.ofRat (1002 / 1000))) = true := by
      simpa [Platform.lt, Platform.ofRat] using hr
    rw [if_neg hplausible, Int64.toInt64_toUInt64, turnAroundRate, if_neg hr, one_mul,
      truncate_intCast, elapsedNs_eq]

/-- The conversion keeps the sign of a turn-around. -/
theorem truncate_turnAround_nonneg (r : ℚ) {n : ℤ} (hn : 0 ≤ n) :
    0 ≤ truncate (turnAroundRate r * n) := by
  have hrate : 0 ≤ turnAroundRate r := by
    unfold turnAroundRate
    split_ifs with h
    · exact (lt_trans (by norm_num) h.1).le
    · exact zero_le_one
  have hprod : 0 ≤ turnAroundRate r * n := mul_nonneg hrate (Int.cast_nonneg hn)
  rw [truncate, if_pos hprod]
  exact Int.floor_nonneg.mpr hprod

end Daemon

/-- A completed measurement stores the measured delay. -/
theorem Core.oneWayDelay_measured {F : Type} (delay : Int64) (rate : F) (mine theirs : Timestamp)
    (c : Core F) : (c.measured delay rate mine theirs).link.oneWayDelay = delay := by
  unfold Core.measured
  dsimp only
  split <;> rfl

namespace Daemon

/-- What a follow-up that completes an exchange stores. -/
theorem oneWayDelay_of_completes {F : Type} [Platform F] {d : Daemon F}
    {m : PTPMessagePathDelayRespFollowUp} {req : PTPMessagePathDelayReq}
    {resp : PTPMessagePathDelayResp} (hstate : d.port.portState.ignoresMessages = false)
    (hreq : d.port.pdelay.lastPDelayReq = some req)
    (hresp : d.port.pdelay.lastPDelayResp = some resp) (hcompletes : completes req resp m) :
    (d.processPathDelayRespFollowUp m).1.port.link.oneWayDelay =
      linkDelay req resp m d.port.link.peerRateOffset := by
  have hcore := (d.processPathDelayRespFollowUp_core m).eq_of_completes hstate hreq hresp hcompletes
  show (d.processPathDelayRespFollowUp m).1.core.link.oneWayDelay = _
  rw [hcore]
  exact Core.oneWayDelay_measured ..

/-- **The stored link delay.** For a round trip of less than `2 ^ 62` nanoseconds either way and a
turn-around of less than `2 ^ 62` nanoseconds, a follow-up that completes the exchange stores half of
the round trip less the converted turn-around, rounded towards zero. The difference is a signed 64-bit
number; it is the exact one unless it is below `- 2 ^ 63`. -/
theorem linkDelay_stored (d : Daemon ℚ) (req : PTPMessagePathDelayReq)
    (resp : PTPMessagePathDelayResp) (m : PTPMessagePathDelayRespFollowUp)
    (hstate : d.port.portState.ignoresMessages = false)
    (hreq : d.port.pdelay.lastPDelayReq = some req)
    (hresp : d.port.pdelay.lastPDelayResp = some resp) (hcompletes : completes req resp m)
    (hround : |(resp.timestamp.value : ℤ) - req.timestamp.value| < 2 ^ 62)
    (hturn : 0 ≤ (m.responseOriginTimestamp.value : ℤ) - resp.requestReceiptTimestamp.value)
    (hturn' : (m.responseOriginTimestamp.value : ℤ) - resp.requestReceiptTimestamp.value < 2 ^ 62) :
    let roundTrip : ℤ := resp.timestamp.value - req.timestamp.value
    let turnAround : ℤ := m.responseOriginTimestamp.value - resp.requestReceiptTimestamp.value
    let twice : ℤ := roundTrip - truncate (turnAroundRate d.port.link.peerRateOffset * turnAround)
    let delay := (d.processPathDelayRespFollowUp m).1.port.link.oneWayDelay
    delay.toInt = (Int.bmod twice (2 ^ 64)).tdiv 2 ∧
      (-2 ^ 63 ≤ twice → delay.toInt = twice.tdiv 2) := by
  intro roundTrip turnAround twice delay
  have hnonneg : 0 ≤ truncate (turnAroundRate d.port.link.peerRateOffset * turnAround) :=
    truncate_turnAround_nonneg _ hturn
  have hdelay : delay = Int64.ofInt twice / 2 := by
    show (d.processPathDelayRespFollowUp m).1.port.link.oneWayDelay = _
    rw [oneWayDelay_of_completes hstate hreq hresp hcompletes, linkDelay_eq _ _ _ _ (by omega) hturn',
      ← Int64.ofInt_sub]
  have htoInt : delay.toInt = (Int.bmod twice (2 ^ 64)).tdiv 2 := by
    rw [hdelay, Int64.toInt_div_of_ne_right _ _ (by decide), Int64.toInt_ofInt]
    rfl
  refine ⟨htoInt, fun hlower => ?_⟩
  have hupper : twice < 2 ^ 63 := by
    have := abs_lt.mp hround
    omega
  rw [htoInt, bmod_eq_self hlower hupper]

/-- A neighbour with the response sent three seconds after the receipt, on a port whose peer rate is
1.001; the response is back after four seconds. The delay is half of 0.997 seconds. -/
theorem linkDelay_stored_four_seconds :
    let req : PTPMessagePathDelayReq := ⟨neighborHeader 0⟩
    let resp : PTPMessagePathDelayResp :=
      { neighborResp 0 with timestamp := ⟨0, 4, 0, 0⟩, requestReceiptTimestamp := ⟨0, 7, 1, 0⟩ }
    let m : PTPMessagePathDelayRespFollowUp :=
      { neighborRespFollowUp 0 with responseOriginTimestamp := ⟨0, 10, 1, 0⟩ }
    let d : Daemon ℚ := (Start.standard localIdentity).daemon
    let d := { d with
      port.portState := .ptpSlave
      port.link.peerRateOffset := 1001 / 1000
      port.pdelay.lastPDelayReq := some req
      port.pdelay.lastPDelayResp := some resp }
    (d.processPathDelayRespFollowUp m).1.port.link.oneWayDelay.toInt = 498500000 := by
  intro req resp m d₀ d
  have h := (linkDelay_stored d req resp m (by decide) rfl rfl (by decide) (by decide) (by decide)
    (by decide)).2
  exact (h (by decide +kernel)).trans (by decide +kernel)

end Daemon

end Gptp
