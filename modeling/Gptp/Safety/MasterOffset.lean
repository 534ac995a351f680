import Gptp.Message.Nanoseconds
import Gptp.Safety.SyncPairing

/-!
# The offset from the master

A slave that accepts a Follow_Up moves the precise origin timestamp by a correction, flattens the
result and the arrival time of the Sync to 64 bits and hands their difference to `setMasterOffset`.
The correction is added by `TIMESTAMP_ADD_NS` or, negated, subtracted by `TIMESTAMP_SUB_NS`; the first
may leave a whole second in the nanoseconds, which flattening counts all the same.

* `Daemon.value_correctedOrigin`: the corrected origin has the exact value, for both signs.
* `Daemon.processFollowUpAt_offset`: what an accepted Follow_Up hands to `setMasterOffset`.
* `Daemon.masterOffset_exact`: that number modulo `2 ^ 64`.
-/

namespace Gptp

open Framework

variable {F : Type} [Platform F]

namespace Daemon

/-- The correction of a Follow_Up: the scaled link delay and the correction field in nanoseconds,
converted to an integer. -/
def followUpCorrection (m : PTPMessageFollowUp) (d : Daemon F) : Int64 :=
  Platform.toI64 (Platform.add
    (Platform.mul (Platform.ofRat d.port.link.getLinkDelay.toNat)
      (Platform.div
        (Platform.add
          (Platform.div (Platform.ofRat m.tlv.cumulativeScaledRateOffset.toInt)
            (Platform.ofRat (2 ^ 41)))
          (Platform.ofRat 1))
        d.port.link.peerRateOffset))
    (Platform.ofRat (m.correctionField / 65536).toInt))

theorem correctedOrigin_eq (m : PTPMessageFollowUp) (d : Daemon F) :
    d.correctedOrigin m (m.correctionField / 65536) =
      if 0 < d.followUpCorrection m then
        m.preciseOriginTimestamp.addNs (d.followUpCorrection m).toUInt64
      else m.preciseOriginTimestamp.subNs (-d.followUpCorrection m).toUInt64 := rfl

/-- The corrected origin has the exact value if that is within 48-bit seconds. -/
theorem value_correctedOrigin {m : PTPMessageFollowUp} {d : Daemon F}
    (hp : m.preciseOriginTimestamp.Normalized) (hc : -2 ^ 63 < (d.followUpCorrection m).toInt)
    (hnonneg : 0 ≤ m.preciseOriginTimestamp.value + (d.followUpCorrection m).toInt)
    (hlt : m.preciseOriginTimestamp.value + (d.followUpCorrection m).toInt < 2 ^ 48 * 10 ^ 9) :
    ((d.correctedOrigin m (m.correctionField / 65536)).value : ℤ) =
      m.preciseOriginTimestamp.value + (d.followUpCorrection m).toInt := by
  rw [correctedOrigin_eq]
  -- one macro for each sign; both are given the correction as an unsigned count
  by_cases hpos : 0 < d.followUpCorrection m
  · have hpos' : 0 < (d.followUpCorrection m).toInt := Int64.lt_iff_toInt_lt.mp hpos
    have hcount := toNat_toUInt64_of_nonneg hpos'.le
    rw [if_pos hpos, Timestamp.value_addNs hp (by omega)]
    omega
  · have hneg : (d.followUpCorrection m).toInt ≤ 0 := Int64.le_iff_toInt_le.mp (Int64.not_lt.mp hpos)
    have hminus := toInt_neg_of_ne hc
    have hcount := toNat_toUInt64_of_nonneg (x := -d.followUpCorrection m) (by omega)
    have hvalue := Timestamp.value_subNs (n := (-d.followUpCorrection m).toUInt64) hp (by omega)
    rw [if_neg hpos]
    omega

omit [Platform F] in
/-- The calls of `setMasterOffset` are all in the log of the core. -/
theorem filter_log_isMasterOffset (d : Daemon F) :
    d.core.log.filter Effect.isMasterOffset = d.effects.filter Effect.isMasterOffset := by
  show (d.effects.filter Effect.isSalient).filter Effect.isMasterOffset = _
  rw [List.filter_filter]
  apply List.filter_congr
  intro x _
  cases x <;> simp [Effect.isMasterOffset, Effect.isSalient]

omit [Platform F] in
/-- Of the clock only the configuration and the grandmaster data set are part of the core. -/
theorem core_of_clock {d : Daemon F} {c : Clock F}
    (h : c.cfg = d.clock.cfg ∧ c.grandmaster = d.clock.grandmaster) :
    { d with clock := c }.core = d.core := by
  simp only [core, h]

omit [Platform F] in
theorem core_of_timeBase (d : Daemon F) (indicator : UInt16) :
    { d with port.lastGmTimeBaseIndicator := indicator }.core = d.core := rfl

/-- Applying a Follow_Up on a slave calls `setMasterOffset` once. -/
theorem core_applyFollowUp {d : Daemon F} (hstate : d.port.portState = .ptpSlave) (env : Env)
    (m : PTPMessageFollowUp) (syncArrival origin : Timestamp) (rate : F) :
    ∃ stepped u, u.masterLocalOffset = (syncArrival.toNs - origin.toNs).toInt64 ∧
      (d.applyFollowUp env m syncArrival origin rate).core = d.core.setMasterOffset stepped u := by
  obtain ⟨stepped, u, -, hu, hcore⟩ :=
    core_synchronize env syncArrival origin rate (d.recordFUPStatus m rate)
  refine ⟨stepped, u, hu, ?_⟩
  have hstate' : (d.recordFUPStatus m rate).port.portState = .ptpSlave := hstate
  -- neither the status for later Follow_Up messages nor the time base is part of the core
  have hstatus : (d.recordFUPStatus m rate).core = d.core :=
    core_of_clock (c := (d.recordFUPStatus m rate).clock) ⟨rfl, rfl⟩
  rw [← hstatus, ← hcore]
  unfold applyFollowUp
  dsimp only
  rw [if_pos hstate']
  exact core_of_timeBase ..

/-- A slave hands one offset to `setMasterOffset` for each accepted Follow_Up. -/
theorem processFollowUpAt_offset {m : PTPMessageFollowUp} {syncArrival : Timestamp} {d : Daemon F}
    (happlies : d.appliesFollowUp m syncArrival) (hstate : d.port.portState = .ptpSlave) (env : Env) :
    ∃ u, u.masterLocalOffset = (syncArrival.toNs -
        (d.correctedOrigin m (m.correctionField / 65536)).toNs).toInt64 ∧
      (d.processFollowUpAt env m syncArrival).effects.filter Effect.isMasterOffset =
        d.effects.filter Effect.isMasterOffset ++ [.setMasterOffset u] := by
  rw [processFollowUpAt_of_applies happlies]
  have hclock : { d with clock := (d.masterRateEstimate m syncArrival).2 }.core = d.core :=
    core_of_clock (Clock.calcMasterLocalClockRateDifference_snd _ _ _)
  generalize d.masterRateEstimate m syncArrival = estimate at hclock ⊢
  generalize d.correctedOrigin m (m.correctionField / 65536) = origin
  obtain ⟨stepped, u, hu, hcore⟩ := core_applyFollowUp (d := { d with clock := estimate.2 }) hstate
    env m syncArrival origin estimate.1
  refine ⟨u, hu, ?_⟩
  rw [← filter_log_isMasterOffset, ← filter_log_isMasterOffset, hcore, hclock]
  exact List.filter_append ..

/-- **The offset from the master.** Every Follow_Up that a slave accepts makes it call
`setMasterOffset` once. If the precise origin timestamp is normalised and the corrected one within
48-bit seconds, the offset is the arrival time less the precise origin less the correction, modulo
`2 ^ 64`, for both signs of the correction. -/
theorem masterOffset_exact (d : Daemon F) (env : Env) (m : PTPMessageFollowUp)
    (syncArrival : Timestamp) (happlies : d.appliesFollowUp m syncArrival)
    (hstate : d.port.portState = .ptpSlave) (hp : m.preciseOriginTimestamp.Normalized)
    (hc : -2 ^ 63 < (d.followUpCorrection m).toInt)
    (hnonneg : 0 ≤ m.preciseOriginTimestamp.value + (d.followUpCorrection m).toInt)
    (hlt : m.preciseOriginTimestamp.value + (d.followUpCorrection m).toInt < 2 ^ 48 * 10 ^ 9) :
    ∃ u, (d.processFollowUpAt env m syncArrival).effects.filter Effect.isMasterOffset =
        d.effects.filter Effect.isMasterOffset ++ [.setMasterOffset u] ∧
      u.masterLocalOffset.toInt ≡ syncArrival.value - m.preciseOriginTimestamp.value -
        (d.followUpCorrection m).toInt [ZMOD 2 ^ 64] := by
  obtain ⟨u, hu, heffects⟩ := processFollowUpAt_offset happlies hstate env
  refine ⟨u, heffects, ?_⟩
  rw [hu, Timestamp.toInt_toNs_sub_toNs, value_correctedOrigin hp hc hnonneg hlt, ← sub_sub]
  exact bmod_modEq _

/-- A Follow_Up whose origin time is one nanosecond before a full second. -/
def boundaryFollowUp : PTPMessageFollowUp :=
  { neighborFollowUp 1 with
    correctionField := 65536 * 3
    preciseOriginTimestamp := ⟨999999999, 4, 0, 0⟩ }

/-- A slave on a link without delay, a correction of three nanoseconds across the boundary of the
second and an arrival one second after the origin: the offset is a second less three nanoseconds. -/
theorem masterOffset_exact_boundary :
    let d : Daemon ℚ := (Start.capable (some .ptpSlave)).daemon
    let d := { d with port.link.oneWayDelay := 0 }
    ∃ u, (d.processFollowUpAt Env.standard boundaryFollowUp ⟨999999999, 5, 0, 0⟩).effects.filter
        Effect.isMasterOffset = [.setMasterOffset u] ∧
      u.masterLocalOffset.toInt ≡ 999999997 [ZMOD 2 ^ 64] := by
  intro d₀ d
  obtain ⟨u, heffects, hu⟩ := masterOffset_exact d Env.standard boundaryFollowUp ⟨999999999, 5, 0, 0⟩
    (by decide +kernel) (by decide +kernel) (by decide) (by decide +kernel) (by decide +kernel)
    (by decide +kernel)
  have hnone : d.effects.filter Effect.isMasterOffset = [] := by decide +kernel
  refine ⟨u, heffects.trans (by rw [hnone]; rfl), hu.trans ?_⟩
  have hvalue : ((⟨999999999, 5, 0, 0⟩ : Timestamp).value : ℤ) -
      boundaryFollowUp.preciseOriginTimestamp.value - (d.followUpCorrection boundaryFollowUp).toInt =
        999999997 := by decide +kernel
  rw [hvalue]

end Daemon

end Gptp
