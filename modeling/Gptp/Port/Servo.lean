import Gptp.Port.Transmit

/-!
# Rate estimation and the clock servo

`IEEE1588Clock::calcLocalSystemClockRateDifference`, `calcMasterLocalClockRateDifference` and
`setMasterOffset`, and the part of Follow_Up processing that turns a Sync arrival time and a
Follow_Up into a call of `setMasterOffset`.
-/

namespace Gptp

variable {F : Type} [Platform F]

/-- `INVALID_LINKDELAY`, also the delay a port starts with (`ONE_WAY_DELAY_DEFAULT`). -/
def invalidLinkDelay : UInt64 := 3600000000000

/-- `CommonPort::getLinkDelay`: a negative measurement reads as zero. -/
def LinkState.getLinkDelay (l : LinkState F) : UInt64 :=
  if 0 < l.oneWayDelay then l.oneWayDelay.toUInt64 else 0

/-- The ratio of two elapsed times, or one if the denominator is zero. -/
def elapsedRatio (num den : UInt64) : F :=
  if den ≠ 0 then Platform.div (Platform.ofRat num.toNat) (Platform.ofRat den.toNat)
  else Platform.ofRat 1

namespace Clock

/-- `IEEE1588Clock::calcLocalSystemClockRateDifference`. -/
def calcLocalSystemClockRateDifference (localTime systemTime : Timestamp) (c : Clock F) :
    F × Clock F :=
  let c' := { c with
    localSystemFreqOffsetInit := true
    prevSystemTime := systemTime
    prevLocalTime := localTime }
  if c.localSystemFreqOffsetInit then
    (elapsedRatio (localTime.toNs - c.prevLocalTime.toNs)
      (systemTime.toNs - c.prevSystemTime.toNs), c')
  else (Platform.ofRat 1, c')

/-- Estimating the local rate only records the two times. -/
theorem calcLocalSystemClockRateDifference_snd (localTime systemTime : Timestamp) (c : Clock F) :
    (c.calcLocalSystemClockRateDifference localTime systemTime).2 = { c with
      localSystemFreqOffsetInit := true
      prevSystemTime := systemTime
      prevLocalTime := localTime } := by
  unfold calcLocalSystemClockRateDifference
  split <;> rfl

/-- `NEGATIVE_TIME_JUMP`. -/
def negativeTimeJump : F := Platform.ofRat 0

/-- `IEEE1588Clock::calcMasterLocalClockRateDifference`. -/
def calcMasterLocalClockRateDifference (masterTime syncTime : Timestamp) (c : Clock F) :
    F × Clock F :=
  let c' := { c with
    masterLocalFreqOffsetInit := true
    prevMasterTime := masterTime
    prevSyncTime := syncTime }
  if c.masterLocalFreqOffsetInit then
    if masterTime.toNs < c.prevMasterTime.toNs then
      (negativeTimeJump, { c with masterLocalFreqOffsetInit := false })
    else
      (elapsedRatio (masterTime.toNs - c.prevMasterTime.toNs)
        (syncTime.toNs - c.prevSyncTime.toNs), c')
  else (Platform.ofRat 1, c')

/-- Estimating the master rate touches neither the configuration nor the grandmaster data set. -/
theorem calcMasterLocalClockRateDifference_snd (masterTime syncTime : Timestamp) (c : Clock F) :
    (c.calcMasterLocalClockRateDifference masterTime syncTime).2.cfg = c.cfg ∧
      (c.calcMasterLocalClockRateDifference masterTime syncTime).2.grandmaster = c.grandmaster := by
  unfold calcMasterLocalClockRateDifference
  dsimp only
  split_ifs <;> exact ⟨rfl, rfl⟩

/-- The frequency correction after a phase error of `-offset` nanoseconds, before clamping. -/
def integratePpm (offset : Int64) (freqOffset : F) (syncInterval : Int8) (ppm : F) : F :=
  let syncPerSec : F := Platform.toFloat (Platform.ofRat ((2 : ℚ) ^ (-syncInterval.toInt)))
  let phaseError : F := Platform.ofRat (-offset).toInt
  let integral := Platform.mul (Platform.mul (Platform.ofRat (3 / 10000)) syncPerSec) phaseError
  let proportional := Platform.mul (Platform.ofRat 1)
    (Platform.mul (Platform.sub freqOffset (Platform.ofRat 1)) (Platform.ofRat 1000000))
  Platform.toFloat (Platform.add ppm (Platform.toFloat (Platform.add integral proportional)))

/-- `LOWER_FREQ_LIMIT` and `UPPER_FREQ_LIMIT` applied to a frequency correction. -/
def clampPpm (ppm : F) : F :=
  let ppm := if Platform.lt ppm (Platform.ofRat (-250)) then Platform.ofRat (-250) else ppm
  if Platform.lt (Platform.ofRat 250) ppm then Platform.ofRat 250 else ppm

end Clock

namespace Daemon

/-- The phase step of `setMasterOffset`: the hardware clock is stepped, which starts a new timestamp
version, and both rate estimates start over. -/
def stepPhase (offset : Int64) (d : Daemon F) : Daemon F :=
  emit (.adjustClockPhase (-offset)) { d with
    clock.newSyntonizationSetPoint := false
    clock.phaseErrorViolation := 0
    clock.masterLocalFreqOffsetInit := false
    port.timestampVersion := d.port.timestampVersion + 1
    port.link.peerOffsetInit := false }

/-- The frequency step of `setMasterOffset`. -/
def stepFrequency (offset : Int64) (freqOffset : F) (d : Daemon F) : Daemon F :=
  let large : Bool := 1000000000 < (-offset).toInt.natAbs
  let ppm := if large then d.clock.ppm else
    Clock.integratePpm offset freqOffset d.port.logMeanSyncInterval d.clock.ppm
  emit (.adjustClockRate (Clock.clampPpm ppm)) { d with
    clock.phaseErrorViolation := if large then d.clock.phaseErrorViolation + 1 else 0
    clock.ppm := Clock.clampPpm ppm }

/-- The first part of `setMasterOffset`: the two rates are stored and the update is published. -/
def publishOffset (u : MasterOffset F) (d : Daemon F) : Daemon F :=
  let d := emit (.setMasterOffset u) { d with
    clock.masterLocalFreqOffset := u.masterLocalFreqOffset
    clock.localSystemFreqOffset := u.localSystemFreqOffset }
  if d.clock.cfg.ipc then d.emit (.ipcUpdate u d.clock.grandmaster.clockIdentity) else d

/-- The second part of `setMasterOffset`: the hardware clock is disciplined. -/
def disciplineClock (u : MasterOffset F) (d : Daemon F) : Daemon F :=
  if u.masterLocalOffset = 0 ∧ Platform.eq u.masterLocalFreqOffset (Platform.ofRat 1) then d
  else if d.clock.cfg.syntonize then
    if d.clock.newSyntonizationSetPoint ∨ 6 < d.clock.phaseErrorViolation then
      (d.stepPhase u.masterLocalOffset).stepFrequency 0 u.masterLocalFreqOffset
    else d.stepFrequency u.masterLocalOffset u.masterLocalFreqOffset
  else d

/-- `IEEE1588Clock::setMasterOffset`. -/
def setMasterOffset (u : MasterOffset F) (d : Daemon F) : Daemon F :=
  (d.publishOffset u).disciplineClock u

/-- The arguments with which Follow_Up processing calls `setMasterOffset`. -/
def followUpOffset (env : Env) (syncArrival preciseOrigin : Timestamp)
    (rate localSystemFreqOffset : F) (d : Daemon F) : MasterOffset F :=
  let deviceSyncTimeOffset := (env.deviceTime.toNs - syncArrival.toNs).toUInt32
  let systemTime := env.systemTime.subNs (Platform.toU64
    (Platform.div (Platform.ofRat deviceSyncTimeOffset.toNat) localSystemFreqOffset))
  { masterLocalOffset := (syncArrival.toNs - preciseOrigin.toNs).toInt64
    localTime := syncArrival
    masterLocalFreqOffset := rate
    localSystemOffset := (systemTime.toNs - syncArrival.toNs).toInt64
    systemTime := systemTime
    localSystemFreqOffset := localSystemFreqOffset
    syncCount := d.port.syncCount
    pdelayCount := d.port.pdelay.pdelayCount
    portState := d.port.portState
    asCapable := d.port.link.asCapable }

/-- The part of Follow_Up processing done in the PTP_SLAVE state: the clock is given the new offset
and the receipt timer is restarted. -/
def synchronize (env : Env) (syncArrival preciseOrigin : Timestamp) (rate : F) (d : Daemon F) :
    Daemon F :=
  let d := d.setSyncCount (d.port.syncCount + 1)
  let estimate := d.clock.calcLocalSystemClockRateDifference env.deviceTime env.systemTime
  let d := { d with clock := estimate.2 }
  let d := d.setMasterOffset (d.followUpOffset env syncArrival preciseOrigin rate estimate.1)
  let d := d.syncDone
  d.startSyncReceiptTimer d.syncReceiptTimeout

/-- The origin time of a Sync, corrected for the link delay and the residence times. -/
def correctedOrigin (m : PTPMessageFollowUp) (correctionField : Int64) (d : Daemon F) :
    Timestamp :=
  let rate : F := Platform.div
    (Platform.add
      (Platform.div (Platform.ofRat m.tlv.cumulativeScaledRateOffset.toInt)
        (Platform.ofRat (2 ^ 41)))
      (Platform.ofRat 1))
    d.port.link.peerRateOffset
  let correction := Platform.toI64 (Platform.add
    (Platform.mul (Platform.ofRat d.port.link.getLinkDelay.toNat) rate)
    (Platform.ofRat correctionField.toInt))
  if 0 < correction then m.preciseOriginTimestamp.addNs correction.toUInt64
  else m.preciseOriginTimestamp.subNs (-correction).toUInt64

/-- The status kept for the Follow_Up messages this clock may come to send. -/
def recordFUPStatus (m : PTPMessageFollowUp) (rate : F) (d : Daemon F) : Daemon F :=
  let freqChange := Platform.toI32 (Platform.mul
    (Platform.sub (Platform.div (Platform.ofRat 1) rate) (Platform.ofRat 1))
    (Platform.ofRat (2 ^ 41) : F))
  { d with clock.fupStatus :=
    { d.clock.fupStatus with
      scaledLastGmFreqChange := (htonl F freqChange.toUInt32).toInt32
      scaledLastGmPhaseChange := ⟨0, m.tlv.cumulativeScaledRateOffset.toInt64.toUInt64⟩ } }

/-- What an accepted Follow_Up does once its origin time and the master rate are known. -/
def applyFollowUp (env : Env) (m : PTPMessageFollowUp) (syncArrival preciseOrigin : Timestamp)
    (rate : F) (d : Daemon F) : Daemon F :=
  let d := d.recordFUPStatus m rate
  let d := if d.port.portState = .ptpSlave then d.synchronize env syncArrival preciseOrigin rate
    else d
  { d with port.lastGmTimeBaseIndicator := m.tlv.gmTimeBaseIndicator }

/-- `PTPMessageFollowUp::processMessage(port, sync_arrival)`. -/
def processFollowUpAt (env : Env) (m : PTPMessageFollowUp) (syncArrival : Timestamp)
    (d : Daemon F) : Daemon F :=
  if invalidLinkDelay ≤ d.port.link.getLinkDelay then d
  else
    let correctionField := m.correctionField / 65536
    if correctionField < 0 ∧ !d.port.cfg.allowNegativeCorrectionField then d
    else
      let preciseOrigin := d.correctedOrigin m correctionField
      let estimate := d.clock.calcMasterLocalClockRateDifference preciseOrigin syncArrival
      let d := { d with clock := estimate.2 }
      if Platform.eq estimate.1 Clock.negativeTimeJump then d
      else d.applyFollowUp env m syncArrival preciseOrigin estimate.1

/-- The rate of the master against the local clock that Follow_Up processing estimates. -/
def masterRateEstimate (m : PTPMessageFollowUp) (syncArrival : Timestamp) (d : Daemon F) :
    F × Clock F :=
  d.clock.calcMasterLocalClockRateDifference (d.correctedOrigin m (m.correctionField / 65536))
    syncArrival

/-- The checks a Follow_Up passes on its way to `applyFollowUp`: the link delay is known, the
correction is not negative unless that is allowed, and the master time has not jumped back. -/
def appliesFollowUp (m : PTPMessageFollowUp) (syncArrival : Timestamp) (d : Daemon F) : Bool :=
  d.port.link.getLinkDelay < invalidLinkDelay &&
    (0 ≤ m.correctionField / 65536 || d.port.cfg.allowNegativeCorrectionField) &&
    !Platform.eq (d.masterRateEstimate m syncArrival).1 Clock.negativeTimeJump

theorem processFollowUpAt_of_applies {m : PTPMessageFollowUp} {syncArrival : Timestamp}
    {d : Daemon F} (h : d.appliesFollowUp m syncArrival) (env : Env) :
    d.processFollowUpAt env m syncArrival =
      applyFollowUp env m syncArrival (d.correctedOrigin m (m.correctionField / 65536))
        (d.masterRateEstimate m syncArrival).1
        { d with clock := (d.masterRateEstimate m syncArrival).2 } := by
  simp only [appliesFollowUp, Bool.and_eq_true, Bool.or_eq_true, Bool.not_eq_true',
    decide_eq_true_eq] at h
  obtain ⟨⟨hdelay, hcorrection⟩, hjump⟩ := h
  have hdelay' : ¬ invalidLinkDelay ≤ d.port.link.getLinkDelay := UInt64.not_le.mpr hdelay
  have hcorrection' : ¬ (m.correctionField / 65536 < 0 ∧
      (!d.port.cfg.allowNegativeCorrectionField) = true) := by
    rintro ⟨hneg, hallow⟩
    rcases hcorrection with h | h
    · exact Int64.not_lt.mpr h hneg
    · rw [h] at hallow
      cases hallow
  unfold processFollowUpAt
  rw [if_neg hdelay', if_neg hcorrection']
  exact if_neg (Bool.eq_false_iff.mp hjump)

/-- A Follow_Up that fails a check leaves at most a trace in the rate estimate. -/
theorem processFollowUpAt_of_not_applies {m : PTPMessageFollowUp} {syncArrival : Timestamp}
    {d : Daemon F} (h : d.appliesFollowUp m syncArrival = false) (env : Env) :
    ∃ clock, d.processFollowUpAt env m syncArrival = { d with clock := clock } ∧
      (clock = d.clock ∨ clock = (d.masterRateEstimate m syncArrival).2) := by
  unfold processFollowUpAt
  split
  · exact ⟨_, rfl, .inl rfl⟩
  rename_i hdelay
  dsimp only
  split
  · exact ⟨_, rfl, .inl rfl⟩
  rename_i hcorrection
  split
  · exact ⟨_, rfl, .inr rfl⟩
  -- past the three checks the Follow_Up would be applied
  rename_i hjump
  have happlies : d.appliesFollowUp m syncArrival = true := by
    simp only [appliesFollowUp, Bool.and_eq_true, Bool.or_eq_true, Bool.not_eq_true',
      decide_eq_true_eq]
    refine ⟨⟨UInt64.not_le.mp hdelay, ?_⟩, Bool.eq_false_iff.mpr hjump⟩
    rcases Int64.lt_or_le (m.correctionField / 65536) 0 with hneg | hpos
    · cases hallow : d.port.cfg.allowNegativeCorrectionField with
      | true => exact .inr rfl
      | false => exact absurd ⟨hneg, by rw [hallow]; rfl⟩ hcorrection
    · exact .inl hpos
  rw [h] at happlies
  cases happlies

end Daemon

end Gptp
