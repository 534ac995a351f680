import Gptp.Framework.Footprint
import Gptp.Port.CoreStep

/-!
# Footprints of the daemon's operations

Which parts of its state can an operation of the daemon change? The parts are the locations of
`Location`: the variables of the clock and of the port, and the pending timers of each event
(`Daemon.timersOf`; the core of the daemon only counts those that drive transmission). Every operation
gets its footprint, here from the setters up to the message handlers, and then up to steps
(`Event.footprint`, `PTPMessage.footprint`); that a step leaves something alone is then a membership
test. A setter writes at a single location (`Daemon.write`), and `Daemon.modifies_of_write` is the rule for
all of them.
-/

namespace Gptp

open Framework

variable {F : Type}

/-! ### Pending timers -/

namespace Daemon

/-- The pending timers of an event. -/
def timersOf (e : Event) (d : Daemon F) : List Timer := d.timerq.filter fun t => t.event = e

section Timers

variable {e : Event}

theorem timersOf_addEventTimer (e' : Event) (ns : UInt64) (d : Daemon F) :
    (d.addEventTimer e' ns).timersOf e = d.timersOf e ++
      if e' = e then [⟨e', d.port.cfg.ifindex, (ns / 1000).toUInt32⟩] else [] := by
  unfold timersOf addEventTimer
  rw [List.filter_append]
  by_cases h : e' = e <;> simp [h]

theorem timersOf_deleteEventTimer (e' : Event) (d : Daemon F) :
    (d.deleteEventTimer e').timersOf e = if e' = e then [] else d.timersOf e := by
  unfold timersOf deleteEventTimer
  rw [List.filter_filter]
  split
  case isTrue h =>
    subst h
    simp
  case isFalse h =>
    refine List.filter_congr fun t _ => ?_
    simp only [Bool.and_eq_left_iff_imp, decide_eq_true_eq]
    rintro rfl
    exact fun h' => h h'.symm

theorem timersOf_addEventTimer_of_ne {e' : Event} (h : e' ≠ e) (ns : UInt64)
    (d : Daemon F) : (d.addEventTimer e' ns).timersOf e = d.timersOf e := by
  rw [timersOf_addEventTimer, if_neg h, List.append_nil]

theorem timersOf_deleteEventTimer_of_ne {e' : Event} (h : e' ≠ e) (d : Daemon F) :
    (d.deleteEventTimer e').timersOf e = d.timersOf e := by
  rw [timersOf_deleteEventTimer, if_neg h]

/-- A restarted timer is the only one of its event. -/
theorem timersOf_restartEventTimer_self (ns : UInt64) (d : Daemon F) :
    (d.restartEventTimer e ns).timersOf e =
      [⟨e, d.port.cfg.ifindex, (ns / 1000).toUInt32⟩] := by
  rw [restartEventTimer, timersOf_addEventTimer, timersOf_deleteEventTimer, if_pos rfl, if_pos rfl]
  rfl

theorem timersOf_restartEventTimer_of_ne {e' : Event} (h : e' ≠ e) (ns : UInt64) (d : Daemon F) :
    (d.restartEventTimer e' ns).timersOf e = d.timersOf e := by
  rw [restartEventTimer, timersOf_addEventTimer_of_ne h, timersOf_deleteEventTimer_of_ne h]

/-- The timers that are left when one of another event has been taken out of the queue. -/
theorem timersOf_eraseIdx_of_ne {d : Daemon F} {k : ℕ} {t : Timer} (ht : d.timerq[k]? = some t)
    (h : t.event ≠ e) (effects : List (Effect F)) :
    timersOf e ⟨d.clock, d.port, d.timerq.eraseIdx k, effects⟩ = d.timersOf e := by
  obtain ⟨hk, hget⟩ := List.getElem?_eq_some_iff.mp ht
  unfold timersOf
  -- the queue is what precedes the timer, the timer, and what follows it
  have hsplit : d.timerq = d.timerq.take k ++ t :: d.timerq.drop (k + 1) := by
    rw [← hget, List.getElem_cons_drop, List.take_append_drop]
  conv_rhs => rw [hsplit]
  simp [List.eraseIdx_eq_take_drop_succ, h]

end Timers

end Daemon

/-! ### Locations -/

/-- The parts of the daemon's state. -/
inductive Location where
  /-- The values fixed at construction. -/
  | config
  | grandmaster
  | lastEBestIdentity
  /-- The variables of the rate estimates and of the clock servo. -/
  | servo
  | fupInfo
  | fupStatus
  | portState
  | linkSpeed
  | logMeanSyncInterval
  | logMeanAnnounceInterval
  | logMinMeanPDelayReqInterval
  | qualifiedAnnounce
  | lastSync
  | wrongSeqIDCounter
  | syncCount
  | lastGmTimeBaseIndicator
  | timestampVersion
  | link
  | lastPDelayReq
  | lastPDelayResp
  | lastPDelayRespFollowUp
  | pdelayStarted
  | pdelayHalted
  /-- The counter of duplicate responses and the sequence number it was last changed for. -/
  | duplicates
  | pdelayCount
  | sequenceIds
  | automotive
  | timer (e : Event)
  deriving DecidableEq

/-- What a daemon holds at a location. -/
abbrev Location.Value (F : Type) : Location → Type
  | .config => ClockConfig × PortConfig
  | .grandmaster => GrandmasterInfo
  | .lastEBestIdentity => ClockIdentity
  | .servo => Bool × F × ℕ × (Bool × Timestamp × Timestamp) × (Bool × Timestamp × Timestamp) × F × F
  | .fupInfo => FollowUpTLV
  | .fupStatus => FollowUpTLV
  | .portState => PortState
  | .linkSpeed => UInt32
  | .logMeanSyncInterval => Int8
  | .logMeanAnnounceInterval => Int8
  | .logMinMeanPDelayReqInterval => Int8
  | .qualifiedAnnounce => Option PTPMessageAnnounce
  | .lastSync => Option PTPMessageSync
  | .wrongSeqIDCounter => UInt32
  | .syncCount => UInt32
  | .lastGmTimeBaseIndicator => UInt16
  | .timestampVersion => UInt8
  | .link => LinkState F
  | .lastPDelayReq => Option PTPMessagePathDelayReq
  | .lastPDelayResp => Option PTPMessagePathDelayResp
  | .lastPDelayRespFollowUp => Option PTPMessagePathDelayRespFollowUp
  | .pdelayStarted => Bool
  | .pdelayHalted => Bool
  | .duplicates => UInt32 × UInt16
  | .pdelayCount => UInt32
  | .sequenceIds => SequenceIds
  | .automotive => AutomotiveState
  | .timer _ => List Timer

namespace Daemon

/-- The contents of a location. -/
def read (d : Daemon F) : (l : Location) → l.Value F
  | .config => (d.clock.cfg, d.port.cfg)
  | .grandmaster => d.clock.grandmaster
  | .lastEBestIdentity => d.clock.lastEBestIdentity
  | .servo => (d.clock.newSyntonizationSetPoint, d.clock.ppm, d.clock.phaseErrorViolation,
      (d.clock.masterLocalFreqOffsetInit, d.clock.prevMasterTime, d.clock.prevSyncTime),
      (d.clock.localSystemFreqOffsetInit, d.clock.prevLocalTime, d.clock.prevSystemTime),
      d.clock.masterLocalFreqOffset, d.clock.localSystemFreqOffset)
  | .fupInfo => d.clock.fupInfo
  | .fupStatus => d.clock.fupStatus
  | .portState => d.port.portState
  | .linkSpeed => d.port.linkSpeed
  | .logMeanSyncInterval => d.port.logMeanSyncInterval
  | .logMeanAnnounceInterval => d.port.logMeanAnnounceInterval
  | .logMinMeanPDelayReqInterval => d.port.logMinMeanPDelayReqInterval
  | .qualifiedAnnounce => d.port.qualifiedAnnounce
  | .lastSync => d.port.lastSync
  | .wrongSeqIDCounter => d.port.wrongSeqIDCounter
  | .syncCount => d.port.syncCount
  | .lastGmTimeBaseIndicator => d.port.lastGmTimeBaseIndicator
  | .timestampVersion => d.port.timestampVersion
  | .link => d.port.link
  | .lastPDelayReq => d.port.pdelay.lastPDelayReq
  | .lastPDelayResp => d.port.pdelay.lastPDelayResp
  | .lastPDelayRespFollowUp => d.port.pdelay.lastPDelayRespFollowUp
  | .pdelayStarted => d.port.pdelay.pdelayStarted
  | .pdelayHalted => d.port.pdelay.pdelayHalted
  | .duplicates => (d.port.pdelay.duplicateRespCounter, d.port.pdelay.lastInvalidSeqID)
  | .pdelayCount => d.port.pdelay.pdelayCount
  | .sequenceIds => d.port.seq
  | .automotive => d.port.auto
  | .timer e => d.timersOf e

/-- The daemon with other contents at one location. -/
def write (d : Daemon F) : (l : Location) → l.Value F → Daemon F
  | .config, v => { d with clock.cfg := v.1, port.cfg := v.2 }
  | .grandmaster, v => { d with clock.grandmaster := v }
  | .lastEBestIdentity, v => { d with clock.lastEBestIdentity := v }
  | .servo, (setPoint, ppm, count, (masterInit, master, sync), (systemInit, local', system), rate, rate') =>
    { d with
      clock.newSyntonizationSetPoint := setPoint
      clock.ppm := ppm
      clock.phaseErrorViolation := count
      clock.masterLocalFreqOffsetInit := masterInit
      clock.prevMasterTime := master
      clock.prevSyncTime := sync
      clock.localSystemFreqOffsetInit := systemInit
      clock.prevLocalTime := local'
      clock.prevSystemTime := system
      clock.masterLocalFreqOffset := rate
      clock.localSystemFreqOffset := rate' }
  | .fupInfo, v => { d with clock.fupInfo := v }
  | .fupStatus, v => { d with clock.fupStatus := v }
  | .portState, v => { d with port.portState := v }
  | .linkSpeed, v => { d with port.linkSpeed := v }
  | .logMeanSyncInterval, v => { d with port.logMeanSyncInterval := v }
  | .logMeanAnnounceInterval, v => { d with port.logMeanAnnounceInterval := v }
  | .logMinMeanPDelayReqInterval, v => { d with port.logMinMeanPDelayReqInterval := v }
  | .qualifiedAnnounce, v => { d with port.qualifiedAnnounce := v }
  | .lastSync, v => { d with port.lastSync := v }
  | .wrongSeqIDCounter, v => { d with port.wrongSeqIDCounter := v }
  | .syncCount, v => { d with port.syncCount := v }
  | .lastGmTimeBaseIndicator, v => { d with port.lastGmTimeBaseIndicator := v }
  | .timestampVersion, v => { d with port.timestampVersion := v }
  | .link, v => { d with port.link := v }
  | .lastPDelayReq, v => { d with port.pdelay.lastPDelayReq := v }
  | .lastPDelayResp, v => { d with port.pdelay.lastPDelayResp := v }
  | .lastPDelayRespFollowUp, v => { d with port.pdelay.lastPDelayRespFollowUp := v }
  | .pdelayStarted, v => { d with port.pdelay.pdelayStarted := v }
  | .pdelayHalted, v => { d with port.pdelay.pdelayHalted := v }
  | .duplicates, v =>
    { d with port.pdelay.duplicateRespCounter := v.1, port.pdelay.lastInvalidSeqID := v.2 }
  | .pdelayCount, v => { d with port.pdelay.pdelayCount := v }
  | .sequenceIds, v => { d with port.seq := v }
  | .automotive, v => { d with port.auto := v }
  | .timer e, v => { d with
      timerq := d.timerq.filter (fun t => t.event ≠ e) ++ v.filter fun t => t.event = e }

/-- `d'` differs from `d` at the given locations at most. -/
abbrev Modifies (L : List Location) (d d' : Daemon F) : Prop := ModifiesOnly read L d d'

/-! ### Timers and setters -/

/-- Locations do not overlap. -/
theorem read_write_of_ne {l l' : Location} (h : l' ≠ l) (v : l.Value F) (d : Daemon F) :
    (d.write l v).read l' = d.read l' := by
  cases l with
  | timer e =>
    cases l' with
    | timer e' =>
      have he : e' ≠ e := fun heq => h (congrArg Location.timer heq)
      have hothers : (v.filter fun t => t.event = e).filter (fun t => t.event = e') = [] := by
        rw [List.filter_eq_nil_iff]
        intro t ht
        have hevent : t.event = e := by simpa using (List.mem_filter.mp ht).2
        simp [hevent, he.symm]
      have hkept : (d.timerq.filter fun t => t.event ≠ e).filter (fun t => t.event = e') =
          d.timerq.filter fun t => t.event = e' := by
        rw [List.filter_filter]
        refine List.filter_congr fun t _ => ?_
        by_cases hevent : t.event = e' <;> simp [hevent, he]
      change (_ ++ _ : List Timer).filter _ = _
      rw [List.filter_append, hothers, hkept, List.append_nil]
      rfl
    | _ => rfl
  | _ =>
    cases l' <;> first
      | rfl
      | exact absurd rfl h

/-- **One location.** An operation that writes at one location, and may have an effect, modifies that location
only. -/
theorem modifies_of_write {l : Location} {d d' : Daemon F}
    (h : d' = { d.write l (d'.read l) with effects := d'.effects }) : Modifies [l] d d' := by
  intro l' hl'
  have hread : ∀ effects, read { d.write l (d'.read l) with effects := effects } l' =
      (d.write l (d'.read l)).read l' := by
    intro effects
    cases l' <;> rfl
  rw [h, hread, read_write_of_ne (List.ne_of_not_mem_cons hl')]

section Setters

variable (d : Daemon F)

theorem modifies_addEventTimer (e : Event) (ns : UInt64) :
    Modifies [.timer e] d (d.addEventTimer e ns) := by
  intro l hl
  cases l with
  | timer e' => exact timersOf_addEventTimer_of_ne (by simpa [eq_comm] using hl) ns d
  | _ => rfl

theorem modifies_deleteEventTimer (e : Event) : Modifies [.timer e] d (d.deleteEventTimer e) := by
  intro l hl
  cases l with
  | timer e' => exact timersOf_deleteEventTimer_of_ne (by simpa [eq_comm] using hl) d
  | _ => rfl

theorem modifies_restartEventTimer (e : Event) (ns : UInt64) :
    Modifies [.timer e] d (d.restartEventTimer e ns) :=
  (d.modifies_deleteEventTimer e).trans (modifies_addEventTimer _ e ns)

theorem modifies_emit (x : Effect F) : Modifies [] d (d.emit x) := by
  intro l _
  cases l <;> rfl

theorem modifies_setPortState (s : PortState) : Modifies [.portState] d (d.setPortState s) :=
  modifies_of_write rfl

theorem modifies_setQualifiedAnnounce (m : Option PTPMessageAnnounce) :
    Modifies [.qualifiedAnnounce] d (d.setQualifiedAnnounce m) := modifies_of_write rfl

theorem modifies_setLastSync (m : Option PTPMessageSync) :
    Modifies [.lastSync] d (d.setLastSync m) := modifies_of_write rfl

theorem modifies_setLastPDelayReq (m : Option PTPMessagePathDelayReq) :
    Modifies [.lastPDelayReq] d (d.setLastPDelayReq m) := modifies_of_write rfl

theorem modifies_setLastPDelayResp (m : Option PTPMessagePathDelayResp) :
    Modifies [.lastPDelayResp] d (d.setLastPDelayResp m) := modifies_of_write rfl

theorem modifies_setLastPDelayRespFollowUp (m : Option PTPMessagePathDelayRespFollowUp) :
    Modifies [.lastPDelayRespFollowUp] d (d.setLastPDelayRespFollowUp m) := modifies_of_write rfl

theorem modifies_setWrongSeqIDCounter (n : UInt32) :
    Modifies [.wrongSeqIDCounter] d (d.setWrongSeqIDCounter n) := modifies_of_write rfl

theorem modifies_setSyncCount (n : UInt32) : Modifies [.syncCount] d (d.setSyncCount n) :=
  modifies_of_write rfl

theorem modifies_setPdelayCount (n : UInt32) : Modifies [.pdelayCount] d (d.setPdelayCount n) :=
  modifies_of_write rfl

theorem modifies_setDuplicateRespCounter (n : UInt32) :
    Modifies [.duplicates] d (d.setDuplicateRespCounter n) := modifies_of_write rfl

theorem modifies_setLastInvalidSeqID (n : UInt16) :
    Modifies [.duplicates] d (d.setLastInvalidSeqID n) := modifies_of_write rfl

theorem modifies_setSyncInterval (k : Int8) :
    Modifies [.logMeanSyncInterval] d (d.setSyncInterval k) := modifies_of_write rfl

theorem modifies_setAnnounceInterval (k : Int8) :
    Modifies [.logMeanAnnounceInterval] d (d.setAnnounceInterval k) := modifies_of_write rfl

theorem modifies_setPDelayInterval (k : Int8) :
    Modifies [.logMinMeanPDelayReqInterval] d (d.setPDelayInterval k) := modifies_of_write rfl

theorem modifies_setPeerRateOffset (r : F) : Modifies [.link] d (d.setPeerRateOffset r) :=
  modifies_of_write rfl

theorem modifies_setPeerOffset (mine theirs : Timestamp) :
    Modifies [.link] d (d.setPeerOffset mine theirs) := modifies_of_write rfl

theorem modifies_setLinkDelay (delay : Int64) : Modifies [.link] d (d.setLinkDelay delay) :=
  modifies_of_write rfl

theorem modifies_setAsCapable (ascap : Bool) : Modifies [.link] d (d.setAsCapable ascap) :=
  modifies_of_write rfl

theorem modifies_setGrandmaster (g : GrandmasterInfo) :
    Modifies [.grandmaster] d (d.setGrandmaster g) := modifies_of_write rfl

theorem modifies_setLastEBestIdentity (id : ClockIdentity) :
    Modifies [.lastEBestIdentity] d (d.setLastEBestIdentity id) := modifies_of_write rfl

theorem modifies_newSyntonizationSetPoint : Modifies [.servo] d d.newSyntonizationSetPoint :=
  modifies_of_write rfl

theorem modifies_haltPdelay (halt : Bool) : Modifies [.pdelayHalted] d (d.haltPdelay halt) :=
  modifies_of_write rfl

theorem modifies_setPdelayStarted (started : Bool) :
    Modifies [.pdelayStarted] d (d.setPdelayStarted started) := modifies_of_write rfl

theorem modifies_setStationState (s : StationState) :
    Modifies [.automotive] d (d.setStationState s) := modifies_of_write rfl

theorem modifies_setSyncRateIntervalTimerStarted (started : Bool) :
    Modifies [.automotive] d (d.setSyncRateIntervalTimerStarted started) := modifies_of_write rfl

theorem modifies_updateFUPInfo [Platform F] : Modifies [.fupInfo] d d.updateFUPInfo :=
  modifies_of_write rfl

end Setters

/-! ### Roles and requests -/

section Roles

variable (d : Daemon F)

theorem modifies_startPDelay :
    Modifies [.pdelayStarted, .timer .pdelayIntervalTimeoutExpires] d d.startPDelay := by
  have hstart : ∀ ns : UInt64,
      Modifies [.pdelayStarted, .timer .pdelayIntervalTimeoutExpires] d
        ((d.setPdelayStarted true).startPDelayIntervalTimer ns) := by
    intro ns
    refine .step ?_ (modifies_restartEventTimer _ _ _) (by decide)
    exact (d.modifies_setPdelayStarted _).mono (by decide)
  unfold startPDelay
  exact .ite (.refl _ _) (.ite (.ite (hstart _) (.refl _ _)) (hstart _))

theorem modifies_startPDelayIfUnassigned :
    Modifies [.pdelayStarted, .timer .pdelayIntervalTimeoutExpires] d d.startPDelayIfUnassigned :=
  .ite d.modifies_startPDelay (.refl _ _)

theorem modifies_stopPDelay :
    Modifies [.pdelayHalted, .pdelayStarted, .timer .pdelayIntervalTimeoutExpires] d
      d.stopPDelay := by
  unfold stopPDelay
  refine .step ?_ (modifies_deleteEventTimer _ _) (by decide)
  refine .step ?_ (modifies_setPdelayStarted _ _) (by decide)
  exact (d.modifies_haltPdelay _).mono (by decide)

theorem modifies_startSyncRateIntervalTimer :
    Modifies [.automotive, .timer .syncRateIntervalTimeoutExpired] d
      d.startSyncRateIntervalTimer := by
  unfold startSyncRateIntervalTimer
  refine .ite (.step ?_ (modifies_addEventTimer _ _ _) (by decide)) (.refl _ _)
  exact (d.modifies_setSyncRateIntervalTimerStarted _).mono (by decide)

variable [Platform F]

theorem modifies_becomeMaster (annc : Bool) :
    Modifies [.portState, .timer .announceReceiptTimeoutExpires, .timer .syncReceiptTimeoutExpires,
      .timer .announceIntervalTimeoutExpires, .timer .syncIntervalTimeoutExpires, .fupInfo] d
      (d.becomeMaster annc) := by
  unfold becomeMaster
  refine .step ?_ (modifies_updateFUPInfo _) (by decide)
  refine .step ?_ (modifies_restartEventTimer _ _ _) (by decide)
  refine .step ?_ (.ite (modifies_restartEventTimer _ _ _) (.refl _ _)) (by decide)
  refine .step ?_ (modifies_deleteEventTimer _ _) (by decide)
  refine .step ?_ (modifies_deleteEventTimer _ _) (by decide)
  exact (d.modifies_setPortState _).mono (by decide)

theorem modifies_becomeSlave (restartSyntonization : Bool) :
    Modifies [.portState, .timer .announceIntervalTimeoutExpires, .timer .syncIntervalTimeoutExpires,
      .timer .announceReceiptTimeoutExpires, .servo, .fupInfo] d
      (d.becomeSlave restartSyntonization) := by
  unfold becomeSlave
  refine .step ?_ (modifies_updateFUPInfo _) (by decide)
  refine .step ?_ (.ite (modifies_newSyntonizationSetPoint _) (.refl _ _)) (by decide)
  refine .step ?_ (.ite (.refl _ _) (modifies_addEventTimer _ _ _)) (by decide)
  refine .step ?_ (modifies_setPortState _ _) (by decide)
  refine .step ?_ (modifies_deleteEventTimer _ _) (by decide)
  exact (d.modifies_deleteEventTimer _).mono (by decide)

/-- What taking up a role can change. -/
def roleFootprint : List Location :=
  [.portState, .timer .announceReceiptTimeoutExpires, .timer .syncReceiptTimeoutExpires,
    .timer .announceIntervalTimeoutExpires, .timer .syncIntervalTimeoutExpires, .servo, .fupInfo]

theorem modifies_resumeRole : Modifies roleFootprint d d.resumeRole := by
  unfold resumeRole
  refine .ite ((d.modifies_becomeSlave _).mono (by decide)) (.ite ?_ ?_)
  · exact (d.modifies_becomeMaster _).mono (by decide)
  · exact (d.modifies_addEventTimer _ _).mono (by decide)

theorem modifies_recommendState (state : PortState) (changed : Bool) :
    Modifies (.syncCount :: roleFootprint) d (d.recommendState state changed) := by
  unfold recommendState
  split
  · refine .ite (.step ?_ (modifies_setSyncCount _ _) (by decide)) (.refl _ _)
    refine .step ?_ (modifies_becomeMaster _ _) (by decide)
    exact (d.modifies_setPortState _).mono (by decide)
  · refine .ite ?_ (.ite ?_ (.refl _ _))
    · refine .step ?_ (modifies_setSyncCount _ _) (by decide)
      exact (d.modifies_becomeSlave _).mono (by decide)
    · refine .step ?_ (modifies_setSyncCount _ _) (by decide)
      refine .step ?_ (modifies_updateFUPInfo _) (by decide)
      exact d.modifies_newSyntonizationSetPoint.mono (by decide)
  · exact .refl _ _

theorem modifies_assignRole (e : PTPMessageAnnounce) :
    Modifies (.lastEBestIdentity :: .grandmaster :: .syncCount :: roleFootprint) d
      (d.assignRole e) := by
  unfold assignRole
  refine .ite ?_ ?_
  · refine .step ?_ (modifies_recommendState _ _ _) (by decide)
    refine .step ?_ (modifies_setGrandmaster _ _) (by decide)
    exact (d.modifies_setLastEBestIdentity _).mono (by decide)
  · refine .step ?_ (modifies_setGrandmaster _ _) (by decide)
    refine .step ?_ (modifies_recommendState _ _ _) (by decide)
    exact (d.modifies_setLastEBestIdentity _).mono (by decide)

theorem modifies_processStateChange :
    Modifies (.lastEBestIdentity :: .grandmaster :: .syncCount :: roleFootprint) d
      d.processStateChange := by
  rw [processStateChange_eq]
  refine .ite (.refl _ _) ?_
  split
  · exact .refl _ _
  · exact d.modifies_assignRole _

end Roles

/-! ### The clock servo -/

section Servo

variable (d : Daemon F)

theorem modifies_countDownAvbSync : Modifies [.automotive] d d.countDownAvbSync := by
  have hcount : Modifies [.automotive] d
      { d with port.auto.avbSyncState := d.port.auto.avbSyncState - 1 } := by
    intro l hl
    cases l with
    | automotive => exact absurd (List.mem_singleton_self _) hl
    | _ => rfl
  unfold countDownAvbSync
  refine .ite (hcount.trans (.ite ?_ (.refl _ _))) (.refl _ _)
  exact (modifies_setStationState _ _).step (.ite (modifies_emit _ _) (.refl _ _)) (by decide)

/-- The end of a Sync may start peer delay requests, and the timer of the automotive profile. -/
theorem modifies_syncDone :
    Modifies [.automotive, .timer .syncRateIntervalTimeoutExpired, .pdelayStarted,
      .timer .pdelayIntervalTimeoutExpires] d d.syncDone := by
  unfold syncDone
  refine .step ?_ (.ite (.refl _ _) (modifies_startPDelay _)) (by decide)
  refine .step ?_ (.ite (modifies_startSyncRateIntervalTimer _) (.refl _ _)) (by decide)
  exact .ite (d.modifies_countDownAvbSync.mono (by decide)) (.refl _ _)

theorem modifies_stepPhase (offset : Int64) :
    Modifies [.servo, .timestampVersion, .link] d (d.stepPhase offset) := by
  intro l hl
  cases l with
  | servo | timestampVersion | link => exact absurd (by decide) hl
  | _ => rfl

theorem modifies_stepFrequency [Platform F] (offset : Int64) (freqOffset : F) :
    Modifies [.servo] d (d.stepFrequency offset freqOffset) := modifies_of_write rfl

theorem modifies_publishOffset (u : MasterOffset F) : Modifies [.servo] d (d.publishOffset u) := by
  have hrates : Modifies [.servo] d (emit (.setMasterOffset u) { d with
      clock.masterLocalFreqOffset := u.masterLocalFreqOffset
      clock.localSystemFreqOffset := u.localSystemFreqOffset }) := by
    intro l hl
    cases l with
    | servo => exact absurd (List.mem_singleton_self _) hl
    | _ => rfl
  unfold publishOffset
  exact .step hrates (.ite (modifies_emit _ _) (.refl _ _)) (by decide)

variable [Platform F]

theorem modifies_setMasterOffset (u : MasterOffset F) :
    Modifies [.servo, .timestampVersion, .link] d (d.setMasterOffset u) := by
  unfold setMasterOffset disciplineClock
  refine .step ((d.modifies_publishOffset u).mono (by decide)) (.ite (.refl _ _) (.ite ?_ (.refl _ _)))
    (List.Subset.refl _)
  refine .ite ?_ ((modifies_stepFrequency _ _ _).mono (by decide))
  exact .step (modifies_stepPhase _ _) (modifies_stepFrequency _ _ _) (by decide)

/-- Estimating the local rate. -/
theorem modifies_calcLocalSystemClockRateDifference (localTime systemTime : Timestamp) :
    Modifies [.servo] d { d with
      clock := (d.clock.calcLocalSystemClockRateDifference localTime systemTime).2 } := by
  rw [Clock.calcLocalSystemClockRateDifference_snd]
  intro l hl
  cases l with
  | servo => exact absurd (List.mem_singleton_self _) hl
  | _ => rfl

/-- Estimating the rate of the master. -/
theorem modifies_calcMasterLocalClockRateDifference (masterTime syncTime : Timestamp) :
    Modifies [.servo] d { d with
      clock := (d.clock.calcMasterLocalClockRateDifference masterTime syncTime).2 } := by
  have hclock : ∀ (init : Bool) (prevMaster prevSync : Timestamp), Modifies [.servo] d { d with
      clock.masterLocalFreqOffsetInit := init
      clock.prevMasterTime := prevMaster
      clock.prevSyncTime := prevSync } := by
    intro init prevMaster prevSync l hl
    cases l with
    | servo => exact absurd (List.mem_singleton_self _) hl
    | _ => rfl
  unfold Clock.calcMasterLocalClockRateDifference
  dsimp only
  split_ifs
  · exact hclock false _ _
  · exact hclock true _ _
  · exact hclock true _ _

/-- What an offset computed in the slave state can change. -/
def synchronizeFootprint : List Location :=
  [.syncCount, .servo, .timestampVersion, .link, .automotive,
    .timer .syncRateIntervalTimeoutExpired, .pdelayStarted, .timer .pdelayIntervalTimeoutExpires,
    .timer .syncReceiptTimeoutExpires]

theorem modifies_synchronize (env : Env) (syncArrival preciseOrigin : Timestamp) (rate : F) :
    Modifies synchronizeFootprint d (d.synchronize env syncArrival preciseOrigin rate) := by
  unfold synchronize
  refine .step ?_ (modifies_restartEventTimer _ _ _) (by decide)
  refine .step ?_ (modifies_syncDone _) (by decide)
  refine .step ?_ (modifies_setMasterOffset _ _) (by decide)
  refine .step ?_ (modifies_calcLocalSystemClockRateDifference _ _ _) (by decide)
  exact (d.modifies_setSyncCount _).mono (by decide)

theorem modifies_applyFollowUp (env : Env) (m : PTPMessageFollowUp)
    (syncArrival preciseOrigin : Timestamp) (rate : F) :
    Modifies (.fupStatus :: .lastGmTimeBaseIndicator :: synchronizeFootprint) d
      (d.applyFollowUp env m syncArrival preciseOrigin rate) := by
  have hstatus : Modifies [.fupStatus] d (d.recordFUPStatus m rate) := by
    intro l hl
    cases l with
    | fupStatus => exact absurd (List.mem_singleton_self _) hl
    | _ => rfl
  have hindicator : ∀ (x : UInt16) (d : Daemon F),
      Modifies [.lastGmTimeBaseIndicator] d { d with port.lastGmTimeBaseIndicator := x } := by
    intro x d l hl
    cases l with
    | lastGmTimeBaseIndicator => exact absurd (List.mem_singleton_self _) hl
    | _ => rfl
  unfold applyFollowUp
  refine .step ?_ (hindicator _ _) (by decide)
  exact .step (hstatus.mono (by decide)) (.ite (modifies_synchronize _ _ _ _ _) (.refl _ _))
    (by decide)

theorem modifies_processFollowUpAt (env : Env) (m : PTPMessageFollowUp) (syncArrival : Timestamp) :
    Modifies (.fupStatus :: .lastGmTimeBaseIndicator :: synchronizeFootprint) d
      (d.processFollowUpAt env m syncArrival) := by
  unfold processFollowUpAt
  refine .ite (.refl _ _) (.ite (.refl _ _) ?_)
  have hestimate : Modifies (.fupStatus :: .lastGmTimeBaseIndicator :: synchronizeFootprint) d
      { d with clock := (d.clock.calcMasterLocalClockRateDifference
        (d.correctedOrigin m (m.correctionField / 65536)) syncArrival).2 } :=
    (d.modifies_calcMasterLocalClockRateDifference _ _).mono (by decide)
  exact .ite hestimate (hestimate.trans (modifies_applyFollowUp _ _ _ _ _ _))

/-- A Follow_Up that is used leaves the port state alone. -/
theorem portState_processFollowUpAt (env : Env) (m : PTPMessageFollowUp) (syncArrival : Timestamp)
    (sync : Option PTPMessageSync) :
    ((d.processFollowUpAt env m syncArrival).setLastSync sync).port.portState = d.port.portState := by
  have hsync := modifies_setLastSync (d.processFollowUpAt env m syncArrival) sync .portState (by decide)
  exact hsync.trans (d.modifies_processFollowUpAt env m syncArrival .portState (by decide))

end Servo

/-! ### Received messages -/

section Messages

variable [Platform F] (d : Daemon F)

theorem modifies_processAnnounce (m : PTPMessageAnnounce) :
    Modifies [.timer .announceReceiptTimeoutExpires, .qualifiedAnnounce, .timer .stateChangeEvent] d
      (d.processAnnounce m).1 := by
  unfold processAnnounce
  refine .step ?_ (modifies_addEventTimer _ _ _) (by decide)
  refine .step ((d.modifies_deleteEventTimer _).mono (by decide)) (.ite ?_ (.refl _ _))
    (List.Subset.refl _)
  exact .step ((modifies_setQualifiedAnnounce _ _).mono (by decide)) (modifies_addEventTimer _ _ _)
    (by decide)

omit [Platform F] in
theorem modifies_processSync (m : PTPMessageSync) : Modifies [.lastSync] d (d.processSync m).1 := by
  unfold processSync
  split
  · exact .refl _ _
  · exact d.modifies_setLastSync _

/-- What a Follow_Up can change. -/
def followUpFootprint : List Location :=
  .fupStatus :: .lastGmTimeBaseIndicator :: .lastSync :: .wrongSeqIDCounter ::
    (roleFootprint ++ synchronizeFootprint)

theorem modifies_processFollowUp (env : Env) (m : PTPMessageFollowUp) :
    Modifies followUpFootprint d (d.processFollowUp env m).1 := by
  have hstop : Modifies followUpFootprint d d.stopSyncReceiptTimer :=
    (d.modifies_deleteEventTimer _).mono (by decide)
  have hwrong : ∀ d : Daemon F, Modifies followUpFootprint d d.wrongFollowUp := by
    intro d
    unfold wrongFollowUp
    refine .ite ((d.modifies_setWrongSeqIDCounter _).mono (by decide)) ?_
    exact .step ((d.modifies_becomeMaster _).mono (by decide)) (modifies_setWrongSeqIDCounter _ _)
      (by decide)
  have hcase := d.processFollowUp_cases env m
  generalize d.processFollowUp env m = ended at hcase ⊢
  cases hcase with
  | ignored => exact hstop
  | orphan => exact hstop
  | wrong => exact (hstop.trans (hwrong _)).step (modifies_setLastSync _ _) (by decide)
  | stale => exact hstop.step (modifies_setLastSync _ _) (by decide)
  | used =>
    refine .step (hstop.trans ?_) (modifies_setLastSync _ _) (by decide)
    exact (modifies_processFollowUpAt _ _ _ _).mono (by decide)

omit [Platform F] in
theorem modifies_processPathDelayReq (env : Env) (m : PTPMessagePathDelayReq) :
    Modifies [] d (d.processPathDelayReq env m).1 := by
  unfold processPathDelayReq
  split
  · exact .refl _ _
  · exact (d.modifies_emit _).trans (modifies_emit _ _)

/-- What a response can change. -/
def respFootprint : List Location :=
  [.lastPDelayResp, .duplicates, .pdelayHalted, .pdelayStarted, .timer .pdelayIntervalTimeoutExpires,
    .timer .pdelayRespPeerMisbehavingTimeoutExpires]

omit [Platform F] in
theorem modifies_checkDuplicateResp (m old : PTPMessagePathDelayResp) :
    Modifies respFootprint d (d.checkDuplicateResp m old) := by
  have hset : ∀ n : UInt32, Modifies respFootprint d (d.setDuplicateRespCounter n) :=
    fun n => (d.modifies_setDuplicateRespCounter n).mono (by decide)
  unfold checkDuplicateResp
  refine .ite (.step ?_ (modifies_setLastInvalidSeqID _ _) (by decide)) (hset _)
  refine .ite ((hset _).trans (.ite ?_ (.refl _ _))) (hset _)
  exact .step ((modifies_stopPDelay _).mono (by decide)) (modifies_addEventTimer _ _ _) (by decide)

omit [Platform F] in
theorem modifies_processPathDelayResp (m : PTPMessagePathDelayResp) :
    Modifies respFootprint d (d.processPathDelayResp m).1 := by
  unfold processPathDelayResp
  split
  · exact .refl _ _
  refine .step ?_ (modifies_setLastPDelayResp _ _) (by decide)
  split
  · exact .refl _ _
  · exact d.modifies_checkDuplicateResp _ _

theorem modifies_measure (req : PTPMessagePathDelayReq) (resp : PTPMessagePathDelayResp)
    (m : PTPMessagePathDelayRespFollowUp) :
    Modifies [.pdelayCount, .link] d (d.measure req resp m) := by
  unfold measure
  refine .step ?_ (modifies_setPeerOffset _ _ _) (by decide)
  refine .step ?_ (.ite (.refl _ _) (modifies_setAsCapable _ _)) (by decide)
  refine .step ?_ (modifies_setLinkDelay _ _) (by decide)
  refine .step ?_ (modifies_setPeerRateOffset _ _) (by decide)
  exact (d.modifies_setPdelayCount _).mono (by decide)

/-- What the follow-up of a response can change. -/
def respFollowUpFootprint : List Location :=
  [.lastPDelayResp, .lastPDelayRespFollowUp, .pdelayCount, .link,
    .timer .pdelayRespReceiptTimeoutExpires, .timer .pdelayDeferredProcessing]

theorem modifies_processPathDelayRespFollowUp (m : PTPMessagePathDelayRespFollowUp) :
    Modifies respFollowUpFootprint d (d.processPathDelayRespFollowUp m).1 := by
  have hdrop : ∀ d : Daemon F, Modifies respFollowUpFootprint d (d.setLastPDelayResp none) :=
    fun d => (d.modifies_setLastPDelayResp _).mono (by decide)
  have hcancel : Modifies respFollowUpFootprint d
      (d.deleteEventTimer .pdelayRespReceiptTimeoutExpires) :=
    (d.modifies_deleteEventTimer _).mono (by decide)
  unfold processPathDelayRespFollowUp
  split
  · exact .refl _ _
  split
  · dsimp only
    split_ifs
    · exact hdrop d
    · exact hcancel.trans (hdrop _)
    · refine hcancel.trans (.step ?_ (modifies_addEventTimer _ _ _) (by decide))
      exact (modifies_setLastPDelayRespFollowUp _ _).mono (by decide)
    · exact hcancel.trans (hdrop _)
    · exact hcancel.trans (((modifies_measure _ _ _ _).mono (by decide)).trans (hdrop _))
  · exact hdrop d

/-- What a Signalling message can change. -/
def signallingFootprint : List Location :=
  [.logMinMeanPDelayReqInterval, .timer .pdelayIntervalTimeoutExpires, .logMeanSyncInterval,
    .timer .syncIntervalTimeoutExpires, .logMeanAnnounceInterval,
    .timer .announceIntervalTimeoutExpires]

theorem modifies_processSignalling (m : PTPMessageSignalling) :
    Modifies signallingFootprint d (d.processSignalling m).1 := by
  have hpdelay : ∀ k, Modifies signallingFootprint d (d.signalLinkDelay k) := by
    intro k
    unfold signalLinkDelay
    refine .ite (.refl _ _) (.step ?_ (modifies_restartEventTimer _ _ _) (by decide))
    exact (d.modifies_setPDelayInterval _).mono (by decide)
  have hsync : ∀ k (d : Daemon F), Modifies signallingFootprint d (d.signalTimeSync k) := by
    intro k d
    unfold signalTimeSync
    refine .ite (.refl _ _) (.step ?_ (modifies_restartEventTimer _ _ _) (by decide))
    exact (d.modifies_setSyncInterval _).mono (by decide)
  have hannounce : ∀ k (d : Daemon F), Modifies signallingFootprint d (d.signalAnnounce k) := by
    intro k d
    unfold signalAnnounce
    refine .ite (.refl _ _) (.step ?_ (modifies_restartEventTimer _ _ _) (by decide))
    exact (d.modifies_setAnnounceInterval _).mono (by decide)
  exact ((hpdelay _).trans (hsync _ _)).trans (hannounce _ _)

end Messages

end Daemon

end Gptp
