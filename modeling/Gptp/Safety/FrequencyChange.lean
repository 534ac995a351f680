import Gptp.Safety.FollowUpFields
import Gptp.Safety.RoleChange
import Gptp.Safety.SyncReceipt

/-!
# The frequency change of transmitted Follow_Ups

The value computed from an applied Follow_Up reaches the Follow_Ups that the port may come to send in
three hops: `fup_status` takes it, `updateFUPInfo` copies it to `fup_info` when the role changes, and a
Follow_Up that is sent takes it from there. Each hop reads what the one before has stored and writes it
with `setScaledLastGmFreqChange`, which converts with `PLAT_htonl`. Three conversions are as good as one.

* `FupCall.foldl_apply`: what any sequence of calls leaves in the two fields, on hosts of either byte
  order.
* `Daemon.freqFields_step`: a step of the daemon makes at most one such call, `Daemon.fupCall`.
* `followUp_freqChange`: the octets in a frame are those of the value last passed to `fup_status` before
  the most recent `updateFUPInfo`.
-/

namespace Gptp

open Framework

/-! ### Calls and the fields they write -/

/-- The calls that write a `scaledLastGmFreqChange` of the clock. -/
inductive FupCall where
  /-- `fup_status->setScaledLastGmFreqChange(v)`. -/
  | setScaledLastGmFreqChange (v : Int32)
  /-- `IEEE1588Clock::updateFUPInfo`. -/
  | updateFUPInfo
  deriving DecidableEq

/-- The value last passed to `fup_status`, or 0 if there is none. The most recent call comes first. -/
def lastPassed : List FupCall → Int32
  | [] => 0
  | .setScaledLastGmFreqChange v :: _ => v
  | .updateFUPInfo :: calls => lastPassed calls

/-- The value last passed to `fup_status` before the most recent `updateFUPInfo`, or 0 if there is
none. -/
def lastTaken : List FupCall → Int32
  | [] => 0
  | .setScaledLastGmFreqChange _ :: calls => lastTaken calls
  | .updateFUPInfo :: calls => lastPassed calls

/-- The `scaledLastGmFreqChange` of `fup_status` and of `fup_info`, as stored. -/
structure FreqFields where
  status : Int32
  info : Int32

variable (F : Type) [Platform F]

/-- What `setScaledLastGmFreqChange` stores. -/
def storedFreqChange (v : Int32) : Int32 := (htonl F v.toUInt32).toInt32

/-- The effect of a call on the stored fields. -/
def FupCall.apply (x : FreqFields) : FupCall → FreqFields
  | .setScaledLastGmFreqChange v => { x with status := storedFreqChange F v }
  | .updateFUPInfo => { x with info := storedFreqChange F x.status }

variable {F}

theorem storedFreqChange_storedFreqChange (v : Int32) :
    storedFreqChange F (storedFreqChange F v) = v := by
  unfold storedFreqChange
  rw [UInt32.toUInt32_toInt32, htonl_htonl, Int32.toInt32_toUInt32]

theorem storedFreqChange_zero : storedFreqChange F 0 = 0 := by
  unfold storedFreqChange htonl
  cases Platform.endian F <;> rfl

/-- Whatever is called, `fup_status` holds the last value passed to it in network byte order, and
`fup_info`, converted once more, the last value taken over in host byte order. -/
theorem FupCall.foldl_apply (calls : List FupCall) :
    calls.foldl (apply F) ⟨storedFreqChange F 0, storedFreqChange F 0⟩ =
      ⟨storedFreqChange F (lastPassed calls.reverse), lastTaken calls.reverse⟩ := by
  induction calls using List.reverseRecOn with
  | nil => exact congrArg (FreqFields.mk _) storedFreqChange_zero
  | append_singleton calls call ih =>
    rw [List.foldl_append, ih, List.reverse_append]
    cases call with
    | setScaledLastGmFreqChange v => rfl
    | updateFUPInfo => exact congrArg (FreqFields.mk _) (storedFreqChange_storedFreqChange _)

namespace Daemon

/-! ### The calls of a step -/

def freqFields (d : Daemon F) : FreqFields :=
  ⟨d.clock.fupStatus.scaledLastGmFreqChange, d.clock.fupInfo.scaledLastGmFreqChange⟩

/-- The value that Follow_Up processing computes from the master rate. -/
def freqChange (rate : F) : Int32 :=
  Platform.toI32 (Platform.mul
    (Platform.sub (Platform.div (Platform.ofRat 1) rate) (Platform.ofRat 1))
    (Platform.ofRat (2 ^ 41) : F))

/-- The value that a step passes to `fup_status`: that of a Follow_Up which passes every check. -/
def passedFreqChange (d : Daemon F) (i : Input) : Option Int32 :=
  match i.stimulus, d.port.lastSync with
  | .receive (.followUp m) _, some sync =>
    if !d.port.portState.ignoresMessages && d.acceptsFollowUp m then
      some (freqChange (d.masterRateEstimate m sync.timestamp).1)
    else none
  | _, _ => none

/-- The call that a step makes. `updateFUPInfo`, and nothing else, counts up the time base indicator, so
its calls show there. -/
def fupCall (d : Daemon F) (i : Input) : Option FupCall :=
  if (d.step i).timeBase ≠ d.timeBase then some .updateFUPInfo
  else (d.passedFreqChange i).map .setScaledLastGmFreqChange

/-- From `d` to `d'` nothing was done to the clock's TLVs but, possibly, one `updateFUPInfo`. -/
def UpdatesAtMost (d d' : Daemon F) : Prop :=
  d'.clock.fupStatus = d.clock.fupStatus ∧
    (d'.clock.fupInfo = d.clock.fupInfo ∨ d'.clock.fupInfo = d.clock.updateFUPInfo.fupInfo)

namespace UpdatesAtMost

variable {d d' : Daemon F}

/-- What writes neither TLV. -/
theorem of_modifies {L : List Location} (h : Modifies L d d') (hstatus : .fupStatus ∉ L)
    (hinfo : .fupInfo ∉ L) : d.UpdatesAtMost d' :=
  ⟨h .fupStatus hstatus, .inl (h .fupInfo hinfo)⟩

theorem of_eq {d₀ : Daemon F} (h : d₀.UpdatesAtMost d') (hstatus : d₀.clock.fupStatus = d.clock.fupStatus)
    (hinfo : d₀.clock.fupInfo = d.clock.fupInfo) : d.UpdatesAtMost d' := by
  unfold UpdatesAtMost Clock.updateFUPInfo at h ⊢
  rwa [hstatus, hinfo] at h

/-- What writes neither TLV, after one `updateFUPInfo` at most. -/
theorem andThen {d'' : Daemon F} {L : List Location} (h : d.UpdatesAtMost d') (h' : Modifies L d' d'')
    (hstatus : .fupStatus ∉ L) (hinfo : .fupInfo ∉ L) : d.UpdatesAtMost d'' := by
  have hstatus' : d''.clock.fupStatus = d'.clock.fupStatus := h' .fupStatus hstatus
  have hinfo' : d''.clock.fupInfo = d'.clock.fupInfo := h' .fupInfo hinfo
  unfold UpdatesAtMost
  rwa [hstatus', hinfo']

/-- The time base indicator tells whether `updateFUPInfo` was called. -/
theorem freqFields_eq (h : d.UpdatesAtMost d') :
    d'.freqFields =
      if d'.timeBase ≠ d.timeBase then FupCall.updateFUPInfo.apply F d.freqFields else d.freqFields := by
  obtain ⟨hstatus, hinfo | hinfo⟩ := h
  · have hkept : d'.timeBase = d.timeBase := congrArg FollowUpTLV.gmTimeBaseIndicator hinfo
    rw [if_neg (not_not.mpr hkept), freqFields, hstatus, hinfo]
    rfl
  · have hcounted : d'.timeBase = d.timeBase + 1 := congrArg FollowUpTLV.gmTimeBaseIndicator hinfo
    have hne : d'.timeBase ≠ d.timeBase := by
      rw [hcounted]
      simp
    rw [if_pos hne, freqFields, hstatus, hinfo]
    rfl

end UpdatesAtMost

variable (d : Daemon F)

theorem updatesAtMost_becomeMaster (annc : Bool) : d.UpdatesAtMost (d.becomeMaster annc) := by
  unfold becomeMaster
  dsimp only
  split <;> exact ⟨rfl, .inr rfl⟩

theorem updatesAtMost_becomeSlave (restart : Bool) : d.UpdatesAtMost (d.becomeSlave restart) := by
  unfold becomeSlave
  dsimp only
  split <;> split <;> exact ⟨rfl, .inr rfl⟩

theorem updatesAtMost_resumeRole : d.UpdatesAtMost d.resumeRole := by
  unfold resumeRole
  split_ifs
  · exact d.updatesAtMost_becomeSlave true
  · exact d.updatesAtMost_becomeMaster true
  · exact ⟨rfl, .inl rfl⟩

theorem updatesAtMost_recommendState (state : PortState) (changed : Bool) :
    d.UpdatesAtMost (d.recommendState state changed) := by
  unfold recommendState
  split
  · split_ifs
    · exact (d.setPortState .ptpMaster).updatesAtMost_becomeMaster true
    · exact ⟨rfl, .inl rfl⟩
  · split_ifs
    · exact d.updatesAtMost_becomeSlave true
    · exact ⟨rfl, .inr rfl⟩
    · exact ⟨rfl, .inl rfl⟩
  · exact ⟨rfl, .inl rfl⟩

theorem updatesAtMost_processStateChange : d.UpdatesAtMost d.processStateChange := by
  rw [processStateChange_eq]
  split_ifs
  · exact ⟨rfl, .inl rfl⟩
  cases d.port.qualifiedAnnounce with
  | none => exact ⟨rfl, .inl rfl⟩
  | some a =>
    dsimp only [assignRole]
    split_ifs
    · exact ((d.setLastEBestIdentity a.grandmasterIdentity).setGrandmaster
        d.clock.cfg.ownGrandmaster).updatesAtMost_recommendState .ptpMaster _
    · exact (d.setLastEBestIdentity a.grandmasterIdentity).updatesAtMost_recommendState .ptpSlave _

theorem updatesAtMost_processEvent (env : Env) (e : Event) :
    d.UpdatesAtMost (d.processEvent env e) := by
  have hmodifies := processEvent_modifies env e d
  cases e with
  | powerup =>
    exact d.updatesAtMost_resumeRole.andThen (modifies_mediaPowerup _ env) (by decide) (by decide)
  | initializeEvent =>
    exact d.updatesAtMost_resumeRole.andThen (modifies_mediaPowerup _ env) (by decide) (by decide)
  | stateChangeEvent =>
    rw [processEvent_stateChangeEvent]
    split_ifs
    · exact ⟨rfl, .inl rfl⟩
    · exact d.updatesAtMost_processStateChange
  | linkup =>
    -- requests are started before the role is resumed
    have hresume : d.UpdatesAtMost (d.haltPdelay false).startPDelay.resumeRole := by
      have hclock : (d.haltPdelay false).startPDelay.clock = d.clock := clock_startPDelay _
      exact (updatesAtMost_resumeRole _).of_eq (by rw [hclock]) (by rw [hclock])
    change d.UpdatesAtMost d.mediaLinkup
    unfold mediaLinkup
    dsimp only
    split_ifs
    · exact hresume.andThen (modifies_automotiveLinkup _) (by decide) (by decide)
    · exact hresume
  -- no other event has one of the TLVs in its footprint
  | _ => exact .of_modifies hmodifies (by decide) (by decide)

variable {d}

omit [Platform F] in
theorem freqFields_of_modifies {d' : Daemon F} {L : List Location} (h : Modifies L d d')
    (hstatus : .fupStatus ∉ L) (hinfo : .fupInfo ∉ L) : d'.freqFields = d.freqFields := by
  have hstatus' : d'.clock.fupStatus = d.clock.fupStatus := h .fupStatus hstatus
  have hinfo' : d'.clock.fupInfo = d.clock.fupInfo := h .fupInfo hinfo
  rw [freqFields, hstatus', hinfo']
  rfl

theorem freqFields_recordFUPStatus (m : PTPMessageFollowUp) (rate : F) :
    (d.recordFUPStatus m rate).freqFields =
      (FupCall.setScaledLastGmFreqChange (freqChange rate)).apply F d.freqFields := by
  unfold recordFUPStatus freqChange
  rfl

/-- A Follow_Up that is applied passes a value; what a slave does besides writes neither TLV. -/
theorem freqFields_applyFollowUp (env : Env) (m : PTPMessageFollowUp)
    (syncArrival preciseOrigin : Timestamp) (rate : F) :
    (d.applyFollowUp env m syncArrival preciseOrigin rate).freqFields =
      (FupCall.setScaledLastGmFreqChange (freqChange rate)).apply F d.freqFields := by
  rw [← freqFields_recordFUPStatus m rate]
  generalize hd₁ : d.recordFUPStatus m rate = d₁
  have hrest : (if d₁.port.portState = .ptpSlave then
      d₁.synchronize env syncArrival preciseOrigin rate else d₁).freqFields = d₁.freqFields := by
    split_ifs
    · exact freqFields_of_modifies (d₁.modifies_synchronize env syncArrival preciseOrigin rate)
        (by decide) (by decide)
    · rfl
  rw [← hrest, ← hd₁]
  rfl

theorem modifies_masterRateEstimate (d : Daemon F) (m : PTPMessageFollowUp) (syncArrival : Timestamp) :
    Modifies [.servo] d { d with clock := (d.masterRateEstimate m syncArrival).2 } :=
  d.modifies_calcMasterLocalClockRateDifference _ _

/-- A Follow_Up that fails a check passes no value. It can still make the port master. -/
theorem updatesAtMost_processFollowUp {m : PTPMessageFollowUp}
    (h : (!d.port.portState.ignoresMessages && d.acceptsFollowUp m) = false) (env : Env) :
    d.UpdatesAtMost (d.processFollowUp env m).1 := by
  have hcase := d.processFollowUp_cases env m
  generalize d.processFollowUp env m = ended at hcase ⊢
  cases hcase with
  | ignored => exact ⟨rfl, .inl rfl⟩
  | orphan => exact ⟨rfl, .inl rfl⟩
  | wrong =>
    unfold wrongFollowUp
    split_ifs
    · exact ⟨rfl, .inl rfl⟩
    · exact d.stopSyncReceiptTimer.updatesAtMost_becomeMaster true
  | stale => exact ⟨rfl, .inl rfl⟩
  | @used sync hstate hsync hmatch hversion =>
    -- the Follow_Up is the right one, so that it is not applied
    have happlies : d.stopSyncReceiptTimer.appliesFollowUp m sync.timestamp = false := by
      change d.appliesFollowUp m sync.timestamp = false
      simpa [acceptsFollowUp, hstate, hsync, hmatch, hversion] using h
    obtain ⟨clock, hclock, hfrom⟩ := processFollowUpAt_of_not_applies happlies env
    rw [hclock]
    rcases hfrom with rfl | rfl
    · exact ⟨rfl, .inl rfl⟩
    · have hestimate := d.modifies_masterRateEstimate m sync.timestamp
      exact ⟨hestimate .fupStatus (by decide), .inl (hestimate .fupInfo (by decide))⟩

/-- A Follow_Up that passes every check. -/
theorem freqFields_processFollowUp {m : PTPMessageFollowUp}
    (h : (!d.port.portState.ignoresMessages && d.acceptsFollowUp m) = true) (env : Env) :
    ∃ sync, d.port.lastSync = some sync ∧
      (d.processFollowUp env m).1.freqFields =
        (FupCall.setScaledLastGmFreqChange
          (freqChange (d.masterRateEstimate m sync.timestamp).1)).apply F d.freqFields ∧
      (d.processFollowUp env m).1.timeBase = d.timeBase := by
  have hcase := d.processFollowUp_cases env m
  generalize d.processFollowUp env m = ended at hcase ⊢
  unfold acceptsFollowUp at h
  cases hcase with
  | ignored hstate => simp [hstate] at h
  | orphan _ hsync => simp [hsync] at h
  | wrong _ hsync hmatch => simp [hsync, hmatch] at h
  | stale _ hsync _ hversion => simp [hsync, hversion] at h
  | @used sync hstate hsync hmatch hversion =>
    have happlies : d.stopSyncReceiptTimer.appliesFollowUp m sync.timestamp = true := by
      change d.appliesFollowUp m sync.timestamp = true
      simpa [hstate, hsync, hmatch, hversion] using h
    refine ⟨sync, hsync, ?_, ?_⟩
    · have hestimate := freqFields_of_modifies (d.modifies_masterRateEstimate m sync.timestamp)
        (by decide) (by decide)
      rw [processFollowUpAt_of_applies happlies, ← hestimate]
      exact freqFields_applyFollowUp env m _ _ _
    · have hmodifies := modifies_processFollowUpAt d.stopSyncReceiptTimer env m sync.timestamp
      exact congrArg FollowUpTLV.gmTimeBaseIndicator (hmodifies .fupInfo (by decide))

/-- Only a Follow_Up passes a value. -/
theorem passedFreqChange_eq_none {i : Input} (h : ∀ m, ¬ i.IsFollowUp m) :
    d.passedFreqChange i = none := by
  unfold passedFreqChange
  split
  · rename_i m linkSpeed sync hi hsync
    exact absurd ⟨linkSpeed, hi⟩ (h m)
  · rfl

theorem passedFreqChange_followUp {i : Input} {m : PTPMessageFollowUp} {linkSpeed : UInt32}
    (hi : i.stimulus = .receive (.followUp m) linkSpeed) :
    d.passedFreqChange i = d.port.lastSync.bind fun sync =>
      if !d.port.portState.ignoresMessages && d.acceptsFollowUp m then
        some (freqChange (d.masterRateEstimate m sync.timestamp).1)
      else none := by
  unfold passedFreqChange
  rw [hi]
  cases d.port.lastSync <;> rfl

/-- An input other than a Follow_Up. -/
theorem updatesAtMost_step {i : Input} (h : ∀ m, ¬ i.IsFollowUp m) : d.UpdatesAtMost (d.step i) := by
  cases hhandled : d.handledEvent i with
  | some e =>
    obtain ⟨d₀, hclock, -, hstep⟩ := step_of_handledEvent hhandled
    rw [hstep]
    exact (d₀.updatesAtMost_processEvent i.env e).of_eq (by rw [hclock]) (by rw [hclock])
  | none =>
    -- the other messages do not touch the TLVs
    have hkept {l : Location} (hl : l = .fupStatus ∨ l = .fupInfo) : (d.step i).read l = d.read l := by
      refine read_step (fun e he => ?_) (fun msg linkSpeed hi _ => ?_) ?_
      · rw [hhandled] at he
        cases he
      · cases msg with
        | followUp m => exact absurd ⟨linkSpeed, hi⟩ (h m)
        | _ => rcases hl with rfl | rfl <;> dsimp only [PTPMessage.footprint] <;> decide
      · rcases hl with rfl | rfl <;> decide
    exact ⟨hkept (.inl rfl), .inl (hkept (.inr rfl))⟩

/-- **Step lemma.** A step changes the two fields by its call alone. -/
theorem freqFields_step (d : Daemon F) (i : Input) :
    (d.step i).freqFields = (d.fupCall i).toList.foldl (FupCall.apply F) d.freqFields := by
  -- a step that passes no value
  have hquiet (hpassed : d.passedFreqChange i = none) (hupdates : d.UpdatesAtMost (d.step i)) :
      (d.step i).freqFields = (d.fupCall i).toList.foldl (FupCall.apply F) d.freqFields := by
    rw [hupdates.freqFields_eq, fupCall, hpassed]
    split_ifs <;> rfl
  by_cases hfollowUp : ∃ m, i.IsFollowUp m
  swap
  · rw [not_exists] at hfollowUp
    exact hquiet (passedFreqChange_eq_none hfollowUp) (updatesAtMost_step hfollowUp)
  obtain ⟨m, linkSpeed, hi⟩ := hfollowUp
  have hstep := step_of_followUp (d := d) hi
  cases haccepts : !d.port.portState.ignoresMessages && d.acceptsFollowUp m with
  | false =>
    refine hquiet ?_ ?_
    · rw [passedFreqChange_followUp hi, haccepts]
      cases d.port.lastSync <;> rfl
    · rw [hstep]
      exact updatesAtMost_processFollowUp (d := { d with effects := [] }) haccepts i.env
  | true =>
    obtain ⟨sync, hsync, hfields, htimeBase⟩ :=
      freqFields_processFollowUp (d := { d with effects := [] }) haccepts i.env
    rw [← hstep] at hfields htimeBase
    have hpassed : d.passedFreqChange i =
        some (freqChange (d.masterRateEstimate m sync.timestamp).1) := by
      have hsync' : d.port.lastSync = some sync := hsync
      rw [passedFreqChange_followUp hi, hsync', haccepts]
      rfl
    have hkept : (d.step i).timeBase = d.timeBase := htimeBase
    rw [fupCall, if_neg (not_not.mpr hkept), hpassed]
    exact hfields

end Daemon

/-! ### Runs -/

/-- The calls of the first `k` steps of a run, the most recent first. -/
def fupCalls (d₀ : Daemon F) (σ : ℕ → Input) (k : ℕ) : List FupCall :=
  ((machine F).events Daemon.fupCall d₀ σ k).reverse

/-- The fields of the clock at a position of a run. -/
theorem freqFields_stateAt (s : Start F) (σ : ℕ → Input) (k : ℕ) :
    ((machine F).stateAt s.daemon σ k).freqFields =
      ⟨storedFreqChange F (lastPassed (fupCalls s.daemon σ k)), lastTaken (fupCalls s.daemon σ k)⟩ := by
  have hinit : s.daemon.freqFields = ⟨storedFreqChange F 0, storedFreqChange F 0⟩ := by
    unfold Start.daemon
    cases s.restored <;> rfl
  rw [fupCalls, ← FupCall.foldl_apply, ← hinit]
  exact Machine.proj_stateAt (M := machine F) Daemon.freqFields_step k

/-- **The transmitted frequency change.** The field of a Follow_Up that a port sends holds the value last
passed to `fup_status` before the most recent `updateFUPInfo`, most significant octet first, on hosts
of either byte order. -/
theorem followUp_freqChange (s : Start F) (σ : ℕ → Input) (k : ℕ) (m : PTPMessageFollowUp)
    (hsent : .send (.followUp m) ∈ ((machine F).stateAt s.daemon σ (k + 1)).effects) (buf : Mem) :
    (m.buildMessage F buf).read 72 4 =
      bytesBE 4 (lastTaken (fupCalls s.daemon σ k)).toUInt32.toNat := by
  have htlv := (Daemon.step_followUp_tlv hsent).1
  have hinfo := congrArg FreqFields.info (freqFields_stateAt s σ k)
  calc (m.buildMessage F buf).read 72 4
      = bytes32 F m.tlv.scaledLastGmFreqChange.toUInt32 := m.read_freqChange buf
    _ = bytes32 F (htonl F ((machine F).stateAt s.daemon σ k).freqFields.info.toUInt32) := by
      rw [htlv]
      rfl
    _ = bytesBE 4 (lastTaken (fupCalls s.daemon σ k)).toUInt32.toNat := by
      rw [hinfo, bytes32_htonl]

/-- Whether an effect is the transmission of a Follow_Up. -/
def Effect.isFollowUp : Effect F → Bool
  | .send (.followUp _) => true
  | _ => false

omit [Platform F] in
theorem Effect.exists_followUp {effects : List (Effect F)} (h : effects.any isFollowUp) :
    ∃ m, .send (.followUp m) ∈ effects := by
  obtain ⟨x, hx, hfollowUp⟩ := List.any_eq_true.mp h
  unfold isFollowUp at hfollowUp
  split at hfollowUp
  · exact ⟨_, hx⟩
  · cases hfollowUp

/-- The neighbour's clock is 1 ppm slow: while it counts a second, a second and a microsecond pass here.
Then the port is powered up anew, and a Sync interval ends. -/
def slowNeighbor : ℕ → Input
  | 0 => .message (.sync (neighborSync 1))
  | 1 => .message (.followUp (neighborFollowUp 1))
  | 2 => .message (.sync { neighborSync 2 with timestamp := ⟨1000, 1, 0, 0⟩ })
  | 3 => .message (.followUp { neighborFollowUp 2 with preciseOriginTimestamp := ⟨0, 1, 0, 0⟩ })
  | 4 => .ofEvent .powerup
  | _ => .ofEvent .syncIntervalTimeoutExpires

/-- A millionth of 2 ^ 41 is sent. -/
theorem slowNeighbor_freqChange :
    ∃ m, .send (.followUp m) ∈
        ((machine ℚ).stateAt (Start.capable (some .ptpSlave)).daemon slowNeighbor 6).effects ∧
      (m.sendPort ℚ).read 72 4 = bytesBE 4 2199023 := by
  obtain ⟨m, hm⟩ : ∃ m, .send (.followUp m) ∈
      ((machine ℚ).stateAt (Start.capable (some .ptpSlave)).daemon slowNeighbor 6).effects :=
    Effect.exists_followUp (by decide +kernel)
  have hcalls : lastTaken (fupCalls (Start.capable (some .ptpSlave)).daemon slowNeighbor 5) = 2199023 := by
    decide +kernel
  refine ⟨m, hm, ?_⟩
  rw [PTPMessageFollowUp.sendPort, followUp_freqChange _ slowNeighbor 5 m hm, hcalls]
  rfl

end Gptp
