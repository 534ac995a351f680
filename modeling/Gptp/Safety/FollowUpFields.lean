import Gptp.Message.ParseBounds
import Gptp.Safety.Transmission

/-!
# The fields of the Follow_Up TLV on the wire

The TLV of a Follow_Up is copied to and from the frame as it lies in memory, so each of its fields
needs a conversion to network byte order of its own. Two of them do not get the right one.

* The sender converts the 16-bit `gmTimeBaseIndicator` with the 32-bit `PLAT_htonl` and keeps the low
  half of the result. On a little-endian host that half is zero, whatever the indicator
  (`lowHalf_htonl`), so the frame carries the indicator exactly if it is zero
  (`followUp_indicator_iff`).
* The receiver converts neither `gmTimeBaseIndicator` nor `cumulativeScaledRateOffset`, so it reads
  both right exactly if their octets read the same in both directions (`followUp_decoded_iff`).
-/

namespace Gptp

open Framework

variable {F : Type} [Platform F]

/-! ### Sending -/

/-- The 16-bit half that the sender keeps of a 16-bit number converted as a 32-bit number. -/
theorem lowHalf_htonl (hendian : Platform.endian F = .little) (x : UInt16) :
    (htonl F x.toUInt32).toUInt16 = 0 := by
  have hx := x.toNat_lt
  -- the two octets of `x` move to the upper half
  have hbytes : bytesLE 4 x.toNat = [UInt8.ofNat x.toNat, UInt8.ofNat (x.toNat / 256), 0, 0] := by
    have hthird : x.toNat / 256 / 256 = 0 := by omega
    simp only [bytesLE, hthird, Nat.zero_div]
    rfl
  have hvalue : valueBE (bytesLE 4 x.toNat) =
      65536 * ((UInt8.ofNat (x.toNat / 256)).toNat + 256 * (UInt8.ofNat x.toNat).toNat) := by
    rw [hbytes, valueBE]
    simp only [List.reverse_cons, List.reverse_nil, List.nil_append, List.cons_append, valueLE,
      UInt8.toNat_zero]
    ring
  have hhton : htonl F x.toUInt32 = UInt32.ofNat (valueBE (bytesLE 4 x.toNat)) := by
    rw [htonl, hendian]
    rfl
  apply UInt16.toNat_inj.mp
  rw [hhton, hvalue, UInt32.toNat_toUInt16, UInt32.toNat_ofNat']
  change _ % 2 ^ 16 = 0
  omega

namespace FollowUpTLV

/-- The time base indicator lies 14 octets into the TLV. -/
theorem indicator_toByteString (t : FollowUpTLV) :
    ((t.toByteString F).drop 14).take 2 = bytes16 F t.gmTimeBaseIndicator := by
  let before : List UInt8 := bytes16 F t.tlvType ++ bytes16 F t.lengthField ++
    [t.organizationId.1, t.organizationId.2.1, t.organizationId.2.2, t.organizationSubTypeMs] ++
    bytes16 F t.organizationSubTypeLs ++ bytes32 F t.cumulativeScaledRateOffset.toUInt32
  let after : List UInt8 := bytes32 F t.scaledLastGmPhaseChange.ms.toUInt32 ++
    bytes64 F t.scaledLastGmPhaseChange.ls ++ bytes32 F t.scaledLastGmFreqChange.toUInt32
  have hsplit : t.toByteString F = before ++ (bytes16 F t.gmTimeBaseIndicator ++ after) := by
    simp only [toByteString, before, after, List.append_assoc]
  have hbefore : before.length = 14 := by simp [before]
  rw [hsplit, List.drop_left' hbefore, List.take_left' (length_bytes16 _)]

/-- The frequency change is the last of the TLV. -/
theorem freqChange_toByteString (t : FollowUpTLV) :
    ((t.toByteString F).drop 28).take 4 = bytes32 F t.scaledLastGmFreqChange.toUInt32 := by
  have hlength : (t.toByteString F).length = 28 + 4 := by simp [toByteString]
  unfold toByteString at hlength ⊢
  rw [List.length_append, length_bytes32] at hlength
  rw [List.drop_left' (Nat.add_right_cancel hlength)]
  exact List.take_of_length_le (length_bytes32 _).le

theorem length_toByteString (t : FollowUpTLV) : (t.toByteString F).length = 32 := by
  simp [toByteString]

end FollowUpTLV

namespace PTPMessageFollowUp

theorem read_tlv (m : PTPMessageFollowUp) (buf : Mem) :
    (m.buildMessage F buf).read 44 32 = (sent F m).tlv.toByteString F :=
  Mem.read_store _ _ _ (FollowUpTLV.length_toByteString _)

/-- The octets of the time base indicator in a Follow_Up frame. -/
theorem read_indicator (m : PTPMessageFollowUp) (buf : Mem) :
    (m.buildMessage F buf).read 58 2 =
      bytes16 F (htonl F m.tlv.gmTimeBaseIndicator.toUInt32).toUInt16 := by
  have hwindow := Mem.read_eq_take_drop (m.read_tlv (F := F) buf) (show 14 + 2 ≤ 32 by omega)
  rw [FollowUpTLV.indicator_toByteString] at hwindow
  exact hwindow

/-- The octets of the frequency change in a Follow_Up frame. -/
theorem read_freqChange (m : PTPMessageFollowUp) (buf : Mem) :
    (m.buildMessage F buf).read 72 4 = bytes32 F m.tlv.scaledLastGmFreqChange.toUInt32 := by
  have hwindow := Mem.read_eq_take_drop (m.read_tlv (F := F) buf) (show 28 + 4 ≤ 32 by omega)
  rw [FollowUpTLV.freqChange_toByteString] at hwindow
  exact hwindow

end PTPMessageFollowUp

namespace Daemon

theorem fupInfo_setMasterOffset (u : MasterOffset F) (d : Daemon F) :
    (d.setMasterOffset u).clock.fupInfo = d.clock.fupInfo := by
  have hpublish : (d.publishOffset u).clock.fupInfo = d.clock.fupInfo := by
    unfold publishOffset
    dsimp only
    split <;> rfl
  rw [setMasterOffset, ← hpublish]
  unfold disciplineClock
  split_ifs <;> rfl

omit [Platform F] in
theorem clock_startPDelay (d : Daemon F) : d.startPDelay.clock = d.clock := by
  unfold startPDelay
  split_ifs <;> rfl

omit [Platform F] in
theorem clock_syncDone (d : Daemon F) : d.syncDone.clock = d.clock := by
  have hrate (d : Daemon F) : d.startSyncRateIntervalTimer.clock = d.clock := by
    unfold startSyncRateIntervalTimer
    split <;> rfl
  unfold syncDone
  simp only [apply_ite Daemon.clock, hrate, clock_startPDelay, clock_countDownAvbSync, ite_self]

theorem clock_mediaSyncInterval (env : Env) (d : Daemon F) :
    (d.mediaSyncInterval env).clock = d.clock := by
  unfold mediaSyncInterval
  simp only [apply_ite Daemon.clock, emit_clock, clock_countDownAvbSync, ite_self]
  rfl

/-- The Sync interval handler leaves the source of the Follow_Up fields as it is. -/
theorem fupInfo_syncInterval (env : Env) (d : Daemon F) :
    (d.syncInterval env).clock.fupInfo = d.clock.fupInfo := by
  set d₁ := if d.port.link.asCapable then d.mediaSyncInterval env else d with hd₁
  have hd₁' : d₁.clock = d.clock := by
    rw [hd₁, apply_ite Daemon.clock, clock_mediaSyncInterval, ite_self]
  let estimate := d₁.clock.calcLocalSystemClockRateDifference env.deviceTime env.systemTime
  let d₂ : Daemon F := { d₁ with clock := estimate.2 }
  have hd₂ : d₂.clock.fupInfo = d.clock.fupInfo := by
    simp only [d₂, estimate, Clock.calcLocalSystemClockRateDifference_snd, hd₁']
  calc (d.syncInterval env).clock.fupInfo
      = (d₂.setMasterOffset (d₂.localOffset env estimate.1)).syncDone.clock.fupInfo := rfl
    _ = d₂.clock.fupInfo := by rw [clock_syncDone, fupInfo_setMasterOffset]
    _ = d.clock.fupInfo := hd₂

/-- **Sent Follow_Ups.** A Follow_Up is sent by the Sync interval handler with the TLV that the clock
holds before and after the step. -/
theorem step_followUp_tlv {d : Daemon F} {i : Input} {m : PTPMessageFollowUp}
    (hm : .send (.followUp m) ∈ (d.step i).effects) :
    m.tlv = (d.followUpMessage m.sequenceId m.preciseOriginTimestamp).tlv ∧
      (d.step i).clock.fupInfo = d.clock.fupInfo := by
  obtain ⟨e, hlabel, hexplains⟩ := step_explains d i hm
    (Effect.not_isSilent_of_transmits (.inl rfl))
  obtain ⟨rfl, -⟩ := hexplains.sync rfl
  -- either way the handler starts from the same clock, with no effects recorded yet
  obtain ⟨d₀, hd₀, hstep, hlog⟩ : ∃ d₀ : Daemon F, d₀.clock = d.clock ∧
      d.step i = d₀.syncInterval i.env ∧ d₀.core.log = [] := by
    obtain ⟨stimulus, env⟩ := i
    cases stimulus with
    | event e =>
      obtain rfl : e = .syncIntervalTimeoutExpires := by simpa [label] using hlabel
      exact ⟨{ d with effects := [] }, rfl, rfl, rfl⟩
    | timer k =>
      cases hk : d.timerq[k]? with
      | none => simp [label, hk] at hlabel
      | some t =>
        have ht : t.event = .syncIntervalTimeoutExpires := by simpa [label, hk] using hlabel
        refine ⟨{ d with effects := [], timerq := d.timerq.eraseIdx k }, rfl, ?_, rfl⟩
        simp only [step, hk, ht]
        rfl
    | receive msg linkSpeed => cases hdrops : env.drops msg <;> simp [label, hdrops] at hlabel
    | setLinkSpeed linkSpeed => simp [label] at hlabel
  obtain ⟨sent, stepped, u, -, -, htlv, hcore⟩ := core_syncInterval i.env d₀
  have hsame : (d₀.followUpMessage m.sequenceId m.preciseOriginTimestamp).tlv =
      (d.followUpMessage m.sequenceId m.preciseOriginTimestamp).tlv := by
    unfold followUpMessage
    rw [hd₀]
  rw [hstep, fupInfo_syncInterval, hd₀, ← hsame]
  refine ⟨htlv m ?_, rfl⟩
  have hmem : .send (.followUp m) ∈ (d₀.syncInterval i.env).core.log :=
    List.mem_filter.mpr ⟨hstep ▸ hm, rfl⟩
  rw [hcore] at hmem
  simpa [Core.syncInterval, Core.setMasterOffset, Core.record, hlog] using hmem

end Daemon

/-- **The transmitted time base indicator.** On a little-endian host a Follow_Up frame carries the
indicator of the clock in network byte order exactly if that indicator is zero. -/
theorem followUp_indicator_iff (hendian : Platform.endian F = .little) (s : Start F)
    (σ : ℕ → Input) (k : ℕ) (m : PTPMessageFollowUp)
    (hsent : .send (.followUp m) ∈ ((machine F).stateAt s.daemon σ (k + 1)).effects) (buf : Mem) :
    ((machine F).stateAt s.daemon σ (k + 1)).clock.fupInfo =
        ((machine F).stateAt s.daemon σ k).clock.fupInfo ∧
      (valueBE ((m.buildMessage F buf).read 58 2) =
          ((machine F).stateAt s.daemon σ k).clock.fupInfo.gmTimeBaseIndicator.toNat ↔
        ((machine F).stateAt s.daemon σ k).clock.fupInfo.gmTimeBaseIndicator = 0) := by
  have hsame := (Daemon.step_followUp_tlv hsent).2
  have hzero : valueBE ((m.buildMessage F buf).read 58 2) = 0 := by
    rw [PTPMessageFollowUp.read_indicator, lowHalf_htonl hendian, bytes16, hendian]
    rfl
  refine ⟨hsame, ?_⟩
  rw [hzero]
  constructor
  · intro h
    exact UInt16.toNat_inj.mp h.symm
  · intro h
    rw [h]
    rfl

/-- POWERUP, the announce receipt timeout, and the first Sync interval after it. -/
def timeoutSync : ℕ → Input
  | 0 => .ofEvent .powerup
  | 1 => .expiry 0
  | _ => .expiry 2

/-- A port that becomes master by the receipt timeout has not counted a change of the time base yet:
the indicator it sends is zero, and right. -/
theorem timeout_followUp_indicator :
    ∃ m, .send (.followUp m) ∈
        ((machine ℚ).stateAt (Start.capable none).daemon timeoutSync 3).effects ∧
      valueBE ((m.sendPort ℚ).read 58 2) = ((machine ℚ).stateAt (Start.capable none).daemon
        timeoutSync 2).clock.fupInfo.gmTimeBaseIndicator.toNat := by
  obtain ⟨m, hm⟩ : ∃ m, .send (.followUp m) ∈
      ((machine ℚ).stateAt (Start.capable none).daemon timeoutSync 3).effects :=
    ⟨_, .tail _ (.head _)⟩
  exact ⟨m, hm, (followUp_indicator_iff rfl (Start.capable none) timeoutSync 2 m hm
    fun _ => 0).2.mpr (by decide)⟩

/-- POWERUP and the first Sync interval of a port that is already master. -/
def forcedSync : ℕ → Input
  | 0 => .ofEvent .powerup
  | _ => .expiry 1

/-- The first Follow_Up of a port that is master from the start carries indicator 0 instead of 1. -/
theorem forced_followUp_indicator :
    (machine ℚ).Delivers (Start.capable (some .ptpMaster)).daemon forcedSync 2 ∧
      ((machine ℚ).stateAt (Start.capable (some .ptpMaster)).daemon forcedSync
        1).clock.fupInfo.gmTimeBaseIndicator = 1 ∧
      ∃ m, .send (.followUp m) ∈
          ((machine ℚ).stateAt (Start.capable (some .ptpMaster)).daemon forcedSync 2).effects ∧
        valueBE ((m.sendPort ℚ).read 58 2) = 0 := by
  refine ⟨by decide, by decide, _, .tail _ (.head _), ?_⟩
  decide

/-! ### Receiving -/

/-- The 32-bit number in network byte order at offset `a`. -/
def network32 (buf : Mem) (a : ℕ) : UInt32 := UInt32.ofNat (valueBE (buf.read a 4))

/-- The 16-bit number in network byte order at offset `a`. -/
def network16 (buf : Mem) (a : ℕ) : UInt16 := UInt16.ofNat (valueBE (buf.read a 2))

/-- A number read in both byte orders is the same exactly if its octets are the same in both
directions. -/
theorem valueLE_eq_valueBE_iff (bs : List UInt8) : valueLE bs = valueBE bs ↔ bs.reverse = bs := by
  constructor
  · intro h
    exact (valueLE_injective (by simp) h).symm
  · intro h
    rw [valueBE, h]

section Unconverted

variable {buf : Mem} {a : ℕ}

theorem load32_eq_network32_iff (hendian : Platform.endian F = .little) :
    load32 F buf a = network32 buf a ↔ (buf.read a 4).reverse = buf.read a 4 := by
  have hle : valueLE (buf.read a 4) < 2 ^ 32 := by simpa using valueLE_lt (buf.read a 4)
  have hbe : valueBE (buf.read a 4) < 2 ^ 32 := by simpa using valueBE_lt (buf.read a 4)
  rw [← valueLE_eq_valueBE_iff, load32, hendian, network32, ← UInt32.toNat_inj]
  change (UInt32.ofNat (valueLE _)).toNat = _ ↔ _
  rw [UInt32.toNat_ofNat_of_lt' hle, UInt32.toNat_ofNat_of_lt' hbe]

theorem load16_eq_network16_iff (hendian : Platform.endian F = .little) :
    load16 F buf a = network16 buf a ↔ (buf.read a 2).reverse = buf.read a 2 := by
  have hle : valueLE (buf.read a 2) < 2 ^ 16 := by simpa using valueLE_lt (buf.read a 2)
  have hbe : valueBE (buf.read a 2) < 2 ^ 16 := by simpa using valueBE_lt (buf.read a 2)
  rw [← valueLE_eq_valueBE_iff, load16, hendian, network16, ← UInt16.toNat_inj]
  change (UInt16.ofNat (valueLE _)).toNat = _ ↔ _
  rw [UInt16.toNat_ofNat_of_lt' hle, UInt16.toNat_ofNat_of_lt' hbe]

end Unconverted

/-- A decoded Follow_Up holds the TLV of its frame. -/
theorem tlv_of_buildPTPMessage {buf : Mem} {size : ℕ} {rx : Option Timestamp}
    {m : PTPMessageFollowUp} (h : buildPTPMessage F buf size rx = some (.followUp m)) :
    m.tlv = FollowUpTLV.ofMem F buf (34 + 10) := by
  cases haccept : acceptHeader (buf 0) rx with
  | none =>
    rw [buildPTPMessage_eq_none haccept] at h
    cases h
  | some header =>
    obtain ⟨t, ts⟩ := header
    rw [buildPTPMessage_eq haccept, Option.map_eq_some_iff] at h
    obtain ⟨⟨message, base⟩, hbody, hm⟩ := h
    cases t with
    | followup =>
      rw [parseBody] at hbody
      split at hbody
      · cases hbody
      · obtain ⟨rfl, rfl⟩ := Prod.mk.inj (Option.some.inj hbody)
        exact congrArg PTPMessageFollowUp.tlv (PTPMessage.followUp.inj hm).symm
    -- no other message type builds a Follow_Up
    | sync | pathDelayReq | pathDelayResp =>
      rw [parseBody] at hbody
      split at hbody
      · cases hbody
      · obtain ⟨rfl, rfl⟩ := Prod.mk.inj (Option.some.inj hbody)
        cases hm
    | pathDelayFollowup | announce | signalling =>
      obtain ⟨rfl, rfl⟩ := Prod.mk.inj (Option.some.inj hbody)
      cases hm
    | delayReq | delayResp | management => cases hbody

/-- A Follow_Up that passes the checks has its time base indicator stored. -/
theorem Daemon.lastGmTimeBaseIndicator_of_applies {m : PTPMessageFollowUp} {syncArrival : Timestamp}
    {d : Daemon F} (h : d.appliesFollowUp m syncArrival) (env : Env) :
    (d.processFollowUpAt env m syncArrival).port.lastGmTimeBaseIndicator =
      m.tlv.gmTimeBaseIndicator := by
  rw [processFollowUpAt_of_applies h]
  rfl

/-- **The received TLV.** On a little-endian host the rate offset used in the processing of a received
Follow_Up is the network value of its field exactly if the four octets of the field read the same in
both directions, and so is the time base indicator that the processing stores. -/
theorem followUp_decoded_iff (hendian : Platform.endian F = .little) (buf : Mem) (size : ℕ)
    (rx : Option Timestamp) (m : PTPMessageFollowUp)
    (hdecode : buildPTPMessage F buf size rx = some (.followUp m)) :
    (m.tlv.cumulativeScaledRateOffset = (network32 buf 54).toInt32 ↔
      (buf.read 54 4).reverse = buf.read 54 4) ∧
    ∀ (d : Daemon F) (env : Env) (syncArrival : Timestamp), d.appliesFollowUp m syncArrival →
      ((d.processFollowUpAt env m syncArrival).port.lastGmTimeBaseIndicator = network16 buf 58 ↔
        (buf.read 58 2).reverse = buf.read 58 2) := by
  have htlv := tlv_of_buildPTPMessage hdecode
  constructor
  · rw [htlv, ← load32_eq_network32_iff hendian]
    constructor
    · intro h
      have hfield := congrArg Int32.toUInt32 h
      exact hfield
    · intro h
      exact congrArg UInt32.toInt32 h
  · intro d env syncArrival happlies
    rw [Daemon.lastGmTimeBaseIndicator_of_applies happlies, htlv,
      ← load16_eq_network16_iff hendian]
    rfl

/-- A Follow_Up frame of 76 octets whose rate offset and indicator have the given octets; all other
octets but the first are zero. -/
def followUpFrame (rate indicator : List UInt8) : Mem :=
  Mem.store (fun _ => 0) 0 [0x18] |>.store 54 rate |>.store 58 indicator

/-- Fields that read the same in both directions are decoded right. -/
theorem symmetric_followUp_decoded :
    ∃ m, buildPTPMessage ℚ (followUpFrame [0, 1, 1, 0] [1, 1]) 76 none = some (.followUp m) ∧
      m.tlv.cumulativeScaledRateOffset =
        (network32 (followUpFrame [0, 1, 1, 0] [1, 1]) 54).toInt32 ∧
      ((Start.capable (some .ptpSlave)).daemon.processFollowUpAt .standard m
        ⟨0, 0, 0, 0⟩).port.lastGmTimeBaseIndicator =
          network16 (followUpFrame [0, 1, 1, 0] [1, 1]) 58 := by
  refine ⟨_, rfl, ?_, ?_⟩
  · exact (followUp_decoded_iff (F := ℚ) rfl _ 76 none _ rfl).1.mpr (by decide)
  · exact ((followUp_decoded_iff (F := ℚ) rfl _ 76 none _ rfl).2 _ _ _ (by decide +kernel)).mpr
      (by decide)

/-- A rate offset of 1 is used as 2 ^ 24, and an indicator of 1 is stored as 256. -/
theorem followUp_decoded_swapped :
    network32 (followUpFrame [0, 0, 0, 1] [0, 1]) 54 = 1 ∧
      network16 (followUpFrame [0, 0, 0, 1] [0, 1]) 58 = 1 ∧
      ∃ m, buildPTPMessage ℚ (followUpFrame [0, 0, 0, 1] [0, 1]) 76 none = some (.followUp m) ∧
        m.tlv.cumulativeScaledRateOffset = 16777216 ∧
        ((Start.capable (some .ptpSlave)).daemon.processFollowUpAt .standard m
          ⟨0, 0, 0, 0⟩).port.lastGmTimeBaseIndicator = 256 := by
  refine ⟨by decide, by decide, _, rfl, by decide, ?_⟩
  decide +kernel

end Gptp
