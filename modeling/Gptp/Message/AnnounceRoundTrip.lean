import Gptp.Message.ParseBounds

/-!
# Announce messages sent and received

The payload `PTPMessageAnnounce::sendPort` emits is decoded again by `buildPTPMessage`. The body of the
Announce, the source identity, the sequence number and the path trace come back as they were. The rest
of the common header does not: the decoder reads it at offset 66, where the length field of the path
trace TLV and the first identities are.

* `Carries`: the layout of the payload, as far as the decoder looks at it.
* `buildPTPMessage_of_carries`: what a payload is decoded to.
* `roundTrips_iff`: the messages that come back unchanged are those whose header happens to be spelled
  out by their own path trace.
-/

namespace Gptp

open Framework

namespace PTPMessageAnnounce

open PathTraceTLV

variable {F : Type} [Platform F] {m : PTPMessageAnnounce} {buf : Mem}

/-! ### The layout of the payload -/

/-- The number of octets `sendPort` emits. -/
def payloadLength (m : PTPMessageAnnounce) : ℕ := 34 + 30 + PathTraceTLV.length m.pathTrace

theorem payloadLength_eq (m : PTPMessageAnnounce) :
    m.payloadLength = 68 + 8 * m.pathTrace.length := by
  rw [payloadLength, PathTraceTLV.length]
  omega

variable (F) in
/-- A payload of the Announce `m`. The fields of the common header that are never read from where they
were written are left out. -/
structure Carries (buf : Mem) (m : PTPMessageAnnounce) : Prop where
  first : buf.read 0 1 = [0x1B]
  sourceClock : buf.read 20 8 = m.sourcePortIdentity.clockId.toList
  sourcePort : buf.read 28 2 = bytes16 F (htons F m.sourcePortIdentity.portNumber)
  sequenceId : buf.read 30 2 = bytes16 F (htons F m.sequenceId)
  currentUtcOffset : buf.read 44 2 = bytes16 F (htons F m.currentUtcOffset)
  priority1 : buf.read 47 1 = [m.grandmasterPriority1]
  clockQuality : buf.read 48 4 = m.grandmasterClockQuality.cqClass ::
    m.grandmasterClockQuality.clockAccuracy ::
    bytes16 F (htons F m.grandmasterClockQuality.offsetScaledLogVariance)
  priority2 : buf.read 52 1 = [m.grandmasterPriority2]
  grandmaster : buf.read 53 8 = m.grandmasterIdentity.toList
  stepsRemoved : buf.read 61 2 = bytes16 F (htons F m.stepsRemoved)
  timeSource : buf.read 63 1 = [m.timeSource]
  tlvType : buf.read 64 2 = bytes16 F (htons F 0x8)
  tlvLength : buf.read 66 2 = bytes16 F (htons F (UInt16.ofNat m.pathTrace.length * 8))
  trace : buf.read 68 (8 * m.pathTrace.length) = octets m.pathTrace

theorem carries_sendPort (m : PTPMessageAnnounce) : Carries F (m.sendPort F) m := by
  unfold sendPort toByteString PTPMessageCommon.buildCommonHeader
  rw [storeIdentities_eq]
  constructor
  case trace => exact Mem.read_store _ _ _ (length_octets _)
  all_goals
    simp (disch := first | simp | omega) only [Mem.read_store_of_disjoint, Mem.read_store]
  -- what is left mentions the message as sent, which only differs in its length
  all_goals rfl

/-- A buffer that holds the payload carries the message too. -/
theorem Carries.congr {buf' : Mem} (h : Carries F buf m)
    (hagree : Mem.AgreeBelow m.payloadLength buf buf') : Carries F buf' m := by
  rw [payloadLength_eq] at hagree
  have hread (a w : ℕ) (hle : a + w ≤ 68 + 8 * m.pathTrace.length) :
      buf'.read a w = buf.read a w := (hagree.read hle).symm
  constructor
  case trace => rw [hread _ _ le_rfl, h.trace]
  all_goals rw [hread _ _ (by omega)]
  exacts [h.first, h.sourceClock, h.sourcePort, h.sequenceId, h.currentUtcOffset, h.priority1,
    h.clockQuality, h.priority2, h.grandmaster, h.stepsRemoved, h.timeSource, h.tlvType, h.tlvLength]

/-! ### Decoding the payload -/

variable (F) in
/-- What the payload of `m` in the buffer `buf` is decoded to: `m`, but with the fields of its common
header replaced by what lies at offset 66. -/
def received (buf : Mem) (m : PTPMessageAnnounce) : PTPMessageAnnounce :=
  { m with
    toPTPMessageCommon :=
      .ofMem F buf 66 m.sourcePortIdentity m.sequenceId .zero }

section Decode

variable (h : Carries F buf m)

include h

theorem hasPathTrace_of_carries : hasPathTrace F buf m.payloadLength := by
  have htype : htons F (load16 F buf 64) = 0x8 := htons_load16_of_read h.tlvType
  rw [hasPathTrace, htype, PTPMessageAnnounce.tlvLength, payloadLength_eq, Bool.and_eq_true]
  exact ⟨decide_eq_true (by omega), rfl⟩

/-- The path trace is parsed as it was; the bound on the size does not interfere. -/
theorem parseClockIdentity_of_carries (hfits : m.payloadLength ≤ 256) :
    parseClockIdentity F buf 66 (PTPMessageAnnounce.tlvLength m.payloadLength - 2).toNat =
      m.pathTrace := by
  rw [payloadLength_eq] at hfits ⊢
  have hids : m.pathTrace.length ≤ 8191 := by omega
  refine parseClockIdentity_of_read hids ?_ ?_
  · rw [PTPMessageAnnounce.tlvLength]
    omega
  · rw [Mem.read_add, h.tlvLength, h.trace, bytes16_htons, toNat_lengthField hids]

theorem ofMem_of_carries (hfits : m.payloadLength ≤ 256) (common : PTPMessageCommon) :
    PTPMessageAnnounce.ofMem F buf m.payloadLength common =
      { m with toPTPMessageCommon := common } := by
  have hquality := h.clockQuality
  rw [Mem.read_succ, Mem.read_succ] at hquality
  obtain ⟨hclass, hquality⟩ := List.cons.inj hquality
  obtain ⟨haccuracy, hvariance⟩ := List.cons.inj hquality
  rw [PTPMessageAnnounce.ofMem, if_pos (hasPathTrace_of_carries h), parseClockIdentity_of_carries h hfits,
    htons_load16_of_read h.currentUtcOffset, Mem.eq_of_read_one h.priority1, hclass, haccuracy,
    htons_load16_of_read hvariance, Mem.eq_of_read_one h.priority2,
    ClockIdentity.ofMem_eq_of_read h.grandmaster, htons_load16_of_read h.stepsRemoved,
    Mem.eq_of_read_one h.timeSource]

/-- **What a payload is decoded to.** -/
theorem buildPTPMessage_of_carries (hfits : m.payloadLength ≤ 256) (rx : Option Timestamp) :
    buildPTPMessage F buf m.payloadLength rx = some (.announce (received F buf m)) := by
  have hfirst : buf 0 = 0x1B := Mem.eq_of_read_one h.first
  have haccept : acceptHeader (buf 0) rx = some (.announce, .zero) := by
    rw [hfirst]
    rfl
  have hsource : PortIdentity.ofMem F buf 20 28 = m.sourcePortIdentity :=
    PortIdentity.ofMem_eq_of_read h.sourceClock h.sourcePort
  rw [buildPTPMessage_eq haccept]
  simp only [parseBody, Option.map_some, if_pos (hasPathTrace_of_carries h)]
  rw [ofMem_of_carries h hfits, hsource, htons_load16_of_read h.sequenceId]
  rfl

end Decode

/-! ### The round trip -/

/-- The fields in which two Announce messages should agree after a round trip: all but the control
field and the time of reception. -/
structure SameFields (m m' : PTPMessageAnnounce) : Prop where
  versionPTP : m'.versionPTP = m.versionPTP
  messageLength : m'.messageLength = m.messageLength
  domainNumber : m'.domainNumber = m.domainNumber
  flags : m'.flags = m.flags
  correctionField : m'.correctionField = m.correctionField
  logMeanMessageInterval : m'.logMeanMessageInterval = m.logMeanMessageInterval
  sourcePortIdentity : m'.sourcePortIdentity = m.sourcePortIdentity
  sequenceId : m'.sequenceId = m.sequenceId
  currentUtcOffset : m'.currentUtcOffset = m.currentUtcOffset
  grandmasterPriority1 : m'.grandmasterPriority1 = m.grandmasterPriority1
  grandmasterPriority2 : m'.grandmasterPriority2 = m.grandmasterPriority2
  grandmasterClockQuality : m'.grandmasterClockQuality = m.grandmasterClockQuality
  grandmasterIdentity : m'.grandmasterIdentity = m.grandmasterIdentity
  stepsRemoved : m'.stepsRemoved = m.stepsRemoved
  timeSource : m'.timeSource = m.timeSource
  pathTrace : m'.pathTrace = m.pathTrace

variable (F) in
/-- Whatever follows the payload of `m` in the receive buffer, the payload is decoded to `m` as it was
sent. -/
def RoundTrips (m : PTPMessageAnnounce) : Prop :=
  ∀ buf rx, Mem.AgreeBelow m.payloadLength (m.sendPort F) buf →
    ∃ m', buildPTPMessage F buf m.payloadLength rx = some (.announce m') ∧ SameFields m.sent m'

/-- The header of `m` is spelled out, from its second octet on, by the low octet of the length of its
own path trace TLV and the identities in it. -/
structure HeaderInTrace (m : PTPMessageAnnounce) : Prop where
  four_le : 4 ≤ m.pathTrace.length
  versionPTP : m.versionPTP = UInt8.ofNat (8 * m.pathTrace.length)
  messageLength : UInt16.ofNat m.payloadLength =
    UInt16.ofNat (valueBE ((octets m.pathTrace).take 2))
  domainNumber : m.domainNumber = (octets m.pathTrace).getD 2 0
  flags : m.flags = ((octets m.pathTrace).getD 4 0, (octets m.pathTrace).getD 5 0)
  correctionField : m.correctionField =
    (UInt64.ofNat (valueBE (((octets m.pathTrace).drop 6).take 8))).toInt64
  logMeanMessageInterval : m.logMeanMessageInterval = ((octets m.pathTrace).getD 31 0).toInt8

/-- The message decoded from a payload is the one sent exactly if six fields of the header are. -/
theorem sameFields_received_iff (buf : Mem) (m : PTPMessageAnnounce) :
    SameFields m.sent (received F buf m) ↔
      m.versionPTP = buf 67 ∧
      UInt16.ofNat m.payloadLength = UInt16.ofNat (valueBE (buf.read 68 2)) ∧
      m.domainNumber = buf 70 ∧ m.flags = (buf 72, buf 73) ∧
      m.correctionField = (UInt64.ofNat (valueBE (buf.read 74 8))).toInt64 ∧
      m.logMeanMessageInterval = (buf 99).toInt8 := by
  rw [← htons_load16 (F := F), ← htonll_load64 (F := F)]
  constructor
  · intro h
    exact ⟨h.versionPTP.symm, h.messageLength.symm, h.domainNumber.symm, h.flags.symm,
      h.correctionField.symm, h.logMeanMessageInterval.symm⟩
  · rintro ⟨hversion, hlength, hdomain, hflags, hcorrection, hinterval⟩
    exact ⟨hversion.symm, hlength.symm, hdomain.symm, hflags.symm, hcorrection.symm,
      hinterval.symm, rfl, rfl, rfl, rfl, rfl, rfl, rfl, rfl, rfl, rfl⟩

/-- The low octet of the length field of the TLV. -/
theorem octet_of_carries (h : Carries F buf m) :
    buf 67 = UInt8.ofNat (8 * m.pathTrace.length) := by
  have hlow := Mem.eq_getD_of_read (h.tlvLength.trans (bytes16_htons _)) (i := 1) (by omega)
  rw [hlow, UInt16.toNat_mul, UInt16.toNat_ofNat']
  change UInt8.ofNat (m.pathTrace.length % 2 ^ 16 * 8 % 2 ^ 16) = _
  apply UInt8.toNat_inj.mp
  rw [UInt8.toNat_ofNat', UInt8.toNat_ofNat']
  omega

/-- With four identities or more, the octets from which the header is read all belong to the path
trace. -/
theorem sameFields_iff_headerInTrace (h : Carries F buf m) (hfour : 4 ≤ m.pathTrace.length) :
    SameFields m.sent (received F buf m) ↔ m.HeaderInTrace := by
  have hoctet (i : ℕ) (hi : i < 32) : buf (68 + i) = (octets m.pathTrace).getD i 0 :=
    Mem.eq_getD_of_read h.trace (by omega)
  have hlength : buf.read 68 2 = (octets m.pathTrace).take 2 :=
    Mem.read_eq_take_drop h.trace (i := 0) (by omega)
  have hcorrection : buf.read 74 8 = ((octets m.pathTrace).drop 6).take 8 :=
    Mem.read_eq_take_drop h.trace (i := 6) (by omega)
  rw [sameFields_received_iff, octet_of_carries h, hlength, hcorrection, hoctet 2 (by omega),
    hoctet 4 (by omega), hoctet 5 (by omega), hoctet 31 (by omega)]
  constructor
  · rintro ⟨hversion, hlength, hdomain, hflags, hcorrection, hinterval⟩
    exact ⟨hfour, hversion, hlength, hdomain, hflags, hcorrection, hinterval⟩
  · intro h
    exact ⟨h.versionPTP, h.messageLength, h.domainNumber, h.flags, h.correctionField,
      h.logMeanMessageInterval⟩

/-- **The Announce messages that survive a round trip.** A message that fits into a frame is decoded
from its own payload exactly if its header is spelled out by its path trace. (In particular its version
is then a multiple of eight.) -/
theorem roundTrips_iff (m : PTPMessageAnnounce) (hfits : m.payloadLength ≤ 256) :
    m.RoundTrips F ↔ m.HeaderInTrace := by
  constructor
  · intro hround
    have hsame (buf : Mem) (hagree : Mem.AgreeBelow m.payloadLength (m.sendPort F) buf) :
        SameFields m.sent (received F buf m) := by
      obtain ⟨m', hm', hsame⟩ := hround buf none hagree
      rw [buildPTPMessage_of_carries ((carries_sendPort m).congr hagree) hfits] at hm'
      rwa [← PTPMessage.announce.inj (Option.some.inj hm')] at hsame
    have hsent := hsame (m.sendPort F) fun _ _ => rfl
    rcases lt_or_ge m.pathTrace.length 4 with hlt | hfour
    · -- the interval is then read from behind the payload
      have hbeyond : m.payloadLength ≤ 99 := by
        rw [payloadLength_eq]
        omega
      have hflip := hsame ((m.sendPort F).flip 99) (Mem.flip_agreeBelow _ hbeyond)
      have hinterval : (m.sendPort F 99).toInt8 = ((m.sendPort F).flip 99 99).toInt8 :=
        hsent.logMeanMessageInterval.trans hflip.logMeanMessageInterval.symm
      exact absurd (congrArg Int8.toUInt8 hinterval) (Mem.flip_ne _ 99)
    · exact (sameFields_iff_headerInTrace (carries_sendPort m) hfour).mp hsent
  · intro hheader buf rx hagree
    have hcarries := (carries_sendPort (F := F) m).congr hagree
    exact ⟨received F buf m, buildPTPMessage_of_carries hcarries hfits rx,
      (sameFields_iff_headerInTrace hcarries hheader.four_le).mpr hheader⟩

/-- An Announce with the given version and path trace, and all other fields zero. -/
def blank (versionPTP : UInt8) (pathTrace : List ClockIdentity) : PTPMessageAnnounce where
  versionPTP := versionPTP
  messageLength := 0
  domainNumber := 0
  flags := (0, 0)
  correctionField := 0
  sourcePortIdentity := ⟨.zero, 0⟩
  sequenceId := 0
  control := 0
  logMeanMessageInterval := 0
  timestamp := .zero
  grandmasterIdentity := .zero
  grandmasterClockQuality := ⟨0, 0, 0⟩
  pathTrace := pathTrace
  currentUtcOffset := 0
  grandmasterPriority1 := 0
  grandmasterPriority2 := 0
  stepsRemoved := 0
  timeSource := 0

/-- Four identities, the first of which starts with the length of an Announce that has four. -/
def spellingTrace : List ClockIdentity :=
  [⟨fun i => if i = 1 then 100 else 0⟩, .zero, .zero, .zero]

/-- An Announce of version 32 that does survive. -/
theorem spellingTrace_roundTrips : (blank 32 spellingTrace).RoundTrips ℚ :=
  (roundTrips_iff (blank 32 spellingTrace) (by decide)).mpr
    ⟨by decide, by decide, by decide, by decide, by decide, by decide, by decide⟩

/-- **An ordinary Announce does not survive.** With one identity in its path trace, the version of a
gPTP message is received as 8. -/
theorem ordinaryAnnounce_not_roundTrips :
    (blank 2 [.zero]).pathTrace ≠ [] ∧ (blank 2 [.zero]).payloadLength ≤ 256 ∧
      ¬ (blank 2 [.zero]).RoundTrips ℚ := by
  refine ⟨by decide, by decide, ?_⟩
  intro hround
  have hcarries := carries_sendPort (F := ℚ) (blank 2 [.zero])
  obtain ⟨m', hm', hsame⟩ := hround _ none fun _ _ => rfl
  rw [buildPTPMessage_of_carries hcarries (by decide)] at hm'
  obtain rfl := PTPMessage.announce.inj (Option.some.inj hm')
  have hversion : (2 : UInt8) = 8 := hsame.versionPTP.symm.trans (octet_of_carries hcarries)
  exact absurd hversion (by decide)

end PTPMessageAnnounce

end Gptp
