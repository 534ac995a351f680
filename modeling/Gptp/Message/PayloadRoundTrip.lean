import Gptp.Message.ParseBounds

/-!
# Event messages and their follow-ups sent and received

The payloads of Sync, Follow_Up and peer delay messages are decoded again by `buildPTPMessage`. The
encoders write the header first and the body after it. The control field is one octet of the header,
but both sides copy the four octets of an enumeration: the sender writes over the interval and into
the body, and the interval and the body are then written over what it left there; the receiver takes
all four octets for the control field.

* `Outgoing`: a message of one of the five types together with what its `sendPort` method needs.
* `CarriesHeader`, `CarriesTime`, `CarriesResponse`: the layout of a payload.
* `buildPTPMessage_payload`: what a payload is decoded to, for all five types.
* `payloads_decoded_as_sent`: Follow_Up, Pdelay_Resp and Pdelay_Resp_Follow_Up messages come back with
  their timestamps, identities and headers.
* `PTPMessageSync.timeDecoded_iff`: the time in a Sync comes back only if its octets allow it, as the decoder
  does not convert it.
* `Outgoing.keepsControl_iff`: the messages whose control field survives.
-/

namespace Gptp

open Framework

variable {F : Type} [Platform F] {buf buf' : Mem}

/-! ### The layout of a payload -/

section Layout

variable (F)

/-- The header of `m` at the beginning of a buffer: of the control field there is one octet. -/
structure CarriesHeader (messageType : MessageType) (m : PTPMessageCommon) (buf : Mem) : Prop where
  first : buf.read 0 1 = [messageType.code ||| 0x10]
  versionPTP : buf.read 1 1 = [m.versionPTP]
  messageLength : buf.read 2 2 = bytes16 F (htons F m.messageLength)
  domainNumber : buf.read 4 1 = [m.domainNumber]
  flags : buf.read 6 2 = [m.flags.1, m.flags.2]
  correctionField : buf.read 8 8 = bytes64 F (htonll F m.correctionField.toUInt64)
  sourceClock : buf.read 20 8 = m.sourcePortIdentity.clockId.toList
  sourcePort : buf.read 28 2 = bytes16 F (htons F m.sourcePortIdentity.portNumber)
  sequenceId : buf.read 30 2 = bytes16 F (htons F m.sequenceId)
  control : buf.read 32 1 = (bytes32 F m.control).take 1
  logMeanMessageInterval : buf.read 33 1 = [m.logMeanMessageInterval.toUInt8]

/-- A timestamp in network byte order, where the body starts. -/
structure CarriesTime (t : Timestamp) (buf : Mem) : Prop where
  secondsMs : buf.read 34 2 = bytes16 F (htons F t.secondsMs)
  secondsLs : buf.read 36 4 = bytes32 F (htonl F t.secondsLs)
  nanoseconds : buf.read 40 4 = bytes32 F (htonl F t.nanoseconds)

/-- The body of a response to a peer delay request. -/
structure CarriesResponse (id : PortIdentity) (t : Timestamp) (buf : Mem) : Prop
    extends CarriesTime F t buf where
  requestingClock : buf.read 44 8 = id.clockId.toList
  requestingPort : buf.read 52 2 = bytes16 F (htons F id.portNumber)

end Layout

theorem carriesHeader_buildCommonHeader (t : MessageType) (m : PTPMessageCommon) (buf : Mem) :
    CarriesHeader F t m (m.buildCommonHeader F t buf) := by
  unfold PTPMessageCommon.buildCommonHeader
  constructor
  case control =>
    -- the octet before the one that the interval is then written over
    rw [Mem.read_store_of_disjoint (by simp)]
    exact Mem.read_eq_take_drop (Mem.read_store _ 32 _ (length_bytes32 _)) (i := 0) (by omega)
  all_goals
    simp (disch := first | simp | omega) only [Mem.read_store_of_disjoint, Mem.read_store]

theorem carriesTime_store (t : Timestamp) (buf : Mem) : CarriesTime F t (t.store F 34 buf) := by
  unfold Timestamp.store
  constructor
  all_goals
    simp (disch := first | simp | omega) only [Mem.read_store_of_disjoint, Mem.read_store]

theorem carriesResponse_storeResponse (id : PortIdentity) (t : Timestamp) (buf : Mem) :
    CarriesResponse F id t (storeResponse F id t buf) := by
  refine ⟨carriesTime_store t _, ?_, ?_⟩
  all_goals
    unfold storeResponse Timestamp.store
    simp (disch := first | simp | omega) only [Mem.read_store_of_disjoint, Mem.read_store]

section Congr

variable {n : ℕ} (hagree : Mem.AgreeBelow n buf buf')

include hagree

theorem CarriesHeader.congr {t : MessageType} {m : PTPMessageCommon} (h : CarriesHeader F t m buf)
    (hn : 34 ≤ n) : CarriesHeader F t m buf' := by
  have hread (a w : ℕ) (hle : a + w ≤ 34) : buf'.read a w = buf.read a w :=
    (hagree.read (hle.trans hn)).symm
  constructor
  all_goals rw [hread _ _ (by omega)]
  exacts [h.first, h.versionPTP, h.messageLength, h.domainNumber, h.flags, h.correctionField,
    h.sourceClock, h.sourcePort, h.sequenceId, h.control, h.logMeanMessageInterval]

theorem CarriesTime.congr {t : Timestamp} (h : CarriesTime F t buf) (hn : 44 ≤ n) :
    CarriesTime F t buf' := by
  have hread (a w : ℕ) (hle : a + w ≤ 44) : buf'.read a w = buf.read a w :=
    (hagree.read (hle.trans hn)).symm
  constructor
  all_goals rw [hread _ _ (by omega)]
  exacts [h.secondsMs, h.secondsLs, h.nanoseconds]

theorem CarriesResponse.congr {id : PortIdentity} {t : Timestamp} (h : CarriesResponse F id t buf)
    (hn : 54 ≤ n) : CarriesResponse F id t buf' := by
  have hread (a w : ℕ) (hle : a + w ≤ 54) : buf'.read a w = buf.read a w :=
    (hagree.read (hle.trans hn)).symm
  refine ⟨h.toCarriesTime.congr hagree (by omega), ?_, ?_⟩
  · rw [hread _ _ (by omega), h.requestingClock]
  · rw [hread _ _ (by omega), h.requestingPort]

end Congr

namespace CarriesHeader

variable {t : MessageType} {m : PTPMessageCommon} (h : CarriesHeader F t m buf)

include h

/-- What is written behind the header leaves it alone. -/
theorem store {a : ℕ} (ha : 34 ≤ a) (bs : List UInt8) : CarriesHeader F t m (buf.store a bs) := by
  refine h.congr (n := 34) ?_ le_rfl
  intro i hi
  exact (Mem.store_of_lt (hi.trans_le ha)).symm

theorem storeTime (time : Timestamp) : CarriesHeader F t m (time.store F 34 buf) :=
  ((h.store (by omega) _).store (by omega) _).store (by omega) _

theorem storeResponse (id : PortIdentity) (time : Timestamp) :
    CarriesHeader F t m (Gptp.storeResponse F id time buf) :=
  ((h.store (by omega) _).store (by omega) _).storeTime time

end CarriesHeader

/-! ### Decoding the parts -/

/-- The first octet of a header is accepted, with the time of reception for an event message. -/
theorem acceptHeader_code (t : MessageType) (rx : Option Timestamp) :
    acceptHeader (t.code ||| 0x10) rx =
      (if t.code >>> 3 = 0 then rx else some .zero).map (t, ·) := by
  have hlower : (t.code ||| 0x10) &&& 0xF = t.code := by cases t <;> decide
  have hupper : ((t.code ||| 0x10) >>> 4) &&& 0xF = 1 := by cases t <;> decide
  have htype : MessageType.ofNat? t.code.toNat = some t := by cases t <;> rfl
  simp only [acceptHeader, hlower, hupper, htype]
  split
  · cases rx <;> rfl
  · rfl

/-- A decoded timestamp is of no version. -/
theorem CarriesTime.ofMem {t : Timestamp} (h : CarriesTime F t buf) :
    Timestamp.ofMem F buf 34 = { t with version := Timestamp.invalidVersion } := by
  rw [Timestamp.ofMem, htons_load16_of_read h.secondsMs, htonl_load32_of_read h.secondsLs,
    htonl_load32_of_read h.nanoseconds]
  rfl

theorem CarriesResponse.identity {id : PortIdentity} {t : Timestamp}
    (h : CarriesResponse F id t buf) : PortIdentity.ofMem F buf (34 + 10) (34 + 18) = id :=
  PortIdentity.ofMem_eq_of_read h.requestingClock h.requestingPort

namespace CarriesHeader

variable {t : MessageType} {m : PTPMessageCommon} (h : CarriesHeader F t m buf)

include h

/-- The header comes back but for the control field, of which four octets are read. -/
theorem ofMem (ts : Timestamp) :
    PTPMessageCommon.ofMem F buf 0 (.ofMem F buf 20 28) (htons F (load16 F buf 30)) ts =
      { m with control := load32 F buf 32, timestamp := ts } := by
  obtain ⟨hflag, hflag'⟩ := List.cons.inj h.flags
  have hsource : PortIdentity.ofMem F buf 20 28 = m.sourcePortIdentity :=
    PortIdentity.ofMem_eq_of_read h.sourceClock h.sourcePort
  have hcorrection : (htonll F (load64 F buf 8)).toInt64 = m.correctionField := by
    rw [htonll_load64_of_read h.correctionField]
    rfl
  have hinterval : (buf 33).toInt8 = m.logMeanMessageInterval := by
    rw [Mem.eq_of_read_one h.logMeanMessageInterval]
    rfl
  rw [PTPMessageCommon.ofMem, hsource, htons_load16_of_read h.sequenceId]
  simp only [Nat.zero_add]
  rw [Mem.eq_of_read_one h.versionPTP, htons_load16_of_read h.messageLength,
    Mem.eq_of_read_one h.domainNumber, Mem.eq_of_read_one hflag', hcorrection, hinterval]
  congr 1
  exact Prod.ext hflag rfl

/-- A buffer with a header is decoded to the body, if that is accepted, with this header. -/
theorem decode {size : ℕ} {rx : Option Timestamp} {ts : Timestamp}
    {message : PTPMessageCommon → PTPMessage}
    (haccept : acceptHeader (t.code ||| 0x10) rx = some (t, ts))
    (hbody : parseBody F buf size t = some (message, 0)) :
    buildPTPMessage F buf size rx =
      some (message { m with control := load32 F buf 32, timestamp := ts }) := by
  rw [← Mem.eq_of_read_one h.first] at haccept
  rw [buildPTPMessage_eq haccept, hbody, Option.map_some]
  exact congrArg (some ∘ message) (h.ofMem ts)

end CarriesHeader

/-! ### The five types -/

/-- A message that is sent; a Sync with the time that `sendPort` reads from the clock. -/
inductive Outgoing where
  | sync (time : Timestamp) (m : PTPMessageSync)
  | followUp (m : PTPMessageFollowUp)
  | pathDelayReq (m : PTPMessagePathDelayReq)
  | pathDelayResp (m : PTPMessagePathDelayResp)
  | pathDelayRespFollowUp (m : PTPMessagePathDelayRespFollowUp)

/-- The common header of a message. -/
def PTPMessage.common : PTPMessage → PTPMessageCommon
  | .sync m => m.toPTPMessageCommon
  | .followUp m => m.toPTPMessageCommon
  | .pathDelayReq m => m.toPTPMessageCommon
  | .pathDelayResp m => m.toPTPMessageCommon
  | .pathDelayRespFollowUp m => m.toPTPMessageCommon
  | .announce m => m.toPTPMessageCommon
  | .signalling m => m.toPTPMessageCommon

namespace Outgoing

def messageType : Outgoing → MessageType
  | .sync _ _ => .sync
  | .followUp _ => .followup
  | .pathDelayReq _ => .pathDelayReq
  | .pathDelayResp _ => .pathDelayResp
  | .pathDelayRespFollowUp _ => .pathDelayFollowup

/-- The message needs a timestamp of its reception. -/
def IsEvent : Outgoing → Prop
  | .sync _ _ | .pathDelayReq _ | .pathDelayResp _ => True
  | .followUp _ | .pathDelayRespFollowUp _ => False

/-- The first word of the body, the upper half of the seconds; a request has no body. -/
def secondsMs : Outgoing → Option UInt16
  | .sync time _ => some time.secondsMs
  | .followUp m => some m.preciseOriginTimestamp.secondsMs
  | .pathDelayReq _ => none
  | .pathDelayResp m => some m.requestReceiptTimestamp.secondsMs
  | .pathDelayRespFollowUp m => some m.responseOriginTimestamp.secondsMs

section Payload

variable (F)

/-- The header as it is sent. -/
def header : Outgoing → PTPMessageCommon
  | .sync time m => (m.sent time).toPTPMessageCommon
  | .followUp m => (m.sent F).toPTPMessageCommon
  | .pathDelayReq m => m.sent.toPTPMessageCommon
  | .pathDelayResp m => m.sent.toPTPMessageCommon
  | .pathDelayRespFollowUp m => m.sent.toPTPMessageCommon

/-- The octets `sendPort` emits. -/
def payload : Outgoing → Mem
  | .sync time m => m.sendPort F time
  | .followUp m => m.sendPort F
  | .pathDelayReq m => m.sendPort F
  | .pathDelayResp m => m.sendPort F
  | .pathDelayRespFollowUp m => m.sendPort F

/-- The number of octets `sendPort` emits. -/
def payloadLength (o : Outgoing) : ℕ := (o.header F).messageLength.toNat

/-- The receive buffer starts with the payload, and there is a timestamp if one is needed. -/
def Received (o : Outgoing) (buf : Mem) (rx : Option Timestamp) : Prop :=
  Mem.AgreeBelow (o.payloadLength F) (o.payload F) buf ∧ (o.IsEvent → rx.isSome)

/-- What the body of a message is decoded to. The time in a Sync is still in network byte order. -/
def decodedBody (buf : Mem) : Outgoing → PTPMessageCommon → PTPMessage
  | .sync time _, common =>
    .sync ⟨common,
      { secondsMs := htons F time.secondsMs
        secondsLs := htonl F time.secondsLs
        nanoseconds := htonl F time.nanoseconds }⟩
  | .followUp m, common =>
    .followUp ⟨common, { m.preciseOriginTimestamp with version := Timestamp.invalidVersion },
      FollowUpTLV.ofMem F buf (34 + 10)⟩
  | .pathDelayReq _, common => .pathDelayReq ⟨common⟩
  | .pathDelayResp m, common =>
    .pathDelayResp ⟨common, m.requestingPortIdentity,
      { m.requestReceiptTimestamp with version := Timestamp.invalidVersion }⟩
  | .pathDelayRespFollowUp m, common =>
    .pathDelayRespFollowUp ⟨common, m.requestingPortIdentity,
      { m.responseOriginTimestamp with version := Timestamp.invalidVersion }⟩

end Payload

/-! ### Payloads hold their messages -/

theorem isEvent_of_code (o : Outgoing) (h : o.messageType.code >>> 3 = 0) : o.IsEvent := by
  cases o with
  | sync | pathDelayReq | pathDelayResp => trivial
  | followUp => exact absurd h (show MessageType.followup.code >>> 3 ≠ 0 by decide)
  | pathDelayRespFollowUp =>
    exact absurd h (show MessageType.pathDelayFollowup.code >>> 3 ≠ 0 by decide)

theorem le_payloadLength (o : Outgoing) : 44 ≤ o.payloadLength F := by
  cases o with
  | sync => exact le_rfl
  | followUp => exact (show 44 ≤ 76 by omega)
  | pathDelayReq | pathDelayResp | pathDelayRespFollowUp => exact (show 44 ≤ 54 by omega)

theorem carriesHeader_payload (o : Outgoing) :
    CarriesHeader F o.messageType (o.header F) (o.payload F) := by
  have hheader (t : MessageType) (m : PTPMessageCommon) :=
    carriesHeader_buildCommonHeader (F := F) t m fun _ => 0
  cases o with
  | sync time m => exact (hheader _ _).storeTime time
  | followUp m => exact ((hheader _ _).storeTime m.preciseOriginTimestamp).store (by omega) _
  | pathDelayReq m => exact hheader _ _
  | pathDelayResp m => exact (hheader _ _).storeResponse _ _
  | pathDelayRespFollowUp m => exact (hheader _ _).storeResponse _ _

/-- The time in a Follow_Up is written before the TLV behind it. -/
theorem carriesTime_followUp (m : PTPMessageFollowUp) :
    CarriesTime F m.preciseOriginTimestamp (m.sendPort F) := by
  have htime := carriesTime_store (F := F) m.preciseOriginTimestamp
    ((m.sent F).toPTPMessageCommon.buildCommonHeader F .followup fun _ => 0)
  refine htime.congr (n := 44) ?_ le_rfl
  intro i hi
  exact (Mem.store_of_lt hi).symm

/-- The body of a received payload is accepted, and its fields are converted except in a Sync. -/
theorem parseBody_payload (o : Outgoing)
    (hagree : Mem.AgreeBelow (o.payloadLength F) (o.payload F) buf) :
    parseBody F buf (o.payloadLength F) o.messageType = some (o.decodedBody F buf, 0) := by
  -- the length checks are passed; what is left is to read the fields where they were written
  cases o with
  | sync time m =>
    have htime : CarriesTime F time buf := (carriesTime_store time _).congr hagree le_rfl
    have hfields : parseBody F buf 44 .sync = some (fun common => .sync ⟨common,
        { secondsMs := load16 F buf 34
          secondsLs := load32 F buf 36
          nanoseconds := load32 F buf 40 }⟩, 0) := rfl
    rw [load16_of_read htime.secondsMs, load32_of_read htime.secondsLs,
      load32_of_read htime.nanoseconds] at hfields
    exact hfields
  | followUp m =>
    have htime := ((carriesTime_followUp m).congr hagree (show 44 ≤ 76 by omega)).ofMem
    have hfields : parseBody F buf 76 .followup = some (fun common => .followUp ⟨common,
        Timestamp.ofMem F buf 34, FollowUpTLV.ofMem F buf (34 + 10)⟩, 0) := rfl
    rw [htime] at hfields
    exact hfields
  | pathDelayReq m => rfl
  | pathDelayResp m =>
    have hresponse : CarriesResponse F m.requestingPortIdentity m.requestReceiptTimestamp buf :=
      (carriesResponse_storeResponse _ _ _).congr hagree le_rfl
    have hfields : parseBody F buf 54 .pathDelayResp = some (fun common => .pathDelayResp ⟨common,
        .ofMem F buf (34 + 10) (34 + 18), .ofMem F buf 34⟩, 0) := rfl
    rw [hresponse.identity, hresponse.toCarriesTime.ofMem] at hfields
    exact hfields
  | pathDelayRespFollowUp m =>
    have hresponse : CarriesResponse F m.requestingPortIdentity m.responseOriginTimestamp buf :=
      (carriesResponse_storeResponse _ _ _).congr hagree le_rfl
    have hfields : parseBody F buf 54 .pathDelayFollowup =
        some (fun common => .pathDelayRespFollowUp ⟨common,
          .ofMem F buf (34 + 10) (34 + 18), .ofMem F buf 34⟩, 0) := rfl
    rw [hresponse.identity, hresponse.toCarriesTime.ofMem] at hfields
    exact hfields

/-- The first octet is accepted if there is a timestamp for an event message. -/
theorem accept_payload (o : Outgoing) {rx : Option Timestamp} (hrx : o.IsEvent → rx.isSome) :
    ∃ ts, acceptHeader (o.messageType.code ||| 0x10) rx = some (o.messageType, ts) := by
  rw [acceptHeader_code]
  by_cases hevent : o.messageType.code >>> 3 = 0
  · obtain ⟨ts, rfl⟩ := Option.isSome_iff_exists.mp (hrx (o.isEvent_of_code hevent))
    exact ⟨ts, by rw [if_pos hevent, Option.map_some]⟩
  · exact ⟨.zero, by rw [if_neg hevent, Option.map_some]⟩

/-- **What a payload is decoded to.** The header comes back but for the control field, which is read
from four octets. -/
theorem buildPTPMessage_payload (o : Outgoing) {rx : Option Timestamp} (h : o.Received F buf rx) :
    ∃ ts, buildPTPMessage F buf (o.payloadLength F) rx = some (o.decodedBody F buf
      { o.header F with control := load32 F buf 32, timestamp := ts }) := by
  obtain ⟨hagree, hrx⟩ := h
  obtain ⟨ts, haccept⟩ := o.accept_payload hrx
  have hheader := o.carriesHeader_payload.congr hagree (le_trans (by omega) o.le_payloadLength)
  exact ⟨ts, hheader.decode haccept (o.parseBody_payload hagree)⟩

theorem common_decodedBody (o : Outgoing) (buf : Mem) (common : PTPMessageCommon) :
    (o.decodedBody F buf common).common = common := by
  cases o <;> rfl

end Outgoing

/-! ### What comes back -/

/-- The fields of the header other than the control field and the time of reception. -/
structure SameHeader (m m' : PTPMessageCommon) : Prop where
  versionPTP : m'.versionPTP = m.versionPTP
  messageLength : m'.messageLength = m.messageLength
  domainNumber : m'.domainNumber = m.domainNumber
  flags : m'.flags = m.flags
  correctionField : m'.correctionField = m.correctionField
  sourcePortIdentity : m'.sourcePortIdentity = m.sourcePortIdentity
  sequenceId : m'.sequenceId = m.sequenceId
  logMeanMessageInterval : m'.logMeanMessageInterval = m.logMeanMessageInterval

/-- Two timestamps denote the same time, whatever timestamper they are from. -/
structure SameTime (t t' : Timestamp) : Prop where
  secondsMs : t'.secondsMs = t.secondsMs
  secondsLs : t'.secondsLs = t.secondsLs
  nanoseconds : t'.nanoseconds = t.nanoseconds

theorem sameHeader_decoded (m : PTPMessageCommon) (control : UInt32) (ts : Timestamp) :
    SameHeader m { m with control := control, timestamp := ts } :=
  ⟨rfl, rfl, rfl, rfl, rfl, rfl, rfl, rfl⟩

/-- **Follow_Up, Pdelay_Resp and Pdelay_Resp_Follow_Up messages survive.** On every host, whatever
follows the payload in the receive buffer, the decoder returns a message of the same type with the
timestamp, the requesting identity and the header that were sent. Of the three only a Pdelay_Resp
needs a timestamp of its reception. -/
theorem payloads_decoded_as_sent (buf : Mem) (rx : Option Timestamp) (arrival : Timestamp) :
    (∀ m : PTPMessageFollowUp, Mem.AgreeBelow (34 + 10 + 32) (m.sendPort F) buf →
      ∃ m', buildPTPMessage F buf (34 + 10 + 32) rx = some (.followUp m') ∧
        SameTime m.preciseOriginTimestamp m'.preciseOriginTimestamp ∧
        SameHeader (m.sent F).toPTPMessageCommon m'.toPTPMessageCommon) ∧
    (∀ m : PTPMessagePathDelayResp, Mem.AgreeBelow (34 + 20) (m.sendPort F) buf →
      ∃ m', buildPTPMessage F buf (34 + 20) (some arrival) = some (.pathDelayResp m') ∧
        SameTime m.requestReceiptTimestamp m'.requestReceiptTimestamp ∧
        m'.requestingPortIdentity = m.requestingPortIdentity ∧
        SameHeader m.sent.toPTPMessageCommon m'.toPTPMessageCommon) ∧
    (∀ m : PTPMessagePathDelayRespFollowUp, Mem.AgreeBelow (34 + 20) (m.sendPort F) buf →
      ∃ m', buildPTPMessage F buf (34 + 20) rx = some (.pathDelayRespFollowUp m') ∧
        SameTime m.responseOriginTimestamp m'.responseOriginTimestamp ∧
        m'.requestingPortIdentity = m.requestingPortIdentity ∧
        SameHeader m.sent.toPTPMessageCommon m'.toPTPMessageCommon) := by
  refine ⟨?_, ?_, ?_⟩
  · intro m hagree
    have hreceived : (Outgoing.followUp m).Received F buf rx := ⟨hagree, False.elim⟩
    obtain ⟨ts, hdecoded⟩ := Outgoing.buildPTPMessage_payload _ hreceived
    exact ⟨_, hdecoded, ⟨rfl, rfl, rfl⟩, sameHeader_decoded _ _ _⟩
  · intro m hagree
    have hreceived : (Outgoing.pathDelayResp m).Received F buf (some arrival) :=
      ⟨hagree, fun _ => rfl⟩
    obtain ⟨ts, hdecoded⟩ := Outgoing.buildPTPMessage_payload _ hreceived
    exact ⟨_, hdecoded, ⟨rfl, rfl, rfl⟩, rfl, sameHeader_decoded _ _ _⟩
  · intro m hagree
    have hreceived : (Outgoing.pathDelayRespFollowUp m).Received F buf rx := ⟨hagree, False.elim⟩
    obtain ⟨ts, hdecoded⟩ := Outgoing.buildPTPMessage_payload _ hreceived
    exact ⟨_, hdecoded, ⟨rfl, rfl, rfl⟩, rfl, sameHeader_decoded _ _ _⟩

/-! ### The time in a Sync -/

namespace PTPMessageSync

variable (F) in
/-- Whatever follows the payload of a Sync in the receive buffer, the time that was sent in it is
decoded. -/
def TimeDecoded (m : PTPMessageSync) (time rx : Timestamp) : Prop :=
  ∀ buf, Mem.AgreeBelow (34 + 10) (m.sendPort F time) buf →
    ∃ m', buildPTPMessage F buf (34 + 10) (some rx) = some (.sync m') ∧
      SameTime time m'.originTimestamp

/-- **The times that survive in a Sync.** The sender converts the three words of the time to network
byte order and the decoder does not convert them back, so that they have to be the same in both byte
orders. -/
theorem timeDecoded_iff (m : PTPMessageSync) (time rx : Timestamp) :
    m.TimeDecoded F time rx ↔
      htons F time.secondsMs = time.secondsMs ∧ htonl F time.secondsLs = time.secondsLs ∧
        htonl F time.nanoseconds = time.nanoseconds := by
  have hreceived (buf : Mem) (hagree : Mem.AgreeBelow (34 + 10) (m.sendPort F time) buf) :
      (Outgoing.sync time m).Received F buf (some rx) := ⟨hagree, fun _ => rfl⟩
  constructor
  · intro htime
    obtain ⟨m', hm', hsame⟩ := htime _ fun _ _ => rfl
    obtain ⟨ts, hm⟩ := Outgoing.buildPTPMessage_payload _ (hreceived _ fun _ _ => rfl)
    obtain rfl := PTPMessage.sync.inj (Option.some.inj (hm'.symm.trans hm))
    exact ⟨hsame.secondsMs, hsame.secondsLs, hsame.nanoseconds⟩
  · rintro ⟨hms, hls, hns⟩ buf hagree
    obtain ⟨ts, hm⟩ := Outgoing.buildPTPMessage_payload _ (hreceived buf hagree)
    exact ⟨_, hm, hms, hls, hns⟩

/-- A Sync of the default interval, an eighth of a second. -/
def plain : PTPMessageSync where
  versionPTP := 2
  messageLength := 0
  domainNumber := 0
  flags := (0, 0)
  correctionField := 0
  sourcePortIdentity := ⟨.zero, 1⟩
  sequenceId := 0
  control := 0
  logMeanMessageInterval := -3
  timestamp := .zero
  originTimestamp := .zero

/-- **One second is received as 194 days.** -/
theorem oneSecond_decoded_swapped :
    ∃ m', buildPTPMessage ℚ (plain.sendPort ℚ ⟨0, 1, 0, 1⟩) 44 (some .zero) = some (.sync m') ∧
      m'.originTimestamp.secondsLs = 0x01000000 ∧ ¬ SameTime ⟨0, 1, 0, 1⟩ m'.originTimestamp := by
  have hreceived : (Outgoing.sync ⟨0, 1, 0, 1⟩ plain).Received ℚ (plain.sendPort ℚ ⟨0, 1, 0, 1⟩)
      (some .zero) := ⟨fun _ _ => rfl, fun _ => rfl⟩
  have hswapped : htonl ℚ 1 = 0x01000000 := by decide
  obtain ⟨ts, hm⟩ := Outgoing.buildPTPMessage_payload _ hreceived
  refine ⟨_, hm, hswapped, ?_⟩
  intro hsame
  exact absurd (hswapped.symm.trans hsame.secondsLs) (by decide)

end PTPMessageSync

/-! ### The control field -/

/-- The last two of the four octets are written behind the header. -/
theorem read_body_buildCommonHeader (t : MessageType) (m : PTPMessageCommon) (buf : Mem) :
    (m.buildCommonHeader F t buf).read 34 2 = (bytes32 F m.control).drop 2 := by
  have hwindow (b : Mem) : (b.store 32 (bytes32 F m.control)).read (32 + 2) 2 =
      ((bytes32 F m.control).drop 2).take 2 :=
    Mem.read_eq_take_drop (Mem.read_store b 32 _ (length_bytes32 _)) (by omega)
  unfold PTPMessageCommon.buildCommonHeader
  rw [Mem.read_store_of_disjoint (by simp), hwindow, List.take_of_length_le (by simp)]

/-- Nothing is written behind these. -/
theorem buildCommonHeader_of_ge (t : MessageType) (m : PTPMessageCommon) (buf : Mem) {i : ℕ}
    (hi : 36 ≤ i) : m.buildCommonHeader F t buf i = buf i := by
  unfold PTPMessageCommon.buildCommonHeader
  simp (disch := simp; omega) only [Mem.store_of_ge]

namespace Outgoing

section Control

variable (F)

/-- The control field that is decoded from the payload is the one that was sent. -/
def KeepsControl (o : Outgoing) : Prop :=
  ∀ buf rx, o.Received F buf rx →
    ∃ message, buildPTPMessage F buf (o.payloadLength F) rx = some message ∧
      message.common.control = (o.header F).control

/-- Writing the header into the zeroed buffer changes nothing behind its 34 octets. -/
def HeaderInBounds (o : Outgoing) : Prop :=
  ∀ i, 34 ≤ i → (o.header F).buildCommonHeader F o.messageType (fun _ => 0) i = 0

/-- The first two octets behind the header. Nothing is written over those of a request. -/
def bodyStart (o : Outgoing) : List UInt8 :=
  match o.secondsMs with
  | some w => bytesBE 2 w.toNat
  | none => (bytes32 F (o.header F).control).drop 2

end Control

theorem read_bodyStart (o : Outgoing) : (o.payload F).read 34 2 = o.bodyStart F := by
  have htime {t : Timestamp} {buf : Mem} (h : CarriesTime F t buf) :
      buf.read 34 2 = bytesBE 2 t.secondsMs.toNat := h.secondsMs.trans (bytes16_htons _)
  cases o with
  | sync time m => exact htime (carriesTime_store time _)
  | followUp m => exact htime (carriesTime_followUp m)
  | pathDelayReq m =>
    -- no body is written over the last octets of the control field
    exact read_body_buildCommonHeader _ _ _
  | pathDelayResp m => exact htime (carriesResponse_storeResponse _ _ _).toCarriesTime
  | pathDelayRespFollowUp m => exact htime (carriesResponse_storeResponse _ _ _).toCarriesTime

/-- The four octets from which the control field is decoded. -/
theorem read_control_payload (o : Outgoing) : (o.payload F).read 32 4 =
    (bytes32 F (o.header F).control).take 1 ++
      (o.header F).logMeanMessageInterval.toUInt8 :: o.bodyStart F := by
  have hheader := o.carriesHeader_payload (F := F)
  calc (o.payload F).read 32 4
      = (o.payload F).read 32 1 ++ ((o.payload F).read 33 1 ++ (o.payload F).read 34 2) := by
        rw [← Mem.read_add _ 33 1 2, ← Mem.read_add _ 32 1 3]
    _ = _ := by rw [hheader.control, hheader.logMeanMessageInterval, o.read_bodyStart]; rfl

/-- The control field survives if the three octets behind its first are what is written over them. -/
theorem keepsControl_iff_octets (o : Outgoing) : o.KeepsControl F ↔
    (bytes32 F (o.header F).control).drop 1 =
      (o.header F).logMeanMessageInterval.toUInt8 :: o.bodyStart F := by
  -- the first octet is the sender's in any case
  have hoctets (buf : Mem) (hread : buf.read 32 4 = (o.payload F).read 32 4) :
      load32 F buf 32 = (o.header F).control ↔ (bytes32 F (o.header F).control).drop 1 =
        (o.header F).logMeanMessageInterval.toUInt8 :: o.bodyStart F := by
    rw [load32_eq_iff, hread, read_control_payload, eq_comm]
    nth_rewrite 1 [← List.take_append_drop 1 (bytes32 F (o.header F).control)]
    exact List.append_right_inj _
  constructor
  · intro hkeeps
    have hreceived : o.Received F (o.payload F) (some .zero) := ⟨fun _ _ => rfl, fun _ => rfl⟩
    obtain ⟨message, hmessage, hcontrol⟩ := hkeeps _ _ hreceived
    obtain ⟨ts, hdecoded⟩ := o.buildPTPMessage_payload hreceived
    obtain rfl := Option.some.inj (hmessage.symm.trans hdecoded)
    rw [common_decodedBody] at hcontrol
    exact (hoctets _ rfl).mp hcontrol
  · intro hcontrol buf rx hreceived
    obtain ⟨ts, hdecoded⟩ := o.buildPTPMessage_payload hreceived
    refine ⟨_, hdecoded, ?_⟩
    rw [common_decodedBody]
    have hread := hreceived.1.read (a := 32) (w := 4) (le_trans (by omega) o.le_payloadLength)
    exact (hoctets buf hread.symm).mpr hcontrol

theorem headerInBounds_iff (o : Outgoing) :
    o.HeaderInBounds F ↔ (bytes32 F (o.header F).control).drop 2 = [0, 0] := by
  have hread := read_body_buildCommonHeader (F := F) o.messageType (o.header F) fun _ => 0
  rw [← hread]
  constructor
  · intro hbounds
    exact List.map_congr_left fun i _ => hbounds (34 + i) (Nat.le_add_right _ _)
  · intro hzero i hi
    have hzero' : _ = Mem.read (fun _ => 0) 34 2 := hzero
    rcases lt_or_ge i 36 with hlt | hge
    · exact Mem.eq_of_read_eq hzero' hi hlt
    · exact buildCommonHeader_of_ge _ _ _ hge

theorem bytesBE_two_eq_zero_iff (w : UInt16) : bytesBE 2 w.toNat = [0, 0] ↔ w = 0 := by
  constructor
  · intro h
    have hmod : w.toNat % 256 ^ 2 = w.toNat := Nat.mod_eq_of_lt w.toNat_lt
    have hvalue := congrArg valueBE h
    rw [valueBE_bytesBE, hmod] at hvalue
    exact UInt16.toNat_inj.mp hvalue
  · rintro rfl
    rfl

/-- **The messages whose control field survives.** It does, and the header stays within its 34 octets,
exactly if the octets of the control field behind its first are the interval and two zeros, and there
are no upper seconds in the body. (With the values the control field can have, the interval is then
zero.) -/
theorem keepsControl_iff (o : Outgoing) :
    (o.KeepsControl F ∧ o.HeaderInBounds F) ↔
      (bytes32 F (o.header F).control).drop 1 =
          [(o.header F).logMeanMessageInterval.toUInt8, 0, 0] ∧
        ∀ w ∈ o.secondsMs, w = 0 := by
  rw [keepsControl_iff_octets, headerInBounds_iff]
  constructor
  · rintro ⟨hcontrol, hbounds⟩
    have hbody : o.bodyStart F = [0, 0] := by
      rw [← hbounds, ← List.tail_drop, hcontrol, List.tail_cons]
    refine ⟨by rw [hcontrol, hbody], ?_⟩
    intro w hw
    rw [bodyStart, hw] at hbody
    exact (bytesBE_two_eq_zero_iff w).mp hbody
  · rintro ⟨hcontrol, hseconds⟩
    have hbounds : (bytes32 F (o.header F).control).drop 2 = [0, 0] := by
      rw [← List.tail_drop, hcontrol, List.tail_cons]
    refine ⟨?_, hbounds⟩
    have hbody : o.bodyStart F = [0, 0] := by
      unfold bodyStart
      cases hw : o.secondsMs with
      | none => exact hbounds
      | some w => exact (bytesBE_two_eq_zero_iff w).mpr (hseconds w hw)
    rw [hcontrol, hbody]

/-- **A Sync does not keep its control field.** The interval of an eighth of a second is received as
the second octet of the control field. -/
theorem interval_decoded_as_control :
    let o := Outgoing.sync .zero .plain
    (o.header ℚ).control = 0 ∧
      ∃ message, buildPTPMessage ℚ (o.payload ℚ) (o.payloadLength ℚ) (some .zero) = some message ∧
        message.common.control = 0xFD00 := by
  intro o
  have hreceived : o.Received ℚ (o.payload ℚ) (some .zero) := ⟨fun _ _ => rfl, fun _ => rfl⟩
  obtain ⟨ts, hm⟩ := o.buildPTPMessage_payload hreceived
  refine ⟨rfl, _, hm, ?_⟩
  rw [common_decodedBody]
  change load32 ℚ (o.payload ℚ) 32 = 0xFD00
  rw [load32_eq_iff, read_control_payload]
  decide

end Outgoing

end Gptp
