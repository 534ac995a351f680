import Gptp.Message.AnnounceRoundTrip
import Gptp.Message.TlvRoundTrip
import Gptp.Port.Listen

/-!
# Messages on the wire

What one daemon hands to its network interface, another one receives as a frame. `PTPMessage.frame` is the
frame of a message and `PTPMessage.Arrives` says how much of the message the receiver gets: its type, its
source and sequence number, and the fields of its body that the protocol rests on. Lost on the way are
the control field, the time in a Sync, which is never converted back, the header of an Announce, and the
time base indicator of a Follow_Up; no decision of the receiver is based on any of these.

`PTPMessage.buildPTPMessage_frame` gives the decoder in closed form, without the octets, and
`PTPMessage.arrives` is what the results about segments use of it.
-/

namespace Gptp

open Framework

variable {F : Type} [Platform F]

/-! ### Frames -/

namespace PTPMessage

section Encode

variable (F)

/-- The octets `sendPort` puts into its buffer; `time` is what `IEEE1588Clock::getTime` returns, which a
Sync carries. -/
def payload (time : Timestamp) : PTPMessage → Mem
  | .sync m => m.sendPort F time
  | .followUp m => m.sendPort F
  | .pathDelayReq m => m.sendPort F
  | .pathDelayResp m => m.sendPort F
  | .pathDelayRespFollowUp m => m.sendPort F
  | .announce m => m.sendPort F
  | .signalling m => m.sendPort F

end Encode

/-- The number of octets `sendPort` emits. -/
def payloadLength : PTPMessage → ℕ
  | .sync _ => 34 + 10
  | .followUp _ => 34 + 10 + 32
  | .pathDelayReq _ | .pathDelayResp _ | .pathDelayRespFollowUp _ => 34 + 20
  | .announce m => m.payloadLength
  | .signalling _ => 34 + 10 + 16

variable (F) in
/-- The frame of a message: an Ethernet frame has at least 46 octets behind its header, and a shorter
payload is padded. -/
def frame (time : Timestamp) (m : PTPMessage) : Frame :=
  (m.payload F time).read 0 (max 46 m.payloadLength)

/-- The type in the header of a message. -/
def messageType : PTPMessage → MessageType
  | .sync _ => .sync
  | .followUp _ => .followup
  | .pathDelayReq _ => .pathDelayReq
  | .pathDelayResp _ => .pathDelayResp
  | .pathDelayRespFollowUp _ => .pathDelayFollowup
  | .announce _ => .announce
  | .signalling _ => .signalling

/-- The frame of the message fits into the receive buffer. -/
def Fits (m : PTPMessage) : Prop := m.payloadLength ≤ Frame.bufferSize

instance (m : PTPMessage) : Decidable m.Fits := inferInstanceAs (Decidable (_ ≤ _))

/-- Nothing of a frame that fits is cut off. -/
theorem received_frame {m : PTPMessage} (hfits : m.Fits) (time : Timestamp) :
    (m.frame F time).received = max 46 m.payloadLength := by
  have h46 : 46 ≤ Frame.bufferSize := by decide
  rw [Frame.received, frame, Mem.length_read]
  exact min_eq_left (max_le h46 hfits)

/-- The receive buffer holds the payload. -/
theorem agreeBelow_buffer {m : PTPMessage} (hfits : m.Fits) (time : Timestamp) (stack : Mem) :
    Mem.AgreeBelow m.payloadLength (m.payload F time) ((m.frame F time).buffer stack) := by
  intro i hi
  have hreceived : 0 + m.payloadLength ≤ (m.frame F time).received := by
    rw [received_frame hfits, Nat.zero_add]
    exact le_max_right _ _
  have hread := Frame.read_buffer hreceived stack
  have hframe : ((m.frame F time).drop 0).take m.payloadLength =
      (m.payload F time).read 0 m.payloadLength := by
    have hpart := Mem.read_eq_take_drop (m := m.payload F time) (a := 0) rfl
      (i := 0) (w := m.payloadLength) (n := max 46 m.payloadLength) (by omega)
    exact hpart.symm
  rw [hframe] at hread
  exact Mem.eq_of_read_eq hread.symm (Nat.zero_le i) (by omega)

end PTPMessage

/-! ### What arrives -/

/-- The fields of the header that the protocol rests on. -/
structure SameOrigin (m m' : PTPMessageCommon) : Prop where
  sourcePortIdentity : m'.sourcePortIdentity = m.sourcePortIdentity
  sequenceId : m'.sequenceId = m.sequenceId
  correctionField : m'.correctionField = m.correctionField

/-- How a message that was sent arrives at a receiver that obtains the timestamp `rx`. -/
inductive PTPMessage.Arrives (rx : Option Timestamp) : PTPMessage → PTPMessage → Prop
  | sync {m m' : PTPMessageSync} (horigin : SameOrigin m.toPTPMessageCommon m'.toPTPMessageCommon)
      (hrx : rx = some m'.timestamp) : Arrives rx (.sync m) (.sync m')
  | followUp {m m' : PTPMessageFollowUp}
      (horigin : SameOrigin m.toPTPMessageCommon m'.toPTPMessageCommon)
      (htime : SameTime m.preciseOriginTimestamp m'.preciseOriginTimestamp)
      (hrate : m'.tlv.cumulativeScaledRateOffset = m.tlv.cumulativeScaledRateOffset) :
      Arrives rx (.followUp m) (.followUp m')
  | pathDelayReq {m m' : PTPMessagePathDelayReq}
      (horigin : SameOrigin m.toPTPMessageCommon m'.toPTPMessageCommon)
      (hrx : rx = some m'.timestamp) : Arrives rx (.pathDelayReq m) (.pathDelayReq m')
  | pathDelayResp {m m' : PTPMessagePathDelayResp}
      (horigin : SameOrigin m.toPTPMessageCommon m'.toPTPMessageCommon)
      (hrx : rx = some m'.timestamp)
      (hrequester : m'.requestingPortIdentity = m.requestingPortIdentity)
      (htime : SameTime m.requestReceiptTimestamp m'.requestReceiptTimestamp) :
      Arrives rx (.pathDelayResp m) (.pathDelayResp m')
  | pathDelayRespFollowUp {m m' : PTPMessagePathDelayRespFollowUp}
      (horigin : SameOrigin m.toPTPMessageCommon m'.toPTPMessageCommon)
      (hrequester : m'.requestingPortIdentity = m.requestingPortIdentity)
      (htime : SameTime m.responseOriginTimestamp m'.responseOriginTimestamp) :
      Arrives rx (.pathDelayRespFollowUp m) (.pathDelayRespFollowUp m')
  /-- The body of an Announce arrives as it was. -/
  | announce {m : PTPMessageAnnounce} {common : PTPMessageCommon}
      (hsource : common.sourcePortIdentity = m.sourcePortIdentity)
      (hsequence : common.sequenceId = m.sequenceId) :
      Arrives rx (.announce m) (.announce { m with toPTPMessageCommon := common })
  | signalling {m m' : PTPMessageSignalling}
      (horigin : SameOrigin m.toPTPMessageCommon m'.toPTPMessageCommon) (htlv : m'.tlv = m.tlv) :
      Arrives rx (.signalling m) (.signalling m')

/-! ### Decoding a frame -/

/-- The sizes of the two checks that a padded frame passes too. -/
theorem Outgoing.parseBody_padded (o : Outgoing) (buf : Mem) :
    parseBody F buf (max 46 (o.payloadLength F)) o.messageType =
      parseBody F buf (o.payloadLength F) o.messageType := by
  cases o <;> rfl

variable (F) in
/-- What a message with a timestamp or a follow-up is decoded to. An event message needs a timestamp of its
reception. -/
def Outgoing.decoded (buf : Mem) (rx : Option Timestamp) (o : Outgoing) : Option PTPMessage :=
  (if o.messageType.code >>> 3 = 0 then rx else some .zero).map fun ts =>
    o.decodedBody F buf { o.header F with control := load32 F buf 32, timestamp := ts }

theorem Outgoing.rx_of_decoded (o : Outgoing) {buf : Mem} {rx : Option Timestamp} {m : PTPMessage}
    (hevent : o.messageType.code >>> 3 = 0) (h : o.decoded F buf rx = some m) :
    ∃ ts, rx = some ts ∧
      o.decodedBody F buf { o.header F with control := load32 F buf 32, timestamp := ts } = m := by
  rw [decoded, if_pos hevent] at h
  exact Option.map_eq_some_iff.mp h

theorem Outgoing.decode_padded (o : Outgoing) {buf : Mem} (rx : Option Timestamp)
    (hagree : Mem.AgreeBelow (o.payloadLength F) (o.payload F) buf) :
    buildPTPMessage F buf (max 46 (o.payloadLength F)) rx = o.decoded F buf rx := by
  have hheader := o.carriesHeader_payload.congr hagree (le_trans (by omega) o.le_payloadLength)
  have hbody := (o.parseBody_padded buf).trans (o.parseBody_payload hagree)
  have hfirst := Mem.eq_of_read_one hheader.first
  have haccept := acceptHeader_code o.messageType rx
  unfold decoded
  cases hts : (if o.messageType.code >>> 3 = 0 then rx else some .zero) with
  | none =>
    rw [hts, Option.map_none, ← hfirst] at haccept
    exact buildPTPMessage_eq_none haccept
  | some ts =>
    rw [hts, Option.map_some] at haccept
    exact hheader.decode haccept hbody

/-- The TLV of a Follow_Up comes back but for its time base indicator, which is sent in the wrong byte
order. -/
theorem PTPMessageFollowUp.tlv_of_agree (m : PTPMessageFollowUp) {buf : Mem}
    (hagree : Mem.AgreeBelow 76 (m.sendPort F) buf) :
    FollowUpTLV.ofMem F buf (34 + 10) = (m.sent F).tlv := by
  have hread : (m.sendPort F).read 44 32 = (m.sent F).tlv.toByteString F :=
    Mem.read_store _ _ _ (by simp [FollowUpTLV.toByteString])
  exact FollowUpTLV.ofMem_of_read ((hagree.read (by omega)).symm.trans hread)

variable (F) in
/-- What the frame of a message is decoded to, with the receive buffer in which it has arrived. -/
def PTPMessage.decoded (time : Timestamp) (buf : Mem) (rx : Option Timestamp) :
    PTPMessage → Option PTPMessage
  | .sync m => (Outgoing.sync time m).decoded F buf rx
  | .followUp m => (Outgoing.followUp m).decoded F buf rx
  | .pathDelayReq m => (Outgoing.pathDelayReq m).decoded F buf rx
  | .pathDelayResp m => (Outgoing.pathDelayResp m).decoded F buf rx
  | .pathDelayRespFollowUp m => (Outgoing.pathDelayRespFollowUp m).decoded F buf rx
  | .announce m => some (.announce (m.received F buf))
  | .signalling m => some (.signalling { m.sent with control := load32 F buf 32, timestamp := .zero })

/-- **What a frame is decoded to.** -/
theorem PTPMessage.buildPTPMessage_frame {m : PTPMessage} (hfits : m.Fits) (time : Timestamp)
    (stack : Mem) (rx : Option Timestamp) :
    buildPTPMessage F ((m.frame F time).buffer stack) (m.frame F time).received rx =
      m.decoded F time ((m.frame F time).buffer stack) rx := by
  have hagree := agreeBelow_buffer (F := F) hfits time stack
  rw [received_frame hfits]
  generalize (m.frame F time).buffer stack = buf at hagree ⊢
  cases m with
  | sync m => exact (Outgoing.sync time m).decode_padded rx hagree
  | followUp m => exact (Outgoing.followUp m).decode_padded rx hagree
  | pathDelayReq m => exact (Outgoing.pathDelayReq m).decode_padded rx hagree
  | pathDelayResp m => exact (Outgoing.pathDelayResp m).decode_padded rx hagree
  | pathDelayRespFollowUp m => exact (Outgoing.pathDelayRespFollowUp m).decode_padded rx hagree
  | announce m =>
    have hlength : max 46 m.payloadLength = m.payloadLength := by
      rw [PTPMessageAnnounce.payloadLength_eq]
      omega
    have hcarries := (PTPMessageAnnounce.carries_sendPort (F := F) m).congr hagree
    have hframe : m.payloadLength ≤ 256 := hfits.trans (by decide)
    change buildPTPMessage F buf (max 46 m.payloadLength) rx = _
    rw [hlength]
    exact PTPMessageAnnounce.buildPTPMessage_of_carries hcarries hframe rx
  | signalling m => exact m.buildPTPMessage_signalling _ rx hagree

/-- **What arrives.** Whatever the receive buffer held before, a message of another daemon arrives with
everything the protocol rests on. -/
theorem PTPMessage.arrives {m m' : PTPMessage} (hfits : m.Fits) {time : Timestamp} {stack : Mem}
    {rx : Option Timestamp}
    (hdecode : buildPTPMessage F ((m.frame F time).buffer stack) (m.frame F time).received rx =
      some m') : m.Arrives rx m' := by
  rw [buildPTPMessage_frame hfits] at hdecode
  have hagree := agreeBelow_buffer (F := F) hfits time stack
  generalize (m.frame F time).buffer stack = buf at hagree hdecode
  cases m with
  | sync m =>
    have hevent : MessageType.code .sync >>> 3 = 0 := by decide
    obtain ⟨ts, hts, rfl⟩ := (Outgoing.sync time m).rx_of_decoded hevent hdecode
    exact .sync ⟨rfl, rfl, rfl⟩ hts
  | followUp m =>
    obtain ⟨ts, -, rfl⟩ := Option.map_eq_some_iff.mp hdecode
    refine .followUp ⟨rfl, rfl, rfl⟩ ⟨rfl, rfl, rfl⟩ ?_
    have htlv := congrArg FollowUpTLV.cumulativeScaledRateOffset (m.tlv_of_agree hagree)
    exact htlv
  | pathDelayReq m =>
    have hevent : MessageType.code .pathDelayReq >>> 3 = 0 := by decide
    obtain ⟨ts, hts, rfl⟩ := (Outgoing.pathDelayReq m).rx_of_decoded hevent hdecode
    exact .pathDelayReq ⟨rfl, rfl, rfl⟩ hts
  | pathDelayResp m =>
    have hevent : MessageType.code .pathDelayResp >>> 3 = 0 := by decide
    obtain ⟨ts, hts, rfl⟩ := (Outgoing.pathDelayResp m).rx_of_decoded hevent hdecode
    exact .pathDelayResp ⟨rfl, rfl, rfl⟩ hts rfl ⟨rfl, rfl, rfl⟩
  | pathDelayRespFollowUp m =>
    obtain ⟨ts, -, rfl⟩ := Option.map_eq_some_iff.mp hdecode
    exact .pathDelayRespFollowUp ⟨rfl, rfl, rfl⟩ rfl ⟨rfl, rfl, rfl⟩
  | announce m =>
    obtain rfl := Option.some.inj hdecode
    exact .announce rfl rfl
  | signalling m =>
    obtain rfl := Option.some.inj hdecode
    exact .signalling ⟨rfl, rfl, rfl⟩ rfl

end Gptp
