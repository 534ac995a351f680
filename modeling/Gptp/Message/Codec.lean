import Gptp.Message.Types

/-!
# The wire format

The decoder `buildPTPMessage` and the encoders, the `sendPort` methods, of all messages but the
Signalling message. A received frame is a memory together with its size: the decoder is handed a
pointer into a larger buffer, so what it reads past the size is defined too, only not by the sender.

The decoder reads the source identity and the sequence number first. After the checks of the first
octet it decodes the part of the message that depends on the type (`parseBody`), and last the rest of
the common header (`PTPMessageCommon.ofMem`). The buffer pointer used for the latter is moved by the
Announce branch: past the body of the Announce, and past the type of a path trace TLV.
-/

namespace Gptp

open Framework

/-- The number of a `MessageType` on the wire. -/
def MessageType.code : MessageType → UInt8
  | .sync => 0x0
  | .delayReq => 0x1
  | .pathDelayReq => 0x2
  | .pathDelayResp => 0x3
  | .followup => 0x8
  | .delayResp => 0x9
  | .pathDelayFollowup => 0xA
  | .announce => 0xB
  | .signalling => 0xC
  | .management => 0xD

variable (F : Type) [Platform F]

/-! ### Decoding -/

/-- `PortIdentity(uint8_t *, uint16_t *)` at the given offsets. -/
def PortIdentity.ofMem (buf : Mem) (clockId portNumber : ℕ) : PortIdentity where
  clockId := .ofMem buf clockId
  portNumber := htons F (load16 F buf portNumber)

variable {F} in
/-- An identity is recovered from its octets. -/
theorem PortIdentity.ofMem_eq_of_read {buf : Mem} {a p : ℕ} {id : PortIdentity}
    (hclock : buf.read a 8 = id.clockId.toList)
    (hport : buf.read p 2 = bytes16 F (htons F id.portNumber)) :
    PortIdentity.ofMem F buf a p = id := by
  rw [PortIdentity.ofMem, ClockIdentity.ofMem_eq_of_read hclock, htons_load16_of_read hport]

/-- A timestamp in network byte order. -/
def Timestamp.ofMem (buf : Mem) (a : ℕ) : Timestamp where
  secondsMs := htons F (load16 F buf a)
  secondsLs := htonl F (load32 F buf (a + 2))
  nanoseconds := htonl F (load32 F buf (a + 6))

/-- `memcpy` of a `FollowUpTLV`, 32 octets. -/
def FollowUpTLV.ofMem (buf : Mem) (a : ℕ) : FollowUpTLV where
  tlvType := load16 F buf a
  lengthField := load16 F buf (a + 2)
  organizationId := (buf (a + 4), buf (a + 5), buf (a + 6))
  organizationSubTypeMs := buf (a + 7)
  organizationSubTypeLs := load16 F buf (a + 8)
  cumulativeScaledRateOffset := (load32 F buf (a + 10)).toInt32
  gmTimeBaseIndicator := load16 F buf (a + 14)
  scaledLastGmPhaseChange := ⟨(load32 F buf (a + 16)).toInt32, load64 F buf (a + 20)⟩
  scaledLastGmFreqChange := (load32 F buf (a + 28)).toInt32

/-- `memcpy` of a `SignallingTLV`, 16 octets. -/
def SignallingTLV.ofMem (buf : Mem) (a : ℕ) : SignallingTLV where
  tlvType := load16 F buf a
  lengthField := load16 F buf (a + 2)
  organizationId := (buf (a + 4), buf (a + 5), buf (a + 6))
  organizationSubTypeMs := buf (a + 7)
  organizationSubTypeLs := load16 F buf (a + 8)
  linkDelayInterval := (buf (a + 10)).toInt8
  timeSyncInterval := (buf (a + 11)).toInt8
  announceInterval := (buf (a + 12)).toInt8
  flags := buf (a + 13)
  reserved := load16 F buf (a + 14)

namespace PathTraceTLV

/-- The number of identities `parseClockIdentity` reads: as many as the length field at `a` announces,
but not more than fit into `size - 2` octets. -/
def identityCount (buf : Mem) (a size : ℕ) : ℕ :=
  let length := (htons F (load16 F buf a)).toNat
  (if size - 2 < length then size - 2 else length) / 8

/-- `PathTraceTLV::parseClockIdentity`. -/
def parseClockIdentity (buf : Mem) (a size : ℕ) : List ClockIdentity :=
  (List.range (identityCount F buf a size)).map fun k => .ofMem buf (a + 2 + 8 * k)

end PathTraceTLV

namespace PTPMessageAnnounce

/-- `tlv_length`, as the source computes it. -/
def tlvLength (size : ℕ) : ℤ := size - 34 + 30

/-- The Announce is taken to have a path trace TLV. -/
def hasPathTrace (buf : Mem) (size : ℕ) : Bool :=
  tlvLength size > 4 && htons F (load16 F buf 64) == 0x8

/-- The Announce branch of `buildPTPMessage`; the body starts at `PTP_ANNOUNCE_OFFSET`, 34. -/
def ofMem (buf : Mem) (size : ℕ) (common : PTPMessageCommon) : PTPMessageAnnounce where
  toPTPMessageCommon := common
  currentUtcOffset := htons F (load16 F buf (34 + 10))
  grandmasterPriority1 := buf (34 + 13)
  grandmasterClockQuality :=
    ⟨buf (34 + 14), buf (34 + 15), htons F (load16 F buf (34 + 16))⟩
  grandmasterPriority2 := buf (34 + 18)
  grandmasterIdentity := .ofMem buf (34 + 19)
  stepsRemoved := htons F (load16 F buf (34 + 27))
  timeSource := buf (34 + 29)
  pathTrace :=
    if hasPathTrace F buf size then
      PathTraceTLV.parseClockIdentity F buf 66 (tlvLength size - 2).toNat
    else []

end PTPMessageAnnounce

/-- The common header at `base`. The source identity, the sequence number and the timestamp were
determined before. -/
def PTPMessageCommon.ofMem (buf : Mem) (base : ℕ) (sourcePortIdentity : PortIdentity)
    (sequenceId : UInt16) (timestamp : Timestamp) : PTPMessageCommon where
  versionPTP := buf (base + 1)
  messageLength := htons F (load16 F buf (base + 2))
  domainNumber := buf (base + 4)
  flags := (buf (base + 6), buf (base + 7))
  correctionField := (htonll F (load64 F buf (base + 8))).toInt64
  sourcePortIdentity := sourcePortIdentity
  sequenceId := sequenceId
  -- four octets: the enumeration is as wide as an `int`
  control := load32 F buf (base + 32)
  logMeanMessageInterval := (buf (base + 33)).toInt8
  timestamp := timestamp

/-- The `switch` of `buildPTPMessage`: the message, up to its common header, and where the buffer
pointer is left. -/
def parseBody (buf : Mem) (size : ℕ) : MessageType → Option ((PTPMessageCommon → PTPMessage) × ℕ)
  | .sync =>
    if size < 34 + 10 then none
    else
      -- not converted to host byte order
      let originTimestamp : Timestamp :=
        { secondsMs := load16 F buf 34
          secondsLs := load32 F buf (34 + 2)
          nanoseconds := load32 F buf (34 + 6) }
      some (fun common => .sync ⟨common, originTimestamp⟩, 0)
  | .followup =>
    if size < 34 + 10 + 32 then none
    else
      some (fun common =>
        .followUp ⟨common, .ofMem F buf 34, FollowUpTLV.ofMem F buf (34 + 10)⟩, 0)
  | .pathDelayReq =>
    if size < 34 + 20 ∧ size ≠ 46 then none
    else some (fun common => .pathDelayReq ⟨common⟩, 0)
  | .pathDelayResp =>
    if size < 34 + 20 then none
    else
      some (fun common =>
        .pathDelayResp ⟨common, .ofMem F buf (34 + 10) (34 + 18), .ofMem F buf 34⟩, 0)
  | .pathDelayFollowup =>
    -- the length check is commented out
    some (fun common =>
      .pathDelayRespFollowUp ⟨common, .ofMem F buf (34 + 10) (34 + 18), .ofMem F buf 34⟩, 0)
  | .announce =>
    let base := if PTPMessageAnnounce.hasPathTrace F buf size then 34 + 30 + 2 else 34 + 30
    some (fun common => .announce (.ofMem F buf size common), base)
  | .signalling =>
    some (fun common =>
      .signalling ⟨common, (buf 34).toInt8, SignallingTLV.ofMem F buf (34 + 10)⟩, 0)
  | .delayReq | .delayResp | .management => none

/-- The checks of the first octet: an event message needs an RX timestamp, `transportSpecific` must
be 1, and the type must be known. -/
def acceptHeader (first : UInt8) (rx : Option Timestamp) : Option (MessageType × Timestamp) := do
  let messageType := first &&& 0xF
  let transportSpecific := (first >>> 4) &&& 0xF
  let timestamp ← if messageType >>> 3 = 0 then rx else some Timestamp.zero
  if transportSpecific ≠ 1 then none
  let messageType ← MessageType.ofNat? messageType.toNat
  return (messageType, timestamp)

/-- `buildPTPMessage` for a frame of `size` octets; `rx` is the RX timestamp, if there is one. -/
def buildPTPMessage (buf : Mem) (size : ℕ) (rx : Option Timestamp) : Option PTPMessage := do
  let sourcePortIdentity := PortIdentity.ofMem F buf 20 28
  let sequenceId := htons F (load16 F buf 30)
  let (messageType, timestamp) ← acceptHeader (buf 0) rx
  let (message, base) ← parseBody F buf size messageType
  return message (.ofMem F buf base sourcePortIdentity sequenceId timestamp)

/-! ### Encoding -/

/-- `PTPMessageCommon::buildCommonHeader`. The control field is stored as a four-octet enumeration,
and the second of its octets is then overwritten. -/
def PTPMessageCommon.buildCommonHeader (messageType : MessageType) (m : PTPMessageCommon)
    (buf : Mem) : Mem :=
  buf.store 0 [messageType.code ||| 0x10]
    |>.store 1 [m.versionPTP]
    |>.store 2 (bytes16 F (htons F m.messageLength))
    |>.store 4 [m.domainNumber]
    |>.store 6 [m.flags.1, m.flags.2]
    |>.store 8 (bytes64 F (htonll F m.correctionField.toUInt64))
    |>.store 20 m.sourcePortIdentity.clockId.toList
    |>.store 28 (bytes16 F (htons F m.sourcePortIdentity.portNumber))
    |>.store 30 (bytes16 F (htons F m.sequenceId))
    |>.store 32 (bytes32 F m.control)
    |>.store 33 [m.logMeanMessageInterval.toUInt8]

/-- A timestamp copied to offset `a` in network byte order, as the encoders do it. -/
def Timestamp.store (t : Timestamp) (a : ℕ) (buf : Mem) : Mem :=
  buf.store a (bytes16 F (htons F t.secondsMs))
    |>.store (a + 2) (bytes32 F (htonl F t.secondsLs))
    |>.store (a + 6) (bytes32 F (htonl F t.nanoseconds))

namespace PTPMessageSync

/-- The message as `sendPort` leaves it: with its length, and with the time `getTime` returned. -/
def sent (time : Timestamp) (m : PTPMessageSync) : PTPMessageSync :=
  { m with messageLength := 34 + 10, originTimestamp := time }

/-- The payload `PTPMessageSync::sendPort` emits: `messageLength` octets of a zeroed buffer. -/
def sendPort (time : Timestamp) (m : PTPMessageSync) : Mem :=
  ((m.sent time).toPTPMessageCommon.buildCommonHeader F .sync fun _ => 0)
    |> time.store F 34

end PTPMessageSync

namespace PathTraceTLV

/-- `PathTraceTLV::length`. -/
def length (identityList : List ClockIdentity) : ℕ := 2 * 2 + 8 * identityList.length

/-- The loop of `toByteString`. -/
def storeIdentities : List ClockIdentity → ℕ → Mem → Mem
  | [], _, buf => buf
  | id :: ids, a, buf => storeIdentities ids (a + 8) (buf.store a id.toList)

/-- `PathTraceTLV::toByteString`. -/
def toByteString (identityList : List ClockIdentity) (a : ℕ) (buf : Mem) : Mem :=
  buf.store a (bytes16 F (htons F 0x8))
    |>.store (a + 2) (bytes16 F (htons F (UInt16.ofNat identityList.length * 8)))
    |> storeIdentities identityList (a + 4)

end PathTraceTLV

namespace PTPMessageAnnounce

/-- The message as `sendPort` leaves it: with its length filled in. -/
def sent (m : PTPMessageAnnounce) : PTPMessageAnnounce :=
  { m with messageLength := UInt16.ofNat (34 + 30 + PathTraceTLV.length m.pathTrace) }

/-- The payload `PTPMessageAnnounce::sendPort` emits: `messageLength` octets of a zeroed buffer. -/
def sendPort (m : PTPMessageAnnounce) : Mem :=
  (m.sent.toPTPMessageCommon.buildCommonHeader F .announce fun _ => 0)
    |>.store (34 + 10) (bytes16 F (htons F m.currentUtcOffset))
    |>.store (34 + 13) [m.grandmasterPriority1]
    |>.store (34 + 14) (m.grandmasterClockQuality.cqClass ::
        m.grandmasterClockQuality.clockAccuracy ::
        bytes16 F (htons F m.grandmasterClockQuality.offsetScaledLogVariance))
    |>.store (34 + 18) [m.grandmasterPriority2]
    |>.store (34 + 19) m.grandmasterIdentity.toList
    |>.store (34 + 27) (bytes16 F (htons F m.stepsRemoved))
    |>.store (34 + 29) [m.timeSource]
    |> PathTraceTLV.toByteString F m.pathTrace (34 + 30)

end PTPMessageAnnounce

/-- `FollowUpTLV::toByteString`: the octets of the TLV as it lies in memory. -/
def FollowUpTLV.toByteString (t : FollowUpTLV) : List UInt8 :=
  bytes16 F t.tlvType ++ bytes16 F t.lengthField ++
    [t.organizationId.1, t.organizationId.2.1, t.organizationId.2.2, t.organizationSubTypeMs] ++
    bytes16 F t.organizationSubTypeLs ++ bytes32 F t.cumulativeScaledRateOffset.toUInt32 ++
    bytes16 F t.gmTimeBaseIndicator ++ bytes32 F t.scaledLastGmPhaseChange.ms.toUInt32 ++
    bytes64 F t.scaledLastGmPhaseChange.ls ++ bytes32 F t.scaledLastGmFreqChange.toUInt32

namespace PTPMessageFollowUp

/-- The message as `buildMessage` leaves it: with its length filled in, and with the time base
indicator that `PLAT_htonl` returned, cut to the 16 bits of the field. -/
def sent (m : PTPMessageFollowUp) : PTPMessageFollowUp :=
  { m with
    messageLength := 34 + 10 + 32
    tlv.gmTimeBaseIndicator := (htonl F m.tlv.gmTimeBaseIndicator.toUInt32).toUInt16 }

/-- `PTPMessageFollowUp::buildMessage`. -/
def buildMessage (m : PTPMessageFollowUp) (buf : Mem) : Mem :=
  ((sent F m).toPTPMessageCommon.buildCommonHeader F .followup buf)
    |>.store 34 (bytes16 F (htons F m.preciseOriginTimestamp.secondsMs))
    |>.store (34 + 2) (bytes32 F (htonl F m.preciseOriginTimestamp.secondsLs))
    |>.store (34 + 6) (bytes32 F (htonl F m.preciseOriginTimestamp.nanoseconds))
    |>.store (34 + 10) ((sent F m).tlv.toByteString F)

/-- The payload `PTPMessageFollowUp::sendPort` emits: `messageLength` octets of a zeroed buffer. -/
def sendPort (m : PTPMessageFollowUp) : Mem := m.buildMessage F fun _ => 0

end PTPMessageFollowUp

namespace PTPMessagePathDelayReq

/-- The message as `sendPort` leaves it: with its length filled in. -/
def sent (m : PTPMessagePathDelayReq) : PTPMessagePathDelayReq :=
  { m with messageLength := 34 + 20 }

/-- The payload `PTPMessagePathDelayReq::sendPort` emits if requests are not halted: `messageLength`
octets of a zeroed buffer, in which only the header is written. -/
def sendPort (m : PTPMessagePathDelayReq) : Mem :=
  m.sent.toPTPMessageCommon.buildCommonHeader F .pathDelayReq fun _ => 0

end PTPMessagePathDelayReq

/-- The body that Pdelay_Resp and Pdelay_Resp_Follow_Up messages share: a timestamp and the identity
of the requester. -/
def storeResponse (requestingPortIdentity : PortIdentity) (timestamp : Timestamp) (buf : Mem) : Mem :=
  buf.store (34 + 10) requestingPortIdentity.clockId.toList
    |>.store (34 + 18) (bytes16 F (htons F requestingPortIdentity.portNumber))
    |> timestamp.store F 34

namespace PTPMessagePathDelayResp

/-- The message as `sendPort` leaves it: with its length filled in. -/
def sent (m : PTPMessagePathDelayResp) : PTPMessagePathDelayResp :=
  { m with messageLength := 34 + 20 }

/-- The payload `PTPMessagePathDelayResp::sendPort` emits: `messageLength` octets of a zeroed
buffer. -/
def sendPort (m : PTPMessagePathDelayResp) : Mem :=
  (m.sent.toPTPMessageCommon.buildCommonHeader F .pathDelayResp fun _ => 0)
    |> storeResponse F m.requestingPortIdentity m.requestReceiptTimestamp

end PTPMessagePathDelayResp

namespace PTPMessagePathDelayRespFollowUp

/-- The message as `sendPort` leaves it: with its length filled in. -/
def sent (m : PTPMessagePathDelayRespFollowUp) : PTPMessagePathDelayRespFollowUp :=
  { m with messageLength := 34 + 20 }

/-- The payload `PTPMessagePathDelayRespFollowUp::sendPort` emits: `messageLength` octets of a zeroed
buffer. -/
def sendPort (m : PTPMessagePathDelayRespFollowUp) : Mem :=
  (m.sent.toPTPMessageCommon.buildCommonHeader F .pathDelayFollowup fun _ => 0)
    |> storeResponse F m.requestingPortIdentity m.responseOriginTimestamp

end PTPMessagePathDelayRespFollowUp

end Gptp
