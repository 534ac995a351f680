import Gptp.Message.Platform

/-!
# Timestamps, identities and messages

The data types of `ieee1588.hpp` and `avbts_message.hpp`. Integer fields have the width of the
source; arithmetic on them wraps as it does there. A clock identity is its eight octets.

A message is one of the seven classes derived from `PTPMessageCommon`. The message type is not a
field: each constructor of `PTPMessage` determines it, so a value whose type disagrees with its
contents cannot be formed.
-/

namespace Gptp

open Framework

/-! ### Timestamps -/

/-- `Timestamp`: a 48-bit seconds count split into `secondsMs` and `secondsLs`, the nanoseconds, and
the version of the timestamper that produced it. -/
structure Timestamp where
  nanoseconds : UInt32
  secondsLs : UInt32
  secondsMs : UInt16
  version : UInt8 := 0xFF
  deriving DecidableEq, Repr

namespace Timestamp

/-- `INVALID_TIMESTAMP_VERSION`. -/
def invalidVersion : UInt8 := 0xFF

/-- `MAX_NANOSECONDS`. -/
def maxNanoseconds : UInt32 := 1000000000

/-- `Timestamp()` and `Timestamp(0, 0, 0)`. -/
def zero : Timestamp := ⟨0, 0, 0, invalidVersion⟩

/-- `INVALID_TIMESTAMP`. -/
def invalid : Timestamp := ⟨0xC0000000, 0, 0, invalidVersion⟩

/-- `PDELAY_PENDING_TIMESTAMP`. -/
def pdelayPending : Timestamp := ⟨0xC0000001, 0, 0, invalidVersion⟩

/-- `Timestamp::operator+`. -/
def add (t o : Timestamp) : Timestamp :=
  let ns := t.nanoseconds + o.nanoseconds
  let carryNs := ns < t.nanoseconds || maxNanoseconds ≤ ns
  let ls := t.secondsLs + o.secondsLs + if carryNs then 1 else 0
  let carryLs : Bool := ls < t.secondsLs
  { nanoseconds := ns - if carryNs then maxNanoseconds else 0
    secondsLs := ls
    secondsMs := t.secondsMs + o.secondsMs + if carryLs then 1 else 0
    version := if t.version = o.version then t.version else invalidVersion }

/-- `Timestamp::operator-`. -/
def sub (t o : Timestamp) : Timestamp :=
  let borrowNs : Bool := t.nanoseconds < o.nanoseconds
  let ns := (if borrowNs then maxNanoseconds else 0) + t.nanoseconds - o.nanoseconds
  let carry : Bool := maxNanoseconds < ns
  let borrowTotal : UInt32 := if borrowNs then 1 else 0
  let ls := (if carry then 1 else 0) + t.secondsLs
  let borrowLs := ls < borrowTotal || ls - borrowTotal < o.secondsLs
  -- the seconds words are subtracted in 32-bit arithmetic, `(uint32_t)-1` being all ones
  let ms : UInt32 := ((if carry then 1 else 0) + t.secondsMs : UInt16).toUInt32
  let oMs : UInt32 := o.secondsMs.toUInt32
  let borrowTotalMs := if borrowLs then borrowTotal + 1 else 0
  let borrowMs := ms < borrowTotalMs || ms - borrowTotalMs < oMs
  { nanoseconds := ns - if carry then maxNanoseconds else 0
    secondsLs :=
      if borrowLs then ls - o.secondsLs + 0xFFFFFFFF else ls - borrowTotal - o.secondsLs
    secondsMs := (if borrowMs then ms - oMs + 0xFFFFFFFF else ms - borrowTotalMs - oMs).toUInt16
    version := if t.version = o.version then t.version else invalidVersion }

/-- `TIMESTAMP_TO_NS`. -/
def toNs (t : Timestamp) : UInt64 :=
  ((t.secondsMs.toUInt64 <<< 32) + t.secondsLs.toUInt64) * 1000000000 + t.nanoseconds.toUInt64

/-- Reassembles the seconds and nanoseconds words, keeping the version. -/
def setSecondsNanos (t : Timestamp) (secs nanos : UInt64) : Timestamp :=
  { t with
    secondsMs := (secs >>> 32).toUInt16
    secondsLs := (secs &&& 0xFFFFFFFF).toUInt32
    nanoseconds := nanos.toUInt32 }

/-- `Timestamp::set64`. -/
def set64 (value : UInt64) (t : Timestamp) : Timestamp :=
  { t with
    nanoseconds := (value % 1000000000).toUInt32
    secondsLs := (value / 1000000000).toUInt32
    secondsMs := ((value / 1000000000) >>> 32).toUInt16 }

/-- The 64-bit seconds count. -/
def seconds (t : Timestamp) : UInt64 := t.secondsLs.toUInt64 ||| (t.secondsMs.toUInt64 <<< 32)

/-- `TIMESTAMP_SUB_NS`. -/
def subNs (t : Timestamp) (ns : UInt64) : Timestamp :=
  let secs := t.seconds - ns / 1000000000
  let rem := ns % 1000000000
  let nanos := t.nanoseconds.toUInt64
  if nanos < rem then t.setSecondsNanos (secs - 1) (nanos + 1000000000 - rem)
  else t.setSecondsNanos secs (nanos - rem)

/-- `TIMESTAMP_ADD_NS`. -/
def addNs (t : Timestamp) (ns : UInt64) : Timestamp :=
  let secs := t.seconds + ns / 1000000000
  let nanos := t.nanoseconds.toUInt64 + ns % 1000000000
  if 1000000000 < nanos then t.setSecondsNanos (secs + 1) (nanos - 1000000000)
  else t.setSecondsNanos secs nanos

end Timestamp

/-! ### Identities -/

/-- `ClockIdentity`: eight octets. -/
structure ClockIdentity where
  id : Fin 8 → UInt8

namespace ClockIdentity

instance : DecidableEq ClockIdentity := fun a b =>
  decidable_of_iff (∀ i, a.id i = b.id i)
    ⟨fun h => by cases a; cases b; congr; exact funext h, fun h _ => h ▸ rfl⟩

/-- The default constructor: all octets zero. -/
def zero : ClockIdentity := ⟨fun _ => 0⟩

/-- `ClockIdentity::getIdentityString`: the octets in order. -/
def toList (c : ClockIdentity) : List UInt8 := List.ofFn c.id

/-- `ClockIdentity::set`: the eight octets at offset `a`. -/
def ofMem (buf : Mem) (a : ℕ) : ClockIdentity := ⟨fun i => buf (a + i)⟩

@[simp] theorem length_toList (c : ClockIdentity) : c.toList.length = 8 := List.length_ofFn

/-- An identity is read back from where its octets were copied to. -/
theorem ofMem_eq_of_read {buf : Mem} {a : ℕ} {c : ClockIdentity} (h : buf.read a 8 = c.toList) :
    ofMem buf a = c := by
  have hoctet (i : Fin 8) : buf (a + i) = c.id i := by
    rw [Mem.eq_getD_of_read h i.isLt, toList, List.getD_eq_getElem?_getD,
      List.getElem?_eq_getElem (by simp), List.getElem_ofFn]
    rfl
  rw [ofMem, funext hoctet]

theorem toList_ofMem (buf : Mem) (a : ℕ) : (ofMem buf a).toList = buf.read a 8 := by
  refine List.ext_getElem (by simp) fun i _ _ => ?_
  simp only [toList, ofMem, Mem.read, List.getElem_ofFn, List.getElem_map, List.getElem_range]

end ClockIdentity

/-- `PortIdentity`: a clock identity and a port number. -/
structure PortIdentity where
  clockId : ClockIdentity
  portNumber : UInt16

instance : DecidableEq PortIdentity := fun a b =>
  decidable_of_iff (a.clockId = b.clockId ∧ a.portNumber = b.portNumber)
    ⟨fun h => by cases a; cases b; exact congrArg₂ PortIdentity.mk h.1 h.2, fun h => h ▸ ⟨rfl, rfl⟩⟩

/-- `ClockQuality`. -/
structure ClockQuality where
  cqClass : UInt8
  clockAccuracy : UInt8
  offsetScaledLogVariance : UInt16
  deriving DecidableEq

/-! ### Messages -/

/-- The fields of `PTPMessageCommon`. -/
structure PTPMessageCommon where
  versionPTP : UInt8
  messageLength : UInt16
  domainNumber : UInt8
  /-- `flags[0]` and `flags[1]`. -/
  flags : UInt8 × UInt8
  correctionField : Int64
  sourcePortIdentity : PortIdentity
  sequenceId : UInt16
  /-- `LegacyMessageType`, a four-octet enumeration. -/
  control : UInt32
  logMeanMessageInterval : Int8
  /-- `_timestamp`: when the message was received or transmitted. -/
  timestamp : Timestamp
  deriving DecidableEq

/-- `PTPMessageSync`. -/
structure PTPMessageSync extends PTPMessageCommon where
  originTimestamp : Timestamp
  deriving DecidableEq

/-- `scaledNs`. -/
structure ScaledNs where
  ms : Int32
  ls : UInt64
  deriving DecidableEq

/-- `FollowUpTLV`, as it lies in memory. -/
structure FollowUpTLV where
  tlvType : UInt16
  lengthField : UInt16
  organizationId : UInt8 × UInt8 × UInt8
  organizationSubTypeMs : UInt8
  organizationSubTypeLs : UInt16
  cumulativeScaledRateOffset : Int32
  gmTimeBaseIndicator : UInt16
  scaledLastGmPhaseChange : ScaledNs
  scaledLastGmFreqChange : Int32
  deriving DecidableEq

/-- `PTPMessageFollowUp`. -/
structure PTPMessageFollowUp extends PTPMessageCommon where
  preciseOriginTimestamp : Timestamp
  tlv : FollowUpTLV
  deriving DecidableEq

/-- `PTPMessagePathDelayReq`. -/
structure PTPMessagePathDelayReq extends PTPMessageCommon
  deriving DecidableEq

/-- `PTPMessagePathDelayResp`. -/
structure PTPMessagePathDelayResp extends PTPMessageCommon where
  requestingPortIdentity : PortIdentity
  requestReceiptTimestamp : Timestamp
  deriving DecidableEq

/-- `PTPMessagePathDelayRespFollowUp`. -/
structure PTPMessagePathDelayRespFollowUp extends PTPMessageCommon where
  requestingPortIdentity : PortIdentity
  responseOriginTimestamp : Timestamp
  deriving DecidableEq

/-- `PTPMessageAnnounce`; `pathTrace` is the identity list of its `PathTraceTLV`. -/
structure PTPMessageAnnounce extends PTPMessageCommon where
  grandmasterIdentity : ClockIdentity
  grandmasterClockQuality : ClockQuality
  pathTrace : List ClockIdentity
  currentUtcOffset : UInt16
  grandmasterPriority1 : UInt8
  grandmasterPriority2 : UInt8
  stepsRemoved : UInt16
  timeSource : UInt8
  deriving DecidableEq

/-- `SignallingTLV`, as it lies in memory. -/
structure SignallingTLV where
  tlvType : UInt16
  lengthField : UInt16
  organizationId : UInt8 × UInt8 × UInt8
  organizationSubTypeMs : UInt8
  organizationSubTypeLs : UInt16
  linkDelayInterval : Int8
  timeSyncInterval : Int8
  announceInterval : Int8
  flags : UInt8
  reserved : UInt16
  deriving DecidableEq

/-- `PTPMessageSignalling`. -/
structure PTPMessageSignalling extends PTPMessageCommon where
  targetPortIdentify : Int8
  tlv : SignallingTLV
  deriving DecidableEq

/-- `MessageType`. -/
inductive MessageType where
  | sync
  | delayReq
  | pathDelayReq
  | pathDelayResp
  | followup
  | delayResp
  | pathDelayFollowup
  | announce
  | signalling
  | management
  deriving DecidableEq, Repr

/-- `MessageType` numbers of the wire format; the remaining four-bit values name no type. -/
def MessageType.ofNat? : ℕ → Option MessageType
  | 0x0 => some .sync
  | 0x1 => some .delayReq
  | 0x2 => some .pathDelayReq
  | 0x3 => some .pathDelayResp
  | 0x8 => some .followup
  | 0x9 => some .delayResp
  | 0xA => some .pathDelayFollowup
  | 0xB => some .announce
  | 0xC => some .signalling
  | 0xD => some .management
  | _ => none

/-- A message object: one of the seven classes derived from `PTPMessageCommon`. -/
inductive PTPMessage where
  | sync (m : PTPMessageSync)
  | followUp (m : PTPMessageFollowUp)
  | pathDelayReq (m : PTPMessagePathDelayReq)
  | pathDelayResp (m : PTPMessagePathDelayResp)
  | pathDelayRespFollowUp (m : PTPMessagePathDelayRespFollowUp)
  | announce (m : PTPMessageAnnounce)
  | signalling (m : PTPMessageSignalling)
  deriving DecidableEq

/-- `sigMsgInterval_Initial`. -/
def sigMsgIntervalInitial : Int8 := 126

/-- `sigMsgInterval_NoSend`. -/
def sigMsgIntervalNoSend : Int8 := 127

/-- `sigMsgInterval_NoChange`. -/
def sigMsgIntervalNoChange : Int8 := -128

/-- `memcmp(this1, that1, n) < 0` for two octet arrays of the same length. -/
def memcmpLt : List UInt8 → List UInt8 → Bool
  | a :: as, b :: bs => a < b || (a == b && memcmpLt as bs)
  | _, _ => false

theorem memcmpLt_cons (a b : UInt8) (as bs : List UInt8) :
    memcmpLt (a :: as) (b :: bs) ↔ a < b ∨ a = b ∧ memcmpLt as bs := by
  simp [memcmpLt]

theorem memcmpLt_append {as bs : List UInt8} (hlen : as.length = bs.length) (cs ds : List UInt8) :
    memcmpLt (as ++ cs) (bs ++ ds) ↔ memcmpLt as bs ∨ as = bs ∧ memcmpLt cs ds := by
  induction as generalizing bs with
  | nil =>
    obtain rfl : bs = [] := List.length_eq_zero_iff.mp hlen.symm
    simp [memcmpLt]
  | cons a as ih =>
    obtain ⟨b, bs, rfl⟩ : ∃ b bs', bs = b :: bs' := List.exists_cons_of_length_eq_add_one hlen.symm
    -- the first octets decide, or they are equal and the rest does
    simp only [List.cons_append, memcmpLt_cons, ih (Nat.succ.inj hlen), List.cons.injEq]
    tauto

/-- Octets are compared as the number they are in network order. -/
theorem memcmpLt_iff_valueBE {as bs : List UInt8} (hlen : as.length = bs.length) :
    memcmpLt as bs ↔ valueBE as < valueBE bs := by
  induction as generalizing bs with
  | nil =>
    obtain rfl : bs = [] := List.length_eq_zero_iff.mp hlen.symm
    simp [memcmpLt]
  | cons a as ih =>
    obtain ⟨b, bs, rfl⟩ : ∃ b bs', bs = b :: bs' := List.exists_cons_of_length_eq_add_one hlen.symm
    have hlen' := Nat.succ.inj hlen
    -- the first octet outweighs everything behind it
    rw [valueBE_cons, valueBE_cons, ← hlen', add_mul_lt_iff _ _ (valueBE_lt as) (hlen' ▸ valueBE_lt bs)]
    simp only [memcmpLt_cons, ih hlen', UInt8.lt_iff_toNat_lt, ← UInt8.toNat_inj]

/-- The fourteen octets by which two grandmasters are compared: priority1, class, accuracy, variance
in network order, priority2 and the clock identity. -/
def bestMasterKey (priority1 : UInt8) (quality : ClockQuality) (priority2 : UInt8)
    (identity : ClockIdentity) : List UInt8 :=
  priority1 :: quality.cqClass :: quality.clockAccuracy ::
    (bytesBE 2 quality.offsetScaledLogVariance.toNat ++ priority2 :: identity.toList)

/-- The comparison octets of the grandmaster an Announce advertises. -/
def PTPMessageAnnounce.key (m : PTPMessageAnnounce) : List UInt8 :=
  bestMasterKey m.grandmasterPriority1 m.grandmasterClockQuality m.grandmasterPriority2
    m.grandmasterIdentity

/-- `PTPMessageAnnounce::isBetterThan`. -/
def PTPMessageAnnounce.isBetterThan (m msg : PTPMessageAnnounce) : Bool :=
  memcmpLt m.key msg.key

end Gptp
