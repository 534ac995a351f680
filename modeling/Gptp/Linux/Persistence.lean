import Gptp.Framework.Serialization
import Gptp.Port.Run

/-!
# Persistent state

The daemon saves three fields of the clock and four of the port on SIGHUP and restores them when it
starts. The clock and the port have a function for each direction, four sequences of fields in all, and
the two callers, `gPTPPersistWriteCB` and `main`, find the place of the port's fields from what the
functions for the clock leave in the count.

* `gPTPPersistWriteCB_eq`: with room for all fields, the callback stores the image of the clock, followed
  by that of the port.
* `mainRestore_eq`: restoring from these octets assigns the fields that were saved, and nothing else.
  `mainRestore_daemon` ties this to the start of the daemon (`Start.daemon`).

The storage behind the buffer is not modelled.
-/

namespace Gptp

open Framework

variable {F : Type}

/-! ### Object representations -/

/-- The numbers of the enumerators. -/
def PortState.number : PortState → ℕ
  | .ptpMaster => 7
  | .ptpPreMaster => 8
  | .ptpSlave => 9
  | .ptpUncalibrated => 10
  | .ptpDisabled => 11
  | .ptpFaulty => 12
  | .ptpInitializing => 13
  | .ptpListening => 14

/-- The enumerator with a number; `stray` if there is none. -/
def PortState.ofNumber (stray : PortState) : ℕ → PortState
  | 7 => .ptpMaster
  | 8 => .ptpPreMaster
  | 9 => .ptpSlave
  | 10 => .ptpUncalibrated
  | 11 => .ptpDisabled
  | 12 => .ptpFaulty
  | 13 => .ptpInitializing
  | 14 => .ptpListening
  | _ => stray

/-- What the platform decides about the saved objects: the byte order, the representation of
`FrequencyRatio` (a `long double`, or a `double` with some compilers), and what an object of type
`PortState` is taken for when its octets are those of no enumerator. -/
structure Abi (F : Type) where
  endian : Endian
  frequencyRatio : Representation F
  stray : PortState

namespace Abi

variable (abi : Abi F)

/-- `bool`. -/
def bool : Representation Bool :=
  .ofNumbering abi.endian 1 Bool.toNat (fun n => decide (n ≠ 0)) (by decide) (by decide)

/-- `PortState`, an enumeration. -/
def portState : Representation PortState :=
  .ofNumbering abi.endian 4 PortState.number (.ofNumber abi.stray)
    (fun s => by cases s <;> decide) (fun s => by cases s <;> rfl)

/-- `int64_t`. -/
def int64 : Representation Int64 :=
  .ofNumbering abi.endian 8 (fun x => x.toUInt64.toNat) (fun n => (UInt64.ofNat n).toInt64)
    (fun x => x.toUInt64.toNat_lt)
    (fun x => by rw [UInt64.ofNat_toNat, Int64.toInt64_toUInt64])

/-- `ClockIdentity`, an object of eight octets, on every platform. -/
def clockIdentity : Representation ClockIdentity where
  size := 8
  bytes x := (Representation.octets 8).bytes x.id
  ofBytes bs := ⟨(Representation.octets 8).ofBytes bs⟩
  length_bytes x := (Representation.octets 8).length_bytes x.id
  ofBytes_bytes x := congrArg ClockIdentity.mk ((Representation.octets 8).ofBytes_bytes x.id)

end Abi

/-! ### The four functions -/

/-- What a call leaves: its result, the count, and the buffer it has written or the object it has
restored. -/
structure Transferred (τ : Type) where
  ret : Bool
  count : Int64
  target : τ

/-- The call is over. -/
def Transferred.of {τ : Type} (x : Cursor × τ) : Transferred τ := ⟨x.1.ret, x.1.count, x.2⟩

namespace Clock

variable (abi : Abi F)

def storedMasterLocalFreqOffset : Member (Clock F) :=
  .of abi.frequencyRatio masterLocalFreqOffset fun x c => { c with masterLocalFreqOffset := x }

def storedLocalSystemFreqOffset : Member (Clock F) :=
  .of abi.frequencyRatio localSystemFreqOffset fun x c => { c with localSystemFreqOffset := x }

def storedLastEBestIdentity : Member (Clock F) :=
  .of Abi.clockIdentity lastEBestIdentity fun x c => { c with lastEBestIdentity := x }

/-- The fields that `serializeState` copies, in its order. -/
def serialized : List (Member (Clock F)) :=
  [storedMasterLocalFreqOffset abi, storedLocalSystemFreqOffset abi, storedLastEBestIdentity]

/-- The fields that `restoreSerializedState` copies, in its order. -/
def restored : List (Member (Clock F)) :=
  [storedMasterLocalFreqOffset abi, storedLocalSystemFreqOffset abi, storedLastEBestIdentity]

/-- `IEEE1588Clock::serializeState`; without a buffer it reports the size. -/
def serializeState (buf : Option ℕ) (count : Int64) (m : Mem) (c : Clock F) : Transferred Mem :=
  match buf with
  | none => ⟨true, Int64.ofNat (totalSize (serialized abi)), m⟩
  | some buf => .of (writeAll (serialized abi) c ⟨true, count, buf⟩ m)

/-- `IEEE1588Clock::restoreSerializedState`. -/
def restoreSerializedState (m : Mem) (buf : ℕ) (count : Int64) (c : Clock F) :
    Transferred (Clock F) :=
  .of (readAll (restored abi) m ⟨true, count, buf⟩ c)

end Clock

namespace EtherPort

variable (abi : Abi F)

def storedAsCapable : Member (EtherPort F) :=
  .of abi.bool (fun p => p.link.asCapable) fun x p => { p with link.asCapable := x }

def storedPortState : Member (EtherPort F) :=
  .of abi.portState (fun p => p.portState) fun x p => { p with portState := x }

def storedOneWayDelay : Member (EtherPort F) :=
  .of abi.int64 (fun p => p.link.oneWayDelay) fun x p => { p with link.oneWayDelay := x }

def storedPeerRateOffset : Member (EtherPort F) :=
  .of abi.frequencyRatio (fun p => p.link.peerRateOffset)
    fun x p => { p with link.peerRateOffset := x }

/-- The fields that `serializeState` copies, in its order. -/
def serialized : List (Member (EtherPort F)) :=
  [storedAsCapable abi, storedPortState abi, storedOneWayDelay abi, storedPeerRateOffset abi]

/-- The fields that `restoreSerializedState` copies, in its order. -/
def restored : List (Member (EtherPort F)) :=
  [storedAsCapable abi, storedPortState abi, storedOneWayDelay abi, storedPeerRateOffset abi]

/-- `CommonPort::serializeState`; without a buffer it reports the size, and a port that is neither
master nor slave is not saved. -/
def serializeState (buf : Option ℕ) (count : Int64) (m : Mem) (p : EtherPort F) : Transferred Mem :=
  match buf with
  | none => ⟨true, Int64.ofNat (totalSize (serialized abi)), m⟩
  | some buf =>
    if p.portState ≠ .ptpMaster ∧ p.portState ≠ .ptpSlave then ⟨false, 0, m⟩
    else .of (writeAll (serialized abi) p ⟨true, count, buf⟩ m)

/-- `CommonPort::restoreSerializedState`. -/
def restoreSerializedState (m : Mem) (buf : ℕ) (count : Int64) (p : EtherPort F) :
    Transferred (EtherPort F) :=
  .of (readAll (restored abi) m ⟨true, count, buf⟩ p)

end EtherPort

/-! ### The two callers -/

/-- The address `k` octets from `p`. -/
def addressAt (p : ℕ) (k : Int64) : ℕ := (p + k.toInt).toNat

/-- `gPTPPersistWriteCB`: the memory it leaves. -/
def gPTPPersistWriteCB (abi : Abi F) (bufPtr : ℕ) (bufSize : UInt32) (clock : Clock F)
    (port : EtherPort F) (m : Mem) : Mem :=
  let restoredatalength := bufSize.toUInt64.toInt64
  let saved := clock.serializeState abi (some bufPtr) restoredatalength m
  let restoredataptr := addressAt bufPtr (restoredatalength - saved.count)
  (port.serializeState abi (some restoredataptr) saved.count saved.target).target

/-- The variables of `main` that restoring works on. -/
structure RestoreState where
  restoredataptr : Option ℕ
  restoredatacount : Int64
  restorefailed : Bool

/-- How `main` restores an object: unless an earlier object has failed, and moving the pointer to the
place that the count tells. -/
def RestoreState.restore {σ : Type} (restoredata : ℕ) (restoredatalength : Int64)
    (restoreSerializedState : ℕ → Int64 → σ → Transferred σ) (x : RestoreState) (o : σ) :
    RestoreState × σ :=
  match x.restoredataptr with
  | none => (x, o)
  | some ptr =>
    let y : Transferred σ :=
      if x.restorefailed then ⟨false, x.restoredatacount, o⟩
      else restoreSerializedState ptr x.restoredatacount o
    (⟨addressAt restoredata (restoredatalength - y.count), y.count, !y.ret⟩, y.target)

/-- What `main` does with the clock and the port it has constructed: the storage it has read is at
`restoredata`, if there is any. -/
def mainRestore (abi : Abi F) (restoredata : Option ℕ) (bufSize : UInt32) (m : Mem)
    (clock : Clock F) (port : EtherPort F) : RestoreState × Clock F × EtherPort F :=
  let restoredatalength := bufSize.toUInt64.toInt64
  let x : RestoreState := ⟨restoredata, restoredatalength, false⟩
  let (x, clock) := x.restore (restoredata.getD 0) restoredatalength
    (Clock.restoreSerializedState abi m) clock
  let (x, port) := x.restore (restoredata.getD 0) restoredatalength
    (EtherPort.restoreSerializedState abi m) port
  (x, clock, port)

/-- The size that `main` asks the storage for: what the two functions report. -/
def writeSize (abi : Abi F) (m : Mem) (clock : Clock F) (port : EtherPort F) : UInt32 :=
  ((clock.serializeState abi none 0 m).count +
    (port.serializeState abi none 0 m).count).toUInt64.toUInt32

/-! ### The round trip -/

/-- What is saved of a clock. -/
def Clock.saved (c : Clock F) : SavedClock F where
  masterLocalFreqOffset := c.masterLocalFreqOffset
  localSystemFreqOffset := c.localSystemFreqOffset
  lastEBestIdentity := c.lastEBestIdentity

/-- What is saved of a port. -/
def EtherPort.saved (p : EtherPort F) : SavedPort F where
  asCapable := p.link.asCapable
  portState := p.portState
  oneWayDelay := p.link.oneWayDelay
  peerRateOffset := p.link.peerRateOffset

namespace Abi

variable (abi : Abi F)

/-- The size of all that is saved of the clock. -/
def clockSize : ℕ := totalSize (Clock.serialized abi)

/-- The size of all that is saved of the port. -/
def portSize : ℕ := totalSize (EtherPort.serialized abi)

/-- The total serialized size. -/
def serializedSize : ℕ := abi.clockSize + abi.portSize

theorem serializedSize_eq : abi.serializedSize = 3 * abi.frequencyRatio.size + 21 := by
  have hclock : abi.clockSize = abi.frequencyRatio.size + (abi.frequencyRatio.size + (8 + 0)) := rfl
  have hport : abi.portSize = 1 + (4 + (8 + (abi.frequencyRatio.size + 0))) := rfl
  rw [serializedSize, hclock, hport]
  omega

/-- The octets in which a clock and a port are saved. -/
def image (clock : Clock F) (port : EtherPort F) : List UInt8 :=
  Framework.image (Clock.serialized abi) clock ++ Framework.image (EtherPort.serialized abi) port

end Abi

/-- The restored clock has the saved fields. -/
theorem Clock.assignAll_restored (abi : Abi F) (c₀ c : Clock F) :
    assignAll (restored abi) c₀ c = Start.restoreClock c₀.saved c := by
  unfold restored assignAll storedMasterLocalFreqOffset storedLocalSystemFreqOffset
    storedLastEBestIdentity
  simp only [List.foldl_cons, List.foldl_nil, Member.of, Representation.ofBytes_bytes]
  rfl

/-- The restored port has the saved fields. -/
theorem EtherPort.assignAll_restored (abi : Abi F) (p₀ p : EtherPort F) :
    assignAll (restored abi) p₀ p = Start.restorePort p₀.saved p := by
  unfold restored assignAll storedAsCapable storedPortState storedOneWayDelay storedPeerRateOffset
  simp only [List.foldl_cons, List.foldl_nil, Member.of, Representation.ofBytes_bytes]
  rfl

/-- A port that is saved at all is saved field by field. -/
theorem EtherPort.serializeState_of_saved {abi : Abi F} {p : EtherPort F}
    (hstate : p.portState = .ptpMaster ∨ p.portState = .ptpSlave) (a : ℕ) (count : Int64) (m : Mem) :
    p.serializeState abi (some a) count m = .of (writeAll (serialized abi) p ⟨true, count, a⟩ m) := by
  have hsaved : ¬ (p.portState ≠ .ptpMaster ∧ p.portState ≠ .ptpSlave) := by
    rwa [not_and_or, not_not, not_not]
  exact if_neg hsaved

section Functions

variable {abi : Abi F} {a k : ℕ} {m : Mem}

theorem Clock.serializeState_of_le (hk : k < 2 ^ 63) (hle : abi.clockSize ≤ k) (c : Clock F) :
    c.serializeState abi (some a) (Int64.ofNat k) m =
      ⟨true, Int64.ofNat (k - abi.clockSize), m.store a (image (serialized abi) c)⟩ :=
  congrArg Transferred.of (writeAll_of_le (serialized abi) c m hk hle)

theorem EtherPort.serializeState_of_le (hk : k < 2 ^ 63) (hle : abi.portSize ≤ k) {p : EtherPort F}
    (hstate : p.portState = .ptpMaster ∨ p.portState = .ptpSlave) :
    p.serializeState abi (some a) (Int64.ofNat k) m =
      ⟨true, Int64.ofNat (k - abi.portSize), m.store a (image (serialized abi) p)⟩ := by
  rw [serializeState_of_saved hstate]
  exact congrArg Transferred.of (writeAll_of_le (serialized abi) p m hk hle)

theorem Clock.restoreSerializedState_of_image (hk : k < 2 ^ 63) (hle : abi.clockSize ≤ k)
    {c₀ : Clock F} (himage : m.read a abi.clockSize = image (serialized abi) c₀) (c : Clock F) :
    c.restoreSerializedState abi m a (Int64.ofNat k) =
      ⟨true, Int64.ofNat (k - abi.clockSize), Start.restoreClock c₀.saved c⟩ := by
  rw [← assignAll_restored abi]
  -- the two functions of the clock agree on the fields and their order
  exact congrArg Transferred.of (readAll_of_image (restored abi) c₀ c hk hle himage)

theorem EtherPort.restoreSerializedState_of_image (hk : k < 2 ^ 63) (hle : abi.portSize ≤ k)
    {p₀ : EtherPort F} (himage : m.read a abi.portSize = image (serialized abi) p₀)
    (p : EtherPort F) :
    p.restoreSerializedState abi m a (Int64.ofNat k) =
      ⟨true, Int64.ofNat (k - abi.portSize), Start.restorePort p₀.saved p⟩ := by
  rw [← assignAll_restored abi]
  exact congrArg Transferred.of (readAll_of_image (restored abi) p₀ p hk hle himage)

end Functions

/-- The length of the buffer as an `off_t`. -/
theorem length_eq (bufSize : UInt32) : bufSize.toUInt64.toInt64 = Int64.ofNat bufSize.toNat := by
  rw [← UInt64.toInt64_ofNat', ← UInt32.toNat_toUInt64, UInt64.ofNat_toNat]

theorem length_lt (bufSize : UInt32) : bufSize.toNat < 2 ^ 63 :=
  bufSize.toNat_lt.trans (by decide)

/-- The pointer is recomputed from the count, `k` octets from the start. -/
theorem addressAt_sub (a : ℕ) {k n : ℕ} (hn : n < 2 ^ 63) (hk : k ≤ n) :
    addressAt a (Int64.ofNat n - Int64.ofNat (n - k)) = a + k := by
  have hsub : Int64.ofNat n - Int64.ofNat (n - k) = Int64.ofNat k := by
    rw [← Int64.ofNat_sub _ _ (Nat.sub_le n k), Nat.sub_sub_self hk]
  rw [hsub, addressAt, Int64.toInt_ofNat_of_lt (hk.trans_lt hn)]
  exact Int.toNat_natCast (a + k)

/-- A successful restore moves the pointer by the octets it has used. -/
theorem RestoreState.restore_of_ret {σ : Type} {restoredata j k n : ℕ} (hn : n < 2 ^ 63)
    (hk : k ≤ n) {restoreSerializedState : ℕ → Int64 → σ → Transferred σ} {o o' : σ}
    (h : restoreSerializedState (restoredata + j) (Int64.ofNat (n - j)) o =
      ⟨true, Int64.ofNat (n - k), o'⟩) :
    restore restoredata (Int64.ofNat n) restoreSerializedState
        ⟨some (restoredata + j), Int64.ofNat (n - j), false⟩ o =
      (⟨some (restoredata + k), Int64.ofNat (n - k), false⟩, o') := by
  unfold restore
  dsimp only
  rw [if_neg Bool.false_ne_true, h]
  dsimp only
  rw [addressAt_sub restoredata hn hk]
  rfl

section RoundTrip

variable {abi : Abi F} {bufSize : UInt32}

/-- **Saving.** With room for all fields, the images of the clock and of the port are stored one after
the other. -/
theorem gPTPPersistWriteCB_eq {port : EtherPort F}
    (hstate : port.portState = .ptpMaster ∨ port.portState = .ptpSlave)
    (hsize : abi.serializedSize ≤ bufSize.toNat) (bufPtr : ℕ) (clock : Clock F) (m : Mem) :
    gPTPPersistWriteCB abi bufPtr bufSize clock port m = m.store bufPtr (abi.image clock port) := by
  have hlt := length_lt bufSize
  have hclock : abi.clockSize ≤ bufSize.toNat := (Nat.le_add_right _ _).trans hsize
  have hport : abi.portSize ≤ bufSize.toNat - abi.clockSize := Nat.le_sub_of_add_le' hsize
  unfold gPTPPersistWriteCB
  dsimp only
  rw [length_eq, Clock.serializeState_of_le hlt hclock]
  -- the count left by the clock tells where the port goes
  dsimp only
  rw [addressAt_sub bufPtr hlt hclock,
    EtherPort.serializeState_of_le ((Nat.sub_le _ _).trans_lt hlt) hport hstate]
  have hlength : (image (Clock.serialized abi) clock).length = abi.clockSize := length_image _ _
  dsimp only
  rw [← hlength, Mem.store_store]
  rfl

/-- **Restoring.** From a buffer that begins with the images of a clock and a port, their saved fields
are assigned, and nothing else. -/
theorem mainRestore_eq {clock₀ : Clock F} {port₀ : EtherPort F} {m : Mem} {restoredata : ℕ}
    (hsize : abi.serializedSize ≤ bufSize.toNat)
    (himage : m.read restoredata abi.serializedSize = abi.image clock₀ port₀) (clock : Clock F)
    (port : EtherPort F) :
    mainRestore abi (some restoredata) bufSize m clock port =
      (⟨some (restoredata + abi.serializedSize),
          Int64.ofNat (bufSize.toNat - abi.serializedSize), false⟩,
        Start.restoreClock clock₀.saved clock, Start.restorePort port₀.saved port) := by
  have hlt := length_lt bufSize
  have hclock : abi.clockSize ≤ bufSize.toNat := (Nat.le_add_right _ _).trans hsize
  have hport : abi.portSize ≤ bufSize.toNat - abi.clockSize := Nat.le_sub_of_add_le' hsize
  obtain ⟨hfirst, hsecond⟩ : m.read restoredata abi.clockSize = image (Clock.serialized abi) clock₀ ∧
      m.read (restoredata + abi.clockSize) abi.portSize =
        image (EtherPort.serialized abi) port₀ := by
    rw [Abi.serializedSize, Mem.read_add] at himage
    refine List.append_inj himage ?_
    rw [Mem.length_read, length_image]
    rfl
  -- the clock's fields are at the start of the buffer, and the port's right behind them
  have hrestoreClock := RestoreState.restore_of_ret (j := 0) hlt hclock
    (Clock.restoreSerializedState_of_image (m := m) hlt hclock hfirst clock)
  have hrestorePort := RestoreState.restore_of_ret hlt hsize
    ((EtherPort.restoreSerializedState_of_image ((Nat.sub_le _ _).trans_lt hlt) hport hsecond
      port).trans (by rw [Nat.sub_sub]; rfl))
  rw [Nat.add_zero, Nat.sub_zero] at hrestoreClock
  unfold mainRestore
  dsimp only
  rw [length_eq, Option.getD_some, hrestoreClock]
  dsimp only
  rw [hrestorePort]

/-- **The round trip.** Whatever clock and port, master or slave, are saved into a buffer with room for
all fields, `main` restores their seven persistent fields from those octets. Nothing else of the clock
and the port that `main` has constructed is changed. -/
theorem persist_roundTrip (abi : Abi F) (clock₀ : Clock F) (port₀ : EtherPort F)
    (hstate : port₀.portState = .ptpMaster ∨ port₀.portState = .ptpSlave) (bufSize : UInt32)
    (hsize : abi.serializedSize ≤ bufSize.toNat) (bufPtr : ℕ) (m : Mem) (restoredata : ℕ) (m' : Mem)
    (hcopy : m'.read restoredata bufSize.toNat =
      (gPTPPersistWriteCB abi bufPtr bufSize clock₀ port₀ m).read bufPtr bufSize.toNat)
    (clock : Clock F) (port : EtherPort F) :
    let restored := mainRestore abi (some restoredata) bufSize m' clock port
    restored.1.restorefailed = false ∧
      restored.2.1.saved = clock₀.saved ∧ restored.2.2.saved = port₀.saved ∧
      restored.2.1 = Start.restoreClock clock₀.saved clock ∧
      restored.2.2 = Start.restorePort port₀.saved port := by
  -- the buffer that is read begins with the two images
  have himage : m'.read restoredata abi.serializedSize = abi.image clock₀ port₀ := by
    have hlength : (abi.image clock₀ port₀).length = abi.serializedSize := by
      rw [Abi.image, List.length_append, length_image, length_image]
      rfl
    obtain ⟨r, hr⟩ := Nat.exists_eq_add_of_le hsize
    rw [gPTPPersistWriteCB_eq hstate hsize, hr, Mem.read_add, Mem.read_add,
      Mem.read_store _ _ _ hlength] at hcopy
    refine (List.append_inj hcopy ?_).1
    rw [Mem.length_read, hlength]
  intro restored
  have hrestored : restored = _ := mainRestore_eq hsize himage clock port
  rw [hrestored]
  exact ⟨rfl, rfl, rfl, rfl, rfl⟩

end RoundTrip

/-- The size that `main` asks the storage for is that of all fields. -/
theorem toNat_writeSize {abi : Abi F} (hsize : abi.serializedSize < 2 ^ 32) (m : Mem)
    (clock : Clock F) (port : EtherPort F) :
    (writeSize abi m clock port).toNat = abi.serializedSize := by
  have hcount : (clock.serializeState abi none 0 m).count +
      (port.serializeState abi none 0 m).count = Int64.ofNat abi.serializedSize :=
    (Int64.ofNat_add abi.clockSize abi.portSize).symm
  rw [writeSize, hcount, ← UInt64.toInt64_ofNat', UInt64.toUInt64_toInt64, UInt64.toNat_toUInt32,
    UInt64.toNat_ofNat']
  omega

/-- The daemon that `main` brings up from a storage is the one that starts with the saved state. -/
theorem mainRestore_daemon [Platform F] {abi : Abi F} {bufSize : UInt32} {clock₀ : Clock F}
    {port₀ : EtherPort F} {m : Mem} {restoredata : ℕ} (hsize : abi.serializedSize ≤ bufSize.toNat)
    (himage : m.read restoredata abi.serializedSize = abi.image clock₀ port₀) (s : Start F)
    (hrestored : s.restored = some (clock₀.saved, port₀.saved)) :
    let restored := mainRestore abi (some restoredata) bufSize m s.newClock s.newPort
    s.daemon = ⟨restored.2.1,
      { restored.2.2 with portState := s.forced.getD restored.2.2.portState }, [], []⟩ := by
  rw [mainRestore_eq hsize himage]
  unfold Start.daemon
  rw [hrestored]

/-- A platform on which ratios are sixteen octets, whatever they mean. -/
def octetsAbi : Abi (Fin 16 → UInt8) where
  endian := .little
  frequencyRatio := .octets 16
  stray := .ptpInitializing

/-- A clock with recognisable ratios. -/
def octetsClock : Clock (Fin 16 → UInt8) :=
  { (Start.standard localIdentity).newClock with
    ppm := fun _ => 0
    masterLocalFreqOffset := fun i => UInt8.ofNat i
    localSystemFreqOffset := fun i => UInt8.ofNat (i + 16) }

/-- A master on a capable link. -/
def octetsPort : EtherPort (Fin 16 → UInt8) :=
  { (Start.standard localIdentity).newPort with
    portState := .ptpMaster
    link := ⟨true, -5, fun i => UInt8.ofNat (i + 32), false, Timestamp.zero, Timestamp.zero⟩ }

/-- Saved into a buffer of the size that `main` asks for, their fields are restored. -/
theorem octets_roundTrip :
    let size := writeSize octetsAbi (fun _ => 0) octetsClock octetsPort
    let m := gPTPPersistWriteCB octetsAbi 100 size octetsClock octetsPort fun _ => 0
    let restored := mainRestore octetsAbi (some 100) size m
      { octetsClock with masterLocalFreqOffset := fun _ => 0 }
      { octetsPort with portState := .ptpInitializing }
    restored.1.restorefailed = false ∧ restored.2.1.saved = octetsClock.saved ∧
      restored.2.2.saved = octetsPort.saved :=
  have hfits : octetsAbi.serializedSize < 2 ^ 32 := by rw [Abi.serializedSize_eq]; decide
  have h := persist_roundTrip octetsAbi octetsClock octetsPort (.inl rfl)
    (writeSize octetsAbi (fun _ => 0) octetsClock octetsPort) (toNat_writeSize hfits _ _ _).ge 100
    (fun _ => 0) 100 _ rfl { octetsClock with masterLocalFreqOffset := fun _ => 0 }
    { octetsPort with portState := .ptpInitializing }
  ⟨h.1, h.2.1, h.2.2.1⟩

end Gptp
