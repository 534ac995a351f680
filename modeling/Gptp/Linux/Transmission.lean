import Gptp.Framework.Retry
import Gptp.Linux.Timestamping
import Gptp.Message.Codec
import Gptp.Port.Run
import Mathlib.Data.Stream.Init

/-!
# Transmission of event messages

`LinuxNetworkInterface::send` takes `net_lock` before it hands an event message to the kernel, and
returns with the lock held. The lock is released by another object: the timestamper, when the port asks
it for the transmit timestamp of the message, in the call that finds the timestamp or in the one that is
flagged as the last. In between nobody else reads the error queue.

* `Net`: the calls that a transmission makes, and what the kernel will answer to those that are still to
  come.
* `EventMessage.sendPort`: the three `sendPort` methods that transmit event messages.
* `EventMessage.sendPort_eq`: what the port makes of the answers is what `Daemon.getTxTimestamp` makes
  of the timestamp obtained within the retries.
* `EventMessage.sendPort_locks_once`: whatever the kernel answers, a transmission takes the lock once and
  releases it once.
-/

namespace Gptp

open Framework

namespace Linux

/-! ### The network interface -/

/-- What `recvmsg` finds in the error queue: nothing it can read, or a frame that was sent, with control
messages. -/
inductive ErrorQueueRead where
  | error (errno : Int32)
  | message (reflected : List UInt8) (control : List ControlMessage)

/-- The calls of a transmission that others can observe. -/
inductive NetCall where
  | lock
  | unlock
  | sendtoEvent
  | sendtoGeneral
  | recvmsg
  | sleep (micros : UInt32)
  deriving DecidableEq, Repr

/-- The calls made, and the answers of the kernel to come: whether it takes a frame, and what is in the
error queue. -/
structure Net where
  calls : List NetCall
  sends : Stream' Bool
  reads : Stream' ErrorQueueRead

namespace Net

/-- Makes a call that has no answer. -/
def call (c : NetCall) (net : Net) : Net := { net with calls := net.calls ++ [c] }

/-- `LinuxNetworkInterface::send`: whether the frame was sent. Only a frame that is to be timestamped
takes the lock, and it keeps it. -/
def send (timestamp : Bool) (net : Net) : Bool × Net :=
  let net := if timestamp then (net.call .lock).call .sendtoEvent else net.call .sendtoGeneral
  (net.sends.head, { net with sends := net.sends.tail })

end Net

/-- `EAGAIN`. -/
def eagain : Int32 := 11

/-- `PTPMessageId`, with the message type as the four bits of the header. -/
structure PTPMessageId where
  messageType : UInt8
  sequenceId : UInt16
  deriving DecidableEq, Repr

/-- The parts of `LinuxTimestamperGeneric` that transmit timestamps depend on: the event socket and the
version. -/
structure LinuxTimestamperGeneric where
  sd : Int32
  version : UInt8

section Timestamper

variable (F : Type) [Platform F]

/-- The message that was reflected by the error queue, as `reflected_bytes` holds it: behind an Ethernet
header, cut off behind the common header, and zeros where nothing was copied. -/
def reflectedMessageId (reflected : List UInt8) : PTPMessageId :=
  let buf : Mem := Mem.store (fun _ => 0) 0 (reflected.take (14 + 34))
  { messageType := buf 14 &&& 0xF
    sequenceId := htons F (load16 F buf (14 + 30)) }

namespace LinuxTimestamperGeneric

/-- The answer of `HWTimestamper_txtimestamp` to what it found in the error queue. -/
def txResult (hw : LinuxTimestamperGeneric) (messageId : PTPMessageId) :
    ErrorQueueRead → Except TimestampError Timestamp
  | .error errno => .error (if errno = eagain then .eagain else .failure)
  | .message reflected control =>
    if messageId ≠ reflectedMessageId F reflected then .error .eagain
    else match retrieveTimestamp control with
      | some device => .ok { device with version := hw.version }
      | none => .error .eagain

/-- `LinuxTimestamperGeneric::HWTimestamper_txtimestamp`. -/
def txtimestamp (hw : LinuxTimestamperGeneric) (messageId : PTPMessageId) (last : Bool) (net : Net) :
    Except TimestampError Timestamp × Net :=
  if hw.sd = -1 then (.error .failure, net)
  else
    let ret := hw.txResult F messageId net.reads.head
    let net := { net.call .recvmsg with reads := net.reads.tail }
    -- every other return leaves the lock to the next attempt
    (ret, if ret.toOption.isSome || last then net.call .unlock else net)

end LinuxTimestamperGeneric

end Timestamper

/-! ### The port -/

/-- `TX_TIMEOUT_BASE`. -/
def txTimeoutBase : UInt32 := 1000

/-- `TX_TIMEOUT_ITER`. -/
def txTimeoutIter : ℕ := 6

variable {F : Type}

/-- `EtherPort::sendEventPort`: the link speed for the compensation. -/
def sendEventPort (port : EtherPort F) (net : Net) : UInt32 × Net :=
  let (sent, net) := net.send true
  (if sent then port.linkSpeed else invalidLinkSpeed, net)

section Port

variable [Platform F]

/-- The timestamp that `PTPMessageCommon::getTxTimestamp` obtains, with the pauses of its loop. -/
def awaitTxTimestamp (F : Type) [Platform F] (hw : LinuxTimestamperGeneric) (messageId : PTPMessageId) :
    Net → Except TimestampError Timestamp × Net :=
  Retry.run (hw.txtimestamp F messageId) (fun k => Net.call (.sleep (txTimeoutBase * 2 ^ k)))
    txTimeoutIter

/-- `PTPMessageCommon::getTxTimestamp`: the message with its timestamp, and whether there is one. -/
def getTxTimestamp (hw : LinuxTimestamperGeneric) (port : EtherPort F) (messageType : MessageType)
    (linkSpeed : UInt32) (m : PTPMessageCommon) (net : Net) : (PTPMessageCommon × Bool) × Net :=
  let (ret, net) := awaitTxTimestamp F hw ⟨messageType.code, m.sequenceId⟩ net
  match ret with
  | .ok timestamp =>
    let compensation := { port.cfg.getTxPhyDelay linkSpeed with version := timestamp.version }
    (({ m with timestamp := timestamp.add compensation }, true), net)
  | .error _ => (({ m with timestamp := Timestamp.invalid }, false), net)

/-- What the `sendPort` methods of the event messages share. -/
def transmit (hw : LinuxTimestamperGeneric) (port : EtherPort F) (messageType : MessageType)
    (m : PTPMessageCommon) (net : Net) : (PTPMessageCommon × Bool) × Net :=
  let (linkSpeed, net) := sendEventPort port net
  getTxTimestamp hw port messageType linkSpeed m net

/-- `PTPMessageSync::sendPort`. -/
def sendSync (hw : LinuxTimestamperGeneric) (port : EtherPort F) (m : PTPMessageSync) (net : Net) :
    (PTPMessageSync × Bool) × Net :=
  let ((common, ok), net) := transmit hw port .sync m.toPTPMessageCommon net
  (({ m with toPTPMessageCommon := common }, ok), net)

/-- `PTPMessagePathDelayReq::sendPort`: nothing is sent while peer delay requests are halted. -/
def sendPathDelayReq (hw : LinuxTimestamperGeneric) (port : EtherPort F) (m : PTPMessagePathDelayReq)
    (net : Net) : (PTPMessagePathDelayReq × Bool) × Net :=
  if port.pdelay.pdelayHalted then ((m, false), net)
  else
    let ((common, ok), net) := transmit hw port .pathDelayReq m.toPTPMessageCommon net
    (({ m with toPTPMessageCommon := common }, ok), net)

/-- `PTPMessagePathDelayResp::sendPort`. -/
def sendPathDelayResp (hw : LinuxTimestamperGeneric) (port : EtherPort F) (m : PTPMessagePathDelayResp)
    (net : Net) : (PTPMessagePathDelayResp × Bool) × Net :=
  let ((common, ok), net) := transmit hw port .pathDelayResp m.toPTPMessageCommon net
  (({ m with toPTPMessageCommon := common }, ok), net)

/-- The messages that are transmitted with a timestamp. -/
inductive EventMessage where
  | sync (m : PTPMessageSync)
  | pathDelayReq (m : PTPMessagePathDelayReq)
  | pathDelayResp (m : PTPMessagePathDelayResp)

namespace EventMessage

def messageType : EventMessage → MessageType
  | .sync _ => .sync
  | .pathDelayReq _ => .pathDelayReq
  | .pathDelayResp _ => .pathDelayResp

def common : EventMessage → PTPMessageCommon
  | .sync m => m.toPTPMessageCommon
  | .pathDelayReq m => m.toPTPMessageCommon
  | .pathDelayResp m => m.toPTPMessageCommon

/-- The port transmits the message: a request only if requests are not halted. -/
def IsSent (port : EtherPort F) : EventMessage → Prop
  | .pathDelayReq _ => port.pdelay.pdelayHalted = false
  | _ => True

/-- `sendPort` of an event message. -/
def sendPort (hw : LinuxTimestamperGeneric) (port : EtherPort F) : EventMessage → Net →
    (EventMessage × Bool) × Net
  | .sync m, net => (sendSync hw port m net).map (Prod.map .sync id) id
  | .pathDelayReq m, net => (sendPathDelayReq hw port m net).map (Prod.map .pathDelayReq id) id
  | .pathDelayResp m, net => (sendPathDelayResp hw port m net).map (Prod.map .pathDelayResp id) id

/-- A message that is sent is transmitted as the others are. -/
theorem sendPort_eq_transmit (hw : LinuxTimestamperGeneric) {port : EtherPort F} {msg : EventMessage}
    (h : msg.IsSent port) (net : Net) :
    ((msg.sendPort hw port net).1.1.common, (msg.sendPort hw port net).1.2) =
        (transmit hw port msg.messageType msg.common net).1 ∧
      (msg.sendPort hw port net).2 = (transmit hw port msg.messageType msg.common net).2 := by
  cases msg with
  | sync m => exact ⟨rfl, rfl⟩
  | pathDelayReq m =>
    have hhalted : port.pdelay.pdelayHalted = false := h
    simp only [sendPort, sendPathDelayReq, hhalted, if_neg Bool.false_ne_true]
    exact ⟨rfl, rfl⟩
  | pathDelayResp m => exact ⟨rfl, rfl⟩

end EventMessage

end Port

/-! ### Waiting for the timestamp -/

section Await

variable [Platform F]

/-- The timestamp of the message among the answers within the retries. -/
def Net.obtained (F : Type) [Platform F] (hw : LinuxTimestamperGeneric) (messageId : PTPMessageId)
    (net : Net) : Option Timestamp :=
  (net.reads.take (1 + txTimeoutIter)).findSome? fun read => (hw.txResult F messageId read).toOption

/-- The calls leave the lock alone, and `k` of them read the error queue. -/
structure Reads (k : ℕ) (calls : List NetCall) : Prop where
  lock : .lock ∉ calls
  unlock : .unlock ∉ calls
  count : calls.count .recvmsg = k

theorem Reads.append_of_ne {k : ℕ} {calls : List NetCall} {c : NetCall} (h : Reads k calls)
    (hlock : c ≠ .lock) (hunlock : c ≠ .unlock) (hread : c ≠ .recvmsg) : Reads k (calls ++ [c]) where
  lock := by simp [h.lock, hlock.symm]
  unlock := by simp [h.unlock, hunlock.symm]
  count := by rw [List.count_append, h.count, List.count_singleton, if_neg (by simpa using hread),
    Nat.add_zero]

theorem Reads.recvmsg {k : ℕ} {calls : List NetCall} (h : Reads k calls) :
    Reads (k + 1) (calls ++ [.recvmsg]) where
  lock := by simp [h.lock]
  unlock := by simp [h.unlock]
  count := by rw [List.count_append, h.count, List.count_singleton, if_pos (by decide)]

/-- From `net₀` to `net` the error queue has been read `k` times, without success. -/
structure Awaiting (F : Type) [Platform F] (hw : LinuxTimestamperGeneric) (messageId : PTPMessageId)
    (net₀ : Net) (k : ℕ) (net : Net) : Prop where
  calls : ∃ calls, net.calls = net₀.calls ++ calls ∧ Reads k calls
  reads : net.reads = net₀.reads.drop k
  failed : ∀ j < k, (hw.txResult F messageId (net₀.reads.get j)).toOption = none

/-- From `net₀` to `net` a timestamp has been found, or the search for one given up, and the lock has
been released with the last call. -/
structure Awaited (F : Type) [Platform F] (hw : LinuxTimestamperGeneric) (messageId : PTPMessageId)
    (net₀ : Net) (ret : Except TimestampError Timestamp) (net : Net) : Prop where
  result : ret.toOption = net₀.obtained F hw messageId
  calls : ∃ k calls, net.calls = net₀.calls ++ (calls ++ [.unlock]) ∧ Reads k calls ∧
    k ≤ 1 + txTimeoutIter

variable {hw : LinuxTimestamperGeneric} {messageId : PTPMessageId} {net₀ net : Net} {k : ℕ}

/-- The next read of the error queue. -/
def Net.recvmsg (net : Net) : Net := { net.call .recvmsg with reads := net.reads.tail }

theorem Awaiting.head (h : Awaiting F hw messageId net₀ k net) :
    net.reads.head = net₀.reads.get k := by
  rw [h.reads, Stream'.head_drop]

theorem Awaiting.pause (h : Awaiting F hw messageId net₀ k net) (micros : UInt32) :
    Awaiting F hw messageId net₀ k (net.call (.sleep micros)) where
  calls := by
    obtain ⟨calls, heq, hreads⟩ := h.calls
    refine ⟨calls ++ [.sleep micros], ?_, hreads.append_of_ne nofun nofun nofun⟩
    rw [Net.call, heq, List.append_assoc]
  reads := h.reads
  failed := h.failed

/-- A read that fails leaves the lock held. -/
theorem Awaiting.recvmsg (h : Awaiting F hw messageId net₀ k net)
    (hfailed : (hw.txResult F messageId net.reads.head).toOption = none) :
    Awaiting F hw messageId net₀ (k + 1) net.recvmsg where
  calls := by
    obtain ⟨calls, heq, hreads⟩ := h.calls
    refine ⟨calls ++ [.recvmsg], ?_, hreads.recvmsg⟩
    rw [Net.recvmsg, Net.call, heq, List.append_assoc]
  reads := by rw [Net.recvmsg, h.reads, Stream'.tail_drop']
  failed := by
    intro j hj
    rcases Nat.lt_or_eq_of_le (Nat.le_of_lt_succ hj) with hlt | rfl
    · exact h.failed j hlt
    · rw [← h.head]
      exact hfailed

/-- A read that succeeds, or that is the last, releases the lock. -/
theorem Awaiting.unlock (h : Awaiting F hw messageId net₀ k net) (hk : k ≤ txTimeoutIter)
    (hfinal : (hw.txResult F messageId net.reads.head).toOption ≠ none ∨ k = txTimeoutIter) :
    Awaited F hw messageId net₀ (hw.txResult F messageId net.reads.head)
      (net.recvmsg.call .unlock) where
  result := by
    rw [h.head] at hfinal ⊢
    rw [Net.obtained, Nat.add_comm]
    exact (Retry.findSome?_take hk h.failed hfinal).symm
  calls := by
    obtain ⟨calls, heq, hreads⟩ := h.calls
    refine ⟨k + 1, calls ++ [.recvmsg], ?_, hreads.recvmsg, by omega⟩
    rw [Net.call, Net.recvmsg, Net.call, heq]
    simp only [List.append_assoc]

/-- **Waiting for a transmit timestamp.** With an open socket the loop returns the first timestamp of
the message among the answers, and makes the call that releases the lock exactly once, at its end. -/
theorem awaitTxTimestamp_awaited (hsd : hw.sd ≠ -1) (messageId : PTPMessageId) (net : Net) :
    Awaited F hw messageId net (awaitTxTimestamp F hw messageId net).1
      (awaitTxTimestamp F hw messageId net).2 := by
  -- the failed attempts keep the lock; the attempt that succeeds, or is flagged, releases it
  refine Retry.run_rule (I := Awaiting F hw messageId net) (Q := Awaited F hw messageId net)
    (by decide) (fun j k net' h => h.pause _) (fun k hk net' h => ?_) (fun net' h => ?_)
    ⟨⟨[], (List.append_nil _).symm, nofun, nofun, rfl⟩, rfl, nofun⟩
  · unfold LinuxTimestamperGeneric.txtimestamp
    rw [if_neg hsd]
    cases hret : hw.txResult F messageId net'.reads.head with
    | ok timestamp =>
      have hfinal := h.unlock hk.le (.inl (by rw [hret]; exact Option.some_ne_none timestamp))
      rw [hret] at hfinal
      exact hfinal
    | error e => exact h.recvmsg (by rw [hret]; rfl)
  · -- the flagged attempt unlocks whatever it finds
    unfold LinuxTimestamperGeneric.txtimestamp
    rw [if_neg hsd]
    dsimp only
    rw [Bool.or_true, if_pos rfl]
    exact h.unlock le_rfl (.inr rfl)

end Await

/-! ### Transmissions -/

section Transmissions

variable [Platform F]

/-- What a transmission makes of the message and returns is what the daemon has for a transmission whose
timestamp was obtained within the retries. -/
theorem transmit_fst {hw : LinuxTimestamperGeneric} (hsd : hw.sd ≠ -1) (d : Daemon F)
    (messageType : MessageType) (m : PTPMessageCommon) (net : Net) (env : Env)
    (htx : env.txTimestamp = net.obtained F hw ⟨messageType.code, m.sequenceId⟩)
    (hsend : env.sendOk = net.sends.head) :
    (transmit hw d.port messageType m net).1 =
      ({ m with timestamp := (d.getTxTimestamp env).1 }, (d.getTxTimestamp env).2) := by
  have hresult := (awaitTxTimestamp_awaited (F := F) hsd ⟨messageType.code, m.sequenceId⟩
    (sendEventPort d.port net).2).result
  have hobtained : (sendEventPort d.port net).2.obtained F hw ⟨messageType.code, m.sequenceId⟩ =
    net.obtained F hw ⟨messageType.code, m.sequenceId⟩ := rfl
  have hspeed : (sendEventPort d.port net).1 =
      if env.sendOk then d.port.linkSpeed else invalidLinkSpeed := by
    rw [hsend]
    rfl
  rw [hobtained, ← htx] at hresult
  unfold transmit Linux.getTxTimestamp Daemon.getTxTimestamp
  dsimp only
  -- of the loop only its result is needed
  generalize awaitTxTimestamp F hw ⟨messageType.code, m.sequenceId⟩ (sendEventPort d.port net).2 = r
    at hresult ⊢
  rw [← hresult]
  obtain ⟨ret, net'⟩ := r
  cases ret with
  | ok timestamp =>
    dsimp only [Except.toOption]
    rw [hspeed]
  | error e => rfl

/-- The calls of a transmission: the lock is taken first and released last. -/
theorem transmit_calls {hw : LinuxTimestamperGeneric} (hsd : hw.sd ≠ -1) (port : EtherPort F)
    (messageType : MessageType) (m : PTPMessageCommon) (net : Net) :
    ∃ k calls, (transmit hw port messageType m net).2.calls =
        net.calls ++ (.lock :: .sendtoEvent :: (calls ++ [.unlock])) ∧ Reads k calls ∧
      k ≤ 1 + txTimeoutIter := by
  obtain ⟨k, calls, heq, hreads, hk⟩ := (awaitTxTimestamp_awaited (F := F) hsd
    ⟨messageType.code, m.sequenceId⟩ (sendEventPort port net).2).calls
  refine ⟨k, calls, ?_, hreads, hk⟩
  -- compensation makes no call
  have hnet : (transmit hw port messageType m net).2 =
      (awaitTxTimestamp F hw ⟨messageType.code, m.sequenceId⟩ (sendEventPort port net).2).2 := by
    unfold transmit Linux.getTxTimestamp
    dsimp only
    split <;> rfl
  have hsent : (sendEventPort port net).2.calls = net.calls ++ [.lock] ++ [.sendtoEvent] := rfl
  rw [hnet, heq, hsent]
  simp only [List.append_assoc, List.cons_append, List.nil_append]

namespace EventMessage

/-- The message that the timestamper looks for. -/
def messageId (msg : EventMessage) : PTPMessageId := ⟨msg.messageType.code, msg.common.sequenceId⟩

/-- **Transmission and the daemon.** The message is given the timestamp, and the port the result, that
the daemon has for a transmission whose timestamp was obtained within the retries. -/
theorem sendPort_eq {hw : LinuxTimestamperGeneric} (hsd : hw.sd ≠ -1) (d : Daemon F)
    {msg : EventMessage} (hsent : msg.IsSent d.port) (net : Net) (env : Env)
    (htx : env.txTimestamp = net.obtained F hw msg.messageId) (hsend : env.sendOk = net.sends.head) :
    ((msg.sendPort hw d.port net).1.1.common, (msg.sendPort hw d.port net).1.2) =
      ({ msg.common with timestamp := (d.getTxTimestamp env).1 }, (d.getTxTimestamp env).2) := by
  rw [(sendPort_eq_transmit hw hsent net).1]
  exact transmit_fst hsd d msg.messageType msg.common net env htx hsend

/-- **Transmissions and the lock.** Whatever the kernel answers, the transmission of an event message
takes the lock once, as its first call, and releases it once, as its last call, after at most
`1 + txTimeoutIter` reads of the error queue. -/
theorem sendPort_locks_once {hw : LinuxTimestamperGeneric} (hsd : hw.sd ≠ -1) (port : EtherPort F)
    (msg : EventMessage) (hsent : msg.IsSent port) (net : Net) :
    ∃ calls, (msg.sendPort hw port net).2.calls = net.calls ++ calls ∧
      calls.count .lock = 1 ∧ calls.count .unlock = 1 ∧ calls.head? = some .lock ∧
      calls.getLast? = some .unlock ∧ calls.count .recvmsg ≤ 1 + txTimeoutIter := by
  obtain ⟨k, calls, heq, hreads, hk⟩ := transmit_calls hsd port msg.messageType msg.common net
  refine ⟨.lock :: .sendtoEvent :: (calls ++ [.unlock]), ?_, ?_, ?_, rfl, ?_, ?_⟩
  · rw [(sendPort_eq_transmit hw hsent net).2]
    exact heq
  · simp [List.count_append, List.count_eq_zero.mpr hreads.lock]
  · simp [List.count_append, List.count_eq_zero.mpr hreads.unlock]
  · rw [List.getLast?_cons_cons, List.getLast?_cons, List.getLast?_concat]
    rfl
  · simpa [List.count_cons, List.count_append, hreads.count] using hk

end EventMessage

end Transmissions

/-- A request whose timestamp never appears in the error queue. -/
theorem silentErrorQueue_locks_once :
    (Start.standard localIdentity : Start ℚ).daemon.port.pdelay.pdelayHalted = false ∧
      ∃ calls, ((EventMessage.pathDelayReq ⟨neighborHeader 0⟩).sendPort ⟨3, 0⟩
          (Start.standard localIdentity : Start ℚ).daemon.port
          ⟨[], fun _ => true, fun _ => .error eagain⟩).2.calls = [] ++ calls ∧
        calls.count .lock = 1 ∧ calls.count .unlock = 1 ∧ calls.head? = some .lock ∧
        calls.getLast? = some .unlock ∧ calls.count .recvmsg ≤ 1 + txTimeoutIter := by
  have hsd : (⟨3, 0⟩ : LinuxTimestamperGeneric).sd ≠ -1 := by decide
  have hsent : (EventMessage.pathDelayReq ⟨neighborHeader 0⟩).IsSent
    (Start.standard localIdentity : Start ℚ).daemon.port := rfl
  exact ⟨rfl, EventMessage.sendPort_locks_once hsd _ _ hsent _⟩

end Linux

end Gptp
