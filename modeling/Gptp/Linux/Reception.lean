import Gptp.Framework.Retry
import Gptp.Linux.Timestamping
import Gptp.Message.ParseBounds
import Gptp.Port.Listen

/-!
# Reception of event messages

`LinuxNetworkInterface::nrecv` copies a frame into the buffer of the listening thread. The receive time,
if the kernel hands one over with an event message, goes another way: it is put into a list of the
timestamper, from which `buildPTPMessage` takes it when it decodes the frame. The two look at the first
octet of the frame with different tests, and `buildPTPMessage` can give up in many places. A time that
is put into the list but not taken out would be given to the next event message, and so on for ever.

* `RecvAnswers`: what the system answers to the calls of `nrecv`.
* `nrecv`, `rxtimestamp`, `decode`: the way of a receive time through the list.
* `RxListening`, `rxMachine`: the listening thread with the list, among everything else that happens to
  the port. A phase adjustment empties the list.
* `RxListening.step_of_nil`: from an empty list, a turn of the thread is a turn with the receive time of
  the frame itself.
* `rxTimestamps_own`: in every run the list is empty whenever the thread starts to read, and every event
  message has the time that was captured for its own frame.
-/

namespace Gptp

open Framework

namespace Linux

variable {F : Type}

/-! ### Receiving a frame -/

/-- The answer of `select` on the event socket. -/
inductive SelectResult where
  | timeout
  | failed
  | ready (isSet : Bool)

/-- The answers to the calls of `nrecv`, and the memory at `payload`. -/
structure RecvAnswers where
  /-- Whether `net_lock.lock` succeeds, and whether it got the lock. -/
  lock : Bool
  gotNetLock : Bool
  select : SelectResult
  recvmsg : Except Int32 (Frame × List ControlMessage)
  stack : Mem
  /-- Whether `net_lock.unlock` succeeds. -/
  unlock : Bool

/-- `net_result`, with what has been received. -/
inductive NetResult where
  | succeed (frame : Frame) (stack : Mem)
  | trfail
  | fatal

/-- `ENOMSG`. -/
def enomsg : Int32 := 42

/-- `LinuxTimestamperGeneric::pushRXTimestamp`. -/
def pushRXTimestamp (version : UInt8) (tstamp : Timestamp) (rxTimestampList : List Timestamp) :
    List Timestamp :=
  { tstamp with version := version } :: rxTimestampList

/-- The part of `nrecv` that reads the event socket. -/
def nrecvFrame (version : UInt8) (a : RecvAnswers) (rxTimestampList : List Timestamp) :
    NetResult × List Timestamp :=
  match a.select with
  | .timeout => (.trfail, rxTimestampList)
  -- the error is compared with EINTR where it is -1
  | .failed => (.fatal, rxTimestampList)
  | .ready false => (.trfail, rxTimestampList)
  | .ready true => match a.recvmsg with
    | .error errno => (if errno = enomsg then .trfail else .fatal, rxTimestampList)
    | .ok (frame, control) =>
      let rxTimestampList :=
        if 0 < frame.received ∧ frame.buffer a.stack 0 &&& 0x8 = 0 then
          match retrieveTimestamp control with
          | some device => pushRXTimestamp version device rxTimestampList
          | none => rxTimestampList
        else rxTimestampList
      (.succeed frame a.stack, rxTimestampList)

/-- `LinuxNetworkInterface::nrecv`. -/
def nrecv (version : UInt8) (a : RecvAnswers) (rxTimestampList : List Timestamp) :
    NetResult × List Timestamp :=
  if !a.lock then (.fatal, rxTimestampList)
  else if !a.gotNetLock then (.trfail, rxTimestampList)
  else
    let (ret, rxTimestampList) := nrecvFrame version a rxTimestampList
    (if a.unlock then ret else .fatal, rxTimestampList)

/-! ### Decoding a frame -/

/-- `LinuxTimestamperGeneric::HWTimestamper_rxtimestamp`. -/
def rxtimestamp (rxTimestampList : List Timestamp) : Except TimestampError Timestamp × List Timestamp :=
  match rxTimestampList.getLast? with
  | none => (.error .eagain, rxTimestampList)
  | some timestamp => (.ok timestamp, rxTimestampList.dropLast)

/-- The loop of `buildPTPMessage` around `getRxTimestamp`. -/
def awaitRxTimestamp : List Timestamp → Except TimestampError Timestamp × List Timestamp :=
  Retry.run (fun _ => rxtimestamp) (fun _ => id) 5

/-- `buildPTPMessage`, with the list that it takes the receive time of an event message from. -/
def decode (F : Type) [Platform F] (buf : Mem) (size : ℕ) (rxTimestampList : List Timestamp) :
    Option PTPMessage × List Timestamp :=
  if (buf 0 &&& 0xF) >>> 3 = 0 then
    let (ret, rxTimestampList) := awaitRxTimestamp rxTimestampList
    (buildPTPMessage F buf size ret.toOption, rxTimestampList)
  else (buildPTPMessage F buf size none, rxTimestampList)

/-! ### The listening thread -/

/-- `HWTimestamper_adjclockphase` empties the list. -/
def adjclockphase (effects : List (Effect F)) (rxTimestampList : List Timestamp) : List Timestamp :=
  if effects.any fun
    | .adjustClockPhase _ => true
    | _ => false
  then [] else rxTimestampList

/-- The listening thread and the list of the timestamper. -/
structure RxListening (F : Type) where
  listening : Listening F
  rxTimestampList : List Timestamp

/-- A turn of the listening thread, or anything else that happens to the port. -/
inductive RxInput where
  | listen (env : Env) (a : RecvAnswers)
  | other (i : Input)

namespace RxListening

variable [Platform F]

/-- What a turn of the thread decodes. -/
def built (s : RxListening F) (a : RecvAnswers) : Option PTPMessage :=
  match nrecv s.listening.daemon.port.timestampVersion a s.rxTimestampList with
  | (.succeed frame stack, list) => (decode F (frame.buffer stack) frame.received list).1
  | _ => none

/-- Handles an input in the daemon, with the phase adjustments made on the way. -/
def handle (d : Daemon F) (i : Input) (running : Bool) (list : List Timestamp) : RxListening F :=
  ⟨⟨d.step i, running⟩, adjclockphase (d.step i).effects list⟩

/-- One turn of the loop of `EtherPort::openPort`. -/
def listen (env : Env) (a : RecvAnswers) (s : RxListening F) : RxListening F :=
  let d := s.listening.daemon
  match nrecv d.port.timestampVersion a s.rxTimestampList with
  | (.succeed frame stack, list) =>
    match decode F (frame.buffer stack) frame.received list with
    | (none, list) => ⟨⟨d, true⟩, list⟩
    | (some msg, list) => handle d ⟨.receive msg d.port.linkSpeed, env⟩ true list
  | (.trfail, list) => ⟨⟨d, true⟩, list⟩
  | (.fatal, list) => handle d ⟨.event .faultDetected, env⟩ false list

/-- Handles one input. -/
def step (s : RxListening F) : RxInput → RxListening F
  | .listen env a => s.listen env a
  | .other i => handle s.listening.daemon i s.listening.running s.rxTimestampList

/-- The thread takes turns while it is running; messages are what it receives. -/
def enabled (s : RxListening F) : RxInput → Prop
  | .listen _ _ => s.listening.running
  | .other i => (∀ msg linkSpeed, i.stimulus ≠ .receive msg linkSpeed) ∧ s.listening.daemon.enabled i

end RxListening

/-- The listening thread with its list as a machine. -/
def rxMachine (F : Type) [Platform F] : Machine (RxListening F) RxInput where
  enabled := RxListening.enabled
  step := RxListening.step

/-! ### The receive time of a frame -/

/-- The frame that is handed to the decoder, with its control messages. -/
def RecvAnswers.frame (a : RecvAnswers) : Option (Frame × List ControlMessage) :=
  if a.lock && a.gotNetLock && a.unlock then
    match a.select, a.recvmsg with
    | .ready true, .ok received => some received
    | _, _ => none
  else none

/-- The time that the kernel captured for a frame, under the version of the timestamper. -/
def captured (version : UInt8) (control : List ControlMessage) : Option Timestamp :=
  (retrieveTimestamp control).map fun device => { device with version := version }

/-- The frame begins with the header of an event message. -/
def isEventFrame (frame : Frame) : Bool :=
  match frame.head? with
  | some b => b &&& 0x8 = 0
  | none => false

/-- The receive time that goes with a frame. -/
def rxTimestamp (version : UInt8) (frame : Frame) (control : List ControlMessage) : Option Timestamp :=
  if isEventFrame frame then captured version control else none

/-- The test of `nrecv` and that of `buildPTPMessage` agree on the first octet. -/
theorem messageType_shiftRight_eq_zero_iff (b : UInt8) : (b &&& 0xF) >>> 3 = 0 ↔ b &&& 0x8 = 0 := by
  -- both read bit 3; there are only 256 octets to look at
  have h : ∀ x : BitVec 8, ((x &&& 0xF#8) >>> 3 = 0#8) ↔ x &&& 0x8#8 = 0#8 := by decide
  rw [← UInt8.toBitVec_inj, ← UInt8.toBitVec_inj]
  exact h b.toBitVec

theorem isEventFrame_iff (frame : Frame) (stack : Mem) :
    isEventFrame frame = true ↔ 0 < frame.received ∧ frame.buffer stack 0 &&& 0x8 = 0 := by
  cases frame with
  -- an empty frame leaves the octet to whatever is on the stack
  | nil => exact iff_of_false nofun (fun h => absurd h.1 (Nat.lt_irrefl 0))
  | cons b rest =>
    have hpos : 0 < Frame.received (b :: rest) :=
      Nat.lt_min.mpr ⟨Nat.succ_pos _, Nat.succ_pos _⟩
    have hfirst : Frame.buffer (b :: rest) stack 0 = b := Frame.buffer_zero rfl stack
    rw [hfirst, and_iff_right hpos]
    exact decide_eq_true_iff

/-- Reading from an empty list: a frame puts in what goes with it, and a failure that does not end the
thread puts in nothing. -/
theorem nrecv_nil (version : UInt8) (a : RecvAnswers) :
    (∃ frame control, a.frame = some (frame, control) ∧
      nrecv version a [] = (.succeed frame a.stack, (rxTimestamp version frame control).toList)) ∨
    a.frame = none ∧ (nrecv version a [] = (.trfail, []) ∨ (nrecv version a []).1 = .fatal) := by
  obtain ⟨lock, got, select, recvmsg, stack, unlock⟩ := a
  cases lock with
  | false => exact .inr ⟨rfl, .inr rfl⟩
  | true =>
  cases got with
  | false => exact .inr ⟨by simp [RecvAnswers.frame], .inl rfl⟩
  | true =>
  cases unlock with
  | false => exact .inr ⟨rfl, .inr rfl⟩
  | true =>
  match select, recvmsg with
  | .timeout, _ => exact .inr ⟨rfl, .inl rfl⟩
  | .failed, _ => exact .inr ⟨rfl, .inr rfl⟩
  | .ready false, _ => exact .inr ⟨rfl, .inl rfl⟩
  | .ready true, .error errno =>
    refine .inr ⟨rfl, ?_⟩
    by_cases h : errno = enomsg <;> simp [nrecv, nrecvFrame, h]
  | .ready true, .ok (frame, control) =>
    refine .inl ⟨frame, control, rfl, ?_⟩
    -- the branches of `nrecv` that return a frame
    have htest := isEventFrame_iff frame stack
    simp only [nrecv, nrecvFrame, rxTimestamp, captured, pushRXTimestamp, ← htest]
    by_cases hevent : isEventFrame frame = true
    · rw [if_pos hevent, if_pos hevent]
      cases retrieveTimestamp control <;> rfl
    · rw [if_neg hevent, if_neg hevent]
      rfl

/-- The retries find what a frame put into the empty list. -/
theorem awaitRxTimestamp_toList (rx : Option Timestamp) :
    (awaitRxTimestamp rx.toList).1.toOption = rx ∧ (awaitRxTimestamp rx.toList).2 = [] := by
  cases rx <;> exact ⟨rfl, rfl⟩

variable [Platform F]

/-- **Decoding.** With what the frame put into the empty list, it is decoded with its own receive time,
and the list is left empty. -/
theorem decode_rxTimestamp (version : UInt8) (frame : Frame) (control : List ControlMessage)
    (stack : Mem) :
    decode F (frame.buffer stack) frame.received (rxTimestamp version frame control).toList =
      (buildPTPMessage F (frame.buffer stack) frame.received (rxTimestamp version frame control),
        []) := by
  obtain ⟨hret, hlist⟩ := awaitRxTimestamp_toList (rxTimestamp version frame control)
  unfold decode
  split
  case isTrue =>
    -- an event message takes the one entry out
    generalize awaitRxTimestamp _ = r at hret hlist ⊢
    exact Prod.ext (congrArg (buildPTPMessage F _ _) hret) hlist
  case isFalse htest =>
    -- not an event message, whether the octet is of the frame or of the stack
    have hnot : ¬ isEventFrame frame = true := fun h =>
      htest ((messageType_shiftRight_eq_zero_iff _).mpr ((isEventFrame_iff frame stack).mp h).2)
    rw [rxTimestamp, if_neg hnot]
    rfl

/-- `PTPMessageCommon::isEvent`. -/
def isEvent : PTPMessage → Bool
  | .sync _ | .pathDelayReq _ | .pathDelayResp _ => true
  | .followUp _ | .pathDelayRespFollowUp _ | .announce _ | .signalling _ => false

/-- The timestamp of a message. -/
def timestamp : PTPMessage → Timestamp
  | .sync m => m.timestamp
  | .followUp m => m.timestamp
  | .pathDelayReq m => m.timestamp
  | .pathDelayResp m => m.timestamp
  | .pathDelayRespFollowUp m => m.timestamp
  | .announce m => m.timestamp
  | .signalling m => m.timestamp

omit [Platform F] in
/-- The type numbers of the event messages. -/
theorem messageType_of_isEvent {n : ℕ} {t : MessageType} (h : MessageType.ofNat? n = some t)
    (ht : t = .sync ∨ t = .pathDelayReq ∨ t = .pathDelayResp) : n = 0 ∨ n = 2 ∨ n = 3 := by
  unfold MessageType.ofNat? at h
  split at h <;> first | omega | (rcases ht with rfl | rfl | rfl <;> cases h)

omit [Platform F] in
theorem acceptHeader_eq_some {b : UInt8} {rx : Option Timestamp} {t : MessageType} {ts : Timestamp}
    (h : acceptHeader b rx = some (t, ts)) :
    MessageType.ofNat? (b &&& 0xF).toNat = some t ∧ ((b &&& 0xF) >>> 3 = 0 → rx = some ts) := by
  -- once the timestamp is chosen, the rest of the header is checked alike
  have hrest {ts' : Timestamp} (hr : (do
      if (b >>> 4) &&& 0xF ≠ 1 then none
      let messageType ← MessageType.ofNat? (b &&& 0xF).toNat
      return (messageType, ts') : Option (MessageType × Timestamp)) = some (t, ts)) :
      MessageType.ofNat? (b &&& 0xF).toNat = some t ∧ ts' = ts := by
    dsimp only at hr
    split at hr
    · cases hr
    · obtain ⟨t', ht', heq⟩ := Option.bind_eq_some_iff.mp hr
      cases heq
      exact ⟨ht', rfl⟩
  unfold acceptHeader at h
  dsimp only at h
  split at h
  case isTrue hevent =>
    obtain ⟨ts', hrx, hr⟩ := Option.bind_eq_some_iff.mp h
    obtain ⟨ht, rfl⟩ := hrest hr
    exact ⟨ht, fun _ => hrx⟩
  case isFalse hgeneral => exact ⟨(hrest h).1, fun hevent => absurd hevent hgeneral⟩

/-- The types that are decoded to event messages. -/
theorem parseBody_isEvent {buf : Mem} {size : ℕ} {t : MessageType}
    {message : PTPMessageCommon → PTPMessage} {base : ℕ} {common : PTPMessageCommon}
    (h : parseBody F buf size t = some (message, base)) (hevent : isEvent (message common)) :
    (t = .sync ∨ t = .pathDelayReq ∨ t = .pathDelayResp) ∧
      timestamp (message common) = common.timestamp := by
  unfold parseBody at h
  cases t with
  | sync =>
    dsimp only at h
    split at h
    · cases h
    · cases h
      exact ⟨.inl rfl, rfl⟩
  | pathDelayReq =>
    dsimp only at h
    split at h
    · cases h
    · cases h
      exact ⟨.inr (.inl rfl), rfl⟩
  | pathDelayResp =>
    dsimp only at h
    split at h
    · cases h
    · cases h
      exact ⟨.inr (.inr rfl), rfl⟩
  -- the remaining bodies are of general messages
  | followup =>
    dsimp only at h
    split at h
    · cases h
    · cases h
      cases hevent
  | pathDelayFollowup | announce | signalling =>
    cases h
    cases hevent
  | delayReq | delayResp | management => cases h

/-- An event message is decoded with the receive time it is given. -/
theorem timestamp_of_buildPTPMessage {buf : Mem} {size : ℕ} {rx : Option Timestamp} {msg : PTPMessage}
    (h : buildPTPMessage F buf size rx = some msg) (hevent : isEvent msg) :
    (buf 0 &&& 0xF) >>> 3 = 0 ∧ rx = some (timestamp msg) := by
  cases haccept : acceptHeader (buf 0) rx with
  | none =>
    rw [buildPTPMessage_eq_none haccept] at h
    cases h
  | some p =>
    obtain ⟨t, ts⟩ := p
    obtain ⟨htype, hrx⟩ := acceptHeader_eq_some haccept
    rw [buildPTPMessage_eq haccept, Option.map_eq_some_iff] at h
    obtain ⟨⟨message, base⟩, hbody, rfl⟩ := h
    obtain ⟨hkind, hts⟩ := parseBody_isEvent hbody hevent
    -- the type numbers 0, 2 and 3 pass the test that selects the receive time
    have hzero : (buf 0 &&& 0xF) >>> 3 = 0 := by
      rcases messageType_of_isEvent htype hkind with h | h | h
      · rw [show buf 0 &&& 0xF = 0 from UInt8.toNat_inj.mp h]
        rfl
      · rw [show buf 0 &&& 0xF = 2 from UInt8.toNat_inj.mp h]
        rfl
      · rw [show buf 0 &&& 0xF = 3 from UInt8.toNat_inj.mp h]
        rfl
    exact ⟨hzero, by rw [hrx hzero, hts]; rfl⟩

/-! ### Turns of the thread -/

/-- What `recv` returned, with the receive time of the frame itself. -/
def RecvAnswers.reception (version : UInt8) (a : RecvAnswers) : Reception :=
  match a.frame with
  | some (frame, control) => .succeed frame (rxTimestamp version frame control) a.stack
  | none => match (nrecv version a []).1 with
    | .trfail => .trfail
    | _ => .fatal

omit [Platform F] in
theorem adjclockphase_nil (effects : List (Effect F)) : adjclockphase effects [] = [] := by
  unfold adjclockphase
  split <;> rfl

namespace RxListening

/-- The input of the thread without the list that an input stands for. -/
def threadInput (s : RxListening F) : RxInput → ThreadInput
  | .listen env a => .listen env (a.reception s.listening.daemon.port.timestampVersion)
  | .other i => .other i

omit [Platform F] in
theorem enabled_threadInput {s : RxListening F} {i : RxInput} (h : s.enabled i) :
    s.listening.enabled (s.threadInput i) := by
  cases i with
  | listen env a => exact h
  | other i => exact h

/-- What is decoded with an empty list is what the frame is decoded to with its own receive time. -/
theorem built_of_nil {s : RxListening F} (h : s.rxTimestampList = []) (a : RecvAnswers) :
    s.built a = a.frame.bind fun (frame, control) =>
      buildPTPMessage F (frame.buffer a.stack) frame.received
        (rxTimestamp s.listening.daemon.port.timestampVersion frame control) := by
  unfold built
  rw [h]
  rcases nrecv_nil s.listening.daemon.port.timestampVersion a with
    ⟨frame, control, hframe, hrecv⟩ | ⟨hframe, hrecv | hrecv⟩
  · rw [hrecv, hframe]
    exact congrArg Prod.fst (decode_rxTimestamp _ frame control a.stack)
  · rw [hrecv, hframe]
    rfl
  · generalize nrecv s.listening.daemon.port.timestampVersion a [] = r at hrecv
    obtain ⟨ret, list⟩ := r
    cases hrecv
    rw [hframe]
    rfl

/-- **Step lemma.** From an empty list, a turn of the thread is a turn with the receive time of the frame
itself, and the list is empty again unless the thread has ended. -/
theorem step_of_nil {s : RxListening F} (h : s.rxTimestampList = []) (i : RxInput) :
    (s.step i).listening = s.listening.step (s.threadInput i) ∧
      ((s.step i).listening.running = true → (s.step i).rxTimestampList = []) := by
  cases i with
  | other i =>
    refine ⟨rfl, fun _ => ?_⟩
    change adjclockphase _ s.rxTimestampList = []
    rw [h, adjclockphase_nil]
  | listen env a =>
    change (s.listen env a).listening = s.listening.step (.listen env (a.reception _)) ∧
      ((s.listen env a).listening.running = true → (s.listen env a).rxTimestampList = [])
    unfold listen RecvAnswers.reception
    dsimp only
    rw [h]
    -- a frame, a failure after which the thread goes on, or one that ends it
    rcases nrecv_nil s.listening.daemon.port.timestampVersion a with
      ⟨frame, control, hframe, hrecv⟩ | ⟨hframe, hrecv | hrecv⟩
    · rw [hrecv, hframe]
      dsimp only
      rw [decode_rxTimestamp]
      unfold Listening.step Daemon.listen Daemon.processBuffer
      dsimp only
      cases buildPTPMessage F (frame.buffer a.stack) frame.received
          (rxTimestamp s.listening.daemon.port.timestampVersion frame control) with
      | none => exact ⟨rfl, fun _ => rfl⟩
      | some msg => exact ⟨rfl, fun _ => adjclockphase_nil _⟩
    · rw [hrecv, hframe]
      exact ⟨rfl, fun _ => rfl⟩
    · -- the thread ends, whatever is in the list
      generalize nrecv s.listening.daemon.port.timestampVersion a [] = r at hrecv
      obtain ⟨ret, list⟩ := r
      cases hrecv
      rw [hframe]
      exact ⟨rfl, nofun⟩

/-- The receive times of a turn of the thread that starts with an empty list: an event message is built
with the time captured for its frame, and an event frame without such a time is discarded. -/
theorem built_own {s : RxListening F} (h : s.rxTimestampList = []) (a : RecvAnswers) :
    (∀ msg, s.built a = some msg → isEvent msg → ∃ frame control,
      a.frame = some (frame, control) ∧
        captured s.listening.daemon.port.timestampVersion control = some (timestamp msg)) ∧
    ∀ frame control, a.frame = some (frame, control) → isEventFrame frame →
      captured s.listening.daemon.port.timestampVersion control = none → s.built a = none := by
  rw [built_of_nil h]
  constructor
  · intro msg hbuilt hevent
    obtain ⟨⟨frame, control⟩, hframe, hmsg⟩ := Option.bind_eq_some_iff.mp hbuilt
    -- the decoder was given the receive time, so the frame had one
    obtain ⟨-, hrx⟩ := timestamp_of_buildPTPMessage hmsg hevent
    refine ⟨frame, control, hframe, ?_⟩
    unfold rxTimestamp at hrx
    split at hrx
    · exact hrx
    · cases hrx
  · intro frame control hframe heventFrame hcaptured
    rw [hframe, Option.bind_some]
    dsimp only
    rw [rxTimestamp, if_pos heventFrame, hcaptured]
    -- the decoder gives up on an event message without a receive time
    refine buildPTPMessage_eq_none ?_
    have hoctet := (messageType_shiftRight_eq_zero_iff _).mpr
      ((isEventFrame_iff frame a.stack).mp heventFrame).2
    unfold acceptHeader
    dsimp only
    rw [if_pos hoctet]
    rfl

end RxListening

/-! ### Runs -/

/-- The list is empty while the thread is running. -/
def RxListening.Drained (s : RxListening F) : Prop :=
  s.listening.running = true → s.rxTimestampList = []

/-- A delivered input is handled as by the thread without the list, and keeps the list empty. -/
theorem RxListening.Drained.step {s : RxListening F} {i : RxInput} (h : s.Drained)
    (henabled : s.enabled i) :
    (s.step i).listening = s.listening.step (s.threadInput i) ∧ (s.step i).Drained := by
  by_cases hrunning : s.listening.running = true
  · exact s.step_of_nil (h hrunning) i
  · -- the thread has ended and takes no turns
    cases i with
    | listen env a => exact absurd henabled hrunning
    | other i => exact ⟨rfl, fun hrunning' => absurd hrunning' hrunning⟩

section Run

variable {d₀ : Daemon F} {τ : ℕ → RxInput} {n : ℕ}

theorem drained_stateAt (hdelivers : (rxMachine F).Delivers ⟨⟨d₀, true⟩, []⟩ τ n) :
    ∀ k ≤ n, ((rxMachine F).stateAt ⟨⟨d₀, true⟩, []⟩ τ k).Drained :=
  Machine.invariant (fun _ => rfl) fun k hk h => (h.step (hdelivers k hk)).2

/-- **The list refines the receive times.** The states of the listening thread with the list are those
of a thread that is handed the receive time of each frame together with the frame. -/
theorem reception_simulates (hdelivers : (rxMachine F).Delivers ⟨⟨d₀, true⟩, []⟩ τ n) :
    ∃ τ', (listeningMachine F).Delivers ⟨d₀, true⟩ τ' n ∧ ∀ k ≤ n,
      (listeningMachine F).stateAt ⟨d₀, true⟩ τ' k =
        ((rxMachine F).stateAt ⟨⟨d₀, true⟩, []⟩ τ k).listening := by
  obtain ⟨hdelivers', hstate⟩ := Machine.lockstep (M := listeningMachine F) (N := rxMachine F)
    (fun s l => l = s.listening) RxListening.threadInput rfl fun k hk l hl => by
      subst hl
      have hdrained := drained_stateAt hdelivers k hk.le
      exact ⟨RxListening.enabled_threadInput (hdelivers k hk),
        (hdrained.step (hdelivers k hk)).1.symm⟩
  exact ⟨_, hdelivers', hstate⟩

end Run

/-- **Receive times.** In every run of the listening thread the list of the timestamper is empty whenever
the thread starts to read, every event message is built with the time that was captured for its own
frame, and an event frame without such a time is discarded. -/
theorem rxTimestamps_own (d₀ : Daemon F) (τ : ℕ → RxInput) (n : ℕ)
    (hdelivers : (rxMachine F).Delivers ⟨⟨d₀, true⟩, []⟩ τ n) :
    (∀ k ≤ n, ((rxMachine F).stateAt ⟨⟨d₀, true⟩, []⟩ τ k).listening.running = true →
      ((rxMachine F).stateAt ⟨⟨d₀, true⟩, []⟩ τ k).rxTimestampList = []) ∧
    ∀ k < n, ∀ env a, τ k = .listen env a →
      (∀ msg, ((rxMachine F).stateAt ⟨⟨d₀, true⟩, []⟩ τ k).built a = some msg → isEvent msg →
        ∃ frame control, a.frame = some (frame, control) ∧
          captured ((rxMachine F).stateAt ⟨⟨d₀, true⟩, []⟩
            τ k).listening.daemon.port.timestampVersion control = some (timestamp msg)) ∧
      ∀ frame control, a.frame = some (frame, control) → isEventFrame frame →
        captured ((rxMachine F).stateAt ⟨⟨d₀, true⟩, []⟩
          τ k).listening.daemon.port.timestampVersion control = none →
        ((rxMachine F).stateAt ⟨⟨d₀, true⟩, []⟩ τ k).built a = none := by
  refine ⟨drained_stateAt hdelivers, fun k hk env a hi => ?_⟩
  have hrunning := hdelivers k hk
  rw [hi] at hrunning
  exact RxListening.built_own (drained_stateAt hdelivers k hk.le hrunning) a

/-- The reception of a frame, with what the kernel says about it. -/
def receiveFrame (frame : Frame) (control : List ControlMessage) : RecvAnswers where
  lock := true
  gotNetLock := true
  select := .ready true
  recvmsg := .ok (frame, control)
  stack := fun _ => 0
  unlock := true

/-- A Sync of the minimal length. -/
def minimalSync : Frame := 0x10 :: List.replicate 43 0

/-- A receive time of five seconds and seven nanoseconds. -/
def receiveTime : List ControlMessage := [⟨solSocket, soTimestamping, ⟨0, 0⟩, ⟨0, 0⟩, ⟨5, 7⟩⟩]

/-- A Sync with its receive time and its Follow_Up; a Sync without a receive time, and one with it. -/
def fourFrames : ℕ → RecvAnswers
  | 0 => receiveFrame minimalSync receiveTime
  | 1 => receiveFrame (0x18 :: List.replicate 75 0) []
  | 2 => receiveFrame minimalSync []
  | _ => receiveFrame minimalSync receiveTime

/-- A slave that steps the phase of its clock at the next offset. -/
def steppingSlave : Daemon ℚ :=
  { Start.capable (some .ptpSlave) with
    clockConfig := { ClockConfig.standard localIdentity with syntonize := true }
  }.daemon.newSyntonizationSetPoint

/-- The Follow_Up steps the phase, which starts a new version of the timestamps. The Sync after it is
discarded, and the next one is built with its own receive time, under the new version. -/
theorem fourFrames_own :
    let s (k : ℕ) : RxListening ℚ := (rxMachine ℚ).stateAt ⟨⟨steppingSlave, true⟩, []⟩
      (fun k => .listen .standard (fourFrames k)) k
    (s 1).listening.daemon.port.timestampVersion = 0 ∧
      (s 2).listening.daemon.port.timestampVersion = 1 ∧
      (∀ k ≤ 4, (s k).rxTimestampList = []) ∧ (s 2).built (fourFrames 2) = none ∧
      ∃ msg, (s 3).built (fourFrames 3) = some msg ∧ isEvent msg ∧
        captured 1 receiveTime = some (timestamp msg) := by
  intro s
  have hrunning : ∀ k ≤ 4, (s k).listening.running = true := by decide +kernel
  have hversion : ((rxMachine ℚ).stateAt ⟨⟨steppingSlave, true⟩, []⟩
      (fun k => .listen .standard (fourFrames k)) 3).listening.daemon.port.timestampVersion = 1 := by
    decide +kernel
  obtain ⟨hempty, hown⟩ := rxTimestamps_own steppingSlave (fun k => .listen .standard (fourFrames k)) 4
    fun k hk => hrunning k hk.le
  refine ⟨by decide +kernel, by decide +kernel, fun k hk => hempty k hk (hrunning k hk), ?_, ?_⟩
  · exact (hown 2 (by decide) .standard _ rfl).2 minimalSync [] rfl (by decide) rfl
  · have hevent : ((s 3).built (fourFrames 3)).map isEvent = some true := by decide +kernel
    obtain ⟨msg, hbuilt, hmsg⟩ := Option.map_eq_some_iff.mp hevent
    obtain ⟨frame, control, hframe, hcaptured⟩ :=
      (hown 3 (by decide) .standard _ rfl).1 msg hbuilt hmsg
    obtain ⟨rfl, rfl⟩ := Prod.mk.inj (Option.some.inj hframe)
    rw [hversion] at hcaptured
    exact ⟨msg, hbuilt, hmsg, hcaptured⟩

end Linux

end Gptp
