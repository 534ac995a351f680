import Gptp.Message.Codec
import Gptp.Port.Run

/-!
# The listening thread

`EtherPort::openPort` receives frames into a buffer of 128 octets on its stack and hands them to
`EtherPort::processMessage`, which decodes them and lets the message process itself. A frame that is
longer than the buffer is cut off by the operating system, and the length reported is that of the part
that was copied.

* `Frame.buffer`, `Frame.received`: the memory and the length the decoder is handed. The memory is
  that of the stack: what lies behind the received octets is arbitrary.
* `Daemon.listen`: one turn of the loop of `openPort`.
* `listeningMachine`: the thread interleaved with everything else that happens to the port.
* `listening_simulates`: the states it reaches are those of runs with decoded messages, so what holds
  of these holds of frames.
-/

namespace Gptp

open Framework

variable {F : Type} [Platform F]

/-! ### Frames -/

/-- The octets of a frame behind the Ethernet header. -/
abbrev Frame := List UInt8

namespace Frame

/-- `sizeof(buf)` in `EtherPort::openPort`. -/
def bufferSize : ℕ := 128

/-- The memory at `buf` after `recv`, which finds `stack` there. -/
def buffer (frame : Frame) (stack : Mem) : Mem := stack.store 0 (frame.take bufferSize)

/-- The length `recv` reports. -/
def received (frame : Frame) : ℕ := min frame.length bufferSize

/-- What the decoder can read of the frame is what was sent. -/
theorem read_buffer {frame : Frame} {a w : ℕ} (h : a + w ≤ frame.received) (stack : Mem) :
    (frame.buffer stack).read a w = (frame.drop a).take w := by
  have hlength : (frame.take bufferSize).length = frame.received := by
    rw [List.length_take, received, min_comm]
  have hall := Mem.read_store stack 0 _ hlength
  have hpart := Mem.read_eq_take_drop hall h
  rw [Nat.zero_add] at hpart
  have hfits : w ≤ bufferSize - a := by
    have := h.trans (min_le_right _ _)
    omega
  rw [buffer, hpart, List.drop_take, List.take_take, min_eq_left hfits]

theorem buffer_zero {frame : Frame} {b : UInt8} (h : frame.head? = some b) (stack : Mem) :
    frame.buffer stack 0 = b := by
  cases frame with
  | nil => cases h
  | cons c cs => exact Option.some.inj h

/-- Behind the buffer the decoder reads the stack. -/
theorem buffer_of_le {frame : Frame} {i : ℕ} (h : bufferSize ≤ i) (stack : Mem) :
    frame.buffer stack i = stack i := by
  apply Mem.store_of_ge
  rw [List.length_take]
  omega

end Frame

/-! ### The loop -/

/-- What `recv` returns: a frame, with its RX timestamp if it has one and the memory it was copied
over, or one of its two failures. -/
inductive Reception where
  | succeed (frame : Frame) (rx : Option Timestamp) (stack : Mem)
  | trfail
  | fatal

namespace Daemon

/-- `EtherPort::processMessage`. What happens to a decoded message is a step of the daemon. -/
def processBuffer (env : Env) (buf : Mem) (length : ℕ) (rx : Option Timestamp) (linkSpeed : UInt32)
    (d : Daemon F) : Daemon F :=
  match buildPTPMessage F buf length rx with
  | none => d
  | some msg => d.step ⟨.receive msg linkSpeed, env⟩

/-- One turn of the loop of `EtherPort::openPort`, and whether the thread goes on. -/
def listen (env : Env) (r : Reception) (d : Daemon F) : Daemon F × Bool :=
  match r with
  | .succeed frame rx stack =>
    (d.processBuffer env (frame.buffer stack) frame.received rx d.port.linkSpeed, true)
  | .trfail => (d, true)
  | .fatal => (d.step ⟨.event .faultDetected, env⟩, false)

/-- A turn of the loop is a step of the daemon or leaves it alone. -/
theorem listen_eq (env : Env) (r : Reception) (d : Daemon F) :
    (d.listen env r).1 = d ∨ ∃ i, d.enabled i ∧ (d.listen env r).1 = d.step i := by
  cases r with
  | succeed frame rx stack =>
    unfold listen processBuffer
    dsimp only
    cases buildPTPMessage F (frame.buffer stack) frame.received rx with
    | none => exact .inl rfl
    | some msg => exact .inr ⟨⟨.receive msg d.port.linkSpeed, env⟩, trivial, rfl⟩
  | trfail => exact .inl rfl
  | fatal => exact .inr ⟨⟨.event .faultDetected, env⟩, rfl, rfl⟩

end Daemon

/-! ### The thread among the others -/

/-- A daemon, and whether its listening thread is running. -/
structure Listening (F : Type) where
  daemon : Daemon F
  running : Bool

/-- A turn of the listening thread, or anything else that happens to the port. -/
inductive ThreadInput where
  | listen (env : Env) (r : Reception)
  | other (i : Input)

namespace Listening

/-- Handles one input. -/
def step (s : Listening F) : ThreadInput → Listening F
  | .listen env r => ⟨(s.daemon.listen env r).1, (s.daemon.listen env r).2⟩
  | .other i => ⟨s.daemon.step i, s.running⟩

/-- The thread takes turns while it is running; messages are what it receives. -/
def enabled (s : Listening F) : ThreadInput → Prop
  | .listen _ _ => s.running
  | .other i => (∀ msg linkSpeed, i.stimulus ≠ .receive msg linkSpeed) ∧ s.daemon.enabled i

end Listening

/-- The listening daemon as a machine. -/
def listeningMachine (F : Type) [Platform F] : Machine (Listening F) ThreadInput where
  enabled := Listening.enabled
  step := Listening.step

instance : Inhabited Input := ⟨Input.ofEvent .powerup⟩

/-- **Frames refine messages.** What a daemon that receives frames can reach, a daemon that is handed
messages can reach. -/
theorem listening_simulates (d₀ : Daemon F) {τ : ℕ → ThreadInput} {n : ℕ}
    (hdelivers : (listeningMachine F).Delivers ⟨d₀, true⟩ τ n) :
    ∃ σ m, (machine F).Delivers d₀ σ m ∧
      (machine F).stateAt d₀ σ m = ((listeningMachine F).stateAt ⟨d₀, true⟩ τ n).daemon := by
  refine Machine.exists_simulation (M := machine F) (N := listeningMachine F) Listening.daemon
    (fun s j henabled => ?_) hdelivers
  cases j with
  | listen env r => exact s.daemon.listen_eq env r
  | other i => exact .inr ⟨i, henabled.2, rfl⟩

end Gptp
