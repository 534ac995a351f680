import Gptp.Framework.Memory

/-!
# Receiving frames from the packet capture library

`recvFrame` takes the next frame from the capture library and copies what is behind its Ethernet header to
the caller. The library reports two lengths: the octets it has captured, at most the snap length of the
interface, and the length of the frame on the wire. `recvFrame` goes by the latter, and subtracts the
header in 32 bits.

* `recvFrame_eq_noError_iff`: when a call succeeds.
* `recvFrame_captured_iff`: the payload is that of the captured frame, unless the caller has asked for more
  than was captured of a frame that is truncated, or shorter than a header.
-/

namespace Gptp

open Framework

/-- The values of `packet_error_t` that `recvFrame` returns. -/
inductive PacketError where
  | noError
  | getmutexError
  | rlsmutexError
  | recvtimeoutError
  | recvfailedError
  deriving DecidableEq

/-- `PACKET_HDR_LENGTH`. -/
def packetHdrLength : ℕ := 14

/-- `ETHER_ADDR_OCTETS`. -/
def etherAddrOctets : ℕ := 6

/-- A frame from the capture library: the lengths of its `pcap_pkthdr`, and the memory its data is in. Only
the first `caplen` octets of the memory belong to the frame. -/
structure CapturedFrame where
  caplen : UInt32
  len : UInt32
  data : Mem
  caplen_le : caplen.toNat ≤ len.toNat

/-- What `pcap_next_ex` returns: 0, a negative number, or a frame. -/
inductive PcapResult where
  | timeout
  | failed
  | frame (f : CapturedFrame)

/-- The parameters that `recvFrame` writes. -/
structure FrameBuffer where
  addr : List UInt8
  payload : Mem
  /-- `length`, the size of the caller's buffer before the call. -/
  length : ℕ

namespace FrameBuffer

/-- The length that `recvFrame` goes by: the frame without its header, in 32 bits, or what the caller
has asked for if that is not more. -/
def copyLength (len : UInt32) (length : ℕ) : ℕ :=
  let available := len - UInt32.ofNat packetHdrLength
  if length ≤ available.toNat then length else available.toNat

/-- What `recvFrame` does with a frame. -/
def copyFrame (f : CapturedFrame) (x : FrameBuffer) : FrameBuffer :=
  let length := copyLength f.len x.length
  { addr := f.data.read etherAddrOctets etherAddrOctets
    payload := x.payload.store 0 (f.data.read packetHdrLength length)
    length := length }

/-- `recvFrame`, with the outcomes of `WaitForSingleObject`, `pcap_next_ex` and `ReleaseMutex`. -/
def recvFrame (locked : Bool) (pcapResult : PcapResult) (released : Bool) (x : FrameBuffer) :
    PacketError × FrameBuffer :=
  if locked then
    let (ret, x) := match pcapResult with
      | .timeout => (PacketError.recvtimeoutError, x)
      | .failed => (.recvfailedError, x)
      | .frame f => (.noError, x.copyFrame f)
    if released then (ret, x) else (.rlsmutexError, x)
  else (.getmutexError, x)

/-- A call succeeds if it gets the lock, a frame, and rid of the lock. -/
theorem recvFrame_eq_noError_iff {locked released : Bool} {pcapResult : PcapResult} {x : FrameBuffer} :
    (x.recvFrame locked pcapResult released).1 = .noError ↔
      locked = true ∧ released = true ∧ ∃ f, pcapResult = .frame f := by
  cases locked <;> cases released <;> cases pcapResult <;> simp [recvFrame]

/-- A call that was given `x` has returned what of the captured frame fits in the buffer: octets behind the
header, and none that were not captured. -/
structure ReturnsCaptured (f : CapturedFrame) (x y : FrameBuffer) : Prop where
  length : y.length = min (f.caplen.toNat - packetHdrLength) x.length
  payload : y.payload = x.payload.store 0 (f.data.read packetHdrLength y.length)
  captured : y.length = 0 ∨ packetHdrLength + y.length ≤ f.caplen.toNat

theorem copyLength_eq_min (len : UInt32) (length : ℕ) :
    copyLength len length = min (len - UInt32.ofNat packetHdrLength).toNat length := by
  unfold copyLength
  dsimp only
  rw [min_comm, min_def]

/-- The length is right if all that was asked for is captured, or the whole frame is, header included. -/
theorem copyLength_eq_iff (f : CapturedFrame) (n : ℕ) :
    copyLength f.len n = min (f.caplen.toNat - packetHdrLength) n ↔
      n ≤ f.caplen.toNat - packetHdrLength ∨
        packetHdrLength ≤ f.len.toNat ∧
          f.len.toNat - packetHdrLength = f.caplen.toNat - packetHdrLength := by
  have hle := f.caplen_le
  have hlt := f.len.toNat_lt
  have havailable : (f.len - UInt32.ofNat packetHdrLength).toNat =
      (2 ^ 32 - packetHdrLength + f.len.toNat) % 2 ^ 32 := UInt32.toNat_sub ..
  rw [copyLength_eq_min, havailable, packetHdrLength]
  rcases Nat.lt_or_ge f.len.toNat 14 with hshort | hlong
  · -- a frame without a whole header seems to be as long as can be
    have hwrap : (2 ^ 32 - 14 + f.len.toNat) % 2 ^ 32 = 2 ^ 32 - 14 + f.len.toNat :=
      Nat.mod_eq_of_lt (by omega)
    rw [hwrap]
    omega
  · have hwrap : (2 ^ 32 - 14 + f.len.toNat) % 2 ^ 32 = f.len.toNat - 14 := by omega
    rw [hwrap]
    omega

/-- **Captured octets.** A successful call returns the captured payload, as much of it as fits in the
buffer, if and only if the buffer is no larger than the captured payload, or the frame has a whole header
and its payload was captured to the end. -/
theorem recvFrame_captured_iff (locked released : Bool) (f : CapturedFrame) (x : FrameBuffer)
    (hret : (x.recvFrame locked (.frame f) released).1 = .noError) :
    ReturnsCaptured f x (x.recvFrame locked (.frame f) released).2 ↔
      x.length ≤ f.caplen.toNat - packetHdrLength ∨
        packetHdrLength ≤ f.len.toNat ∧
          f.len.toNat - packetHdrLength = f.caplen.toNat - packetHdrLength := by
  obtain ⟨rfl, rfl, -⟩ := recvFrame_eq_noError_iff.mp hret
  have hcopied : (x.recvFrame true (.frame f) true).2 = x.copyFrame f := rfl
  rw [hcopied, ← copyLength_eq_iff]
  constructor
  · exact fun h => h.length
  · intro hlength
    refine ⟨hlength, rfl, ?_⟩
    have hcopy : (x.copyFrame f).length = min (f.caplen.toNat - packetHdrLength) x.length := hlength
    rw [hcopy]
    omega

/-- A frame of which `caplen` octets were captured, all zero, and followed by others. -/
def zeroFrame (caplen len : UInt32) (h : caplen.toNat ≤ len.toNat) : CapturedFrame :=
  ⟨caplen, len, fun i => if i < caplen.toNat then 0 else 0xAA, h⟩

/-- An empty buffer for `n` octets. -/
def empty (n : ℕ) : FrameBuffer := ⟨[], fun _ => 0, n⟩

/-- Of a frame within the snap length all is returned. -/
theorem wholeFrame_captured :
    let f := zeroFrame 90 90 le_rfl
    ReturnsCaptured f (empty 128) ((empty 128).recvFrame true (.frame f) true).2 :=
  (recvFrame_captured_iff true true (zeroFrame 90 90 le_rfl) (empty 128) rfl).mpr
    (.inr ⟨by decide, rfl⟩)

/-- Frames longer than the snap length of 96 octets, and frames shorter than a header, are returned with
octets that are not theirs. -/
theorem beyond_captured :
    let long := zeroFrame 96 100 (by decide)
    let short := zeroFrame 10 10 le_rfl
    let y := ((empty 128).recvFrame true (.frame long) true)
    let z := ((empty 128).recvFrame true (.frame short) true)
    y.1 = .noError ∧ y.2.length = 86 ∧ y.2.payload 85 = 0xAA ∧
      ¬ ReturnsCaptured long (empty 128) y.2 ∧
      z.1 = .noError ∧ z.2.length = 128 ∧ z.2.payload 0 = 0xAA ∧
      ¬ ReturnsCaptured short (empty 128) z.2 := by
  intro long short y z
  refine ⟨rfl, by decide, by decide, fun h => ?_, rfl, by decide, by decide, fun h => ?_⟩
  · exact absurd h.length (by decide)
  · exact absurd h.length (by decide)

end FrameBuffer

end Gptp
