import Gptp.Message.PayloadRoundTrip

/-!
# TLVs and Signalling messages sent and received

The TLVs of Follow_Up and Signalling messages are copied to the frame as they lie in memory, and copied
back by the receiver. What is copied octet by octet in both directions comes back as it was, whatever the
byte order of the host (`FollowUpTLV.ofMem_of_read`, `SignallingTLV.ofMem_of_read`).

The encoder of Signalling messages is modelled here, after those of the other messages:
`PTPMessageSignalling.sendPort` and what its payload is decoded to (`buildPTPMessage_signalling`).
-/

namespace Gptp

open Framework

variable {F : Type} [Platform F] {buf : Mem} {a : ℕ}

/-! ### Reading a record field by field -/

/-- A region that holds two pieces holds the first, and behind it the second. -/
theorem read_append_inv (w w' : ℕ) {bs bs' : List UInt8} (h : buf.read a (w + w') = bs ++ bs')
    (hw : bs.length = w) : buf.read a w = bs ∧ buf.read (a + w) w' = bs' := by
  rw [Mem.read_add] at h
  exact List.append_inj h ((Mem.length_read _ _ _).trans hw.symm)

theorem load64_of_read {x : UInt64} (h : buf.read a 8 = bytes64 F x) : load64 F buf a = x := by
  have hmod : x.toNat % 256 ^ 8 = x.toNat := Nat.mod_eq_of_lt x.toNat_lt
  rw [load64, h, bytes64, Endian.value_bytes, hmod, UInt64.ofNat_toNat]

/-- The identifier of an organisation, and the octet behind it. -/
theorem organization_of_read {x : UInt8 × UInt8 × UInt8} {y : UInt8}
    (h : buf.read a 4 = [x.1, x.2.1, x.2.2, y]) :
    (buf a, buf (a + 1), buf (a + 2)) = x ∧ buf (a + 3) = y := by
  simp only [Mem.read_succ, List.cons.injEq] at h
  obtain ⟨h₀, h₁, h₂, h₃, -⟩ := h
  exact ⟨Prod.ext h₀ (Prod.ext h₁ h₂), h₃⟩

/-- A TLV survives being copied to a frame and back. -/
theorem FollowUpTLV.ofMem_of_read {t : FollowUpTLV} (h : buf.read a 32 = t.toByteString F) :
    FollowUpTLV.ofMem F buf a = t := by
  unfold toByteString at h
  simp only [List.append_assoc] at h
  -- field by field, in the order of the record
  obtain ⟨htype, h⟩ := read_append_inv 2 30 h (length_bytes16 _)
  obtain ⟨hlength, h⟩ := read_append_inv 2 28 h (length_bytes16 _)
  obtain ⟨horganization, h⟩ := read_append_inv 4 24 h rfl
  obtain ⟨hsubType, h⟩ := read_append_inv 2 22 h (length_bytes16 _)
  obtain ⟨hrate, h⟩ := read_append_inv 4 18 h (length_bytes32 _)
  obtain ⟨hindicator, h⟩ := read_append_inv 2 16 h (length_bytes16 _)
  obtain ⟨hphaseMs, h⟩ := read_append_inv 4 12 h (length_bytes32 _)
  obtain ⟨hphaseLs, hfreq⟩ := read_append_inv 8 4 h (length_bytes64 _)
  obtain ⟨hid, hsubTypeMs⟩ := organization_of_read horganization
  simp only [Nat.add_assoc, Nat.reduceAdd] at *
  rw [ofMem, load16_of_read htype, load16_of_read hlength, hid, hsubTypeMs, load16_of_read hsubType,
    load32_of_read hrate, load16_of_read hindicator, load32_of_read hphaseMs, load64_of_read hphaseLs,
    load32_of_read hfreq]
  rfl

/-! ### Signalling messages -/

/-- `SignallingTLV::toByteString`: the octets of the TLV as it lies in memory. -/
def SignallingTLV.toByteString (F : Type) [Platform F] (t : SignallingTLV) : List UInt8 :=
  bytes16 F t.tlvType ++ bytes16 F t.lengthField ++
    [t.organizationId.1, t.organizationId.2.1, t.organizationId.2.2, t.organizationSubTypeMs] ++
    bytes16 F t.organizationSubTypeLs ++
    [t.linkDelayInterval.toUInt8, t.timeSyncInterval.toUInt8, t.announceInterval.toUInt8, t.flags] ++
    bytes16 F t.reserved

/-- A TLV survives being copied to a frame and back. -/
theorem SignallingTLV.ofMem_of_read {t : SignallingTLV} (h : buf.read a 16 = t.toByteString F) :
    SignallingTLV.ofMem F buf a = t := by
  unfold toByteString at h
  simp only [List.append_assoc] at h
  obtain ⟨htype, h⟩ := read_append_inv 2 14 h (length_bytes16 _)
  obtain ⟨hlength, h⟩ := read_append_inv 2 12 h (length_bytes16 _)
  obtain ⟨horganization, h⟩ := read_append_inv 4 8 h rfl
  obtain ⟨hsubType, h⟩ := read_append_inv 2 6 h (length_bytes16 _)
  obtain ⟨hintervals, hreserved⟩ := read_append_inv 4 2 h rfl
  obtain ⟨hid, hsubTypeMs⟩ := organization_of_read horganization
  simp only [Mem.read_succ, List.cons.injEq] at hintervals
  obtain ⟨hlinkDelay, htimeSync, hannounce, hflags, -⟩ := hintervals
  simp only [Nat.add_assoc, Nat.reduceAdd] at *
  rw [ofMem, load16_of_read htype, load16_of_read hlength, hid, hsubTypeMs, load16_of_read hsubType,
    hlinkDelay, htimeSync, hannounce, hflags, load16_of_read hreserved]
  rfl

namespace PTPMessageSignalling

/-- The message as `sendPort` leaves it: with its length filled in. -/
def sent (m : PTPMessageSignalling) : PTPMessageSignalling := { m with messageLength := 34 + 10 + 16 }

/-- The payload `PTPMessageSignalling::sendPort` emits: `messageLength` octets of a zeroed buffer. Of the
identity of the target there is one octet. -/
def sendPort (F : Type) [Platform F] (m : PTPMessageSignalling) : Mem :=
  (m.sent.toPTPMessageCommon.buildCommonHeader F .signalling fun _ => 0)
    |>.store 34 [m.targetPortIdentify.toUInt8]
    |>.store (34 + 10) (m.tlv.toByteString F)

theorem carriesHeader_sendPort (m : PTPMessageSignalling) :
    CarriesHeader F .signalling m.sent.toPTPMessageCommon (m.sendPort F) :=
  ((carriesHeader_buildCommonHeader .signalling _ _).store le_rfl _).store (by omega) _

theorem read_tlv (m : PTPMessageSignalling) : (m.sendPort F).read 44 16 = m.tlv.toByteString F :=
  Mem.read_store _ _ _ (by simp [SignallingTLV.toByteString])

theorem read_target (m : PTPMessageSignalling) :
    (m.sendPort F).read 34 1 = [m.targetPortIdentify.toUInt8] := by
  unfold sendPort
  rw [Mem.read_store_of_disjoint (by simp)]
  exact Mem.read_store _ _ _ rfl

/-- **What a Signalling payload is decoded to.** The target and the TLV come back, and the header but for
the control field. The size of the frame does not matter. -/
theorem buildPTPMessage_signalling (m : PTPMessageSignalling) (size : ℕ) (rx : Option Timestamp)
    (hagree : Mem.AgreeBelow 60 (m.sendPort F) buf) :
    buildPTPMessage F buf size rx = some (.signalling
      { m.sent with control := load32 F buf 32, timestamp := .zero }) := by
  have haccept : acceptHeader (MessageType.signalling.code ||| 0x10) rx = some (.signalling, .zero) := by
    rw [acceptHeader_code]
    rfl
  have htlv : SignallingTLV.ofMem F buf 44 = m.tlv :=
    SignallingTLV.ofMem_of_read ((hagree.read (by omega)).symm.trans m.read_tlv)
  have htarget : buf 34 = m.targetPortIdentify.toUInt8 :=
    Mem.eq_of_read_one ((hagree.read (by omega)).symm.trans m.read_target)
  have hbody : parseBody F buf size .signalling = some (fun common => .signalling ⟨common,
      (buf 34).toInt8, SignallingTLV.ofMem F buf (34 + 10)⟩, 0) := rfl
  rw [htlv, htarget] at hbody
  exact (m.carriesHeader_sendPort.congr hagree (by omega)).decode haccept hbody

end PTPMessageSignalling

end Gptp
