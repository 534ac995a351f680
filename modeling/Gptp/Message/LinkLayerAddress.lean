import Gptp.Framework.Words
import Gptp.Message.Types
import Mathlib.Data.List.GetD
import Mathlib.Data.List.OfFn

/-!
# Link layer addresses and the clock identities made of them

A clock takes its identity from the MAC address of its interface: the two octets `FF FE` are inserted
between the halves of the address. `ClockIdentity::set` does this on a 64-bit number whose object
representation starts with the six octets of the address, so which octets of the number are the lower ones
depends on the host.

* `ClockIdentity.toNat_insertFEFF`: what the shifts make of the number.
* `ClockIdentity.toList_set_little`: on a little-endian host the result is the address with `FF FE` in its
  middle, so different addresses make different identities (`ClockIdentity.set_injective`).
* `ClockIdentity.toList_set_big`: on a big-endian host the first two octets of the address are shifted out.
-/

namespace Gptp

open Framework

/-- `LinkLayerAddress`: six octets. -/
structure LinkLayerAddress where
  addr : Fin 6 → UInt8

namespace LinkLayerAddress

/-- The octets in order. -/
def toList (l : LinkLayerAddress) : List UInt8 := List.ofFn l.addr

/-- `LinkLayerAddress::LinkLayerAddress(uint8_t *)`: the six octets at offset `a`. -/
def ofOctetArray (buf : Mem) (a : ℕ) : LinkLayerAddress := ⟨fun i => buf (a + i)⟩

/-- The loop of `LinkLayerAddress::LinkLayerAddress(uint64_t)`, with `n` more octets to take from the
upper end of the scalar. -/
def scalarOctets : ℕ → UInt64 → List UInt8
  | 0, _ => []
  | n + 1, addressScalar =>
    ((addressScalar &&& 0xFF00000000000000) >>> 56).toUInt8 :: scalarOctets n (addressScalar <<< 8)

/-- `LinkLayerAddress::LinkLayerAddress(uint64_t)`. -/
def ofScalar (addressScalar : UInt64) : LinkLayerAddress :=
  ⟨fun i => (scalarOctets 6 (addressScalar <<< 16)).getD i 0⟩

/-- `LinkLayerAddress::toOctetArray`, to offset `a`. -/
def toOctetArray (l : LinkLayerAddress) (a : ℕ) (buf : Mem) : Mem := buf.store a l.toList

@[simp] theorem length_toList (l : LinkLayerAddress) : l.toList.length = 6 := List.length_ofFn

theorem toList_injective : Function.Injective toList := by
  rintro ⟨f⟩ ⟨g⟩ h
  exact congrArg mk (List.ofFn_injective h)

theorem toList_ofOctetArray (buf : Mem) (a : ℕ) : (ofOctetArray buf a).toList = buf.read a 6 := by
  refine List.ext_getElem (by simp) fun i _ _ => ?_
  simp only [toList, ofOctetArray, Mem.read, List.getElem_ofFn, List.getElem_map, List.getElem_range]

/-! ### Addresses from a scalar -/

@[simp] theorem length_scalarOctets (n : ℕ) (s : UInt64) : (scalarOctets n s).length = n := by
  induction n generalizing s with
  | zero => rfl
  | succ n ih => rw [scalarOctets, List.length_cons, ih]

theorem toList_ofScalar_eq (s : UInt64) : (ofScalar s).toList = scalarOctets 6 (s <<< 16) := by
  refine List.ext_getElem (by simp) fun i _ hi => ?_
  simp only [toList, ofScalar, List.getElem_ofFn]
  exact List.getD_eq_getElem _ _ hi

/-- The octet at the upper end. -/
theorem toNat_upperOctet (s : UInt64) :
    ((s &&& 0xFF00000000000000) >>> 56).toUInt8.toNat = s.toNat / 2 ^ 56 := by
  have hlt := s.toNat_lt
  have hmask : (0xFF00000000000000 : UInt64).toNat >>> 56 = 2 ^ 8 - 1 := rfl
  have hshift : (56 : UInt64).toNat % 64 = 56 := rfl
  rw [UInt64.toNat_toUInt8, UInt64.toNat_shiftRight, hshift, UInt64.toNat_and,
    Nat.shiftRight_and_distrib, hmask, Nat.and_two_pow_sub_one_eq_mod, Nat.shiftRight_eq_div_pow]
  omega

/-- The loop takes the octets from the upper end on. -/
theorem valueBE_scalarOctets {n : ℕ} (hn : n ≤ 8) (s : UInt64) :
    valueBE (scalarOctets n s) = s.toNat / 256 ^ (8 - n) := by
  induction n generalizing s with
  | zero => exact (Nat.div_eq_of_lt s.toNat_lt).symm
  | succ n ih =>
    -- the octets that are left behind are those below `256 ^ (7 - n)`
    have hlow : 256 ^ (8 - n) = 256 ^ (8 - (n + 1)) * 256 := by
      rw [← pow_succ]
      congr 1
      omega
    have hsplit : 2 ^ 56 = 256 ^ (8 - (n + 1)) * 256 ^ n := by
      rw [← pow_add, show 8 - (n + 1) + n = 7 by omega]
      rfl
    have hshift : (s <<< 8).toNat = s.toNat % 2 ^ 56 * 256 := by
      rw [UInt64.toNat_shiftLeft, Nat.shiftLeft_eq]
      change s.toNat * 2 ^ 8 % 2 ^ 64 = _
      omega
    rw [scalarOctets, valueBE_cons, length_scalarOctets, toNat_upperOctet, ih (by omega), hshift, hlow,
      Nat.mul_div_mul_right _ _ (by norm_num), hsplit, Nat.mod_mul_right_div_self, ← Nat.div_div_eq_div_mul,
      Nat.mod_add_div]

/-- The lower 48 bits of the scalar, most significant octet first. -/
theorem toList_ofScalar (s : UInt64) : (ofScalar s).toList = bytesBE 6 s.toNat := by
  refine valueBE_injective (by simp) ?_
  have hshift : (s <<< 16).toNat = s.toNat % 256 ^ 6 * 256 ^ 2 := by
    rw [UInt64.toNat_shiftLeft, Nat.shiftLeft_eq]
    change s.toNat * 2 ^ 16 % 2 ^ 64 = _
    omega
  rw [toList_ofScalar_eq, valueBE_scalarOctets (by norm_num), hshift, valueBE_bytesBE,
    Nat.mul_div_cancel _ (by norm_num)]

end LinkLayerAddress

namespace ClockIdentity

/-! ### Clock identities from an address -/

/-- The arithmetic of `ClockIdentity::set(LinkLayerAddress *)`. -/
def insertFEFF (tmp1 : UInt64) : UInt64 :=
  let tmp2 : UInt32 := (tmp1 &&& 0xFFFFFF).toUInt32
  let tmp1 := tmp1 >>> 24
  let tmp1 := tmp1 <<< 16
  let tmp1 := tmp1 ||| 0xFEFF
  let tmp1 := tmp1 <<< 24
  tmp1 ||| tmp2.toUInt64

/-- `ClockIdentity::set(LinkLayerAddress *)`. -/
def set (F : Type) [Platform F] (addr : LinkLayerAddress) : ClockIdentity :=
  -- the six octets are written over the first ones of a number that is zero
  let tmp1 := load64 F (addr.toOctetArray 0 fun _ => 0) 0
  .ofMem (Mem.store (fun _ => 0) 0 (bytes64 F (insertFEFF tmp1))) 0

/-- The two octets are put above the lower 24 bits; the upper 16 bits are lost. -/
theorem toNat_insertFEFF (x : UInt64) :
    (insertFEFF x).toNat =
      x.toNat % 2 ^ 24 + 2 ^ 24 * (0xFEFF + 2 ^ 16 * (x.toNat / 2 ^ 24 % 2 ^ 24)) := by
  have hlt := x.toNat_lt
  have hlow : (x &&& 0xFFFFFF).toUInt32.toUInt64.toNat = x.toNat % 2 ^ 24 := by
    have hmask : (x &&& 0xFFFFFF).toNat = x.toNat % 2 ^ 24 := toNat_and_mask rfl x
    rw [UInt32.toNat_toUInt64, UInt64.toNat_toUInt32, hmask]
    omega
  have hhigh : (x >>> 24).toNat = x.toNat / 2 ^ 24 := toNat_shiftRight (by decide) x
  have hinsert : (x >>> 24 <<< 16 ||| 0xFEFF).toNat = 2 ^ 16 * (x.toNat / 2 ^ 24 % 2 ^ 48) + 0xFEFF := by
    rw [toNat_shiftLeft_or (by decide) (by decide), hhigh]
    rfl
  have hresult : (insertFEFF x).toNat =
      2 ^ 24 * ((x >>> 24 <<< 16 ||| 0xFEFF).toNat % 2 ^ 40) + x.toNat % 2 ^ 24 := by
    have hfree : (x &&& 0xFFFFFF).toUInt32.toUInt64.toNat < 2 ^ (24 : UInt64).toNat := by
      rw [hlow]
      exact Nat.mod_lt _ (by decide)
    rw [insertFEFF, toNat_shiftLeft_or (by decide) hfree, hlow]
    rfl
  rw [hresult, hinsert]
  omega

/-- The octets of the result, least significant first. -/
theorem bytesLE_insertFEFF {x : UInt64} {low middle high : List UInt8} (hlow : low.length = 3)
    (hmiddle : middle.length = 3) (hx : x.toNat = valueLE (low ++ (middle ++ high))) :
    bytesLE 8 (insertFEFF x).toNat = low ++ ([0xFF, 0xFE] ++ middle) := by
  have hlowLt := valueLE_lt low
  have hmiddleLt := valueLE_lt middle
  have hinserted : valueLE ([0xFF, 0xFE] ++ middle) = 0xFEFF + 2 ^ 16 * valueLE middle :=
    valueLE_append [0xFF, 0xFE] middle
  have hvalue : (insertFEFF x).toNat = valueLE (low ++ ([0xFF, 0xFE] ++ middle)) := by
    rw [toNat_insertFEFF, hx, valueLE_append low, valueLE_append low, valueLE_append middle, hinserted]
    rw [hlow] at hlowLt ⊢
    rw [hmiddle] at hmiddleLt ⊢
    omega
  have hlength : (low ++ ([0xFF, 0xFE] ++ middle)).length = 8 := by simp [hlow, hmiddle]
  rw [hvalue, ← hlength]
  exact bytesLE_valueLE _

variable {F : Type} [Platform F] {addr : LinkLayerAddress}

/-- The number that starts with the octets of the address. -/
theorem toNat_load64_toOctetArray (addr : LinkLayerAddress) :
    (load64 F (addr.toOctetArray 0 fun _ => 0) 0).toNat =
      (Platform.endian F).value (addr.toList ++ [0, 0]) := by
  have hrest : (addr.toOctetArray 0 fun _ => 0).read 6 2 = Mem.read (fun _ => 0) 6 2 :=
    Mem.read_store_of_disjoint (.inr (by simp))
  have hread : (addr.toOctetArray 0 fun _ => 0).read 0 8 = addr.toList ++ [0, 0] :=
    calc (addr.toOctetArray 0 fun _ => 0).read 0 8
        = (addr.toOctetArray 0 fun _ => 0).read 0 6 ++ (addr.toOctetArray 0 fun _ => 0).read 6 2 :=
          Mem.read_add _ 0 6 2
      _ = addr.toList ++ Mem.read (fun _ => 0) 6 2 := by
          rw [hrest, LinkLayerAddress.toOctetArray, Mem.read_store _ _ _ addr.length_toList]
  have hlt : (Platform.endian F).value ((addr.toOctetArray 0 fun _ => 0).read 0 8) < 2 ^ 64 := by
    have h := (Platform.endian F).value_lt ((addr.toOctetArray 0 fun _ => 0).read 0 8)
    rwa [Mem.length_read] at h
  rw [load64, UInt64.toNat_ofNat_of_lt' hlt, hread]

theorem toList_set (addr : LinkLayerAddress) :
    (set F addr).toList =
      bytes64 F (insertFEFF (load64 F (addr.toOctetArray 0 fun _ => 0) 0)) := by
  rw [set, toList_ofMem, Mem.read_store _ _ _ (length_bytes64 _)]

/-- On a little-endian host the two octets come between the halves of the address. -/
theorem toList_set_little (hlittle : Platform.endian F = .little) {front back : List UInt8}
    (hfront : front.length = 3) (hback : back.length = 3) (h : addr.toList = front ++ back) :
    (set F addr).toList = front ++ ([0xFF, 0xFE] ++ back) := by
  rw [toList_set, bytes64, hlittle]
  apply bytesLE_insertFEFF hfront hback
  rw [toNat_load64_toOctetArray, hlittle, h, List.append_assoc, Endian.value]

/-- On a big-endian host the first two octets of the address are the upper ones of the number and are
shifted out, and the zeros behind the address come into the identity. -/
theorem toList_set_big (hbig : Platform.endian F = .big) {lost front back : List UInt8}
    (hfront : front.length = 3) (hback : back.length = 1)
    (h : addr.toList = lost ++ (front ++ back)) :
    (set F addr).toList = front ++ ([0xFE, 0xFF] ++ (back ++ [0, 0])) := by
  -- the number is read, and its octets are written, from the other end
  have hnumber : (load64 F (addr.toOctetArray 0 fun _ => 0) 0).toNat =
      valueLE ((back ++ [0, 0]).reverse ++ (front.reverse ++ lost.reverse)) := by
    rw [toNat_load64_toOctetArray, hbig, h, Endian.value, valueBE]
    simp only [List.reverse_append, List.append_assoc]
  rw [toList_set, bytes64, hbig, Endian.bytes, bytesBE,
    bytesLE_insertFEFF (by simp [hback]) (by simp [hfront]) hnumber]
  simp

/-- On a little-endian host the identity determines the address. -/
theorem set_injective (hlittle : Platform.endian F = .little) : Function.Injective (set F) := by
  intro addr addr' h
  have hsplit (l : LinkLayerAddress) :
      (set F l).toList = l.toList.take 3 ++ ([0xFF, 0xFE] ++ l.toList.drop 3) :=
    toList_set_little hlittle (by simp) (by simp) (List.take_append_drop 3 l.toList).symm
  have hlists := congrArg toList h
  rw [hsplit, hsplit] at hlists
  obtain ⟨hfront, hrest⟩ := List.append_inj hlists (by simp)
  have hback := List.append_cancel_left hrest
  apply LinkLayerAddress.toList_injective
  rw [← List.take_append_drop 3 addr.toList, hfront, hback, List.take_append_drop]

/-- **Clock identities from MAC addresses.** On a little-endian host the identity made of the address
`o0 o1 o2 o3 o4 o5` is `o0 o1 o2 FF FE o3 o4 o5`, whether the address was built from an array or from a
scalar, and different addresses make different identities. -/
theorem set_macAddress (hlittle : Platform.endian F = .little) :
    (∀ o0 o1 o2 o3 o4 o5 : UInt8,
      (∀ (buf : Mem) (a : ℕ), buf.read a 6 = [o0, o1, o2, o3, o4, o5] →
        (set F (.ofOctetArray buf a)).toList = [o0, o1, o2, 0xFF, 0xFE, o3, o4, o5]) ∧
      ∀ s : UInt64, s.toNat % 2 ^ 48 = valueBE [o0, o1, o2, o3, o4, o5] →
        (set F (.ofScalar s)).toList = [o0, o1, o2, 0xFF, 0xFE, o3, o4, o5]) ∧
      ∀ addr addr' : LinkLayerAddress, addr ≠ addr' → set F addr ≠ set F addr' := by
  refine ⟨?_, ?_⟩
  · intro o0 o1 o2 o3 o4 o5
    have hset {addr : LinkLayerAddress} (h : addr.toList = [o0, o1, o2, o3, o4, o5]) :
        (set F addr).toList = [o0, o1, o2, 0xFF, 0xFE, o3, o4, o5] := by
      have hhalves : addr.toList = [o0, o1, o2] ++ [o3, o4, o5] := h
      exact toList_set_little hlittle rfl rfl hhalves
    refine ⟨?_, ?_⟩
    · intro buf a h
      exact hset ((LinkLayerAddress.toList_ofOctetArray buf a).trans h)
    · intro s h
      apply hset
      rw [LinkLayerAddress.toList_ofScalar]
      refine valueBE_injective (by simp) ?_
      rw [valueBE_bytesBE, ← h]
      norm_num
  · intro addr addr' hne heq
    exact hne (set_injective hlittle heq)

/-- The address `00:1B:21:A0:B0:C0`. -/
theorem set_macAddress_sample :
    (set ℚ (.ofScalar 0x001B21A0B0C0)).toList = [0x00, 0x1B, 0x21, 0xFF, 0xFE, 0xA0, 0xB0, 0xC0] :=
  ((set_macAddress (F := ℚ) rfl).1 0x00 0x1B 0x21 0xA0 0xB0 0xC0).2 0x001B21A0B0C0 (by decide)

end ClockIdentity

end Gptp
