import Gptp.Framework.Memory
import Mathlib.Algebra.Order.Floor.Ring
import Mathlib.Data.Rat.Floor

/-!
# What the target platform fixes

The daemon's behaviour depends on the target in two ways that the source leaves open: the byte
order of the host (`PLAT_htons` and friends) and the arithmetic behind `FrequencyRatio`
(a `long double`), including what an out-of-range conversion to an integer type yields. Everything
above this module is generic in a carrier `F` with a `Platform F`, so results proved there hold for
every byte order and every floating-point arithmetic. `exactPlatform` is the instance with exact
rational arithmetic on a little-endian host.
-/

namespace Gptp

open Framework

/-- A target platform whose `FrequencyRatio` values are the elements of `F`. -/
class Platform (F : Type) where
  /-- Host byte order. -/
  endian : Endian
  /-- A floating literal, or an integer converted to `FrequencyRatio`. -/
  ofRat : ℚ → F
  add : F → F → F
  sub : F → F → F
  mul : F → F → F
  div : F → F → F
  lt : F → F → Bool
  eq : F → F → Bool
  /-- Conversion to `int64_t`. -/
  toI64 : F → Int64
  /-- Conversion to `uint64_t`. -/
  toU64 : F → UInt64
  /-- Conversion to `int32_t`. -/
  toI32 : F → Int32
  /-- Rounding to single precision (`float`). -/
  toFloat : F → F

/-- Truncation towards zero. -/
def truncate (q : ℚ) : ℤ := if 0 ≤ q then ⌊q⌋ else ⌈q⌉

/-- Exact rational arithmetic on a little-endian host; conversions truncate and wrap. -/
instance exactPlatform : Platform ℚ where
  endian := .little
  ofRat q := q
  add a b := a + b
  sub a b := a - b
  mul a b := a * b
  div a b := a / b
  lt a b := decide (a < b)
  eq a b := decide (a = b)
  toI64 q := Int64.ofInt (truncate q)
  toU64 q := UInt64.ofInt (truncate q)
  toI32 q := Int32.ofInt (truncate q)
  toFloat q := q

section Conversions

variable (F : Type) [Platform F]

/-- `PLAT_htons` / `PLAT_ntohs`. -/
def htons (x : UInt16) : UInt16 := UInt16.ofNat ((Platform.endian F).hton 2 x.toNat)

/-- `PLAT_htonl` / `PLAT_ntohl`. -/
def htonl (x : UInt32) : UInt32 := UInt32.ofNat ((Platform.endian F).hton 4 x.toNat)

/-- `PLAT_htonll` / `PLAT_ntohll`. -/
def htonll (x : UInt64) : UInt64 := UInt64.ofNat ((Platform.endian F).hton 8 x.toNat)

/-- `memcpy` of two octets at offset `a` into a `uint16_t`. -/
def load16 (buf : Mem) (a : ℕ) : UInt16 :=
  UInt16.ofNat ((Platform.endian F).value (buf.read a 2))

/-- `memcpy` of four octets at offset `a` into a `uint32_t`. -/
def load32 (buf : Mem) (a : ℕ) : UInt32 :=
  UInt32.ofNat ((Platform.endian F).value (buf.read a 4))

/-- `memcpy` of eight octets at offset `a` into a `uint64_t`. -/
def load64 (buf : Mem) (a : ℕ) : UInt64 :=
  UInt64.ofNat ((Platform.endian F).value (buf.read a 8))

/-- The object representation of a `uint16_t`. -/
def bytes16 (x : UInt16) : List UInt8 := (Platform.endian F).bytes 2 x.toNat

/-- The object representation of a `uint32_t`. -/
def bytes32 (x : UInt32) : List UInt8 := (Platform.endian F).bytes 4 x.toNat

/-- The object representation of a `uint64_t`. -/
def bytes64 (x : UInt64) : List UInt8 := (Platform.endian F).bytes 8 x.toNat

/-! ### Loads, stores and conversions -/

section Loads

variable {F} {buf buf' : Mem} {a : ℕ}

/-- A two-octet field in network byte order, read from a buffer. -/
theorem htons_load16 : htons F (load16 F buf a) = UInt16.ofNat (valueBE (buf.read a 2)) := by
  have hlt : (Platform.endian F).value (buf.read a 2) < 2 ^ 16 := by
    simpa using (Platform.endian F).value_lt (buf.read a 2)
  rw [htons, load16, UInt16.toNat_ofNat_of_lt' hlt, Endian.hton_value _ (Mem.length_read _ _ _)]

theorem valueBE_read_lt (buf : Mem) (a : ℕ) : valueBE (buf.read a 2) < 2 ^ 16 := by
  simpa using valueBE_lt (buf.read a 2)

theorem toNat_htons_load16 (buf : Mem) (a : ℕ) :
    (htons F (load16 F buf a)).toNat = valueBE (buf.read a 2) := by
  rw [htons_load16, UInt16.toNat_ofNat_of_lt' (valueBE_read_lt buf a)]

/-- A four-octet field in network byte order, read from a buffer. -/
theorem htonl_load32 : htonl F (load32 F buf a) = UInt32.ofNat (valueBE (buf.read a 4)) := by
  have hlt : (Platform.endian F).value (buf.read a 4) < 2 ^ 32 := by
    simpa using (Platform.endian F).value_lt (buf.read a 4)
  rw [htonl, load32, UInt32.toNat_ofNat_of_lt' hlt, Endian.hton_value _ (Mem.length_read _ _ _)]

/-- An eight-octet field in network byte order, read from a buffer. -/
theorem htonll_load64 : htonll F (load64 F buf a) = UInt64.ofNat (valueBE (buf.read a 8)) := by
  have hlt : (Platform.endian F).value (buf.read a 8) < 2 ^ 64 := by
    simpa using (Platform.endian F).value_lt (buf.read a 8)
  rw [htonll, load64, UInt64.toNat_ofNat_of_lt' hlt, Endian.hton_value _ (Mem.length_read _ _ _)]

@[simp] theorem length_bytes16 (x : UInt16) : (bytes16 F x).length = 2 := Endian.length_bytes _ _ _

@[simp] theorem length_bytes32 (x : UInt32) : (bytes32 F x).length = 4 := Endian.length_bytes _ _ _

@[simp] theorem length_bytes64 (x : UInt64) : (bytes64 F x).length = 8 := Endian.length_bytes _ _ _

theorem bytes16_htons (x : UInt16) : bytes16 F (htons F x) = bytesBE 2 x.toNat := by
  have hlt : (Platform.endian F).hton 2 x.toNat < 2 ^ 16 := Endian.hton_lt _ x.toNat_lt
  rw [bytes16, htons, UInt16.toNat_ofNat_of_lt' hlt, Endian.bytes_hton]

theorem bytes32_htonl (x : UInt32) : bytes32 F (htonl F x) = bytesBE 4 x.toNat := by
  have hlt : (Platform.endian F).hton 4 x.toNat < 2 ^ 32 := Endian.hton_lt _ x.toNat_lt
  rw [bytes32, htonl, UInt32.toNat_ofNat_of_lt' hlt, Endian.bytes_hton]

theorem bytes64_htonll (x : UInt64) : bytes64 F (htonll F x) = bytesBE 8 x.toNat := by
  have hlt : (Platform.endian F).hton 8 x.toNat < 2 ^ 64 := Endian.hton_lt _ x.toNat_lt
  rw [bytes64, htonll, UInt64.toNat_ofNat_of_lt' hlt, Endian.bytes_hton]

/-- `PLAT_ntohl` undoes `PLAT_htonl`. -/
theorem htonl_htonl (x : UInt32) : htonl F (htonl F x) = x := by
  have hlt : (Platform.endian F).hton 4 x.toNat < 2 ^ 32 := Endian.hton_lt _ x.toNat_lt
  rw [htonl, htonl, UInt32.toNat_ofNat_of_lt' hlt, Endian.hton_hton _ x.toNat_lt, UInt32.ofNat_toNat]

/-- A two-octet field survives the way through a buffer. -/
theorem htons_load16_of_read {x : UInt16} (h : buf.read a 2 = bytes16 F (htons F x)) :
    htons F (load16 F buf a) = x := by
  have hmod : x.toNat % 256 ^ 2 = x.toNat := Nat.mod_eq_of_lt x.toNat_lt
  rw [htons_load16, h, bytes16_htons, valueBE_bytesBE, hmod, UInt16.ofNat_toNat]

theorem htonl_load32_of_read {x : UInt32} (h : buf.read a 4 = bytes32 F (htonl F x)) :
    htonl F (load32 F buf a) = x := by
  have hmod : x.toNat % 256 ^ 4 = x.toNat := Nat.mod_eq_of_lt x.toNat_lt
  rw [htonl_load32, h, bytes32_htonl, valueBE_bytesBE, hmod, UInt32.ofNat_toNat]

theorem htonll_load64_of_read {x : UInt64} (h : buf.read a 8 = bytes64 F (htonll F x)) :
    htonll F (load64 F buf a) = x := by
  have hmod : x.toNat % 256 ^ 8 = x.toNat := Nat.mod_eq_of_lt x.toNat_lt
  rw [htonll_load64, h, bytes64_htonll, valueBE_bytesBE, hmod, UInt64.ofNat_toNat]

/-- A number is loaded from its own octets, without any conversion. -/
theorem load16_of_read {x : UInt16} (h : buf.read a 2 = bytes16 F x) : load16 F buf a = x := by
  have hmod : x.toNat % 256 ^ 2 = x.toNat := Nat.mod_eq_of_lt x.toNat_lt
  rw [load16, h, bytes16, Endian.value_bytes, hmod, UInt16.ofNat_toNat]

theorem load32_of_read {x : UInt32} (h : buf.read a 4 = bytes32 F x) : load32 F buf a = x := by
  have hmod : x.toNat % 256 ^ 4 = x.toNat := Nat.mod_eq_of_lt x.toNat_lt
  rw [load32, h, bytes32, Endian.value_bytes, hmod, UInt32.ofNat_toNat]

/-- The octets of a number are determined by it. -/
theorem load32_eq_iff {x : UInt32} : load32 F buf a = x ↔ buf.read a 4 = bytes32 F x := by
  constructor
  · intro h
    have hlt : (Platform.endian F).value (buf.read a 4) < 2 ^ 32 := by
      simpa using (Platform.endian F).value_lt (buf.read a 4)
    have hmod : x.toNat % 256 ^ 4 = x.toNat := Nat.mod_eq_of_lt x.toNat_lt
    have hvalue := congrArg UInt32.toNat h
    rw [load32, UInt32.toNat_ofNat_of_lt' hlt] at hvalue
    refine Endian.value_injective (Platform.endian F) (by simp) ?_
    rw [hvalue, bytes32, Endian.value_bytes, hmod]
  · exact load32_of_read

/-- Equal loads come from equal octets. -/
theorem read_eq_of_load16_eq (h : load16 F buf a = load16 F buf' a) :
    buf.read a 2 = buf'.read a 2 := by
  have hlt (b : Mem) : (Platform.endian F).value (b.read a 2) < 2 ^ 16 := by
    simpa using (Platform.endian F).value_lt (b.read a 2)
  have hvalue := congrArg UInt16.toNat h
  rw [load16, load16, UInt16.toNat_ofNat_of_lt' (hlt buf), UInt16.toNat_ofNat_of_lt' (hlt buf')]
    at hvalue
  exact Endian.value_injective _ (by simp) hvalue

theorem read_eq_of_load32_eq (h : load32 F buf a = load32 F buf' a) :
    buf.read a 4 = buf'.read a 4 := by
  have hlt (b : Mem) : (Platform.endian F).value (b.read a 4) < 2 ^ 32 := by
    simpa using (Platform.endian F).value_lt (b.read a 4)
  have hvalue := congrArg UInt32.toNat h
  rw [load32, load32, UInt32.toNat_ofNat_of_lt' (hlt buf), UInt32.toNat_ofNat_of_lt' (hlt buf')]
    at hvalue
  exact Endian.value_injective _ (by simp) hvalue

theorem htons_injective : Function.Injective (htons F) := by
  intro x y h
  have hbytes := congrArg (bytes16 F) h
  rw [bytes16_htons, bytes16_htons] at hbytes
  have hvalue := congrArg valueBE hbytes
  rw [valueBE_bytesBE, valueBE_bytesBE] at hvalue
  have hx := x.toNat_lt
  have hy := y.toNat_lt
  exact UInt16.toNat_inj.mp (by omega)

end Loads

/-- `pow(2, k) * 1000000000.0`, the length in nanoseconds of the interval with logarithm `k`, times
a multiplier `m`. -/
def intervalNs (m : ℕ) (k : Int8) : F := Platform.ofRat (m * (2 : ℚ) ^ k.toInt * 1000000000)

end Conversions

end Gptp
