import Mathlib.Algebra.Order.Group.Nat
import Mathlib.Data.List.Basic
import Mathlib.Tactic.Ring

/-!
# Byte memory, host byte order and network byte order

A buffer is a total map `Mem` from offsets to octets: whatever lies beyond the end of a received
frame is memory too, only with unspecified contents. `Mem.read` and `Mem.store` are `memcpy` out of
and into a buffer.

Integers cross the boundary through their object representation, which depends on the host:
`Endian.bytes e w n` are the `w` octets of `n` on a host of byte order `e`, `Endian.value e` reads
them back, and `Endian.hton e w` is the host-to-network conversion (its own inverse, hence also
`ntoh`). The facts used downstream are that *network* quantities do not depend on the host:

* `Endian.bytes_hton`: the octets of a converted number are its big-endian octets.
* `Endian.hton_value`: converting a number copied out of a buffer gives its big-endian value.
* `valueBE_bytesBE`, `valueBE_injective`: big-endian encoding is a bijection at fixed width.
-/

namespace Framework

/-- Host byte order. -/
inductive Endian where
  | little
  | big
  deriving DecidableEq, Repr

/-! ### Positional values -/

/-- The number whose octets are `bs`, least significant first. -/
def valueLE : List UInt8 → ℕ
  | [] => 0
  | b :: bs => b.toNat + 256 * valueLE bs

/-- The `w` low octets of `n`, least significant first. -/
def bytesLE : ℕ → ℕ → List UInt8
  | 0, _ => []
  | w + 1, n => UInt8.ofNat n :: bytesLE w (n / 256)

/-- The number whose octets are `bs`, most significant first. -/
def valueBE (bs : List UInt8) : ℕ := valueLE bs.reverse

/-- The `w` low octets of `n`, most significant first. -/
def bytesBE (w n : ℕ) : List UInt8 := (bytesLE w n).reverse

@[simp] theorem length_bytesLE (w n : ℕ) : (bytesLE w n).length = w := by
  induction w generalizing n with
  | zero => rfl
  | succ w ih => simp [bytesLE, ih]

@[simp] theorem length_bytesBE (w n : ℕ) : (bytesBE w n).length = w := by
  simp [bytesBE]

theorem valueLE_bytesLE (w n : ℕ) : valueLE (bytesLE w n) = n % 256 ^ w := by
  induction w generalizing n with
  | zero => simp [bytesLE, valueLE, Nat.mod_one]
  | succ w ih =>
    have hlow : (UInt8.ofNat n).toNat = n % 256 := UInt8.toNat_ofNat'
    rw [bytesLE, valueLE, ih, hlow, pow_succ', Nat.mod_mul]

theorem valueLE_lt (bs : List UInt8) : valueLE bs < 256 ^ bs.length := by
  induction bs with
  | nil => simp [valueLE]
  | cons b bs ih =>
    have hb := b.toNat_lt
    rw [valueLE, List.length_cons, pow_succ']
    omega

theorem bytesLE_valueLE (bs : List UInt8) : bytesLE bs.length (valueLE bs) = bs := by
  induction bs with
  | nil => rfl
  | cons b bs ih =>
    have hb := b.toNat_lt
    have hdiv : (b.toNat + 256 * valueLE bs) / 256 = valueLE bs := by omega
    have hmod : UInt8.ofNat (b.toNat + 256 * valueLE bs) = b := by
      apply UInt8.toNat_inj.mp
      rw [UInt8.toNat_ofNat']
      omega
    rw [valueLE, List.length_cons, bytesLE, hdiv, ih, hmod]

theorem valueLE_injective {bs bs' : List UInt8} (hlen : bs.length = bs'.length)
    (h : valueLE bs = valueLE bs') : bs = bs' := by
  rw [← bytesLE_valueLE bs, ← bytesLE_valueLE bs', h, hlen]

theorem valueBE_bytesBE (w n : ℕ) : valueBE (bytesBE w n) = n % 256 ^ w := by
  rw [valueBE, bytesBE, List.reverse_reverse, valueLE_bytesLE]

theorem valueBE_lt (bs : List UInt8) : valueBE bs < 256 ^ bs.length := by
  simpa [valueBE] using valueLE_lt bs.reverse

theorem valueLE_append (bs bs' : List UInt8) :
    valueLE (bs ++ bs') = valueLE bs + 256 ^ bs.length * valueLE bs' := by
  induction bs with
  | nil => simp [valueLE]
  | cons b bs ih =>
    rw [List.cons_append, valueLE, valueLE, ih, List.length_cons, pow_succ', mul_add, mul_assoc,
      add_assoc]

theorem valueBE_append (bs bs' : List UInt8) :
    valueBE (bs ++ bs') = valueBE bs' + 256 ^ bs'.length * valueBE bs := by
  rw [valueBE, List.reverse_append, valueLE_append, List.length_reverse]
  rfl

theorem valueBE_cons (b : UInt8) (bs : List UInt8) :
    valueBE (b :: bs) = valueBE bs + 256 ^ bs.length * b.toNat := by
  rw [valueBE, List.reverse_cons, valueLE_append, List.length_reverse]
  simp [valueBE, valueLE]

/-- Numbers are compared by their leading digit first. -/
theorem add_mul_lt_iff {x y K : ℕ} (a b : ℕ) (hx : x < K) (hy : y < K) :
    x + K * a < y + K * b ↔ a < b ∨ a = b ∧ x < y := by
  rcases Nat.lt_trichotomy a b with h | rfl | h
  · have hK : K * (a + 1) ≤ K * b := Nat.mul_le_mul_left K h
    rw [mul_add, mul_one] at hK
    exact iff_of_true (by omega) (.inl h)
  · simp
  · have hK : K * (b + 1) ≤ K * a := Nat.mul_le_mul_left K h
    rw [mul_add, mul_one] at hK
    exact iff_of_false (by omega) (by omega)

theorem valueBE_injective {bs bs' : List UInt8} (hlen : bs.length = bs'.length)
    (h : valueBE bs = valueBE bs') : bs = bs' := by
  have := valueLE_injective (by simpa using hlen) h
  exact List.reverse_injective this

/-! ### Object representation on a host -/

namespace Endian

/-- The object representation of the `w`-octet number `n`. -/
def bytes (e : Endian) (w n : ℕ) : List UInt8 :=
  match e with
  | .little => bytesLE w n
  | .big => bytesBE w n

/-- The number whose object representation is `bs`. -/
def value (e : Endian) (bs : List UInt8) : ℕ :=
  match e with
  | .little => valueLE bs
  | .big => valueBE bs

/-- Host-to-network (equivalently network-to-host) conversion of a `w`-octet number. -/
def hton (e : Endian) (w n : ℕ) : ℕ :=
  match e with
  | .little => valueBE (bytesLE w n)
  | .big => n

@[simp] theorem length_bytes (e : Endian) (w n : ℕ) : (e.bytes w n).length = w := by
  cases e <;> simp [bytes]

theorem value_lt (e : Endian) (bs : List UInt8) : e.value bs < 256 ^ bs.length := by
  cases e
  · exact valueLE_lt bs
  · exact valueBE_lt bs

theorem hton_lt (e : Endian) {w n : ℕ} (hn : n < 256 ^ w) : e.hton w n < 256 ^ w := by
  cases e
  · simpa [hton] using valueBE_lt (bytesLE w n)
  · exact hn

/-- A number converted to network order is laid out in memory most significant octet first, on
every host. -/
theorem bytes_hton (e : Endian) (w n : ℕ) : e.bytes w (e.hton w n) = bytesBE w n := by
  cases e with
  | little =>
    have h := bytesLE_valueLE (bytesLE w n).reverse
    rwa [List.length_reverse, length_bytesLE] at h
  | big => rfl

/-- Converting twice gives the number back, on every host. -/
theorem hton_hton (e : Endian) {w n : ℕ} (hn : n < 256 ^ w) : e.hton w (e.hton w n) = n := by
  cases e with
  | little =>
    have hbytes : bytesLE w (valueBE (bytesLE w n)) = bytesBE w n := bytes_hton .little w n
    rw [hton, hton, hbytes, valueBE_bytesBE, Nat.mod_eq_of_lt hn]
  | big => rfl

/-- Network-to-host conversion of a number copied out of memory yields its big-endian value, on
every host. -/
theorem hton_value (e : Endian) {w : ℕ} {bs : List UInt8} (hw : bs.length = w) :
    e.hton w (e.value bs) = valueBE bs := by
  subst hw
  cases e with
  | little => rw [hton, value, bytesLE_valueLE]
  | big => rfl

/-- A number is read back from its object representation, up to the width. -/
theorem value_bytes (e : Endian) (w n : ℕ) : e.value (e.bytes w n) = n % 256 ^ w := by
  cases e
  · exact valueLE_bytesLE w n
  · exact valueBE_bytesBE w n

theorem value_injective (e : Endian) {bs bs' : List UInt8} (hlen : bs.length = bs'.length)
    (h : e.value bs = e.value bs') : bs = bs' := by
  cases e
  · exact valueLE_injective hlen h
  · exact valueBE_injective hlen h

end Endian

/-! ### Memory -/

/-- Byte memory, addressed by offset. -/
abbrev Mem := ℕ → UInt8

namespace Mem

/-- The `w` octets at offset `a`. -/
def read (m : Mem) (a w : ℕ) : List UInt8 := (List.range w).map fun i => m (a + i)

/-- Memory after copying `bs` to offset `a`. -/
def store (m : Mem) (a : ℕ) (bs : List UInt8) : Mem := fun i =>
  if a ≤ i then (bs[i - a]?).getD (m i) else m i

/-- Two memories hold the same octets below `n`. -/
def AgreeBelow (n : ℕ) (m m' : Mem) : Prop := ∀ i < n, m i = m' i

/-- Memory with the octet at `p` changed to a different one. -/
def flip (m : Mem) (p : ℕ) : Mem := fun i => if i = p then m i + 1 else m i

@[simp] theorem length_read (m : Mem) (a w : ℕ) : (m.read a w).length = w := by
  simp [read]

theorem read_congr {m m' : Mem} {a w : ℕ} (h : ∀ i, a ≤ i → i < a + w → m i = m' i) :
    m.read a w = m'.read a w := by
  refine List.map_congr_left fun i hi => h _ (Nat.le_add_right a i) ?_
  have := List.mem_range.mp hi
  omega

theorem AgreeBelow.read {n : ℕ} {m m' : Mem} (h : AgreeBelow n m m') {a w : ℕ}
    (hle : a + w ≤ n) : m.read a w = m'.read a w :=
  read_congr fun i _ hi => h i (lt_of_lt_of_le hi hle)

theorem read_succ (m : Mem) (a w : ℕ) : m.read a (w + 1) = m a :: m.read (a + 1) w := by
  rw [read, List.range_succ_eq_map, List.map_cons, List.map_map]
  refine congrArg (m a :: ·) (List.map_congr_left fun i _ => congrArg m ?_)
  change a + (i + 1) = a + 1 + i
  omega

theorem read_add (m : Mem) (a w w' : ℕ) : m.read a (w + w') = m.read a w ++ m.read (a + w) w' := by
  induction w generalizing a with
  | zero => simp [read]
  | succ w ih =>
    have hshift : a + 1 + w = a + (w + 1) := by omega
    rw [Nat.succ_add, read_succ, read_succ, ih, hshift, List.cons_append]

/-- The part of a window that starts at `i` octets from its beginning. -/
theorem read_eq_take_drop {m : Mem} {a n : ℕ} {bs : List UInt8} (h : m.read a n = bs) {i w : ℕ}
    (hi : i + w ≤ n) : m.read (a + i) w = (bs.drop i).take w := by
  obtain ⟨r, rfl⟩ := Nat.exists_eq_add_of_le hi
  rw [← h, Nat.add_assoc, read_add, List.drop_left' (length_read m a i), read_add,
    List.take_left' (length_read _ _ _)]

theorem eq_getD_of_read {m : Mem} {a n : ℕ} {bs : List UInt8} (h : m.read a n = bs) {i : ℕ}
    (hi : i < n) : m (a + i) = bs.getD i 0 := by
  rw [← h, read, List.getD_eq_getElem?_getD, List.getElem?_map, List.getElem?_range hi]
  rfl

/-- A field of one octet. -/
theorem eq_of_read_one {m : Mem} {a : ℕ} {x : UInt8} (h : m.read a 1 = [x]) : m a = x :=
  (List.cons.inj h).1

/-- Reads of the same window that agree agree on every octet of it. -/
theorem eq_of_read_eq {m m' : Mem} {a w i : ℕ} (h : m.read a w = m'.read a w) (hi : a ≤ i)
    (hi' : i < a + w) : m i = m' i := by
  have hmap := List.map_inj_left.mp h (i - a) (List.mem_range.mpr (by omega))
  rwa [Nat.add_sub_cancel' hi] at hmap

theorem store_get {m : Mem} {a : ℕ} {bs : List UInt8} {i : ℕ} (h : i < bs.length) :
    m.store a bs (a + i) = bs[i] := by
  simp [store, List.getElem?_eq_getElem h]

theorem store_of_lt {m : Mem} {a : ℕ} {bs : List UInt8} {i : ℕ} (h : i < a) :
    m.store a bs i = m i := by
  simp [store, Nat.not_le.mpr h]

theorem store_of_ge {m : Mem} {a : ℕ} {bs : List UInt8} {i : ℕ} (h : a + bs.length ≤ i) :
    m.store a bs i = m i := by
  have hnone : bs[i - a]? = none := List.getElem?_eq_none (by omega)
  simp [store, hnone]

/-- Reading back exactly what was stored. -/
theorem read_store (m : Mem) (a : ℕ) (bs : List UInt8) {w : ℕ} (hw : bs.length = w) :
    (m.store a bs).read a w = bs := by
  subst hw
  refine List.ext_getElem (by simp) fun i _ h => ?_
  simp [read, store_get h]

theorem store_nil (m : Mem) (a : ℕ) : m.store a [] = m := by
  funext i
  simp [store]

/-- Two stores next to each other are one. -/
theorem store_store (m : Mem) (a : ℕ) (bs bs' : List UInt8) :
    (m.store a bs).store (a + bs.length) bs' = m.store a (bs ++ bs') := by
  funext i
  rcases lt_or_ge i a with h | h
  · rw [store_of_lt (by omega), store_of_lt h, store_of_lt h]
  obtain ⟨k, rfl⟩ := Nat.exists_eq_add_of_le h
  rcases lt_or_ge k bs.length with hk | hk
  · rw [store_of_lt (by omega), store_get hk, store_get (by simp; omega), List.getElem_append_left]
  · obtain ⟨l, rfl⟩ := Nat.exists_eq_add_of_le hk
    rcases lt_or_ge l bs'.length with hl | hl
    · rw [← Nat.add_assoc, store_get hl, Nat.add_assoc, store_get (by simp; omega),
        List.getElem_append_right (by omega)]
      simp
    · rw [store_of_ge (by omega), store_of_ge (by omega), store_of_ge (by simp; omega)]

/-- Stores outside the window read leave the read unchanged. -/
theorem read_store_of_disjoint {m : Mem} {a b w : ℕ} {bs : List UInt8}
    (h : b + w ≤ a ∨ a + bs.length ≤ b) : (m.store a bs).read b w = m.read b w := by
  refine read_congr fun i hi hi' => ?_
  rcases h with h | h
  · exact store_of_lt (by omega)
  · exact store_of_ge (by omega)

theorem flip_agreeBelow {n p : ℕ} (m : Mem) (h : n ≤ p) : AgreeBelow n m (m.flip p) := by
  intro i hi
  have : i ≠ p := by omega
  simp [flip, this]

theorem flip_ne (m : Mem) (p : ℕ) : m p ≠ m.flip p p := by
  intro h
  simp [flip] at h

theorem flip_of_ne (m : Mem) {p i : ℕ} (h : i ≠ p) : m.flip p i = m i := by
  simp [flip, h]

theorem read_flip_of_disjoint (m : Mem) {p a w : ℕ} (h : p < a ∨ a + w ≤ p) :
    (m.flip p).read a w = m.read a w :=
  read_congr fun i hi hi' => m.flip_of_ne (by omega)

theorem read_flip_ne (m : Mem) {p a w : ℕ} (h : a ≤ p) (h' : p < a + w) :
    m.read a w ≠ (m.flip p).read a w := by
  intro heq
  exact m.flip_ne p (eq_of_read_eq heq h h')

end Mem
end Framework
