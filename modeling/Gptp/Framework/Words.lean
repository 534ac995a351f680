import Mathlib.Data.Int.ModEq

/-!
# Signed and unsigned words

A 64-bit word is read as a signed number through the balanced remainder modulo `2 ^ 64`. Arithmetic
that wraps is exact modulo `2 ^ 64`, so a computation is followed by its integer result until the end
and reduced once; where the result is in range the reduction does nothing. For the 32-bit words of an
`int` there is what a comparison of lengths needs.
-/

namespace Framework

/-- The balanced remainder fixes what is in range. -/
theorem bmod_eq_self {x : ℤ} (hlower : -2 ^ 63 ≤ x) (hupper : x < 2 ^ 63) :
    Int.bmod x (2 ^ 64) = x :=
  Int.bmod_eq_of_le (by omega) (by omega)

/-- Congruent numbers have the same balanced remainder. -/
theorem bmod_eq_of_modEq {x y : ℤ} (h : x ≡ y [ZMOD 2 ^ 64]) :
    Int.bmod x (2 ^ 64) = Int.bmod y (2 ^ 64) := by
  have hmod : x % (2 ^ 64 : ℕ) = y % (2 ^ 64 : ℕ) := h
  rw [← Int.emod_bmod x, hmod, Int.emod_bmod]

/-- The balanced remainder is congruent to the number. -/
theorem bmod_modEq (x : ℤ) : Int.bmod x (2 ^ 64) ≡ x [ZMOD 2 ^ 64] :=
  Int.bmod_emod

/-- A word read as a signed number. -/
theorem toInt_toInt64 (x : UInt64) : x.toInt64.toInt = Int.bmod x.toNat (2 ^ 64) := by
  show x.toBitVec.toInt = _
  rw [BitVec.toInt_eq_toNat_bmod]
  rfl

/-- A signed word read as an unsigned number. -/
theorem toNat_toUInt64 (x : Int64) : (x.toUInt64.toNat : ℤ) = x.toInt % 2 ^ 64 := by
  have h := toInt_toInt64 x.toUInt64
  have hlt := x.toUInt64.toNat_lt
  rw [Int64.toInt64_toUInt64] at h
  rw [h]
  have hmod : (Int.bmod x.toUInt64.toNat (2 ^ 64)) % 2 ^ 64 = (x.toUInt64.toNat : ℤ) % 2 ^ 64 :=
    bmod_modEq _
  rw [hmod]
  omega

/-- A signed word that is not negative is the same number as an unsigned word. -/
theorem toNat_toUInt64_of_nonneg {x : Int64} (h : 0 ≤ x.toInt) : (x.toUInt64.toNat : ℤ) = x.toInt := by
  have hlt := x.toInt_lt
  rw [toNat_toUInt64]
  omega

/-- Every signed word but the least can be negated. -/
theorem toInt_neg_of_ne {x : Int64} (h : -2 ^ 63 < x.toInt) : (-x).toInt = -x.toInt := by
  have hlt := x.toInt_lt
  rw [Int64.toInt_neg, bmod_eq_self (by omega) (by omega)]

/-- Every signed word but the least can be decremented. -/
theorem toInt_sub_one {x : Int64} (h : -2 ^ 63 < x.toInt) : (x - 1).toInt = x.toInt - 1 := by
  have hlt := x.toInt_lt
  have hone : (1 : Int64).toInt = 1 := rfl
  rw [Int64.toInt_sub, hone, bmod_eq_self (by omega) (by omega)]

/-- The upper half of a signed word is its quotient rounded down. -/
theorem toInt_shiftRight_32 (x : Int64) : (x >>> 32).toInt = x.toInt / 2 ^ 32 :=
  calc (x >>> 32).toInt = (x.toBitVec.sshiftRight 32).toInt := rfl
    _ = x.toInt >>> (32 : ℕ) := BitVec.toInt_sshiftRight
    _ = x.toInt / 2 ^ 32 := by
      rw [Int.shiftRight_eq_div_pow]
      rfl

/-- The lower bits of a word. -/
theorem toNat_and_mask {m : UInt64} {k : ℕ} (hm : m.toNat = 2 ^ k - 1) (x : UInt64) :
    (x &&& m).toNat = x.toNat % 2 ^ k := by
  rw [UInt64.toNat_and, hm, Nat.and_two_pow_sub_one_eq_mod]

/-- The upper bits of a word. -/
theorem toNat_shiftRight {k : UInt64} (hk : k.toNat < 64) (x : UInt64) :
    (x >>> k).toNat = x.toNat / 2 ^ k.toNat := by
  rw [UInt64.toNat_shiftRight, Nat.mod_eq_of_lt hk, Nat.shiftRight_eq_div_pow]

/-- A word shifted to the left, with a number put into the place that became free. -/
theorem toNat_shiftLeft_or {x y k : UInt64} (hk : k.toNat < 64) (hy : y.toNat < 2 ^ k.toNat) :
    (x <<< k ||| y).toNat = 2 ^ k.toNat * (x.toNat % 2 ^ (64 - k.toNat)) + y.toNat := by
  have hpow : 2 ^ 64 = 2 ^ k.toNat * 2 ^ (64 - k.toNat) := by
    rw [← pow_add, Nat.add_sub_cancel' hk.le]
  rw [UInt64.toNat_or, UInt64.toNat_shiftLeft, Nat.mod_eq_of_lt hk, Nat.shiftLeft_eq, hpow,
    mul_comm x.toNat, Nat.mul_mod_mul_left, Nat.two_pow_add_eq_or_of_lt hy]

/-- A difference is zero only between equal words. -/
theorem sub_eq_zero_iff {x y : UInt64} : x - y = 0 ↔ x = y := by
  have hx := x.toNat_lt
  have hy := y.toNat_lt
  rw [← UInt64.toNat_inj, ← UInt64.toNat_inj, UInt64.toNat_sub, UInt64.toNat_zero]
  omega

/-! ### 32-bit words -/

/-- A word below `2 ^ 31` is the same number as a signed word. -/
theorem toInt_toInt32_of_lt {x : UInt32} (h : x.toNat < 2 ^ 31) : x.toInt32.toInt = x.toNat := by
  have hbmod : x.toInt32.toInt = Int.bmod x.toNat (2 ^ 32) := BitVec.toInt_eq_toNat_bmod x.toBitVec
  rw [hbmod]
  exact Int.bmod_eq_of_le (by omega) (by omega)

/-- A signed word read as an unsigned number. -/
theorem toNat_toUInt32 (x : Int32) : (x.toUInt32.toNat : ℤ) = x.toInt % 2 ^ 32 := by
  have h : x.toInt = Int.bmod x.toUInt32.toNat (2 ^ 32) := BitVec.toInt_eq_toNat_bmod x.toBitVec
  have hlt := x.toUInt32.toNat_lt
  have hmod : Int.bmod x.toUInt32.toNat (2 ^ 32) % (2 ^ 32 : ℕ) = x.toUInt32.toNat % (2 ^ 32 : ℕ) :=
    Int.bmod_emod
  rw [h]
  omega

/-- The quotient of a signed word that is not negative. -/
theorem toNatClampNeg_div {x y : Int32} (hx : 0 ≤ x.toInt) (hy : 0 < y.toInt) :
    (x / y).toNatClampNeg = x.toInt.toNat / y.toInt.toNat := by
  have hlt := x.toInt_lt
  have hle : x.toInt / y.toInt ≤ x.toInt := Int.ediv_le_self _ hx
  have hnonneg : 0 ≤ x.toInt / y.toInt := Int.ediv_nonneg hx hy.le
  obtain ⟨n, hn⟩ := Int.eq_ofNat_of_zero_le hx
  obtain ⟨d, hd⟩ := Int.eq_ofNat_of_zero_le hy.le
  rw [← Int32.toNat_toInt, Int32.toInt_div, Int.tdiv_eq_ediv_of_nonneg hx,
    Int.bmod_eq_of_le (by omega) (by omega), hn, hd]
  rfl

end Framework
