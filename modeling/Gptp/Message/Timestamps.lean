import Gptp.Message.Types

/-!
# Timestamp arithmetic

The value of a timestamp is a number of nanoseconds, held in three words: the nanoseconds below a
second and a 48-bit seconds count split in two. `operator+` and `operator-` work word by word, each
with its own carry or borrow, and are compared here with the sum and the difference of the values.

* `Timestamp.value_add`: the sum is exact unless `Timestamp.MissesCarry`: a carry out of the
  nanoseconds is added to low words that then wrap around to the low word of the left operand, which
  the comparison `seconds_ls < this->seconds_ls` does not see. The result is `2 ^ 32` seconds short.
* `Timestamp.value_sub`: the difference is short by `Timestamp.lostSeconds`. A borrow out of the low
  words always takes one second from them, also when the nanoseconds did not borrow; and the borrow
  out of the nanoseconds is still counted when the high words are subtracted.
-/

namespace Gptp

namespace Timestamp

/-- A timestamp whose nanoseconds are less than a second. -/
def Normalized (t : Timestamp) : Prop := t.nanoseconds.toNat < 10 ^ 9

instance (t : Timestamp) : Decidable t.Normalized := inferInstanceAs (Decidable (_ < _))

/-- The 48-bit seconds count. -/
def wholeSeconds (t : Timestamp) : ℕ := t.secondsMs.toNat * 2 ^ 32 + t.secondsLs.toNat

/-- The value of a timestamp, in nanoseconds. -/
def value (t : Timestamp) : ℕ := t.wholeSeconds * 10 ^ 9 + t.nanoseconds.toNat

theorem toNat_secondsLs_lt (t : Timestamp) : t.secondsLs.toNat < 2 ^ 32 := t.secondsLs.toNat_lt

theorem toNat_maxNanoseconds : maxNanoseconds.toNat = 10 ^ 9 := rfl

/-! ### Addition -/

section Add

variable {t o : Timestamp}

/-- The nanoseconds carry, and the carry makes the low words wrap around to the low word of the left
operand. -/
def MissesCarry (t o : Timestamp) : Prop :=
  10 ^ 9 ≤ t.nanoseconds.toNat + o.nanoseconds.toNat ∧ o.secondsLs = 0xFFFFFFFF

instance (t o : Timestamp) : Decidable (MissesCarry t o) := inferInstanceAs (Decidable (_ ∧ _))

/-- Two normalised nanosecond words do not wrap. -/
theorem toNat_nanoseconds_add_of_normalized (ht : t.Normalized) (ho : o.Normalized) :
    (t.nanoseconds + o.nanoseconds).toNat = t.nanoseconds.toNat + o.nanoseconds.toNat := by
  unfold Normalized at ht ho
  rw [UInt32.toNat_add]
  omega

/-- The carry out of the nanoseconds is that of the numbers. -/
theorem carry_nanoseconds_iff (ht : t.Normalized) (ho : o.Normalized) :
    (decide (t.nanoseconds + o.nanoseconds < t.nanoseconds) ||
        decide (maxNanoseconds ≤ t.nanoseconds + o.nanoseconds)) = true ↔
      10 ^ 9 ≤ t.nanoseconds.toNat + o.nanoseconds.toNat := by
  simp only [Bool.or_eq_true, decide_eq_true_eq, UInt32.lt_iff_toNat_lt, UInt32.le_iff_toNat_le,
    toNat_nanoseconds_add_of_normalized ht ho, toNat_maxNanoseconds]
  omega

theorem toNat_nanoseconds_add (ht : t.Normalized) (ho : o.Normalized) :
    (t.add o).nanoseconds.toNat = (t.nanoseconds.toNat + o.nanoseconds.toNat) % 10 ^ 9 := by
  have hsum := toNat_nanoseconds_add_of_normalized ht ho
  simp only [add, carry_nanoseconds_iff ht ho]
  unfold Normalized at ht ho
  split_ifs with hcarry
  · rw [UInt32.toNat_sub, hsum, toNat_maxNanoseconds]
    omega
  · rw [UInt32.toNat_sub, hsum, UInt32.toNat_zero]
    omega

theorem toNat_secondsLs_add (ht : t.Normalized) (ho : o.Normalized) :
    (t.add o).secondsLs.toNat = (t.secondsLs.toNat + o.secondsLs.toNat +
      (t.nanoseconds.toNat + o.nanoseconds.toNat) / 10 ^ 9) % 2 ^ 32 := by
  simp only [add, carry_nanoseconds_iff ht ho, UInt32.toNat_add]
  unfold Normalized at ht ho
  split_ifs with hcarry
  · rw [UInt32.toNat_one]
    omega
  · rw [UInt32.toNat_zero]
    omega

/-- The high words receive the carry out of the low words unless it is missed. -/
theorem toNat_secondsMs_add (ht : t.Normalized) (ho : o.Normalized) :
    (t.add o).secondsMs.toNat = (t.secondsMs.toNat + o.secondsMs.toNat +
      if MissesCarry t o then 0 else (t.secondsLs.toNat + o.secondsLs.toNat +
        (t.nanoseconds.toNat + o.nanoseconds.toNat) / 10 ^ 9) / 2 ^ 32) % 2 ^ 16 := by
  have hls := toNat_secondsLs_add ht ho
  have ht' := t.toNat_secondsLs_lt
  have ho' := o.toNat_secondsLs_lt
  have hmissed : MissesCarry t o ↔ 10 ^ 9 ≤ t.nanoseconds.toNat + o.nanoseconds.toNat ∧
      o.secondsLs.toNat = 2 ^ 32 - 1 := by
    rw [MissesCarry, ← UInt32.toNat_inj]
    rfl
  have hms : (t.add o).secondsMs = t.secondsMs + o.secondsMs +
      if (t.add o).secondsLs < t.secondsLs then 1 else 0 := by
    simp only [add, decide_eq_true_eq]
  rw [hms]
  simp only [UInt16.toNat_add, UInt32.lt_iff_toNat_lt, hls, hmissed]
  unfold Normalized at ht ho
  split_ifs <;> simp only [UInt16.toNat_one, UInt16.toNat_zero] <;> omega

/-- Addition keeps timestamps normalised. -/
theorem Normalized.add (ht : t.Normalized) (ho : o.Normalized) : (t.add o).Normalized := by
  rw [Normalized, toNat_nanoseconds_add ht ho]
  exact Nat.mod_lt _ (by norm_num)

/-- A sum below `2 ^ 48` seconds is exact, or `2 ^ 32` seconds short if the carry is missed. -/
theorem value_add (ht : t.Normalized) (ho : o.Normalized)
    (hsum : t.value + o.value < 2 ^ 48 * 10 ^ 9) :
    (t.add o).value + (if MissesCarry t o then 2 ^ 32 * 10 ^ 9 else 0) = t.value + o.value := by
  have ht' := t.toNat_secondsLs_lt
  have ho' := o.toNat_secondsLs_lt
  unfold value wholeSeconds at hsum ⊢
  rw [toNat_nanoseconds_add ht ho, toNat_secondsLs_add ht ho, toNat_secondsMs_add ht ho]
  unfold Normalized at ht ho
  by_cases h : MissesCarry t o
  · obtain ⟨hns, hls⟩ := id h
    rw [← UInt32.toNat_inj] at hls
    have hls' : o.secondsLs.toNat = 2 ^ 32 - 1 := hls
    rw [if_pos h, if_pos h]
    omega
  · rw [if_neg h, if_neg h]
    omega

end Add

/-! ### Subtraction -/

section Sub

variable {t o : Timestamp}

/-- The borrow out of the nanoseconds. -/
def borrowNanoseconds (t o : Timestamp) : ℕ :=
  if t.nanoseconds.toNat < o.nanoseconds.toNat then 1 else 0

theorem borrowNanoseconds_of_lt (h : t.nanoseconds.toNat < o.nanoseconds.toNat) :
    borrowNanoseconds t o = 1 :=
  if_pos h

theorem borrowNanoseconds_of_not_lt (h : ¬ t.nanoseconds.toNat < o.nanoseconds.toNat) :
    borrowNanoseconds t o = 0 :=
  if_neg h

/-- The low words borrow from the high words. -/
def BorrowsLs (t o : Timestamp) : Prop :=
  t.secondsLs.toNat < o.secondsLs.toNat + borrowNanoseconds t o

instance (t o : Timestamp) : Decidable (BorrowsLs t o) := inferInstanceAs (Decidable (_ < _))

/-- The seconds by which a difference is short. A borrow out of the low words takes one second too
many from them if the nanoseconds did not borrow. If they did, the high words are lowered by two,
except where that would make them borrow again. -/
def lostSeconds (t o : Timestamp) : ℕ :=
  if BorrowsLs t o then
    if borrowNanoseconds t o = 0 then 1
    else if t.secondsMs.toNat = o.secondsMs.toNat + 1 then 0 else 2 ^ 32
  else 0

/-- The nanoseconds of a difference of normalised timestamps are those of the numbers, and the source
does not carry out of them. -/
theorem toNat_nanoseconds_sub_of_normalized (ht : t.Normalized) (ho : o.Normalized) :
    ((if t.nanoseconds < o.nanoseconds then maxNanoseconds else 0) + t.nanoseconds -
      o.nanoseconds).toNat =
        borrowNanoseconds t o * 10 ^ 9 + t.nanoseconds.toNat - o.nanoseconds.toNat := by
  unfold Normalized at ht ho
  simp only [borrowNanoseconds, UInt32.toNat_sub, UInt32.toNat_add, UInt32.lt_iff_toNat_lt]
  split_ifs with h
  · rw [toNat_maxNanoseconds]
    omega
  · rw [UInt32.toNat_zero]
    omega

theorem not_carry_sub (ht : t.Normalized) (ho : o.Normalized) :
    ¬ maxNanoseconds < (if t.nanoseconds < o.nanoseconds then maxNanoseconds else 0) +
      t.nanoseconds - o.nanoseconds := by
  rw [UInt32.lt_iff_toNat_lt, toNat_nanoseconds_sub_of_normalized ht ho, toNat_maxNanoseconds]
  unfold Normalized at ht ho
  unfold borrowNanoseconds
  split_ifs with h <;> omega

theorem toNat_nanoseconds_sub (ht : t.Normalized) (ho : o.Normalized) :
    (t.sub o).nanoseconds.toNat =
      borrowNanoseconds t o * 10 ^ 9 + t.nanoseconds.toNat - o.nanoseconds.toNat := by
  rw [← toNat_nanoseconds_sub_of_normalized ht ho]
  simp only [sub, decide_eq_true_eq, if_neg (not_carry_sub ht ho), UInt32.sub_zero]

/-- The low words of the source borrow where the numbers do. -/
theorem borrowsLs_iff (t o : Timestamp) :
    (decide (t.secondsLs < if t.nanoseconds < o.nanoseconds then 1 else 0) ||
        decide (t.secondsLs - (if t.nanoseconds < o.nanoseconds then 1 else 0) <
          o.secondsLs)) = true ↔ BorrowsLs t o := by
  have ht := t.toNat_secondsLs_lt
  have ho := o.toNat_secondsLs_lt
  simp only [BorrowsLs, borrowNanoseconds, Bool.or_eq_true, decide_eq_true_eq,
    UInt32.lt_iff_toNat_lt, UInt32.toNat_sub]
  split_ifs with h <;> simp only [UInt32.toNat_one, UInt32.toNat_zero] <;> omega

theorem toNat_secondsLs_sub (ht : t.Normalized) (ho : o.Normalized) :
    (t.sub o).secondsLs.toNat =
      if BorrowsLs t o then t.secondsLs.toNat + (2 ^ 32 - 1) - o.secondsLs.toNat
      else t.secondsLs.toNat - borrowNanoseconds t o - o.secondsLs.toNat := by
  have ht' := t.toNat_secondsLs_lt
  have ho' := o.toNat_secondsLs_lt
  simp only [sub, decide_eq_true_eq, if_neg (not_carry_sub ht ho), UInt32.zero_add, borrowsLs_iff]
  unfold BorrowsLs borrowNanoseconds
  simp only [UInt32.lt_iff_toNat_lt]
  split_ifs with hns hls hls
  all_goals simp only [UInt32.toNat_add, UInt32.toNat_sub, UInt32.reduceToNat]
  all_goals omega

/-- The high words can pay for what the low words borrow. -/
theorem secondsMs_le_of_value_le (ht : t.Normalized) (ho : o.Normalized)
    (hle : o.value ≤ t.value) :
    o.secondsMs.toNat + (if BorrowsLs t o then 1 else 0) ≤ t.secondsMs.toNat := by
  have ht' := t.toNat_secondsLs_lt
  have ho' := o.toNat_secondsLs_lt
  unfold value wholeSeconds at hle
  unfold Normalized at ht ho
  unfold BorrowsLs borrowNanoseconds
  split_ifs <;> omega

/-- The high words as the source subtracts them, with the borrows `n` counted so far: a further borrow
takes one, whatever `n` is. -/
theorem toNat_sub_high {x y : UInt16} {n : UInt32} (hn : n.toNat ≤ 2)
    (hle : y.toNat + (if n.toNat = 0 then 0 else 1) ≤ x.toNat) :
    (if (decide (x.toUInt32 < n) || decide (x.toUInt32 - n < y.toUInt32)) = true then
        x.toUInt32 - y.toUInt32 + 0xFFFFFFFF
      else x.toUInt32 - n - y.toUInt32).toUInt16.toNat =
      if x.toNat < y.toNat + n.toNat then x.toNat - y.toNat - 1
      else x.toNat - y.toNat - n.toNat := by
  have hx : x.toNat < 2 ^ 16 := x.toNat_lt
  have hy : y.toNat < 2 ^ 16 := y.toNat_lt
  have hborrow : (decide (x.toUInt32 < n) || decide (x.toUInt32 - n < y.toUInt32)) = true ↔
      x.toNat < y.toNat + n.toNat := by
    simp only [Bool.or_eq_true, decide_eq_true_eq, UInt32.lt_iff_toNat_lt, UInt32.toNat_sub,
      UInt16.toNat_toUInt32]
    omega
  rw [if_congr hborrow rfl rfl]
  split_ifs at hle ⊢ with h
  all_goals simp only [UInt32.toNat_toUInt16, UInt32.toNat_add, UInt32.toNat_sub,
    UInt16.toNat_toUInt32, UInt32.reduceToNat]
  all_goals omega

/-- The high words of a difference that is not negative. -/
theorem toNat_secondsMs_sub (ht : t.Normalized) (ho : o.Normalized) (hle : o.value ≤ t.value) :
    (t.sub o).secondsMs.toNat =
      if BorrowsLs t o then
        t.secondsMs.toNat - o.secondsMs.toNat -
          if borrowNanoseconds t o = 0 ∨ t.secondsMs.toNat = o.secondsMs.toNat + 1 then 1 else 2
      else t.secondsMs.toNat - o.secondsMs.toNat := by
  have hms := secondsMs_le_of_value_le ht ho hle
  -- the borrows the source has counted when it comes to the high words
  have hcount : (if BorrowsLs t o then (if t.nanoseconds < o.nanoseconds then 1 else 0) + 1
      else 0 : UInt32).toNat = if BorrowsLs t o then borrowNanoseconds t o + 1 else 0 := by
    unfold borrowNanoseconds
    simp only [UInt32.lt_iff_toNat_lt]
    split_ifs <;> rfl
  have hns : borrowNanoseconds t o = 0 ∨ borrowNanoseconds t o = 1 := by
    unfold borrowNanoseconds
    split_ifs <;> simp
  simp only [sub, decide_eq_true_eq, if_neg (not_carry_sub ht ho), UInt32.zero_add,
    UInt16.zero_add, borrowsLs_iff]
  by_cases hls : BorrowsLs t o
  · simp only [if_pos hls] at hms hcount ⊢
    rw [toNat_sub_high (by omega) (by rw [hcount]; simpa using hms), hcount]
    split_ifs <;> omega
  · simp only [if_neg hls] at hms ⊢
    rw [toNat_sub_high (by decide) (by simpa using hms), UInt32.toNat_zero]
    split_ifs <;> omega

/-- A difference that is not negative is short by `lostSeconds`. -/
theorem value_sub (ht : t.Normalized) (ho : o.Normalized) (hle : o.value ≤ t.value) :
    (t.sub o).value + lostSeconds t o * 10 ^ 9 = t.value - o.value := by
  have hms := secondsMs_le_of_value_le ht ho hle
  have ht' := t.toNat_secondsLs_lt
  have ho' := o.toNat_secondsLs_lt
  unfold value wholeSeconds lostSeconds
  rw [toNat_nanoseconds_sub ht ho, toNat_secondsLs_sub ht ho, toNat_secondsMs_sub ht ho hle]
  unfold Normalized at ht ho
  by_cases hls : BorrowsLs t o
  · rw [if_pos hls] at hms
    rw [if_pos hls, if_pos hls, if_pos hls]
    unfold BorrowsLs at hls
    by_cases hns : t.nanoseconds.toNat < o.nanoseconds.toNat
    · rw [borrowNanoseconds_of_lt hns] at hls ⊢
      by_cases hhigh : t.secondsMs.toNat = o.secondsMs.toNat + 1
      · rw [if_pos (.inr hhigh), if_neg one_ne_zero, if_pos hhigh]
        omega
      · -- the high words pay twice
        rw [if_neg (by simpa using hhigh), if_neg one_ne_zero, if_neg hhigh]
        omega
    · rw [borrowNanoseconds_of_not_lt hns] at hls ⊢
      rw [if_pos (.inl rfl), if_pos rfl]
      omega
  · rw [if_neg hls] at hms
    rw [if_neg hls, if_neg hls, if_neg hls]
    unfold BorrowsLs at hls
    by_cases hns : t.nanoseconds.toNat < o.nanoseconds.toNat
    · rw [borrowNanoseconds_of_lt hns] at hls ⊢
      omega
    · rw [borrowNanoseconds_of_not_lt hns] at hls ⊢
      omega

end Sub

end Timestamp

end Gptp
