import Mathlib.Algebra.Order.Group.Nat
import Mathlib.Data.List.TakeWhile

/-!
# Reading numbers with `strtoul`

`strtoul(s, &end, 10)` of the C library skips white space, takes a sign if there is one, and then as many
digits as there are. Without any digit nothing is taken, not even the white space. A number with a minus
sign is negated in the arithmetic of `unsigned long`; a number that does not fit is reported.

A C string is the list of its characters, without the terminating null character.

* `signedNumeral_iff`: which strings are numerals as a whole, and what they read as.
* `strtoul_of_signedNumeral`, `strtoul_rest_ne_nil`: such strings, and no others, are taken to their end.
-/

namespace Framework

/-- `isspace` in the C locale. -/
def isSpace (c : Char) : Bool := c = ' ' || (9 ≤ c.toNat && c.toNat ≤ 13)

/-- What the platform decides: the width of `unsigned long`, and whether `errno` tells that there was no
digit. -/
structure Libc where
  ulongBits : ℕ
  ulongBits_ge : 32 ≤ ulongBits
  reportsNoDigits : Bool

/-- `errno`. -/
inductive Errno where
  | none
  | erange
  | einval
  deriving DecidableEq

/-- What `strtoul` leaves: its value, the rest of the string, and `errno`. -/
structure Strtoul where
  value : ℕ
  rest : List Char
  errno : Errno
  deriving DecidableEq

/-- The sign at the start of a string, and what follows. -/
def splitSign : List Char → Bool × List Char
  | '-' :: s => (true, s)
  | '+' :: s => (false, s)
  | s => (false, s)

/-- The number that digits stand for. -/
def numeralValue (digits : List Char) : ℕ := Nat.ofDigitChars 10 digits 0

namespace Libc

variable (libc : Libc)

/-- `ULONG_MAX`. -/
def ulongMax : ℕ := 2 ^ libc.ulongBits - 1

/-- A number with its sign, as an `unsigned long`. -/
def ulong (negative : Bool) (n : ℕ) : ℕ :=
  if negative then (2 ^ libc.ulongBits - n) % 2 ^ libc.ulongBits else n

/-- `strtoul(s, &end, 10)`. -/
def strtoul (s : List Char) : Strtoul :=
  let negative := (splitSign (s.dropWhile isSpace)).1
  let s' := (splitSign (s.dropWhile isSpace)).2
  let digits := s'.takeWhile Char.isDigit
  if digits = [] then ⟨0, s, if libc.reportsNoDigits then .einval else .none⟩
  else
    let n := numeralValue digits
    if libc.ulongMax < n then ⟨libc.ulongMax, s'.dropWhile Char.isDigit, .erange⟩
    else ⟨libc.ulong negative n, s'.dropWhile Char.isDigit, .none⟩

end Libc

/-! ### Numerals -/

/-- A string of digits, with at least one. -/
def IsNumeral (s : List Char) : Prop := s ≠ [] ∧ ∀ c ∈ s, c.isDigit = true

instance (s : List Char) : Decidable (IsNumeral s) :=
  decidable_of_iff ((!s.isEmpty && s.all Char.isDigit) = true) (by simp [IsNumeral])

/-- A numeral with white space and a sign before it, and the number that it stands for. -/
def SignedNumeral (s : List Char) (negative : Bool) (n : ℕ) : Prop :=
  ∃ blanks sign digits, s = blanks ++ (sign ++ digits) ∧ (∀ c ∈ blanks, isSpace c = true) ∧
    (sign = ['-'] ∧ negative = true ∨ (sign = [] ∨ sign = ['+']) ∧ negative = false) ∧
    IsNumeral digits ∧ numeralValue digits = n

theorem isDigit_iff {c : Char} : c.isDigit = true ↔ 48 ≤ c.toNat ∧ c.toNat ≤ 57 := by
  simp only [Char.isDigit, Bool.and_eq_true, decide_eq_true_eq, ge_iff_le, UInt32.le_iff_toNat_le]
  rfl

theorem isSpace_eq_false_of_isDigit {c : Char} (h : c.isDigit = true) : isSpace c = false := by
  rw [isDigit_iff] at h
  have hblank : c ≠ ' ' := by
    rintro rfl
    exact absurd h.1 (by decide)
  simp only [isSpace, hblank, decide_false, Bool.false_or, Bool.and_eq_false_iff,
    decide_eq_false_iff_not]
  omega

/-- Digits are not taken for a sign. -/
theorem splitSign_of_isNumeral {s : List Char} (h : IsNumeral s) : splitSign s = (false, s) := by
  obtain ⟨c, s, rfl⟩ := List.exists_cons_of_ne_nil h.1
  have hc := h.2 c List.mem_cons_self
  have hminus : c ≠ '-' := by
    rintro rfl
    exact absurd hc (by decide)
  have hplus : c ≠ '+' := by
    rintro rfl
    exact absurd hc (by decide)
  simp [splitSign, hminus, hplus]

/-- White space is skipped up to a character that is none. -/
theorem dropWhile_blanks {blanks s : List Char} (hblanks : ∀ c ∈ blanks, isSpace c = true)
    (hs : ∀ c, s.head? = some c → isSpace c = false) : (blanks ++ s).dropWhile isSpace = s := by
  rw [List.dropWhile_append_of_pos hblanks]
  cases s with
  | nil => rfl
  | cons c s => exact List.dropWhile_cons_of_neg (by simp [hs c rfl])

/-- The sign that a string has is the one it is split at. -/
theorem append_splitSign (s : List Char) :
    ∃ sign, s = sign ++ (splitSign s).2 ∧
      (sign = ['-'] ∧ (splitSign s).1 = true ∨
        (sign = [] ∨ sign = ['+']) ∧ (splitSign s).1 = false) := by
  unfold splitSign
  split
  · exact ⟨['-'], rfl, .inl ⟨rfl, rfl⟩⟩
  · exact ⟨['+'], rfl, .inr ⟨.inr rfl, rfl⟩⟩
  · exact ⟨[], rfl, .inr ⟨.inl rfl, rfl⟩⟩

/-- A string is a signed numeral if it is one behind the white space and the sign that are skipped. -/
theorem signedNumeral_iff {s : List Char} {negative : Bool} {n : ℕ} :
    SignedNumeral s negative n ↔
      (splitSign (s.dropWhile isSpace)).1 = negative ∧
        IsNumeral (splitSign (s.dropWhile isSpace)).2 ∧
        numeralValue (splitSign (s.dropWhile isSpace)).2 = n := by
  constructor
  · rintro ⟨blanks, sign, digits, rfl, hblanks, hsign, hdigits, rfl⟩
    -- neither a sign nor a digit is skipped as white space
    have hhead : ∀ c, digits.head? = some c → isSpace c = false := by
      intro c hc
      exact isSpace_eq_false_of_isDigit (hdigits.2 c (List.mem_of_head? hc))
    rcases hsign with ⟨rfl, rfl⟩ | ⟨rfl | rfl, rfl⟩
    · rw [dropWhile_blanks hblanks (by rintro c ⟨⟩; decide)]
      exact ⟨rfl, hdigits, rfl⟩
    · rw [List.nil_append, dropWhile_blanks hblanks hhead, splitSign_of_isNumeral hdigits]
      exact ⟨rfl, hdigits, rfl⟩
    · rw [dropWhile_blanks hblanks (by rintro c ⟨⟩; decide)]
      exact ⟨rfl, hdigits, rfl⟩
  · rintro ⟨hnegative, hdigits, hn⟩
    obtain ⟨sign, hsplit, hsign⟩ := append_splitSign (s.dropWhile isSpace)
    rw [hnegative] at hsign
    refine ⟨s.takeWhile isSpace, sign, _, ?_, ?_, hsign, hdigits, hn⟩
    · rw [← hsplit, List.takeWhile_append_dropWhile]
    · exact fun c hc => List.mem_takeWhile_imp hc

theorem IsNumeral.signedNumeral {s : List Char} (h : IsNumeral s) :
    SignedNumeral s false (numeralValue s) :=
  ⟨[], [], s, rfl, by simp, .inr ⟨.inl rfl, rfl⟩, h, rfl⟩

/-- A string stands for one number at most. -/
theorem SignedNumeral.unique {s : List Char} {negative negative' : Bool} {n n' : ℕ}
    (h : SignedNumeral s negative n) (h' : SignedNumeral s negative' n') :
    negative = negative' ∧ n = n' := by
  rw [signedNumeral_iff] at h h'
  exact ⟨h.1.symm.trans h'.1, h.2.2.symm.trans h'.2.2⟩

/-! ### What is taken to the end -/

namespace Libc

variable {libc : Libc} {s : List Char}

theorem takeWhile_isDigit (h : IsNumeral s) :
    s.takeWhile Char.isDigit = s ∧ s.dropWhile Char.isDigit = [] :=
  ⟨List.takeWhile_eq_self_iff.mpr h.2, List.dropWhile_eq_nil_iff.mpr h.2⟩

/-- A signed numeral is taken to its end. -/
theorem strtoul_of_signedNumeral {negative : Bool} {n : ℕ} (h : SignedNumeral s negative n) :
    libc.strtoul s =
      if libc.ulongMax < n then ⟨libc.ulongMax, [], .erange⟩
      else ⟨libc.ulong negative n, [], .none⟩ := by
  obtain ⟨hnegative, hdigits, hn⟩ := signedNumeral_iff.mp h
  obtain ⟨htake, hdrop⟩ := takeWhile_isDigit hdigits
  unfold strtoul
  dsimp only
  rw [htake, hdrop, if_neg hdigits.1, hn, hnegative]

/-- A numeral is taken up to the first character that is no digit. -/
theorem strtoul_numeral_append {blanks digits rest : List Char}
    (hblanks : ∀ c ∈ blanks, isSpace c = true) (hdigits : IsNumeral digits)
    (hmax : numeralValue digits ≤ libc.ulongMax) (hrest : ∀ c, rest.head? = some c → c.isDigit = false) :
    libc.strtoul (blanks ++ (digits ++ rest)) = ⟨numeralValue digits, rest, .none⟩ := by
  obtain ⟨d, digits, rfl⟩ := List.exists_cons_of_ne_nil hdigits.1
  have hskip : (blanks ++ (d :: digits ++ rest)).dropWhile isSpace = d :: digits ++ rest :=
    dropWhile_blanks hblanks fun c hc => by
      obtain rfl : d = c := by simpa using hc
      exact isSpace_eq_false_of_isDigit (hdigits.2 d List.mem_cons_self)
  have hsign : splitSign (d :: digits ++ rest) = (false, d :: digits ++ rest) := by
    have hnumeral := splitSign_of_isNumeral (s := [d])
      ⟨List.cons_ne_nil d [], by simpa using hdigits.2 d List.mem_cons_self⟩
    unfold splitSign at hnumeral ⊢
    split at hnumeral <;> simp_all
  have htake : (d :: digits ++ rest).takeWhile Char.isDigit = d :: digits ∧
      (d :: digits ++ rest).dropWhile Char.isDigit = rest := by
    rw [List.takeWhile_append_of_pos hdigits.2, List.dropWhile_append_of_pos hdigits.2]
    cases rest with
    | nil => simp
    | cons c rest =>
      have hc := hrest c rfl
      exact ⟨by rw [List.takeWhile_cons_of_neg (by simp [hc]), List.append_nil],
        List.dropWhile_cons_of_neg (by simp [hc])⟩
  unfold strtoul
  dsimp only
  rw [hskip, hsign]
  dsimp only
  rw [htake.1, htake.2, if_neg (List.cons_ne_nil d digits), if_neg (Nat.not_lt.mpr hmax)]
  rfl

theorem strtoul_nil : libc.strtoul [] = ⟨0, [], if libc.reportsNoDigits then .einval else .none⟩ :=
  rfl

/-- What is taken to its end is a signed numeral, or empty. -/
theorem strtoul_rest_ne_nil (hs : s ≠ []) (h : ∀ negative n, ¬ SignedNumeral s negative n) :
    (libc.strtoul s).rest ≠ [] := by
  intro hrest
  unfold strtoul at hrest
  dsimp only at hrest
  generalize hs' : (splitSign (s.dropWhile isSpace)).2 = s' at hrest
  by_cases hdigits : s'.takeWhile Char.isDigit = []
  · rw [if_pos hdigits] at hrest
    exact hs hrest
  · -- nothing is left behind the digits
    have hall : s'.dropWhile Char.isDigit = [] := by
      rw [if_neg hdigits] at hrest
      split_ifs at hrest <;> exact hrest
    have hnumeral : IsNumeral s' := by
      refine ⟨?_, List.dropWhile_eq_nil_iff.mp hall⟩
      rintro rfl
      exact hdigits rfl
    rw [← hs'] at hnumeral
    exact h _ _ (signedNumeral_iff.mpr ⟨rfl, hnumeral, rfl⟩)

end Libc

end Framework
