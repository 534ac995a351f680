import Gptp.Framework.Strtoul
import Mathlib.Data.List.DropRight

/-!
# Text files read line by line

A text file is read with `fgets` into a buffer of fixed size: a line ends at its newline or where the
buffer is full, and what did not fit is read as the next line. A C string is the list of its characters
up to the first null character.

* `lines_flatMap_append`: lines that fit in the buffer are read one by one.
* `lines_append_of_length_le`: a line that does not fit is cut, and its rest is read as a line.
* `rstrip_append`, `lskip_append_of_isBlank`, `lskip_trimmed_append`: stripping white space from either end
  of a text put together from parts.
-/

namespace Framework

/-! ### White space at the ends -/

/-- The text without the white space at its end. -/
def rstrip (s : List Char) : List Char := s.rdropWhile isSpace

/-- The text without the white space at its start. -/
def lskip (s : List Char) : List Char := s.dropWhile isSpace

/-- White space, and nothing else. -/
def IsBlank (s : List Char) : Prop := ∀ c ∈ s, isSpace c = true

/-- A text with white space at neither end. -/
def Trimmed (s : List Char) : Prop := rstrip s = s ∧ lskip s = s

instance (s : List Char) : Decidable (IsBlank s) :=
  decidable_of_iff (s.all isSpace = true) List.all_eq_true

instance (s : List Char) : Decidable (Trimmed s) := inferInstanceAs (Decidable (_ ∧ _))

theorem rstrip_eq_nil_iff {s : List Char} : rstrip s = [] ↔ IsBlank s := List.rdropWhile_eq_nil_iff

theorem lskip_eq_nil_iff {s : List Char} : lskip s = [] ↔ IsBlank s := List.dropWhile_eq_nil_iff

/-- Stripping the end reaches into the first part only if the second one is white space. -/
theorem rstrip_append (s t : List Char) :
    rstrip (s ++ t) = if IsBlank t then rstrip s else s ++ rstrip t := by
  have hnil : rstrip t = [] ↔ (t.reverse.dropWhile isSpace).isEmpty := by
    rw [List.isEmpty_iff, rstrip, List.rdropWhile, List.reverse_eq_nil_iff]
  unfold rstrip List.rdropWhile
  rw [List.reverse_append, List.dropWhile_append]
  by_cases hblank : IsBlank t
  · rw [if_pos hblank, if_pos (hnil.mp (rstrip_eq_nil_iff.mpr hblank))]
  · rw [if_neg hblank, if_neg fun h => hblank (rstrip_eq_nil_iff.mp (hnil.mpr h)), List.reverse_append,
      List.reverse_reverse]

theorem rstrip_append_of_isBlank (s : List Char) {t : List Char} (ht : IsBlank t) :
    rstrip (s ++ t) = rstrip s := by
  rw [rstrip_append, if_pos ht]

/-- A character that is no white space protects what is before it. -/
theorem rstrip_append_cons (s : List Char) {c : Char} (hc : isSpace c = false) (t : List Char) :
    rstrip (s ++ c :: t) = s ++ c :: rstrip t := by
  have hcons : rstrip (c :: t) = c :: rstrip t := by
    rw [← List.singleton_append, rstrip_append]
    split_ifs with hblank
    · rw [rstrip_eq_nil_iff.mpr hblank, rstrip, List.rdropWhile_singleton, if_neg (by simp [hc])]
    · rfl
  have hblank : ¬ IsBlank (c :: t) := fun h => by
    rw [h c List.mem_cons_self] at hc
    cases hc
  rw [rstrip_append, if_neg hblank, hcons]

theorem lskip_append_of_isBlank {s : List Char} (hs : IsBlank s) (t : List Char) :
    lskip (s ++ t) = lskip t := by
  have hempty : (s.dropWhile isSpace).isEmpty := by
    rw [List.isEmpty_iff]
    exact lskip_eq_nil_iff.mpr hs
  rw [lskip, List.dropWhile_append, if_pos hempty, lskip]

theorem lskip_cons_of_not_isSpace {c : Char} (hc : isSpace c = false) (t : List Char) :
    lskip (c :: t) = c :: t :=
  List.dropWhile_cons_of_neg (by simp [hc])

/-- The first character of a text without white space in front. -/
theorem Trimmed.head_not_isSpace {c : Char} {s : List Char} (h : Trimmed (c :: s)) :
    isSpace c = false := by
  by_contra hc
  have hskip := h.2
  rw [lskip, List.dropWhile_cons_of_pos (by simpa using hc)] at hskip
  have hlength := (List.dropWhile_suffix isSpace (l := s)).length_le
  rw [hskip] at hlength
  exact absurd hlength (by simp)

/-- A trimmed text stands as it is with white space around it. -/
theorem rstrip_append_trimmed (s : List Char) {v : List Char} (hv : Trimmed v) (hne : v ≠ []) :
    rstrip (s ++ v) = s ++ v := by
  have hblank : ¬ IsBlank v := fun h => hne (by rw [← hv.1, rstrip_eq_nil_iff.mpr h])
  rw [rstrip_append, if_neg hblank, hv.1]

theorem lskip_trimmed_append {v : List Char} (hv : Trimmed v) (hne : v ≠ []) (t : List Char) :
    lskip (v ++ t) = v ++ t := by
  cases v with
  | nil => exact absurd rfl hne
  | cons c v => exact lskip_cons_of_not_isSpace hv.head_not_isSpace _

/-! ### Lines -/

/-- The C string in a buffer. -/
def cString (buffer : List Char) : List Char := buffer.takeWhile (· ≠ '\x00')

theorem cString_of_notMem {s : List Char} (h : '\x00' ∉ s) : cString s = s :=
  List.takeWhile_eq_self_iff.mpr fun _ hc => decide_eq_true fun h0 => h (h0 ▸ hc)

/-- `fgets` with room for that many characters: what it reads, and what is left in the file. -/
def fgets : ℕ → List Char → List Char × List Char
  | 0, file => ([], file)
  | _ + 1, [] => ([], [])
  | room + 1, c :: file =>
    if c = '\n' then ([c], file) else (c :: (fgets room file).1, (fgets room file).2)

/-- The calls of `fgets` up to the end of the file, at most `fuel` of them. -/
def readLines (room : ℕ) : ℕ → List Char → List (List Char)
  | 0, _ => []
  | fuel + 1, file =>
    if file = [] then [] else (fgets room file).1 :: readLines room fuel (fgets room file).2

/-- The lines of a file. Each of them takes a character at least, so this many calls do. -/
def lines (room : ℕ) (file : List Char) : List (List Char) := readLines room file.length file

theorem length_fgets_snd (room : ℕ) (file : List Char) :
    (fgets room file).2.length ≤ file.length := by
  induction file generalizing room with
  | nil => cases room <;> simp [fgets]
  | cons c file ih =>
    cases room with
    | zero => rfl
    | succ room =>
      rw [fgets]
      split
      · simp
      · exact (ih room).trans (Nat.le_succ _)

theorem length_fgets_snd_lt {room : ℕ} (hroom : 0 < room) {file : List Char} (hfile : file ≠ []) :
    (fgets room file).2.length < file.length := by
  obtain ⟨room, rfl⟩ := Nat.exists_eq_succ_of_ne_zero hroom.ne'
  cases file with
  | nil => exact absurd rfl hfile
  | cons c file =>
    rw [fgets]
    split
    · simp
    · exact Nat.lt_succ_of_le (length_fgets_snd room file)

/-- More calls than the file has characters read no more. -/
theorem readLines_eq {room : ℕ} (hroom : 0 < room) {fuel : ℕ} {file : List Char}
    (hfuel : file.length ≤ fuel) : readLines room fuel file = lines room file := by
  -- on the calls that are left; both sides make the same first call
  induction fuel using Nat.strong_induction_on generalizing file with
  | _ fuel ih =>
    by_cases hfile : file = []
    · subst hfile
      cases fuel <;> rfl
    obtain ⟨k, hk⟩ := Nat.exists_eq_succ_of_ne_zero (List.length_pos_of_ne_nil hfile).ne'
    obtain ⟨fuel, rfl⟩ := Nat.exists_eq_succ_of_ne_zero (n := fuel) (by omega)
    have hlt := length_fgets_snd_lt hroom hfile
    rw [lines, hk, readLines, readLines, if_neg hfile, if_neg hfile,
      ih fuel (Nat.lt_succ_self fuel) (by omega)]
    congr 1
    rcases Nat.lt_or_ge k (fuel + 1) with hk' | hk'
    · exact (ih k hk' (by omega)).symm
    · have : k = fuel := by omega
      rw [this, ih fuel (Nat.lt_succ_self fuel) (by omega)]

@[simp] theorem lines_nil (room : ℕ) : lines room [] = [] := rfl

/-- The first line, and the lines of the rest. -/
theorem lines_eq_cons {room : ℕ} (hroom : 0 < room) {file : List Char} (hfile : file ≠ []) :
    lines room file = (fgets room file).1 :: lines room (fgets room file).2 := by
  obtain ⟨k, hk⟩ := Nat.exists_eq_succ_of_ne_zero (List.length_pos_of_ne_nil hfile).ne'
  have hlt := length_fgets_snd_lt hroom hfile
  rw [lines, hk, readLines, if_neg hfile, readLines_eq hroom (by omega)]

/-- A line that fits is read to its newline. -/
theorem fgets_line {room : ℕ} {t : List Char} (ht : '\n' ∉ t) (hroom : t.length < room)
    (rest : List Char) : fgets room (t ++ '\n' :: rest) = (t ++ ['\n'], rest) := by
  induction t generalizing room with
  | nil =>
    obtain ⟨room, rfl⟩ := Nat.exists_eq_succ_of_ne_zero (n := room) (by omega)
    simp [fgets]
  | cons c t ih =>
    obtain ⟨room, rfl⟩ := Nat.exists_eq_succ_of_ne_zero (n := room) (by omega)
    have hc : c ≠ '\n' := fun h => ht (h ▸ List.mem_cons_self)
    have hread := ih (fun h => ht (List.mem_cons_of_mem c h))
      (Nat.lt_of_succ_lt_succ (by simpa using hroom))
    rw [List.cons_append, fgets, if_neg hc, hread]
    rfl

/-- A line that does not fit is read as far as it does. -/
theorem fgets_of_length_le {room : ℕ} {t : List Char} (ht : '\n' ∉ t.take room)
    (hroom : room ≤ t.length) (rest : List Char) :
    fgets room (t ++ rest) = (t.take room, t.drop room ++ rest) := by
  induction t generalizing room with
  | nil =>
    obtain rfl : room = 0 := by simpa using hroom
    simp [fgets]
  | cons c t ih =>
    cases room with
    | zero => simp [fgets]
    | succ room =>
      rw [List.take_succ_cons, List.mem_cons, not_or] at ht
      have hread := ih ht.2 (by simpa using hroom)
      rw [List.cons_append, fgets, if_neg (Ne.symm ht.1), hread]
      rfl

/-- **Lines that fit.** Lines that fit in the buffer are read one by one, and then the rest of the file. -/
theorem lines_flatMap_append {room : ℕ} {ts : List (List Char)}
    (hts : ∀ t ∈ ts, '\n' ∉ t ∧ t.length < room) (rest : List Char) :
    lines room (ts.flatMap (· ++ ['\n']) ++ rest) = ts.map (· ++ ['\n']) ++ lines room rest := by
  induction ts with
  | nil => rfl
  | cons t ts ih =>
    obtain ⟨hnl, hlt⟩ := hts t List.mem_cons_self
    have hfile : (t :: ts).flatMap (· ++ ['\n']) ++ rest =
        t ++ '\n' :: (ts.flatMap (· ++ ['\n']) ++ rest) := by
      simp
    rw [hfile, lines_eq_cons (by omega) (by simp), fgets_line hnl hlt,
      ih fun t' h => hts t' (List.mem_cons_of_mem t h), List.map_cons, List.cons_append]

theorem lines_flatMap {room : ℕ} {ts : List (List Char)} (hts : ∀ t ∈ ts, '\n' ∉ t ∧ t.length < room) :
    lines room (ts.flatMap (· ++ ['\n'])) = ts.map (· ++ ['\n']) := by
  have h := lines_flatMap_append hts []
  rwa [List.append_nil, lines_nil, List.append_nil] at h

/-- **A line that does not fit.** What is beyond the buffer is read as another line. -/
theorem lines_append_of_length_le {room : ℕ} (hroom : 0 < room) {t : List Char}
    (ht : '\n' ∉ t.take room) (hlong : room ≤ t.length) (rest : List Char) :
    lines room (t ++ rest) = t.take room :: lines room (t.drop room ++ rest) := by
  have hne : t ++ rest ≠ [] := by
    intro h
    rw [List.append_eq_nil_iff] at h
    simp [h.1] at hlong
    omega
  rw [lines_eq_cons hroom hne, fgets_of_length_le ht hlong]

end Framework
