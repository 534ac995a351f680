import Gptp.Framework.TextLines

/-!
# The file format of the configuration

`ini_parse_file` reads a file of sections and of name and value pairs, and calls a handler for each pair. It
goes on after a line it cannot make sense of and after an item the handler refuses, and returns the number
of the first such line.

The format itself is stated apart from the scanner. An `IniLine` is a line in one of the layouts that the
format allows, malformed ones included, an `IniDoc` is a file of such lines, and `IniDoc.events` is what the
file says, line by line.

* `iniParse_document`: the scanner reads from the text of a document what the document says.
* `iniParseFile_longComment`: a comment that does not fit in the buffer goes on as a line of its own.
-/

namespace Gptp

open Framework

/-! ### The scanner -/

/-- `INI_MAX_LINE`. -/
def iniMaxLine : ℕ := 200

/-- `MAX_SECTION`. -/
def maxSection : ℕ := 50

/-- `MAX_NAME`. -/
def maxName : ℕ := 50

/-- `find_char_or_comment`: the text up to the character or the comment, and the text from there. The flag
tells whether the character before was white space. -/
def findCharOrComment (c : Char) : Bool → List Char → List Char × List Char
  | _, [] => ([], [])
  | wasWhitespace, x :: s =>
    if x = c ∨ wasWhitespace ∧ x = ';' then ([], x :: s)
    else (x :: (findCharOrComment c (isSpace x) s).1, (findCharOrComment c (isSpace x) s).2)

/-- `strncpy0`. -/
def strncpy0 (src : List Char) (size : ℕ) : List Char := src.take (size - 1)

/-- The handler of an item: section, name and value to what it makes of the user data, and whether it accepts
the item. -/
abbrev IniHandler (σ : Type) : Type := List Char → List Char → List Char → σ → σ × Bool

/-- The variables of `ini_parse_file` between two lines. -/
structure IniState (σ : Type) where
  user : σ
  sectionName : List Char
  prevName : List Char
  lineno : ℕ
  error : ℕ

namespace IniState

variable {σ : Type} (handler : IniHandler σ)

/-- `if (!error) error = lineno`. -/
def fail (s : IniState σ) : IniState σ :=
  { s with error := if s.error = 0 then s.lineno else s.error }

/-- A call of the handler. -/
def call (name value : List Char) (s : IniState σ) : IniState σ :=
  let r := handler s.sectionName name value s.user
  if r.2 then { s with user := r.1 } else fail { s with user := r.1 }

/-- A line that starts with a bracket; `rest` is what follows the bracket. -/
def sectionLine (rest : List Char) (s : IniState σ) : IniState σ :=
  match findCharOrComment ']' false rest with
  | (name, c :: _) =>
    if c = ']' then { s with sectionName := strncpy0 name maxSection, prevName := [] } else s.fail
  | (_, []) => s.fail

/-- A line that must be a name and a value: `=` is looked for first, then `:`. -/
def pairLine (start : List Char) (s : IniState σ) : IniState σ :=
  let r := findCharOrComment '=' false start
  let r := if r.2.head? = some '=' then r else findCharOrComment ':' false start
  match r with
  | (name, c :: rest) =>
    if c = '=' ∨ c = ':' then
      let name := rstrip name
      let value := rstrip (findCharOrComment '\x00' false (lskip rest)).1
      call handler name value { s with prevName := strncpy0 name maxName }
    else s.fail
  | (_, []) => s.fail

/-- What is done with a line from its first character on that is no white space; `moved` tells that the line
does not start there. -/
def startLine (moved : Bool) (start : List Char) (s : IniState σ) : IniState σ :=
  match start with
  | [] => s
  | c :: rest =>
    if c = ';' ∨ c = '#' then s
    else if s.prevName ≠ [] ∧ moved then s.call handler s.prevName start
    else if c = '[' then s.sectionLine rest
    else s.pairLine handler start

end IniState

/-- The byte order mark of UTF-8. -/
def byteOrderMark : List Char := ['\xEF', '\xBB', '\xBF']

/-- The part of the loop of `ini_parse_file` after the byte order mark; `marked` tells that there was one. -/
def iniProcessText {σ : Type} (handler : IniHandler σ) (marked : Bool) (text : List Char)
    (s : IniState σ) : IniState σ :=
  let text := rstrip text
  let start := lskip text
  s.startLine handler (marked || start.length < text.length) start

/-- The body of the loop of `ini_parse_file`, for the line in the buffer. -/
def iniProcessLine {σ : Type} (handler : IniHandler σ) (s : IniState σ) (buffer : List Char) :
    IniState σ :=
  let s := { s with lineno := s.lineno + 1 }
  let line := cString buffer
  let marked : Bool := s.lineno = 1 && byteOrderMark.isPrefixOf line
  iniProcessText handler marked (if marked then line.drop 3 else line) s

/-- `ini_parse_file`: the user data and the result. -/
def iniParseFile {σ : Type} (handler : IniHandler σ) (user : σ) (file : List Char) : σ × ℕ :=
  let s := (lines (iniMaxLine - 1) file).foldl (iniProcessLine handler) ⟨user, [], [], 0, 0⟩
  (s.user, s.error)

/-- `ini_parse`, for the contents of the file if it can be opened. -/
def iniParse {σ : Type} (handler : IniHandler σ) (user : σ) : Option (List Char) → σ × ℤ
  | none => (user, -1)
  | some file => ((iniParseFile handler user file).1, (iniParseFile handler user file).2)

/-! ### The format -/

/-- No comment begins in the text: no semicolon stands after white space. -/
def noComment : Bool → List Char → Bool
  | _, [] => true
  | wasWhitespace, x :: s => !(wasWhitespace && x = ';') && noComment (isSpace x) s

/-- What may follow the part of a line that counts: nothing, or white space and a comment. -/
def IsRemark (r : List Char) : Prop :=
  r = [] ∨ ∃ w t, r = w ++ ';' :: t ∧ IsBlank w ∧ w ≠ []

/-- The character that starts a comment line. -/
def commentMark (hash : Bool) : Char := if hash then '#' else ';'

theorem not_isSpace_commentMark (hash : Bool) : isSpace (commentMark hash) = false := by
  cases hash <;> rfl

theorem commentMark_eq (hash : Bool) : commentMark hash = ';' ∨ commentMark hash = '#' := by
  cases hash
  · exact .inl rfl
  · exact .inr rfl

/-- A line of a file, without its newline. -/
inductive IniLine where
  | blank (spaces : List Char)
  | comment (indent : List Char) (hash : Bool) (text : List Char)
  /-- `[name]`, and anything after it. -/
  | header (name after : List Char)
  /-- `name = value` or `name : value`. -/
  | pair (name gap : List Char) (colon : Bool) (gap' value remark trailing : List Char)
  /-- An indented line after a pair. -/
  | continuation (indent text trailing : List Char)
  /-- A bracket that is not closed. -/
  | unclosed (text remark trailing : List Char)
  /-- Neither a section nor a pair. -/
  | bare (text remark trailing : List Char)

namespace IniLine

/-- The separator of a pair. -/
def separator (colon : Bool) : Char := if colon then ':' else '='

/-- The line as it is written. -/
def text : IniLine → List Char
  | blank spaces => spaces
  | comment indent hash text => indent ++ commentMark hash :: text
  | header name after => '[' :: (name ++ ']' :: after)
  | pair name gap colon gap' value remark trailing =>
    name ++ gap ++ separator colon :: (gap' ++ value ++ remark ++ trailing)
  | continuation indent text trailing => indent ++ text ++ trailing
  | unclosed text remark trailing => '[' :: (text ++ remark ++ trailing)
  | bare text remark trailing => text ++ remark ++ trailing

/-- A text that can start a pair: it is trimmed, and its first character has no other meaning. -/
def IsStart : List Char → Prop
  | [] => False
  | c :: s => Trimmed (c :: s) ∧ c ≠ ';' ∧ c ≠ '#' ∧ c ≠ '['

instance : DecidablePred IsStart
  | [] => isFalse id
  | _ :: _ => inferInstanceAs (Decidable (_ ∧ _))

/-- The line keeps to the layout of its kind. -/
def Valid : IniLine → Prop
  | blank spaces => IsBlank spaces
  | comment indent _ _ => IsBlank indent
  | header name _ => ']' ∉ name ∧ noComment false name ∧ name.length < maxSection
  | pair name gap colon gap' value remark trailing =>
    IsStart name ∧ name.length < maxName ∧ noComment false name ∧ '=' ∉ name ∧
      (colon = true → ':' ∉ name ∧ '=' ∉ value) ∧ IsBlank gap ∧ IsBlank gap' ∧ Trimmed value ∧
      noComment false value ∧ IsRemark remark ∧ (value = [] → remark = []) ∧ IsBlank trailing
  | continuation indent text trailing =>
    indent ≠ [] ∧ IsBlank indent ∧ Trimmed text ∧ text ≠ [] ∧ text.head? ≠ some ';' ∧
      text.head? ≠ some '#' ∧ IsBlank trailing
  | unclosed text remark trailing =>
    ']' ∉ text ∧ noComment false text ∧ rstrip text = text ∧ IsRemark remark ∧ IsBlank trailing
  | bare text remark trailing =>
    IsStart text ∧ '=' ∉ text ∧ ':' ∉ text ∧ noComment false text ∧ IsRemark remark ∧ IsBlank trailing

end IniLine

/-- What a line says. -/
inductive IniEvent where
  /-- An item, with the number of its line. -/
  | item (lineno : ℕ) (sectionName name value : List Char)
  | malformed (lineno : ℕ)

/-- A file: its lines, and whether a byte order mark is in front of them. -/
structure IniDoc where
  marked : Bool
  lines : List IniLine

namespace IniDoc

/-- Continuations stand after a pair of the same section; the flag tells that there has been one. -/
def Placed : Bool → List IniLine → Prop
  | _, [] => True
  | _, .header _ _ :: ls => Placed false ls
  | _, .pair .. :: ls => Placed true ls
  | named, .continuation .. :: ls => named = true ∧ Placed named ls
  | named, _ :: ls => Placed named ls

/-- The lines as they are written. -/
def texts (d : IniDoc) : List (List Char) :=
  (d.lines.map IniLine.text).modifyHead ((if d.marked then byteOrderMark else []) ++ ·)

/-- The contents of the file. -/
def text (d : IniDoc) : List Char := d.texts.flatMap (· ++ ['\n'])

/-- The file keeps to the format, and its lines fit in the buffer. -/
structure Valid (d : IniDoc) : Prop where
  lines : ∀ l ∈ d.lines, l.Valid
  placed : Placed false d.lines
  oneLine : ∀ t ∈ d.texts, '\n' ∉ t ∧ '\x00' ∉ t ∧ t.length < iniMaxLine - 1
  /-- What looks like a byte order mark is one. -/
  marked : d.marked = false → ∀ l ∈ d.lines.head?, byteOrderMark.isPrefixOf l.text = false

/-- What the lines from number `n` on say, after the header of a section and the last name in it. -/
def eventsFrom (sectionName lastName : List Char) (n : ℕ) : List IniLine → List IniEvent
  | [] => []
  | .header name _ :: ls => eventsFrom name [] (n + 1) ls
  | .pair name _ _ _ value _ _ :: ls =>
    .item n sectionName name value :: eventsFrom sectionName name (n + 1) ls
  | .continuation _ text _ :: ls =>
    .item n sectionName lastName text :: eventsFrom sectionName lastName (n + 1) ls
  | .unclosed .. :: ls => .malformed n :: eventsFrom sectionName lastName (n + 1) ls
  | .bare .. :: ls => .malformed n :: eventsFrom sectionName lastName (n + 1) ls
  | .blank _ :: ls => eventsFrom sectionName lastName (n + 1) ls
  | .comment .. :: ls => eventsFrom sectionName lastName (n + 1) ls

/-- What the file says. -/
def events (d : IniDoc) : List IniEvent := eventsFrom [] [] 1 d.lines

end IniDoc

namespace IniEvent

variable {σ : Type} (handler : IniHandler σ)

/-- The number of the line. -/
def lineno : IniEvent → ℕ
  | item n _ _ _ => n
  | malformed n => n

/-- The user data after the line: an item goes to the handler. -/
def next (u : σ) : IniEvent → σ
  | item _ sectionName name value => (handler sectionName name value u).1
  | malformed _ => u

/-- Whether the line is malformed or refused by the handler. -/
def refused (u : σ) : IniEvent → Bool
  | item _ sectionName name value => !(handler sectionName name value u).2
  | malformed _ => true

/-- The number of the first line that is malformed or refused, and 0 if there is none. -/
def firstRefused : List IniEvent → σ → ℕ
  | [], _ => 0
  | e :: es, u => if e.refused handler u then e.lineno else firstRefused es (e.next handler u)

/-- One line after others, of which the first bad one had the given number. -/
def deliver (r : σ × ℕ) (e : IniEvent) : σ × ℕ :=
  (e.next handler r.1, if r.2 = 0 ∧ e.refused handler r.1 then e.lineno else r.2)

/-- The lines one after the other. The first bad one is found by its number, which is not 0. -/
theorem foldl_deliver {es : List IniEvent} (hes : ∀ e ∈ es, e.lineno ≠ 0) (u : σ) :
    es.foldl (deliver handler) (u, 0) = (es.foldl (next handler) u, firstRefused handler es u) := by
  -- after a bad line the number stays
  have hkeep (es : List IniEvent) (u : σ) {n : ℕ} (hn : n ≠ 0) :
      es.foldl (deliver handler) (u, n) = (es.foldl (next handler) u, n) := by
    induction es generalizing u with
    | nil => rfl
    | cons e es ih =>
      rw [List.foldl_cons, List.foldl_cons, deliver, if_neg fun h => hn h.1, ih]
  induction es generalizing u with
  | nil => rfl
  | cons e es ih =>
    rw [List.foldl_cons, List.foldl_cons, deliver, firstRefused]
    by_cases hrefused : e.refused handler u = true
    · rw [if_pos ⟨rfl, hrefused⟩, if_pos hrefused, hkeep _ _ (hes e List.mem_cons_self)]
    · rw [if_neg fun h => hrefused h.2, if_neg hrefused, ih fun e' h => hes e' (List.mem_cons_of_mem e h)]

end IniEvent

/-- Lines are counted from 1 on. -/
theorem IniDoc.lineno_eventsFrom {ls : List IniLine} {sectionName lastName : List Char} {n : ℕ} :
    ∀ e ∈ eventsFrom sectionName lastName n ls, n ≤ e.lineno := by
  induction ls generalizing sectionName lastName n with
  | nil => exact fun e he => absurd he List.not_mem_nil
  | cons l ls ih =>
    intro e he
    have hlater {sectionName lastName : List Char}
        (h : e ∈ eventsFrom sectionName lastName (n + 1) ls) : n ≤ e.lineno :=
      (Nat.le_succ n).trans (ih e h)
    cases l with
    | blank spaces => exact hlater he
    | comment indent hash text => exact hlater he
    | header name after => exact hlater he
    | pair name gap colon gap' value remark trailing =>
      rcases List.mem_cons.mp he with rfl | h
      · exact le_rfl
      · exact hlater h
    | continuation indent text trailing =>
      rcases List.mem_cons.mp he with rfl | h
      · exact le_rfl
      · exact hlater h
    | unclosed text remark trailing =>
      rcases List.mem_cons.mp he with rfl | h
      · exact le_rfl
      · exact hlater h
    | bare text remark trailing =>
      rcases List.mem_cons.mp he with rfl | h
      · exact le_rfl
      · exact hlater h

/-! ### Characters and comments -/

section Find

variable {c : Char} {b : Bool} {a w t : List Char}

/-- Whether the text, or what was before it, ends in white space. -/
def endsInSpace (wasWhitespace : Bool) (s : List Char) : Bool := s.foldl (fun _ x => isSpace x) wasWhitespace

theorem noComment_append (a t : List Char) :
    noComment b (a ++ t) = (noComment b a && noComment (endsInSpace b a) t) := by
  induction a generalizing b with
  | nil => simp [noComment, endsInSpace]
  | cons x a ih =>
    rw [List.cons_append, noComment, noComment, ih, Bool.and_assoc]
    rfl

theorem not_isSpace_semicolon : isSpace ';' = false := by decide

theorem noComment_of_isBlank (hw : IsBlank w) : noComment b w = true := by
  induction w generalizing b with
  | nil => rfl
  | cons x w ih =>
    have hx : x ≠ ';' := by
      rintro rfl
      exact absurd (hw ';' List.mem_cons_self) (by decide)
    rw [noComment, ih fun y hy => hw y (List.mem_cons_of_mem x hy)]
    simp [hx]

theorem endsInSpace_of_isBlank (hw : IsBlank w) (hne : w ≠ []) : endsInSpace b w = true := by
  induction w generalizing b with
  | nil => exact absurd rfl hne
  | cons x w ih =>
    cases w with
    | nil => exact hw x List.mem_cons_self
    | cons y w =>
      exact ih (b := isSpace x) (fun z hz => hw z (List.mem_cons_of_mem x hz)) (List.cons_ne_nil y w)

theorem notMem_of_isBlank (hw : IsBlank w) (hc : isSpace c = false) : c ∉ w := by
  intro hmem
  rw [hw c hmem] at hc
  cases hc

/-- The search passes a text without the character and without a comment. -/
theorem findCharOrComment_append (ha : c ∉ a) (hcomment : noComment b a = true) (t : List Char) :
    findCharOrComment c b (a ++ t) =
      (a ++ (findCharOrComment c (endsInSpace b a) t).1, (findCharOrComment c (endsInSpace b a) t).2) := by
  induction a generalizing b with
  | nil => rfl
  | cons x a ih =>
    rw [List.mem_cons, not_or] at ha
    rw [noComment, Bool.and_eq_true, Bool.not_eq_true'] at hcomment
    have hstop : ¬ (x = c ∨ b = true ∧ x = ';') := by
      rintro (h | ⟨h, h'⟩)
      · exact ha.1 h.symm
      · rw [h, h'] at hcomment
        exact absurd hcomment.1 (by decide)
    rw [List.cons_append, findCharOrComment, if_neg hstop, ih ha.2 hcomment.2]
    rfl

/-- The search ends at the character. -/
theorem findCharOrComment_found (ha : c ∉ a) (hcomment : noComment b a = true) (t : List Char) :
    findCharOrComment c b (a ++ c :: t) = (a, c :: t) := by
  rw [findCharOrComment_append ha hcomment, findCharOrComment, if_pos (.inl rfl), List.append_nil]

/-- The search for a character that is not there ends at the comment, if there is one. -/
theorem findCharOrComment_remark (ha : c ∉ a) (hcomment : noComment b a = true) (hc : isSpace c = false)
    {r : List Char} (hr : IsRemark r) :
    ∃ w rest, findCharOrComment c b (a ++ r) = (a ++ w, rest) ∧ IsBlank w ∧
      (rest = [] ∨ ∃ t, rest = ';' :: t) := by
  rw [findCharOrComment_append ha hcomment]
  rcases hr with rfl | ⟨w, t, rfl, hw, hne⟩
  · exact ⟨[], [], rfl, fun _ h => absurd h List.not_mem_nil, .inl rfl⟩
  · refine ⟨w, ';' :: t, ?_, hw, .inr ⟨t, rfl⟩⟩
    rw [findCharOrComment_append (notMem_of_isBlank hw hc) (noComment_of_isBlank hw),
      endsInSpace_of_isBlank hw hne, findCharOrComment, if_pos (.inr ⟨rfl, rfl⟩), List.append_nil]

/-- The search does not find a character that is not there, whatever ends it. -/
theorem findCharOrComment_head_ne (ha : c ∉ a) (hc : isSpace c = false) (hsemi : c ≠ ';')
    {r : List Char} (hr : IsRemark r) : (findCharOrComment c b (a ++ r)).2.head? ≠ some c := by
  induction a generalizing b with
  | nil =>
    obtain ⟨w, rest, hfind, -, hrest⟩ :=
      findCharOrComment_remark (a := []) (b := b) List.not_mem_nil rfl hc hr
    rw [hfind]
    rcases hrest with rfl | ⟨t, rfl⟩
    · simp
    · exact fun h => hsemi (Option.some.inj h).symm
  | cons x a ih =>
    rw [List.mem_cons, not_or] at ha
    rw [List.cons_append, findCharOrComment]
    split
    · exact fun h => ha.1 (Option.some.inj h).symm
    · exact ih ha.2

/-- Stripping the end of a line leaves a comment a comment. -/
theorem rstrip_remark {r : List Char} (ha : rstrip a = a) (hr : IsRemark r) (ht : IsBlank t) :
    ∃ r', rstrip (a ++ r ++ t) = a ++ r' ∧ IsRemark r' := by
  rcases hr with rfl | ⟨w, u, rfl, hw, hne⟩
  · refine ⟨[], ?_, .inl rfl⟩
    rw [List.append_nil, rstrip_append_of_isBlank a ht, ha]
  · refine ⟨w ++ ';' :: rstrip (u ++ t), ?_, .inr ⟨w, _, rfl, hw, hne⟩⟩
    rw [show a ++ (w ++ ';' :: u) ++ t = a ++ w ++ ';' :: (u ++ t) by simp,
      rstrip_append_cons _ not_isSpace_semicolon, List.append_assoc]

end Find

/-! ### Lines -/

section Lines

variable {σ : Type} (handler : IniHandler σ)

/-- What a line of the format does to the variables of the scanner. -/
def IniLine.effect : IniLine → IniState σ → IniState σ
  | .header name _, s => { s with sectionName := name, prevName := [] }
  | .pair name _ _ _ value _ _, s => { s with prevName := name }.call handler name value
  | .continuation _ text _, s => s.call handler s.prevName text
  | .unclosed .., s => s.fail
  | .bare .., s => s.fail
  | .blank _, s => s
  | .comment .., s => s

namespace IniState

variable {handler} {s : IniState σ}

theorem sectionLine_closed {name after : List Char} (hname : ']' ∉ name)
    (hcomment : noComment false name = true) (hlength : name.length < maxSection) :
    s.sectionLine (name ++ ']' :: after) = { s with sectionName := name, prevName := [] } := by
  have hcopy : strncpy0 name maxSection = name :=
    List.take_of_length_le (Nat.le_sub_one_of_lt hlength)
  unfold sectionLine
  rw [findCharOrComment_found hname hcomment]
  dsimp only
  rw [if_pos rfl, hcopy]

theorem sectionLine_unclosed {text r : List Char} (htext : ']' ∉ text)
    (hcomment : noComment false text = true) (hr : IsRemark r) :
    s.sectionLine (text ++ r) = s.fail := by
  obtain ⟨w, rest, hfind, -, hrest⟩ := findCharOrComment_remark htext hcomment (by decide) hr
  unfold sectionLine
  rw [hfind]
  rcases hrest with rfl | ⟨t, rfl⟩
  · rfl
  · exact if_neg (by decide)

section Value

variable {gap value remark trailing : List Char} (hgap : IsBlank gap) (hvalue : Trimmed value)
  (hremark : IsRemark remark) (hempty : value = [] → remark = []) (htrailing : IsBlank trailing)
include hgap hvalue hremark hempty htrailing

/-- What stripping the end of the line leaves after the separator of a pair. -/
theorem rstrip_value : ∃ r, IsRemark r ∧ rstrip (gap ++ value ++ remark ++ trailing) =
    (if value = [] then [] else gap ++ value) ++ r ∧ (value = [] → r = []) := by
  by_cases hne : value = []
  · have hblank : IsBlank (gap ++ trailing) := by
      intro c hc
      rcases List.mem_append.mp hc with h | h
      · exact hgap c h
      · exact htrailing c h
    refine ⟨[], .inl rfl, ?_, fun _ => rfl⟩
    rw [if_pos hne, hempty hne, hne, List.append_nil, List.append_nil, rstrip_eq_nil_iff.mpr hblank]
    rfl
  · obtain ⟨r, hstrip, hr⟩ :=
      rstrip_remark (rstrip_append_trimmed gap hvalue hne) hremark htrailing
    exact ⟨r, hr, by rw [if_neg hne, hstrip], fun h => absurd h hne⟩

/-- The value of a pair, from what follows the separator. -/
theorem value_eq (hcomment : noComment false value = true) (hnul : '\x00' ∉ value) :
    rstrip (findCharOrComment '\x00' false (lskip (rstrip (gap ++ value ++ remark ++ trailing)))).1 =
      value := by
  obtain ⟨r, hr, hstrip, hnone⟩ := rstrip_value hgap hvalue hremark hempty htrailing
  rw [hstrip]
  split_ifs with hne
  · rw [hnone hne, hne]
    rfl
  · -- the gap in front is skipped, and the comment and the white space behind are cut
    obtain ⟨w, rest, hfind, hw, -⟩ := findCharOrComment_remark hnul hcomment (by decide) hr
    rw [List.append_assoc, lskip_append_of_isBlank hgap, lskip_trimmed_append hvalue hne, hfind]
    dsimp only
    rw [rstrip_append_of_isBlank value hw, hvalue.1]

end Value

theorem pairLine_pair {name gap rest : List Char} {colon : Bool} (hname : Trimmed name)
    (hlength : name.length < maxName) (hcomment : noComment false name = true)
    (hequals : '=' ∉ name) (hgap : IsBlank gap)
    (hcolon : colon = true → ':' ∉ name ∧
      (findCharOrComment '=' false (name ++ gap ++ ':' :: rest)).2.head? ≠ some '=') :
    s.pairLine handler (name ++ gap ++ IniLine.separator colon :: rest) =
      { s with prevName := name }.call handler name
        (rstrip (findCharOrComment '\x00' false (lskip rest)).1) := by
  have hcopy : strncpy0 name maxName = name := List.take_of_length_le (Nat.le_sub_one_of_lt hlength)
  have hgap' : noComment false (name ++ gap) = true := by
    rw [noComment_append, hcomment, noComment_of_isBlank hgap]
    rfl
  have hstrip : rstrip (name ++ gap) = name := by rw [rstrip_append_of_isBlank name hgap, hname.1]
  have hnot {c : Char} (hc : c ∉ name) (hspace : isSpace c = false) : c ∉ name ++ gap := by
    rw [List.mem_append, not_or]
    exact ⟨hc, notMem_of_isBlank hgap hspace⟩
  unfold pairLine
  cases colon with
  | false =>
    have hfind : findCharOrComment '=' false (name ++ gap ++ IniLine.separator false :: rest) =
        (name ++ gap, '=' :: rest) :=
      findCharOrComment_found (hnot hequals (by decide)) hgap' rest
    rw [hfind]
    dsimp only
    rw [if_pos (by rfl)]
    dsimp only
    rw [if_pos (.inl rfl), hstrip, hcopy]
  | true =>
    obtain ⟨hcolon', hhead⟩ := hcolon rfl
    have hfind : findCharOrComment ':' false (name ++ gap ++ IniLine.separator true :: rest) =
        (name ++ gap, ':' :: rest) :=
      findCharOrComment_found (hnot hcolon' (by decide)) hgap' rest
    dsimp only
    rw [if_neg (by exact hhead), hfind]
    dsimp only
    rw [if_pos (.inr rfl), hstrip, hcopy]

theorem pairLine_bare {text r : List Char} (hequals : '=' ∉ text) (hcolon : ':' ∉ text)
    (hcomment : noComment false text = true) (hr : IsRemark r) :
    s.pairLine handler (text ++ r) = s.fail := by
  obtain ⟨w, rest, hfind, -, hrest⟩ :=
    findCharOrComment_remark (c := ':') hcolon hcomment (by decide) hr
  unfold pairLine
  dsimp only
  rw [if_neg (findCharOrComment_head_ne hequals (by decide) (by decide) hr), hfind]
  rcases hrest with rfl | ⟨t, rfl⟩
  · rfl
  · exact if_neg (by decide)

end IniState

/-- A blank line is blank up to and with its newline. -/
theorem isBlank_newline {t : List Char} (ht : IsBlank t) : IsBlank (t ++ ['\n']) := by
  intro c hc
  rcases List.mem_append.mp hc with h | h
  · exact ht c h
  · rw [List.mem_singleton.mp h]
    rfl

/-- A line whose first character counts is read from there, unless it can be a continuation. -/
theorem iniProcessText_of_start {s : IniState σ} {line : List Char} {c : Char} {rest : List Char}
    {marked : Bool} (hstrip : rstrip line = c :: rest) (hc : isSpace c = false) (hsemi : c ≠ ';')
    (hhash : c ≠ '#') (hmarked : marked = true → s.prevName = []) :
    iniProcessText handler marked line s =
      if c = '[' then s.sectionLine rest else s.pairLine handler (c :: rest) := by
  unfold iniProcessText
  dsimp only
  rw [hstrip, lskip_cons_of_not_isSpace hc, decide_eq_false (Nat.lt_irrefl _), Bool.or_false,
    IniState.startLine, if_neg (not_or.mpr ⟨hsemi, hhash⟩)]
  exact if_neg fun h => h.1 (hmarked h.2)

/-- A text that can start a pair is read as one. -/
theorem iniProcessText_of_isStart {s : IniState σ} {line text rest : List Char} {marked : Bool}
    (htext : IniLine.IsStart text) (hstrip : rstrip line = text ++ rest)
    (hmarked : marked = true → s.prevName = []) :
    iniProcessText handler marked line s = s.pairLine handler (text ++ rest) := by
  cases text with
  | nil => exact htext.elim
  | cons c text =>
    obtain ⟨htrim, hsemi, hhash, hbracket⟩ := htext
    rw [iniProcessText_of_start handler hstrip htrim.head_not_isSpace hsemi hhash hmarked,
      if_neg hbracket]
    rfl

theorem IniLine.IsStart.trimmed {text : List Char} (h : IniLine.IsStart text) : Trimmed text := by
  cases text with
  | nil => exact h.elim
  | cons c text => exact h.1

namespace IniLine

variable {s : IniState σ} {marked : Bool}

theorem process_header {name after : List Char} (hl : (header name after).Valid)
    (hmarked : marked = true → s.prevName = []) :
    iniProcessText handler marked ((header name after).text ++ ['\n']) s =
      (header name after).effect handler s := by
  obtain ⟨hname, hcomment, hlength⟩ := hl
  have hstrip : rstrip ((header name after).text ++ ['\n']) =
      '[' :: (name ++ ']' :: rstrip (after ++ ['\n'])) := by
    rw [text, show '[' :: (name ++ ']' :: after) ++ ['\n'] = ('[' :: name) ++ ']' :: (after ++ ['\n']) by
      simp, rstrip_append_cons _ (by decide)]
    rfl
  rw [iniProcessText_of_start handler hstrip (by decide) (by decide) (by decide) hmarked, if_pos rfl,
    IniState.sectionLine_closed hname hcomment hlength]
  rfl

theorem process_unclosed {text remark trailing : List Char} (hl : (unclosed text remark trailing).Valid)
    (hmarked : marked = true → s.prevName = []) :
    iniProcessText handler marked ((unclosed text remark trailing).text ++ ['\n']) s =
      (unclosed text remark trailing).effect handler s := by
  obtain ⟨htext, hcomment, hright, hremark, htrailing⟩ := hl
  have hbracket : rstrip ('[' :: text) = '[' :: text := by
    have h := rstrip_append_cons [] (c := '[') rfl text
    rwa [hright, List.nil_append] at h
  obtain ⟨r, hstrip, hr⟩ := rstrip_remark hbracket hremark (isBlank_newline htrailing)
  have hstrip' : rstrip ((unclosed text remark trailing).text ++ ['\n']) = '[' :: (text ++ r) := by
    rw [← List.cons_append, ← hstrip, IniLine.text]
    simp
  rw [iniProcessText_of_start handler hstrip' (by decide) (by decide) (by decide) hmarked, if_pos rfl,
    IniState.sectionLine_unclosed htext hcomment hr]
  rfl

theorem process_bare {text remark trailing : List Char} (hl : (bare text remark trailing).Valid)
    (hmarked : marked = true → s.prevName = []) :
    iniProcessText handler marked ((bare text remark trailing).text ++ ['\n']) s =
      (bare text remark trailing).effect handler s := by
  obtain ⟨hstart, hequals, hcolon, hcomment, hremark, htrailing⟩ := hl
  obtain ⟨r, hstrip, hr⟩ := rstrip_remark hstart.trimmed.1 hremark (isBlank_newline htrailing)
  have hstrip' : rstrip ((bare text remark trailing).text ++ ['\n']) = text ++ r := by
    rw [← hstrip, IniLine.text, List.append_assoc]
  rw [iniProcessText_of_isStart handler hstart hstrip' hmarked,
    IniState.pairLine_bare hequals hcolon hcomment hr]
  rfl

theorem process_pair {name gap gap' value remark trailing : List Char} {colon : Bool}
    (hl : (pair name gap colon gap' value remark trailing).Valid)
    (hnul : '\x00' ∉ (pair name gap colon gap' value remark trailing).text)
    (hmarked : marked = true → s.prevName = []) :
    iniProcessText handler marked ((pair name gap colon gap' value remark trailing).text ++ ['\n']) s =
      (pair name gap colon gap' value remark trailing).effect handler s := by
  obtain ⟨hstart, hlength, hcomment, hequals, hcolon, hgap, hgap', hvalue, hvcomment, hremark, hempty,
    htrailing⟩ := hl
  have hsep : isSpace (separator colon) = false := by cases colon <;> rfl
  have hstrip : rstrip ((pair name gap colon gap' value remark trailing).text ++ ['\n']) =
      name ++ (gap ++ separator colon :: rstrip (gap' ++ value ++ remark ++ (trailing ++ ['\n']))) := by
    rw [text, show name ++ gap ++ separator colon :: (gap' ++ value ++ remark ++ trailing) ++ ['\n'] =
      (name ++ gap) ++ separator colon :: (gap' ++ value ++ remark ++ (trailing ++ ['\n'])) by simp,
      rstrip_append_cons _ hsep, List.append_assoc]
  have hvnul : '\x00' ∉ value := fun h => hnul (by simp [text, h])
  rw [iniProcessText_of_isStart handler hstart hstrip hmarked, ← List.append_assoc,
    IniState.pairLine_pair hstart.trimmed hlength hcomment hequals hgap ?_,
    IniState.value_eq hgap' hvalue hremark hempty (isBlank_newline htrailing) hvcomment hvnul]
  · rfl
  -- with a colon there is no equals sign in front of the comment
  intro hcolon'
  obtain ⟨hname, hvalue'⟩ := hcolon hcolon'
  obtain ⟨r, hr, hrest, -⟩ :=
    IniState.rstrip_value hgap' hvalue hremark hempty (isBlank_newline htrailing)
  have hnot : '=' ∉ name ++ gap ++ ':' :: (if value = [] then [] else gap' ++ value) := by
    have hgaps := notMem_of_isBlank hgap (c := '=') rfl
    have hgaps' := notMem_of_isBlank hgap' (c := '=') rfl
    split <;> simp [hequals, hgaps, hgaps', hvalue']
  have hhead := findCharOrComment_head_ne (b := false) hnot (by decide) (by decide) hr
  refine ⟨hname, ?_⟩
  rwa [hrest, show name ++ gap ++ ':' :: ((if value = [] then [] else gap' ++ value) ++ r) =
    name ++ gap ++ ':' :: (if value = [] then [] else gap' ++ value) ++ r by simp]

theorem process_continuation {indent text trailing : List Char}
    (hl : (continuation indent text trailing).Valid) (hname : s.prevName ≠ []) :
    iniProcessText handler marked ((continuation indent text trailing).text ++ ['\n']) s =
      (continuation indent text trailing).effect handler s := by
  obtain ⟨hindent, hblank, htext, hne, hsemi, hhash, htrailing⟩ := hl
  have hstrip : rstrip ((continuation indent text trailing).text ++ ['\n']) = indent ++ text := by
    rw [IniLine.text, List.append_assoc, rstrip_append_of_isBlank _ (isBlank_newline htrailing),
      rstrip_append_trimmed indent htext hne]
  have hskip : lskip (indent ++ text) = text := by rw [lskip_append_of_isBlank hblank, htext.2]
  have hmoved : decide (text.length < (indent ++ text).length) = true := by
    have := List.length_pos_of_ne_nil hindent
    rw [List.length_append]
    exact decide_eq_true (by omega)
  unfold iniProcessText
  dsimp only
  rw [hstrip, hskip, hmoved, Bool.or_true]
  cases text with
  | nil => exact absurd rfl hne
  | cons c text =>
    have hcomment : ¬ (c = ';' ∨ c = '#') := by
      rintro (rfl | rfl)
      · exact hsemi rfl
      · exact hhash rfl
    rw [IniState.startLine, if_neg hcomment, if_pos ⟨hname, rfl⟩]
    rfl

theorem process_comment {indent text : List Char} {hash : Bool} (hindent : IsBlank indent) :
    iniProcessText handler marked ((comment indent hash text).text ++ ['\n']) s = s := by
  have hmark := not_isSpace_commentMark hash
  unfold iniProcessText
  dsimp only
  rw [IniLine.text, show indent ++ commentMark hash :: text ++ ['\n'] =
    indent ++ commentMark hash :: (text ++ ['\n']) by simp,
    rstrip_append_cons indent hmark, lskip_append_of_isBlank hindent,
    lskip_cons_of_not_isSpace hmark, IniState.startLine]
  exact if_pos (commentMark_eq hash)

/-- **One line.** A line of the format has the effect that its kind has. A continuation needs a name to
continue, and after a byte order mark there must not be one. -/
theorem process_text {l : IniLine} (hl : l.Valid) (hnul : '\x00' ∉ l.text)
    (hmarked : marked = true → s.prevName = [])
    (hcont : ∀ indent text trailing, l = .continuation indent text trailing → s.prevName ≠ []) :
    iniProcessText handler marked (l.text ++ ['\n']) s = l.effect handler s := by
  cases l with
  | blank spaces =>
    unfold iniProcessText
    dsimp only
    rw [text, rstrip_eq_nil_iff.mpr (isBlank_newline hl)]
    rfl
  | comment indent hash text => exact process_comment handler hl
  | header name after => exact process_header handler hl hmarked
  | pair name gap colon gap' value remark trailing => exact process_pair handler hl hnul hmarked
  | continuation indent text trailing =>
    exact process_continuation handler hl (hcont indent text trailing rfl)
  | unclosed text remark trailing => exact process_unclosed handler hl hmarked
  | bare text remark trailing => exact process_bare handler hl hmarked

end IniLine

/-! ### Files -/

/-- The newline completes no byte order mark. -/
theorem isPrefixOf_newline {t : List Char} (h : byteOrderMark.isPrefixOf t = false) :
    byteOrderMark.isPrefixOf (t ++ ['\n']) = false := by
  rw [Bool.eq_false_iff, ne_eq, List.isPrefixOf_iff_prefix] at h ⊢
  rw [List.prefix_concat_iff, not_or]
  refine ⟨fun heq => ?_, h⟩
  have hmem : '\n' ∈ byteOrderMark := heq ▸ List.mem_append_right t (List.mem_singleton_self _)
  exact absurd hmem (by decide)

section Document

variable {l : IniLine} {s : IniState σ} (hl : l.Valid)
  (hcont : ∀ indent text trailing, l = .continuation indent text trailing → s.prevName ≠ [])
include hl hcont

/-- A line without a byte order mark, if it is the first one. -/
theorem iniProcessLine_text (hnul : '\x00' ∉ l.text)
    (hmark : s.lineno = 0 → byteOrderMark.isPrefixOf l.text = false) :
    iniProcessLine handler s (l.text ++ ['\n']) = l.effect handler { s with lineno := s.lineno + 1 } := by
  have hstring : cString (l.text ++ ['\n']) = l.text ++ ['\n'] := cString_of_notMem (by simp [hnul])
  have hmarked : (decide (s.lineno + 1 = 1) && byteOrderMark.isPrefixOf (l.text ++ ['\n'])) = false := by
    by_cases hfirst : s.lineno = 0
    · rw [isPrefixOf_newline (hmark hfirst), Bool.and_false]
    · rw [decide_eq_false (by omega), Bool.false_and]
  unfold iniProcessLine
  dsimp only
  rw [hstring, hmarked, if_neg Bool.false_ne_true]
  exact IniLine.process_text handler hl hnul (fun h => absurd h Bool.false_ne_true) hcont

/-- The first line, with a byte order mark in front. -/
theorem iniProcessLine_marked (hnul : '\x00' ∉ l.text) (hfirst : s.lineno = 0)
    (hname : s.prevName = []) :
    iniProcessLine handler s (byteOrderMark ++ l.text ++ ['\n']) =
      l.effect handler { s with lineno := s.lineno + 1 } := by
  have hstring : cString (byteOrderMark ++ l.text ++ ['\n']) = byteOrderMark ++ (l.text ++ ['\n']) := by
    rw [List.append_assoc]
    exact cString_of_notMem (by simp [hnul, byteOrderMark])
  have hmarked : (decide (s.lineno + 1 = 1) &&
      byteOrderMark.isPrefixOf (byteOrderMark ++ (l.text ++ ['\n']))) = true := by
    rw [hfirst]
    exact List.isPrefixOf_iff_prefix.mpr (List.prefix_append _ _)
  unfold iniProcessLine
  dsimp only
  rw [hstring, hmarked, if_pos rfl]
  exact IniLine.process_text handler hl hnul (fun _ => hname) hcont

end Document

/-- What a line does to the variables of the scanner is what delivering its events does. -/
theorem IniLine.deliver_effect (l : IniLine) (s : IniState σ) (ls : List IniLine) :
    (IniDoc.eventsFrom s.sectionName s.prevName s.lineno (l :: ls)).foldl (IniEvent.deliver handler)
        (s.user, s.error) =
      (IniDoc.eventsFrom (l.effect handler s).sectionName (l.effect handler s).prevName (s.lineno + 1)
        ls).foldl (IniEvent.deliver handler) ((l.effect handler s).user, (l.effect handler s).error) ∧
      (l.effect handler s).lineno = s.lineno := by
  have hcall (name value : List Char) (s : IniState σ) :
      IniEvent.deliver handler (s.user, s.error) (.item s.lineno s.sectionName name value) =
          ((s.call handler name value).user, (s.call handler name value).error) ∧
        (s.call handler name value).sectionName = s.sectionName ∧
        (s.call handler name value).prevName = s.prevName ∧
        (s.call handler name value).lineno = s.lineno := by
    unfold IniState.call IniEvent.deliver IniState.fail IniEvent.next IniEvent.refused IniEvent.lineno
    by_cases haccepted : (handler s.sectionName name value s.user).2 = true
    · simp [haccepted]
    · by_cases herror : s.error = 0 <;> simp [haccepted, herror]
  have hfail : IniEvent.deliver handler (s.user, s.error) (.malformed s.lineno) =
      (s.fail.user, s.fail.error) := by
    unfold IniEvent.deliver IniState.fail IniEvent.next IniEvent.refused IniEvent.lineno
    by_cases herror : s.error = 0 <;> simp [herror]
  cases l with
  | blank spaces => exact ⟨rfl, rfl⟩
  | comment indent hash text => exact ⟨rfl, rfl⟩
  | header name after => exact ⟨rfl, rfl⟩
  | pair name gap colon gap' value remark trailing =>
    obtain ⟨hdeliver, hsection, hname, hlineno⟩ := hcall name value { s with prevName := name }
    refine ⟨?_, hlineno⟩
    rw [effect, hsection, hname, ← hdeliver]
    rfl
  | continuation indent text trailing =>
    obtain ⟨hdeliver, hsection, hname, hlineno⟩ := hcall s.prevName text s
    refine ⟨?_, hlineno⟩
    rw [effect, hsection, hname, ← hdeliver]
    rfl
  | unclosed text remark trailing =>
    refine ⟨?_, rfl⟩
    rw [effect, ← hfail]
    rfl
  | bare text remark trailing =>
    refine ⟨?_, rfl⟩
    rw [effect, ← hfail]
    rfl

/-- A line leaves a name to continue if the lines after it may rely on one. -/
theorem IniDoc.placed_effect {l : IniLine} {ls : List IniLine} {s : IniState σ} (hl : l.Valid)
    (hplaced : Placed (decide (s.prevName ≠ [])) (l :: ls)) :
    Placed (decide ((l.effect handler s).prevName ≠ [])) ls := by
  have hcall (name value : List Char) (s : IniState σ) :
      (s.call handler name value).prevName = s.prevName := by
    unfold IniState.call IniState.fail
    dsimp only
    split <;> rfl
  cases l with
  | blank spaces => exact hplaced
  | comment indent hash text => exact hplaced
  | header name after => exact hplaced
  | pair name gap colon gap' value remark trailing =>
    have hname : name ≠ [] := by
      rintro rfl
      exact hl.1
    rw [IniLine.effect, hcall, decide_eq_true hname]
    exact hplaced
  | continuation indent text trailing =>
    rw [IniLine.effect, hcall]
    exact hplaced.2
  | unclosed text remark trailing => exact hplaced
  | bare text remark trailing => exact hplaced

theorem IniDoc.Placed.prevName_ne_nil {l : IniLine} {ls : List IniLine} {prevName : List Char}
    (hplaced : Placed (decide (prevName ≠ [])) (l :: ls)) (indent text trailing : List Char)
    (hl : l = .continuation indent text trailing) : prevName ≠ [] := by
  subst hl
  exact of_decide_eq_true hplaced.1

/-- **The lines after the first one.** -/
theorem iniProcessLines {ls : List IniLine} {s : IniState σ} (hs : s.lineno ≠ 0)
    (hls : ∀ l ∈ ls, l.Valid ∧ '\x00' ∉ l.text)
    (hplaced : IniDoc.Placed (decide (s.prevName ≠ [])) ls) :
    (((ls.map fun l => l.text ++ ['\n']).foldl (iniProcessLine handler) s).user,
      ((ls.map fun l => l.text ++ ['\n']).foldl (iniProcessLine handler) s).error) =
      (IniDoc.eventsFrom s.sectionName s.prevName (s.lineno + 1) ls).foldl (IniEvent.deliver handler)
        (s.user, s.error) := by
  -- on the lines; each is read by its layout, and its events are delivered at its number
  induction ls generalizing s with
  | nil => rfl
  | cons l ls ih =>
    obtain ⟨hl, hnul⟩ := hls l List.mem_cons_self
    have hread := iniProcessLine_text handler hl hplaced.prevName_ne_nil hnul fun h => absurd h hs
    obtain ⟨hdeliver, hlineno⟩ := l.deliver_effect handler { s with lineno := s.lineno + 1 } ls
    have hrest := ih (s := l.effect handler { s with lineno := s.lineno + 1 })
      (by rw [hlineno]; exact Nat.succ_ne_zero _) (fun l' h => hls l' (List.mem_cons_of_mem l h))
      (IniDoc.placed_effect handler hl hplaced)
    rw [List.map_cons, List.foldl_cons, hread, hrest, hlineno]
    exact hdeliver.symm

/-- The scanner delivers the events of a document. -/
theorem iniParseFile_text {d : IniDoc} (hd : d.Valid) (user : σ) :
    iniParseFile handler user d.text = d.events.foldl (IniEvent.deliver handler) (user, 0) := by
  have hread : lines (iniMaxLine - 1) d.text = d.texts.map (· ++ ['\n']) :=
    lines_flatMap fun t ht => ⟨(hd.oneLine t ht).1, (hd.oneLine t ht).2.2⟩
  unfold iniParseFile
  rw [hread]
  obtain ⟨marked, ls⟩ := d
  cases ls with
  | nil => rfl
  | cons l ls =>
    have hplaced : IniDoc.Placed (decide (([] : List Char) ≠ [])) (l :: ls) := hd.placed
    have hl : l.Valid := hd.lines l List.mem_cons_self
    have hnul : '\x00' ∉ l.text ∧ ∀ l' ∈ ls, '\x00' ∉ l'.text := by
      constructor
      · intro h
        exact (hd.oneLine ((if marked then byteOrderMark else []) ++ l.text) (by simp [IniDoc.texts])).2.1
          (List.mem_append_right _ h)
      · intro l' hl'
        refine (hd.oneLine l'.text ?_).2.1
        simp only [IniDoc.texts, List.map_cons, List.modifyHead_cons, List.mem_cons, List.mem_map]
        exact .inr ⟨l', hl', rfl⟩
    -- the first line is read with or without the byte order mark, and has the same effect
    have hfirst : iniProcessLine handler ⟨user, [], [], 0, 0⟩
        ((if marked then byteOrderMark else []) ++ l.text ++ ['\n']) =
          l.effect handler ⟨user, [], [], 1, 0⟩ := by
      cases marked with
      | true => exact iniProcessLine_marked handler hl hplaced.prevName_ne_nil hnul.1 rfl rfl
      | false =>
        exact iniProcessLine_text handler hl hplaced.prevName_ne_nil hnul.1 fun _ =>
          hd.marked rfl l rfl
    obtain ⟨hdeliver, hlineno⟩ := l.deliver_effect handler ⟨user, [], [], 1, 0⟩ ls
    have hrest := iniProcessLines handler (s := l.effect handler ⟨user, [], [], 1, 0⟩)
      (by rw [hlineno]; exact Nat.one_ne_zero)
      (fun l' h => ⟨hd.lines l' (List.mem_cons_of_mem l h), hnul.2 l' h⟩)
      (IniDoc.placed_effect handler hl hplaced)
    rw [hlineno, ← hdeliver] at hrest
    rw [IniDoc.texts, List.map_cons, List.modifyHead_cons, List.map_cons, List.foldl_cons, hfirst,
      List.map_map]
    exact hrest

/-- **Reading a file.** From the text of a document the scanner reads what the document says. It gives the
handler the items in their order, goes on after bad lines, and returns the number of the first line that is
malformed or refused. -/
theorem iniParse_document {d : IniDoc} (hd : d.Valid) (user : σ) :
    iniParse handler user (some d.text) =
      (d.events.foldl (IniEvent.next handler) user, (IniEvent.firstRefused handler d.events user : ℤ)) := by
  have hnumber : ∀ e ∈ d.events, e.lineno ≠ 0 := fun e he =>
    Nat.one_le_iff_ne_zero.mp (IniDoc.lineno_eventsFrom e he)
  unfold iniParse
  dsimp only
  rw [iniParseFile_text handler hd, IniEvent.foldl_deliver handler hnumber]

/-- A file with a byte order mark, a comment, a value that goes on, and a line without a value. -/
def IniDoc.sample : IniDoc where
  marked := true
  lines :=
    [.comment [] true " settings".toList,
      .header "ptp".toList " of the clock".toList,
      .pair "priority1".toList [' '] false [' '] "248".toList " ; the default".toList [],
      .continuation ['\t'] "250".toList [' '],
      .bare "nothing".toList [] [],
      .pair "Domain".toList [] true [] [] [] [' ']]

theorem IniDoc.sample_valid : sample.Valid where
  lines := by
    simp only [sample, List.mem_cons, List.not_mem_nil, or_false, forall_eq_or_imp, forall_eq]
    refine ⟨(by decide : IsBlank []), ⟨by decide, by decide, by decide⟩, ?_, ?_, ?_, ?_⟩
    · exact ⟨by decide, by decide, by decide, by decide, by decide, by decide, by decide, by decide,
        by decide, .inr ⟨[' '], " the default".toList, rfl, by decide, by decide⟩, by decide, by decide⟩
    · exact ⟨by decide, by decide, by decide, by decide, by decide, by decide, by decide⟩
    · exact ⟨by decide, by decide, by decide, by decide, .inl rfl, by decide⟩
    · exact ⟨by decide, by decide, by decide, by decide, by decide, by decide, by decide, by decide,
        by decide, .inl rfl, by decide, by decide⟩
  placed := ⟨rfl, trivial⟩
  oneLine := by decide
  marked h := absurd h (by decide)

/-- A handler that records the items and knows one name. -/
def recordItem : IniHandler (List (List Char × List Char × List Char)) :=
  fun sectionName name value items =>
    (items ++ [(sectionName, name, value)], name = "priority1".toList)

/-- The line without a value is the fifth one; the item after it, which is refused as well, is still
delivered. -/
theorem iniParse_sample :
    iniParse recordItem [] (some IniDoc.sample.text) =
      ([("ptp".toList, "priority1".toList, "248".toList), ("ptp".toList, "priority1".toList, "250".toList),
        ("ptp".toList, "Domain".toList, [])], 5) := by
  rw [iniParse_document recordItem IniDoc.sample_valid]
  decide

/-- A comment is passed over, whatever follows its mark in the buffer. -/
theorem iniProcessLine_comment (s : IniState σ) (hash : Bool) (text : List Char) :
    iniProcessLine handler s (commentMark hash :: text) =
      { s with lineno := s.lineno + 1 } := by
  have hmark := not_isSpace_commentMark hash
  have hstring : cString (commentMark hash :: text) =
      commentMark hash :: cString text := by
    cases hash <;> exact List.takeWhile_cons_of_pos (by decide)
  have hprefix : byteOrderMark.isPrefixOf (commentMark hash :: cString text) = false := by
    cases hash <;> rfl
  have hstrip := rstrip_append_cons [] hmark (cString text)
  unfold iniProcessLine iniProcessText
  dsimp only
  rw [hstring, hprefix, Bool.and_false, if_neg Bool.false_ne_true]
  rw [List.nil_append, List.nil_append] at hstrip
  rw [hstrip, lskip_cons_of_not_isSpace hmark, IniState.startLine]
  exact if_pos (commentMark_eq hash)

/-- **A long comment.** The buffer holds a comment of 199 characters without its newline. What follows on the
same line is read as if it began a line: nothing changes if the comment is cut off in front of it. -/
theorem iniParseFile_longComment (ts : List (List Char))
    (hts : ∀ t ∈ ts, '\n' ∉ t ∧ t.length < iniMaxLine - 1) (hash : Bool) (text : List Char)
    (htext : '\n' ∉ text) (hlength : text.length = iniMaxLine - 2) (rest : List Char) (user : σ) :
    iniParseFile handler user
        (ts.flatMap (· ++ ['\n']) ++ (commentMark hash :: text ++ rest)) =
      iniParseFile handler user
        (ts.flatMap (· ++ ['\n']) ++ (commentMark hash :: '\n' :: rest)) := by
  have hmark : commentMark hash ≠ '\n' := by cases hash <;> decide
  have hfull : (commentMark hash :: text).length = iniMaxLine - 1 := by
    rw [List.length_cons, hlength]
    rfl
  have hlong : lines (iniMaxLine - 1) (commentMark hash :: text ++ rest) =
      (commentMark hash :: text) :: lines (iniMaxLine - 1) rest := by
    rw [lines_append_of_length_le (by decide) ?_ hfull.ge, List.take_of_length_le hfull.le,
      List.drop_of_length_le hfull.le, List.nil_append]
    rw [List.take_of_length_le hfull.le, List.mem_cons, not_or]
    exact ⟨hmark.symm, htext⟩
  have hshort : lines (iniMaxLine - 1) (commentMark hash :: '\n' :: rest) =
      [commentMark hash, '\n'] :: lines (iniMaxLine - 1) rest := by
    have hline : lines (iniMaxLine - 1)
        ([[commentMark hash]].flatMap (· ++ ['\n']) ++ rest) =
          [[commentMark hash]].map (· ++ ['\n']) ++ lines (iniMaxLine - 1) rest :=
      lines_flatMap_append (by simp [hmark.symm, iniMaxLine]) rest
    simpa using hline
  unfold iniParseFile
  dsimp only
  rw [lines_flatMap_append hts, lines_flatMap_append hts, hlong, hshort, List.foldl_append,
    List.foldl_append, List.foldl_cons, List.foldl_cons, iniProcessLine_comment, iniProcessLine_comment]

/-- An item at the end of a comment of 199 characters is delivered. -/
theorem iniParseFile_hiddenItem :
    iniParseFile recordItem [] ('#' :: List.replicate 198 '-' ++ "priority1=0\n".toList) =
      ([([], "priority1".toList, "0".toList)], 0) :=
  (iniParseFile_longComment recordItem [] (by simp) true (List.replicate 198 '-')
    (fun h => absurd (List.eq_of_mem_replicate h) (by decide)) List.length_replicate
    "priority1=0\n".toList []).trans (by decide)

end Lines

end Gptp
