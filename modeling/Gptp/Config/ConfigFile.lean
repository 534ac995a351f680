import Gptp.Config.IniFile
import Gptp.Config.IniParser
import Gptp.Port.State

/-!
# From the configuration file to the port

`GptpIniParser` runs `ini_parse` over the configuration file with `iniCallBack` for its handler, and `main`
copies some of what it read to the port. The numbers of the object are not initialised: an item that is not
in the file leaves what the memory held.

* `configFile_roundTrip`: every configuration can be written to a file and is read back from it, and what of
  it reaches the port.
-/

namespace Gptp

open Framework

/-! ### The parser object -/

/-- `GptpIniParser::iniCallBack` as the handler of the file format. -/
def gptpIniHandler (libc : Libc) (stray : PhyDelaySpec) : IniHandler GptpCfg :=
  fun sectionName name value c =>
    ((iniCallBack libc stray sectionName name value c).config,
      (iniCallBack libc stray sectionName name value c).ret ≠ 0)

/-- `GptpIniParser::GptpIniParser`: `_config` and `_error`, for the contents of the file if it can be opened.
Of what the memory holds, only the map of the delays is emptied. -/
def gptpIniParser (libc : Libc) (stray : PhyDelaySpec) (memory : GptpCfg) (file : Option (List Char)) :
    GptpCfg × ℤ :=
  iniParse (gptpIniHandler libc stray) { memory with phyDelay := fun _ => none } file

/-- The part of `main` that takes values from the configuration file. `inputDelay` tells that the delays were
given on the command line. A file with bad lines is used all the same. -/
def PortConfig.withConfigFile (parsed : GptpCfg × ℤ) (inputDelay : Bool) (cfg : PortConfig) : PortConfig :=
  if parsed.2 < 0 then cfg
  else { cfg with
    neighborPropDelayThresh := parsed.1.neighborPropDelayThresh
    syncReceiptThresh := parsed.1.syncReceiptThresh
    phyDelay := if inputDelay then cfg.phyDelay else
      fun linkSpeed => (parsed.1.phyDelay linkSpeed).map fun d => (d.txDelay, d.rxDelay)
    allowNegativeCorrectionField := parsed.1.allowNegativeCorrField }

/-! ### Writing a configuration -/

/-- A number in decimal digits. -/
def numeral (n : ℕ) : List Char := Nat.toDigits 10 n

/-- `name = value`. -/
def itemLine (name : String) (value : List Char) : IniLine :=
  .pair name.toList [' '] false [' '] value [] []

/-- The line of a single-number item. -/
def NumberItem.line (c : GptpCfg) (it : NumberItem) : IniLine :=
  itemLine it.name (numeral (c.read it.field).toNat)

/-- The value of `phy_delay`: a link speed and its two delays. -/
def phyDelayValue (speed : UInt32) (d : PhyDelaySpec) : List Char :=
  numeral speed.toNat ++ (' ' :: numeral d.txDelay.toNat ++ ' ' :: numeral d.rxDelay.toNat)

/-- The line for the delays of a link speed. -/
def GptpCfg.phyDelayLine (c : GptpCfg) (speed : UInt32) : IniLine :=
  itemLine "phy_delay" (phyDelayValue speed (c.phyDelayAt ⟨0, 0⟩ speed))

/-- A file for the configuration, with the link speeds that have delays. -/
def GptpCfg.doc (c : GptpCfg) (speeds : List UInt32) : IniDoc where
  marked := false
  lines :=
    .header "ptp".toList [] :: (NumberItem.ptpItems.map (NumberItem.line c) ++
      .header "port".toList [] :: (NumberItem.portItems.map (NumberItem.line c) ++
        .header "eth".toList [] :: speeds.map c.phyDelayLine))

/-! ### The texts of the values -/

theorem isNumeral_numeral (n : ℕ) : IsNumeral (numeral n) :=
  ⟨Nat.toDigits_ne_nil, fun _ hc => Nat.isDigit_of_mem_toDigits (by decide) (by decide) hc⟩

theorem numeralValue_numeral (n : ℕ) : numeralValue (numeral n) = n := Nat.ofDigitChars_ten_toDigits

theorem length_numeral_le {n k : ℕ} (hk : 0 < k) (h : n < 10 ^ k) : (numeral n).length ≤ k :=
  (Nat.length_toDigits_le_iff (by decide) hk).mpr h

/-- A text of digits and blanks, with a digit at either end. -/
structure IsNumbers (s : List Char) : Prop where
  ne_nil : s ≠ []
  trimmed : Trimmed s
  chars : ∀ c ∈ s, c.isDigit = true ∨ c = ' '

theorem isNumbers_numeral (n : ℕ) : IsNumbers (numeral n) := by
  obtain ⟨hne, hdigits⟩ := isNumeral_numeral n
  have hnot : ∀ c ∈ numeral n, isSpace c = false := fun c hc => isSpace_eq_false_of_isDigit (hdigits c hc)
  refine ⟨hne, ⟨?_, ?_⟩, fun c hc => .inl (hdigits c hc)⟩
  · refine List.rdropWhile_eq_self_iff.mpr fun h => ?_
    simp [hnot _ (List.getLast_mem h)]
  · obtain ⟨c, s, hs⟩ := List.exists_cons_of_ne_nil hne
    rw [hs]
    exact lskip_cons_of_not_isSpace (hnot c (hs ▸ List.mem_cons_self)) s

theorem IsNumbers.append {s t : List Char} (hs : IsNumbers s) (ht : IsNumbers t) :
    IsNumbers (s ++ ' ' :: t) := by
  refine ⟨by simp [hs.ne_nil], ⟨?_, lskip_trimmed_append hs.trimmed hs.ne_nil _⟩, fun c hc => ?_⟩
  · have h := rstrip_append_trimmed (s ++ [' ']) ht.trimmed ht.ne_nil
    simpa using h
  · rw [List.mem_append, List.mem_cons] at hc
    rcases hc with h | h | h
    · exact hs.chars c h
    · exact .inr h
    · exact ht.chars c h

theorem IsNumbers.notMem {s : List Char} (hs : IsNumbers s) {c : Char} (hdigit : c.isDigit = false)
    (hblank : c ≠ ' ') : c ∉ s := by
  intro hc
  rcases hs.chars c hc with h | h
  · rw [hdigit] at h
    cases h
  · exact hblank h

theorem isNumbers_phyDelayValue (speed : UInt32) (d : PhyDelaySpec) :
    IsNumbers (phyDelayValue speed d) := by
  have h := ((isNumbers_numeral speed.toNat).append (isNumbers_numeral d.txDelay.toNat)).append
    (isNumbers_numeral d.rxDelay.toNat)
  simpa [phyDelayValue] using h

theorem noComment_of_notMem {b : Bool} {s : List Char} (h : ';' ∉ s) : noComment b s = true := by
  induction s generalizing b with
  | nil => rfl
  | cons x s ih =>
    rw [List.mem_cons, not_or] at h
    rw [noComment, ih h.2, Bool.and_true]
    simp [Ne.symm h.1]

/-! ### The lines of the file -/

/-- What is asked of the name of an item. -/
def IsItemName (name : List Char) : Bool :=
  IniLine.IsStart name && name.length ≤ 40 && noComment false name &&
    name.all fun c => c ≠ '=' && c ≠ '\n' && c ≠ '\x00'

theorem itemLine_valid {name : String} {value : List Char} (hname : IsItemName name.toList = true)
    (hvalue : IsNumbers value) (hlength : value.length ≤ 100) :
    (itemLine name value).Valid ∧ '\n' ∉ (itemLine name value).text ∧
      '\x00' ∉ (itemLine name value).text ∧ (itemLine name value).text.length < iniMaxLine - 1 := by
  simp only [IsItemName, Bool.and_eq_true, decide_eq_true_eq, List.all_eq_true] at hname
  obtain ⟨⟨⟨hstart, hshort⟩, hcomment⟩, hchars⟩ := hname
  have hnot : '=' ∉ name.toList ∧ '\n' ∉ name.toList ∧ '\x00' ∉ name.toList :=
    ⟨fun h => (hchars _ h).1.1 rfl, fun h => (hchars _ h).1.2 rfl, fun h => (hchars _ h).2 rfl⟩
  have hnewline : '\n' ∉ value := hvalue.notMem (by decide) (by decide)
  have hnul : '\x00' ∉ value := hvalue.notMem (by decide) (by decide)
  refine ⟨⟨hstart, ?_, hcomment, hnot.1, fun h => absurd h Bool.false_ne_true, by decide, by decide,
    hvalue.trimmed, noComment_of_notMem (hvalue.notMem (by decide) (by decide)), .inl rfl, fun _ => rfl,
    by decide⟩, ?_, ?_, ?_⟩
  · exact Nat.lt_of_le_of_lt hshort (by decide)
  · simp [itemLine, IniLine.text, IniLine.separator, hnot, hnewline]
  · simp [itemLine, IniLine.text, IniLine.separator, hnot, hnul]
  · have htext : (itemLine name value).text.length = name.toList.length + value.length + 3 := by
      simp [itemLine, IniLine.text]
      omega
    rw [htext, iniMaxLine]
    omega

/-- Every number of a configuration is one that its field can hold. -/
theorem GptpCfg.toNat_read_le {c : GptpCfg} (hthresh : 0 ≤ c.neighborPropDelayThresh) (f : CfgField) :
    (c.read f).toNat ≤ f.max ∧ 0 ≤ c.read f := by
  have hnat {n m : ℕ} (h : n < m + 1) : ((n : ℤ)).toNat ≤ m ∧ 0 ≤ (n : ℤ) :=
    ⟨by rw [Int.toNat_natCast]; exact Nat.le_of_lt_succ h, Int.natCast_nonneg n⟩
  cases f with
  | priority1 => exact hnat c.priority1.toNat_lt
  | announceReceiptTimeout => exact hnat c.announceReceiptTimeout.toNat_lt
  | syncReceiptTimeout => exact hnat c.syncReceiptTimeout.toNat_lt
  | syncReceiptThresh => exact hnat c.syncReceiptThresh.toNat_lt
  | seqIdAsCapableThresh => exact hnat c.seqIdAsCapableThresh.toNat_lt
  | lostPdelayRespThresh => exact hnat c.lostPdelayRespThresh.toNat_lt
  | allowNegativeCorrField => exact hnat (Nat.lt_succ_of_le c.allowNegativeCorrField.toNat_le)
  | txDelay speed => exact hnat (c.phyDelayAt ⟨0, 0⟩ speed).txDelay.toNat_lt
  | rxDelay speed => exact hnat (c.phyDelayAt ⟨0, 0⟩ speed).rxDelay.toNat_lt
  | neighborPropDelayThresh =>
    have hlt := Int64.toInt_lt c.neighborPropDelayThresh
    have hle : 0 ≤ c.neighborPropDelayThresh.toInt := Int64.le_iff_toInt_le.mp hthresh
    rw [read, CfgField.max]
    omega

theorem CfgField.max_lt (f : CfgField) : f.max < 10 ^ 20 := by
  cases f <;> simp [max]

/-- The lines of single numbers keep to the format. -/
theorem NumberItem.line_valid {c : GptpCfg} (hthresh : 0 ≤ c.neighborPropDelayThresh) {it : NumberItem}
    (hit : it ∈ ptpItems ++ portItems) :
    (it.line c).Valid ∧ '\n' ∉ (it.line c).text ∧ '\x00' ∉ (it.line c).text ∧
      (it.line c).text.length < iniMaxLine - 1 := by
  have hname : (ptpItems ++ portItems).all (fun it => IsItemName it.name.toList) = true := by decide
  have hlength := length_numeral_le (k := 20) (by decide)
    (Nat.lt_of_le_of_lt (GptpCfg.toNat_read_le hthresh it.field).1 it.field.max_lt)
  exact itemLine_valid (List.all_eq_true.mp hname it hit) (isNumbers_numeral _)
    (hlength.trans (by decide))

/-- The lines of delays keep to the format. -/
theorem GptpCfg.phyDelayLine_valid (c : GptpCfg) (speed : UInt32) :
    (c.phyDelayLine speed).Valid ∧ '\n' ∉ (c.phyDelayLine speed).text ∧
      '\x00' ∉ (c.phyDelayLine speed).text ∧
      (c.phyDelayLine speed).text.length < iniMaxLine - 1 := by
  have hspeed := length_numeral_le (k := 10) (by decide) (speed.toNat_lt.trans (by decide))
  have htx := length_numeral_le (k := 5) (by decide)
    ((c.phyDelayAt ⟨0, 0⟩ speed).txDelay.toNat_lt.trans (by decide))
  have hrx := length_numeral_le (k := 5) (by decide)
    ((c.phyDelayAt ⟨0, 0⟩ speed).rxDelay.toNat_lt.trans (by decide))
  refine itemLine_valid (by decide) (isNumbers_phyDelayValue speed _) ?_
  rw [phyDelayValue, List.length_append, List.length_append, List.length_cons, List.length_cons]
  omega

theorem IniDoc.placed_of_no_continuation {named : Bool} {ls : List IniLine}
    (hls : ∀ l ∈ ls, ∀ indent text trailing, l ≠ .continuation indent text trailing) :
    Placed named ls := by
  induction ls generalizing named with
  | nil => trivial
  | cons l ls ih =>
    have hrest (named : Bool) : Placed named ls := ih fun l' h => hls l' (List.mem_cons_of_mem l h)
    cases l with
    | continuation indent text trailing => exact absurd rfl (hls _ List.mem_cons_self indent text trailing)
    | header name after => exact hrest false
    | pair name gap colon gap' value remark trailing => exact hrest true
    | blank spaces => exact hrest named
    | comment indent hash text => exact hrest named
    | unclosed text remark trailing => exact hrest named
    | bare text remark trailing => exact hrest named

/-- The file of a configuration keeps to the format. -/
theorem GptpCfg.doc_valid {c : GptpCfg} (hthresh : 0 ≤ c.neighborPropDelayThresh)
    (speeds : List UInt32) : (c.doc speeds).Valid := by
  -- what is asked of a line alone, for every line
  have hlines : ∀ l ∈ (c.doc speeds).lines, l.Valid ∧ '\n' ∉ l.text ∧ '\x00' ∉ l.text ∧
      l.text.length < iniMaxLine - 1 := by
    intro l hl
    simp only [doc, List.mem_cons, List.mem_append, List.mem_map] at hl
    rcases hl with rfl | ⟨it, hit, rfl⟩ | rfl | ⟨it, hit, rfl⟩ | rfl | ⟨speed, -, rfl⟩
    · exact ⟨⟨by decide, by decide, by decide⟩, by decide, by decide, by decide⟩
    · exact NumberItem.line_valid hthresh (List.mem_append_left _ hit)
    · exact ⟨⟨by decide, by decide, by decide⟩, by decide, by decide, by decide⟩
    · exact NumberItem.line_valid hthresh (List.mem_append_right _ hit)
    · exact ⟨⟨by decide, by decide, by decide⟩, by decide, by decide, by decide⟩
    · exact c.phyDelayLine_valid speed
  refine ⟨fun l hl => (hlines l hl).1, IniDoc.placed_of_no_continuation ?_, ?_, fun _ l hl => ?_⟩
  · intro l hl indent text trailing heq
    simp only [doc, List.mem_cons, List.mem_append, List.mem_map] at hl
    rcases hl with rfl | ⟨it, -, rfl⟩ | rfl | ⟨it, -, rfl⟩ | rfl | ⟨speed, -, rfl⟩ <;> cases heq
  · intro t ht
    obtain ⟨l, hl, rfl⟩ : ∃ l ∈ (c.doc speeds).lines, l.text = t := List.mem_map.mp ht
    exact (hlines l hl).2
  · obtain rfl : IniLine.header "ptp".toList [] = l := Option.some.inj hl
    rfl

/-! ### Reading it back -/

section ReadBack

variable {libc : Libc} {stray : PhyDelaySpec}

/-- A single number that is written is accepted and stored. -/
theorem gptpIniHandler_number {it : NumberItem} (hit : it ∈ NumberItem.all) {n : ℕ}
    (hmax : n ≤ it.field.max) (hulong : n ≤ libc.ulongMax) (c : GptpCfg) :
    gptpIniHandler libc stray it.sectionName.toList it.name.toList (numeral n) c =
      (c.assign stray n it.field, true) := by
  have hself (s : String) : parseMatch s.toList s = true := decide_eq_true rfl
  have hfits : it.Fits (numeral n) := ⟨isNumeral_numeral n, by rwa [numeralValue_numeral]⟩
  have hparse : it.parse libc stray (numeral n) c = some (c.assign stray n it.field) := by
    rw [NumberItem.parse_of_fits hfits (by rwa [numeralValue_numeral]), numeralValue_numeral]
  have hcall : iniCallBack libc stray it.sectionName.toList it.name.toList (numeral n) c =
      ⟨1, c.assign stray n it.field, none⟩ := by
    unfold iniCallBack
    rw [recognise_numberItem hit (hself _) (hself _)]
    dsimp only
    rw [hparse]
  unfold gptpIniHandler
  rw [hcall]
  rfl

theorem findSpeedByName_numeral_append (n : ℕ) (rest : List Char) :
    findSpeedByName (numeral n ++ rest) = none := by
  obtain ⟨d, digits, hd⟩ := List.exists_cons_of_ne_nil (isNumeral_numeral n).1
  have hne : d ≠ 'L' := by
    rintro rfl
    exact absurd ((isNumeral_numeral n).2 'L' (hd ▸ List.mem_cons_self)) (by decide)
  have hnone : speedNameMap.find? (fun entry => entry.2.toList.isPrefixOf (d :: (digits ++ rest))) =
      none := by
    simp [speedNameMap, List.isPrefixOf, hne.symm]
  rw [findSpeedByName, hd, List.cons_append, hnone]
  rfl

/-- The delays of a link speed that are written are accepted and stored. -/
theorem gptpIniHandler_phyDelay (hulong : 2 ^ 32 - 1 ≤ libc.ulongMax) (speed : UInt32) (d : PhyDelaySpec)
    (c : GptpCfg) :
    gptpIniHandler libc stray "eth".toList "phy_delay".toList (phyDelayValue speed d) c =
      (c.setPhyDelay speed d, true) := by
  have hblank : ∀ c ∈ [' '], isSpace c = true := List.forall_mem_singleton.mpr rfl
  -- each number is taken up to the blank behind it, which the next one skips
  have hnumber (blanks : List Char) (hblanks : ∀ c ∈ blanks, isSpace c = true) (n : ℕ)
      (hn : n ≤ 2 ^ 32 - 1) (rest : List Char) (hrest : ∀ c, rest.head? = some c → c.isDigit = false) :
      libc.strtoul (blanks ++ (numeral n ++ rest)) = ⟨n, rest, .none⟩ := by
    have h := Libc.strtoul_numeral_append hblanks (isNumeral_numeral n)
      (by rw [numeralValue_numeral]; exact hn.trans hulong) hrest
    rwa [numeralValue_numeral] at h
  have hdelay (x : UInt16) : x.toNat ≤ 2 ^ 32 - 1 :=
    (Nat.le_of_lt x.toNat_lt).trans (by decide)
  have hspeed := hnumber [] (by simp) speed.toNat (Nat.le_sub_one_of_lt speed.toNat_lt)
    ([' '] ++ (numeral d.txDelay.toNat ++ ' ' :: numeral d.rxDelay.toNat)) (by rintro c ⟨⟩; decide)
  have htx := hnumber [' '] hblank d.txDelay.toNat (hdelay d.txDelay)
    ([' '] ++ (numeral d.rxDelay.toNat ++ [])) (by rintro c ⟨⟩; decide)
  have hrx := hnumber [' '] hblank d.rxDelay.toNat (hdelay d.rxDelay) [] (by simp)
  have hvalue : phyDelayValue speed d =
      numeral speed.toNat ++ ([' '] ++ (numeral d.txDelay.toNat ++ ' ' :: numeral d.rxDelay.toNat)) := by
    simp [phyDelayValue]
  have hround (x : UInt16) : (UInt32.ofNat x.toNat).toUInt16 = x := by
    rw [← UInt16.toNat_inj, UInt32.toNat_toUInt16, UInt32.toNat_ofNat']
    have := x.toNat_lt
    omega
  have hparse : parsePhyDelay libc (phyDelayValue speed d) c = some (c.setPhyDelay speed d) := by
    unfold parsePhyDelay
    rw [hvalue, findSpeedByName_numeral_append]
    dsimp only
    rw [List.nil_append] at hspeed
    rw [hspeed]
    dsimp only
    rw [List.append_nil] at hrx
    rw [show ' ' :: numeral d.rxDelay.toNat = [' '] ++ (numeral d.rxDelay.toNat ++ []) by simp, htx]
    dsimp only
    rw [List.append_nil, hrx]
    dsimp only
    rw [if_pos ⟨rfl, rfl, rfl, rfl⟩, hround, hround, UInt32.ofNat_toNat]
  have hcall : iniCallBack libc stray "eth".toList "phy_delay".toList (phyDelayValue speed d) c =
      ⟨1, c.setPhyDelay speed d, none⟩ := by
    unfold iniCallBack
    rw [show recognise "eth".toList "phy_delay".toList = some .phyDelay from rfl]
    dsimp only
    rw [hparse]
  unfold gptpIniHandler
  rw [hcall]
  rfl

/-- The lines of items that are accepted, one after the other. -/
theorem deliver_itemLines {σ α : Type} {handler : IniHandler σ} {sectionName : List Char} {xs : List α}
    {name : α → String} {value : α → List Char} {f : σ → α → σ}
    (haccept : ∀ x ∈ xs, ∀ u, handler sectionName (name x).toList (value x) u = (f u x, true))
    (lastName : List Char) (n : ℕ) (ls : List IniLine) (u : σ) :
    ∃ lastName' n', (IniDoc.eventsFrom sectionName lastName n
        ((xs.map fun x => itemLine (name x) (value x)) ++ ls)).foldl (IniEvent.deliver handler) (u, 0) =
      (IniDoc.eventsFrom sectionName lastName' n' ls).foldl (IniEvent.deliver handler)
        (xs.foldl f u, 0) := by
  induction xs generalizing lastName n u with
  | nil => exact ⟨lastName, n, rfl⟩
  | cons x xs ih =>
    obtain ⟨lastName', n', hrest⟩ := ih (fun y hy => haccept y (List.mem_cons_of_mem x hy))
      (name x).toList (n + 1) (f u x)
    have hitem : IniEvent.deliver handler (u, 0) (.item n sectionName (name x).toList (value x)) =
        (f u x, 0) := by
      simp [IniEvent.deliver, IniEvent.next, IniEvent.refused, haccept x List.mem_cons_self]
    refine ⟨lastName', n', ?_⟩
    rw [List.map_cons, List.cons_append, itemLine, IniDoc.eventsFrom, List.foldl_cons, hitem, hrest,
      List.foldl_cons]

/-- Assigning every number of a configuration makes all fields but the delays those of it. -/
theorem GptpCfg.foldl_assign {c : GptpCfg} (hthresh : 0 ≤ c.neighborPropDelayThresh) (c₀ : GptpCfg) :
    NumberItem.portItems.foldl
        (fun c' it => c'.assign stray (c.read it.field).toNat it.field)
        (NumberItem.ptpItems.foldl
          (fun c' it => c'.assign stray (c.read it.field).toNat it.field) c₀) =
      { c with phyDelay := c₀.phyDelay } := by
  have hint : (UInt64.ofNat c.neighborPropDelayThresh.toInt.toNat).toInt64 =
      c.neighborPropDelayThresh := by
    have hle : 0 ≤ c.neighborPropDelayThresh.toInt := Int64.le_iff_toInt_le.mp hthresh
    have hlt := Int64.toInt_lt c.neighborPropDelayThresh
    have hmax : c.neighborPropDelayThresh.toInt.toNat < 2 ^ 63 := by omega
    rw [← Int64.toInt_inj, UInt64.toInt64_ofNat', Int64.toInt_ofNat_of_lt hmax, Int.toNat_of_nonneg hle]
  have hzero : ¬ UInt32.ofNat false.toNat = 1 := by decide
  have hflag (b : Bool) (inst : Decidable (UInt32.ofNat b.toNat = 1)) :
      decide (UInt32.ofNat b.toNat = 1) = b := by
    cases b with
    | false => exact decide_eq_false hzero
    | true => exact decide_eq_true rfl
  simp only [NumberItem.portItems, NumberItem.ptpItems, List.foldl_cons, List.foldl_nil,
    NumberItem.priority1, NumberItem.announceReceiptTimeout, NumberItem.syncReceiptTimeout,
    NumberItem.neighborPropDelayThresh, NumberItem.syncReceiptThresh, NumberItem.seqIdAsCapableThresh,
    NumberItem.lostPdelayRespThresh, NumberItem.allowNegativeCorrectionField, assign, read,
    Int.toNat_natCast, UInt8.ofNat_toNat, UInt16.ofNat_toNat, UInt32.ofNat_toNat, hint]
  congr 1
  exact hflag _ _

/-- Setting the delays of the link speeds that have any makes them those of the configuration. -/
theorem GptpCfg.foldl_setPhyDelay (c c₀ : GptpCfg) {speeds : List UInt32}
    (hspeeds : ∀ speed ∈ speeds, c.phyDelay speed ≠ none) :
    speeds.foldl (fun c' speed => c'.setPhyDelay speed (c.phyDelayAt ⟨0, 0⟩ speed)) c₀ =
      { c₀ with
        phyDelay := fun speed => if speed ∈ speeds then c.phyDelay speed else c₀.phyDelay speed } := by
  induction speeds generalizing c₀ with
  | nil => rfl
  | cons speed speeds ih =>
    have hat : some (c.phyDelayAt ⟨0, 0⟩ speed) = c.phyDelay speed := by
      obtain ⟨d, hd⟩ := Option.ne_none_iff_exists'.mp (hspeeds speed List.mem_cons_self)
      rw [phyDelayAt, hd, Option.getD_some]
    rw [List.foldl_cons, ih _ fun s h => hspeeds s (List.mem_cons_of_mem speed h)]
    unfold setPhyDelay
    congr 1
    funext s
    by_cases hmem : s ∈ speeds
    · simp [hmem]
    · by_cases hs : s = speed
      · subst hs
        simp [hmem, hat]
      · simp [hmem, hs]

/-- A configuration is read back as it is from its file, and no line of the file is refused. -/
theorem gptpIniParser_doc (libc : Libc) (stray : PhyDelaySpec) (memory c : GptpCfg)
    (hthresh : 0 ≤ c.neighborPropDelayThresh)
    (hulong : c.neighborPropDelayThresh.toInt.toNat ≤ libc.ulongMax) {speeds : List UInt32}
    (hspeeds : ∀ speed, speed ∈ speeds ↔ c.phyDelay speed ≠ none) :
    gptpIniParser libc stray memory (some (c.doc speeds).text) = (c, 0) := by
  have h32 : 2 ^ 32 - 1 ≤ libc.ulongMax :=
    Nat.sub_le_sub_right (Nat.pow_le_pow_right (by decide) libc.ulongBits_ge) 1
  have hread (it : NumberItem) (hit : it ∈ NumberItem.ptpItems ++ NumberItem.portItems) :
      (c.read it.field).toNat ≤ libc.ulongMax := by
    have hmax := (GptpCfg.toNat_read_le hthresh it.field).1
    by_cases hfield : it.field = .neighborPropDelayThresh
    · rw [hfield]
      exact hulong
    · refine (hmax.trans ?_).trans h32
      have hall : (NumberItem.ptpItems ++ NumberItem.portItems).all (fun it =>
          it.field = .neighborPropDelayThresh || it.field.max ≤ 2 ^ 32 - 1) = true := by decide
      simpa [hfield] using List.all_eq_true.mp hall it hit
  -- the numbers of a section are accepted one by one
  have hnumbers (its : List NumberItem) (sectionName : String)
      (hits : ∀ it ∈ its, it ∈ NumberItem.ptpItems ++ NumberItem.portItems)
      (hsection : its.all (fun it => it.sectionName = sectionName) = true) :
      ∀ it ∈ its, ∀ c', gptpIniHandler libc stray sectionName.toList it.name.toList
        (numeral (c.read it.field).toNat) c' =
          (c'.assign stray (c.read it.field).toNat it.field, true) := by
    intro it hit c'
    obtain rfl : it.sectionName = sectionName := by simpa using List.all_eq_true.mp hsection it hit
    exact gptpIniHandler_number (List.mem_append_left _ (hits it hit))
      (GptpCfg.toNat_read_le hthresh it.field).1 (hread it (hits it hit)) c'
  have hdelays : ∀ speed ∈ speeds, ∀ c', gptpIniHandler libc stray "eth".toList "phy_delay".toList
      (phyDelayValue speed (c.phyDelayAt ⟨0, 0⟩ speed)) c' =
        (c'.setPhyDelay speed (c.phyDelayAt ⟨0, 0⟩ speed), true) :=
    fun speed _ c' => gptpIniHandler_phyDelay h32 speed _ c'
  obtain ⟨last₁, n₁, hptp⟩ := deliver_itemLines
    (hnumbers NumberItem.ptpItems "ptp" (fun _ h => List.mem_append_left _ h) (by decide)) [] 2
    (.header "port".toList [] :: (NumberItem.portItems.map (NumberItem.line c) ++
      .header "eth".toList [] :: speeds.map c.phyDelayLine)) { memory with phyDelay := fun _ => none }
  obtain ⟨last₂, n₂, hport⟩ := deliver_itemLines
    (hnumbers NumberItem.portItems "port" (fun _ h => List.mem_append_right _ h) (by decide)) []
    (n₁ + 1) (.header "eth".toList [] :: speeds.map c.phyDelayLine)
    (NumberItem.ptpItems.foldl (fun c' it => c'.assign stray (c.read it.field).toNat it.field)
      { memory with phyDelay := fun _ => none })
  obtain ⟨last₃, n₃, heth⟩ := deliver_itemLines hdelays [] (n₂ + 1) [] { c with phyDelay := fun _ => none }
  have hphyDelay : (fun speed => if speed ∈ speeds then c.phyDelay speed else none) = c.phyDelay := by
    funext speed
    split_ifs with hmem
    · rfl
    · exact (not_not.mp fun h => hmem ((hspeeds speed).mpr h)).symm
  have hfile : (c.doc speeds).events.foldl (IniEvent.deliver (gptpIniHandler libc stray))
      ({ memory with phyDelay := fun _ => none }, 0) = (c, 0) := by
    rw [List.append_nil, GptpCfg.foldl_setPhyDelay c _ fun s h => (hspeeds s).mp h] at heth
    dsimp only at heth
    rw [hphyDelay] at heth
    rw [GptpCfg.foldl_assign hthresh] at hport
    refine hptp.trans ?_
    refine hport.trans ?_
    exact heth
  unfold gptpIniParser iniParse
  dsimp only
  rw [iniParseFile_text _ (GptpCfg.doc_valid hthresh speeds), hfile]
  rfl

/-- **Writing and reading a configuration.** Every configuration, with a threshold that is not negative and
that an `unsigned long` holds, is read back as it is from a file that says it, whatever the memory held, and
no line of the file is refused. The port gets two thresholds, the flag and, unless they were given on the
command line, the delays of it; the priority and the timeouts of the file do not reach it. -/
theorem configFile_roundTrip (libc : Libc) (stray : PhyDelaySpec) (memory c : GptpCfg)
    (hthresh : 0 ≤ c.neighborPropDelayThresh)
    (hulong : c.neighborPropDelayThresh.toInt.toNat ≤ libc.ulongMax) (speeds : List UInt32)
    (hspeeds : ∀ speed, speed ∈ speeds ↔ c.phyDelay speed ≠ none) (inputDelay : Bool)
    (cfg : PortConfig) :
    gptpIniParser libc stray memory (some (c.doc speeds).text) = (c, 0) ∧
      cfg.withConfigFile (gptpIniParser libc stray memory (some (c.doc speeds).text)) inputDelay =
        { cfg with
          neighborPropDelayThresh := c.neighborPropDelayThresh
          syncReceiptThresh := c.syncReceiptThresh
          phyDelay := if inputDelay then cfg.phyDelay else
            fun linkSpeed => (c.phyDelay linkSpeed).map fun d => (d.txDelay, d.rxDelay)
          allowNegativeCorrectionField := c.allowNegativeCorrField } := by
  have hread := gptpIniParser_doc libc stray memory c hthresh hulong hspeeds
  refine ⟨hread, ?_⟩
  rw [hread]
  rfl

/-- A configuration with a high priority and the delays of one link speed. -/
def GptpCfg.sample : GptpCfg :=
  ⟨1, 3, 3, 8, 1500, 0, 9, true, fun speed => if speed = linkSpeed1G then some ⟨184, 382⟩ else none⟩

theorem configFile_roundTrip_sample :
    gptpIniParser libc64 ⟨9, 7⟩ zeroCfg (some (GptpCfg.sample.doc [linkSpeed1G]).text) =
      (GptpCfg.sample, 0) :=
  (configFile_roundTrip libc64 ⟨9, 7⟩ zeroCfg .sample (by decide) (by decide) [linkSpeed1G]
    (fun speed => by simp [GptpCfg.sample]) false
    ⟨1, ⟨ClockIdentity.zero, 1⟩, false, false, false, false, 5, 800, -3, 0, 0, 0, fun _ => none⟩).1

end ReadBack

end Gptp
