import Gptp.Framework.Strtoul
import Mathlib.Logic.Function.Basic

/-!
# The configuration file

`GptpIniParser` reads the daemon's configuration file. The parser of the file format calls `iniCallBack`
for each item with its section, its name and its value, and takes an item for bad if the callback returns
0. All items but one have a single number for their value. They are read with `strtoul` and then narrowed
to the type of their field.

* `recognise_numberItem`: the items are told apart by section and name, in upper or lower case.
* `iniCallBack_exact_iff`: which values of a single-number item are treated as they should be. The others
  are the empty string, numbers with white space or a sign before them, numbers that `unsigned long` holds
  and the field does not, and the first delay of a link speed: the other delay of that speed then has
  whatever the memory held before.
-/

namespace Gptp

open Framework

/-! ### The configuration -/

/-- `LINKSPEED_10G`. -/
def linkSpeed10G : UInt32 := 10000000

/-- `LINKSPEED_2_5G`. -/
def linkSpeed2500MB : UInt32 := 2500000

/-- `LINKSPEED_1G`. -/
def linkSpeed1G : UInt32 := 1000000

/-- `LINKSPEED_100MB`. -/
def linkSpeed100MB : UInt32 := 100000

/-- The transmit and receive delays of a link speed: `phy_delay_spec_t`. -/
structure PhyDelaySpec where
  txDelay : UInt16
  rxDelay : UInt16
  deriving DecidableEq

/-- `GptpIniParser::gptp_cfg_t`, as far as the file sets it. -/
structure GptpCfg where
  priority1 : UInt8
  announceReceiptTimeout : UInt32
  syncReceiptTimeout : UInt32
  syncReceiptThresh : UInt32
  neighborPropDelayThresh : Int64
  seqIdAsCapableThresh : UInt32
  lostPdelayRespThresh : UInt16
  allowNegativeCorrField : Bool
  phyDelay : UInt32 → Option PhyDelaySpec

/-- A field of the configuration; each delay of each link speed is one. -/
inductive CfgField where
  | priority1
  | announceReceiptTimeout
  | syncReceiptTimeout
  | syncReceiptThresh
  | neighborPropDelayThresh
  | seqIdAsCapableThresh
  | lostPdelayRespThresh
  | allowNegativeCorrField
  | txDelay (speed : UInt32)
  | rxDelay (speed : UInt32)
  deriving DecidableEq

namespace GptpCfg

/-- `phy_delay[speed]`. The constructor of a new entry leaves its delays to what the memory holds, which
is `stray`. -/
def phyDelayAt (stray : PhyDelaySpec) (speed : UInt32) (c : GptpCfg) : PhyDelaySpec :=
  (c.phyDelay speed).getD stray

def setPhyDelay (speed : UInt32) (d : PhyDelaySpec) (c : GptpCfg) : GptpCfg :=
  { c with phyDelay := Function.update c.phyDelay speed (some d) }

/-- The number in a field. A link speed without an entry has no delay, as `getTxPhyDelay` and
`getRxPhyDelay` of the port take it. -/
def read (c : GptpCfg) : CfgField → ℤ
  | .priority1 => c.priority1.toNat
  | .announceReceiptTimeout => c.announceReceiptTimeout.toNat
  | .syncReceiptTimeout => c.syncReceiptTimeout.toNat
  | .syncReceiptThresh => c.syncReceiptThresh.toNat
  | .neighborPropDelayThresh => c.neighborPropDelayThresh.toInt
  | .seqIdAsCapableThresh => c.seqIdAsCapableThresh.toNat
  | .lostPdelayRespThresh => c.lostPdelayRespThresh.toNat
  | .allowNegativeCorrField => c.allowNegativeCorrField.toNat
  | .txDelay speed => (c.phyDelayAt ⟨0, 0⟩ speed).txDelay.toNat
  | .rxDelay speed => (c.phyDelayAt ⟨0, 0⟩ speed).rxDelay.toNat

/-- The assignment of an `unsigned long` to a field, through the variable that holds it in between. -/
def assign (stray : PhyDelaySpec) (v : ℕ) (c : GptpCfg) : CfgField → GptpCfg
  | .priority1 => { c with priority1 := UInt8.ofNat v }
  | .announceReceiptTimeout => { c with announceReceiptTimeout := UInt32.ofNat v }
  | .syncReceiptTimeout => { c with syncReceiptTimeout := UInt32.ofNat v }
  | .syncReceiptThresh => { c with syncReceiptThresh := UInt32.ofNat v }
  | .neighborPropDelayThresh => { c with neighborPropDelayThresh := (UInt64.ofNat v).toInt64 }
  | .seqIdAsCapableThresh => { c with seqIdAsCapableThresh := UInt32.ofNat v }
  | .lostPdelayRespThresh => { c with lostPdelayRespThresh := UInt16.ofNat v }
  | .allowNegativeCorrField => { c with allowNegativeCorrField := UInt32.ofNat v = 1 }
  | .txDelay speed =>
    c.setPhyDelay speed { c.phyDelayAt stray speed with txDelay := (UInt32.ofNat v).toUInt16 }
  | .rxDelay speed =>
    c.setPhyDelay speed { c.phyDelayAt stray speed with rxDelay := (UInt32.ofNat v).toUInt16 }

end GptpCfg

namespace CfgField

/-- The largest number of a field. -/
def max : CfgField → ℕ
  | .priority1 => 2 ^ 8 - 1
  | .announceReceiptTimeout | .syncReceiptTimeout | .syncReceiptThresh | .seqIdAsCapableThresh =>
    2 ^ 32 - 1
  | .neighborPropDelayThresh => 2 ^ 63 - 1
  | .lostPdelayRespThresh => 2 ^ 16 - 1
  | .allowNegativeCorrField => 1
  | .txDelay _ | .rxDelay _ => 2 ^ 16 - 1

/-- What is asked of a number besides being one: a flag is 0 or 1, as an `unsigned int`. -/
def accepts : CfgField → ℕ → Bool
  | .allowNegativeCorrField, v => UInt32.ofNat v = 0 || UInt32.ofNat v = 1
  | _, _ => true

end CfgField

/-! ### The items -/

/-- `GptpIniParser::parseMatch`. -/
def parseMatch (s₁ : List Char) (s₂ : String) : Bool :=
  s₁.map Char.toLower = s₂.toList.map Char.toLower

/-- An item whose value is a single number. -/
structure NumberItem where
  sectionName : String
  name : String
  field : CfgField

namespace NumberItem

def priority1 : NumberItem := ⟨"ptp", "priority1", .priority1⟩

def announceReceiptTimeout : NumberItem := ⟨"port", "announceReceiptTimeout", .announceReceiptTimeout⟩

def syncReceiptTimeout : NumberItem := ⟨"port", "syncReceiptTimeout", .syncReceiptTimeout⟩

def neighborPropDelayThresh : NumberItem :=
  ⟨"port", "neighborPropDelayThresh", .neighborPropDelayThresh⟩

def syncReceiptThresh : NumberItem := ⟨"port", "syncReceiptThresh", .syncReceiptThresh⟩

def seqIdAsCapableThresh : NumberItem := ⟨"port", "seqIdAsCapableThresh", .seqIdAsCapableThresh⟩

def lostPdelayRespThresh : NumberItem := ⟨"port", "lostPdelayRespThresh", .lostPdelayRespThresh⟩

def allowNegativeCorrectionField : NumberItem :=
  ⟨"port", "allowNegativeCorrectionField", .allowNegativeCorrField⟩

def phyDelayGbTx : NumberItem := ⟨"eth", "phy_delay_gb_tx", .txDelay linkSpeed1G⟩

def phyDelayGbRx : NumberItem := ⟨"eth", "phy_delay_gb_rx", .rxDelay linkSpeed1G⟩

def phyDelayMbTx : NumberItem := ⟨"eth", "phy_delay_mb_tx", .txDelay linkSpeed100MB⟩

def phyDelayMbRx : NumberItem := ⟨"eth", "phy_delay_mb_rx", .rxDelay linkSpeed100MB⟩

/-- The items of section `ptp`. -/
def ptpItems : List NumberItem := [priority1]

/-- The items of section `port`, in the order in which they are tried. -/
def portItems : List NumberItem :=
  [announceReceiptTimeout, syncReceiptTimeout, neighborPropDelayThresh, syncReceiptThresh,
    seqIdAsCapableThresh, lostPdelayRespThresh, allowNegativeCorrectionField]

/-- The single-number items of section `eth`, in the order in which they are tried. -/
def ethItems : List NumberItem := [phyDelayGbTx, phyDelayGbRx, phyDelayMbTx, phyDelayMbRx]

/-- The block for a single number: the configuration after it, if the value is accepted. -/
def parse (libc : Libc) (stray : PhyDelaySpec) (it : NumberItem) (value : List Char) (c : GptpCfg) :
    Option GptpCfg :=
  let r := libc.strtoul value
  if r.rest = [] ∧ r.errno = .none ∧ it.field.accepts r.value then
    some (c.assign stray r.value it.field)
  else none

end NumberItem

/-- `speed_name_map`. -/
def speedNameMap : List (UInt32 × String) :=
  [(linkSpeed10G, "LINKSPEED_10G"), (linkSpeed2500MB, "LINKSPEED_2_5G"),
    (linkSpeed1G, "LINKSPEED_1G"), (linkSpeed100MB, "LINKSPEED_100MB")]

/-- `findSpeedByName`: the speed that a string begins with the name of, and what follows; none for
`INVALID_LINKSPEED`. -/
def findSpeedByName (name : List Char) : Option (UInt32 × List Char) :=
  (speedNameMap.find? fun entry => entry.2.toList.isPrefixOf name).map fun entry =>
    (entry.1, name.drop entry.2.length)

/-- The block for `phy_delay`, whose value is a link speed, by number or by name, and its two delays. An
error of any of the numbers stays in `errno`. -/
def parsePhyDelay (libc : Libc) (value : List Char) (c : GptpCfg) : Option GptpCfg :=
  let (speed, rest, errno) := match findSpeedByName value with
    | some (speed, rest) => (speed, rest, Errno.none)
    | none =>
      let r := libc.strtoul value
      (UInt32.ofNat r.value, r.rest, r.errno)
  let tx := libc.strtoul rest
  let rx := libc.strtoul tx.rest
  if rx.rest = [] ∧ errno = .none ∧ tx.errno = .none ∧ rx.errno = .none then
    some (c.setPhyDelay speed
      ⟨(UInt32.ofNat tx.value).toUInt16, (UInt32.ofNat rx.value).toUInt16⟩)
  else none

/-- An item that is recognised. -/
inductive IniItem where
  | number (it : NumberItem)
  | phyDelay

/-- Which item a section and a name stand for. -/
def recognise (sectionName name : List Char) : Option IniItem :=
  let named (its : List NumberItem) := (its.find? fun it => parseMatch name it.name).map .number
  if parseMatch sectionName "ptp" then named NumberItem.ptpItems
  else if parseMatch sectionName "port" then named NumberItem.portItems
  else if parseMatch sectionName "eth" then
    (named NumberItem.ethItems).or (if parseMatch name "phy_delay" then some .phyDelay else none)
  else none

/-- What `iniCallBack` leaves: its result, the configuration, and what it has printed. -/
structure IniResult where
  ret : ℤ
  config : GptpCfg
  cerr : Option String

/-- `GptpIniParser::iniCallBack`. -/
def iniCallBack (libc : Libc) (stray : PhyDelaySpec) (sectionName name value : List Char)
    (c : GptpCfg) : IniResult :=
  let parsed := match recognise sectionName name with
    | some (.number it) => it.parse libc stray value c
    | some .phyDelay => parsePhyDelay libc value c
    | none => none
  match parsed with
  | some c' => ⟨1, c', none⟩
  | none => ⟨0, c, some ("Unrecognized configuration item: section=" ++ String.ofList sectionName ++
      ", name=" ++ String.ofList name)⟩

/-! ### Fields -/

namespace GptpCfg

variable {stray : PhyDelaySpec} {c : GptpCfg}

theorem phyDelayAt_setPhyDelay (speed speed' : UInt32) (d : PhyDelaySpec) :
    (c.setPhyDelay speed d).phyDelayAt stray speed' =
      if speed' = speed then d else c.phyDelayAt stray speed' := by
  unfold phyDelayAt setPhyDelay
  dsimp only
  rw [Function.update_apply]
  split_ifs <;> rfl

/-- A delay can be set alone: the link speed has an entry, or the other delay of the new entry happens to
be 0. -/
def Settled (stray : PhyDelaySpec) (c : GptpCfg) : CfgField → Prop
  | .txDelay speed => c.phyDelay speed ≠ none ∨ stray.rxDelay = 0
  | .rxDelay speed => c.phyDelay speed ≠ none ∨ stray.txDelay = 0
  | _ => True

/-- A number that the field can hold is what it holds after the assignment. -/
theorem read_assign_self {f : CfgField} {v : ℕ} (hv : v ≤ f.max) : (c.assign stray v f).read f = v := by
  have hlt (w : ℕ) (h : v ≤ 2 ^ w - 1) : v % 2 ^ w = v :=
    Nat.mod_eq_of_lt (by have := Nat.two_pow_pos w; omega)
  have hdelay (h : v ≤ 2 ^ 16 - 1) : (UInt32.ofNat v).toUInt16.toNat = v := by
    rw [UInt32.toNat_toUInt16, UInt32.toNat_ofNat']
    omega
  cases f with
  | priority1 => exact congrArg Nat.cast (hlt 8 hv)
  | announceReceiptTimeout => exact congrArg Nat.cast (hlt 32 hv)
  | syncReceiptTimeout => exact congrArg Nat.cast (hlt 32 hv)
  | syncReceiptThresh => exact congrArg Nat.cast (hlt 32 hv)
  | seqIdAsCapableThresh => exact congrArg Nat.cast (hlt 32 hv)
  | lostPdelayRespThresh => exact congrArg Nat.cast (hlt 16 hv)
  | neighborPropDelayThresh =>
    have hrange : v < 2 ^ 63 := Nat.lt_of_le_pred (by decide) hv
    rw [assign, read, UInt64.toInt64_ofNat', Int64.toInt_ofNat_of_lt hrange]
  | allowNegativeCorrField => rcases Nat.le_one_iff_eq_zero_or_eq_one.mp hv with rfl | rfl <;> rfl
  | txDelay speed =>
    rw [assign, read, phyDelayAt_setPhyDelay, if_pos rfl]
    exact congrArg Nat.cast (hdelay hv)
  | rxDelay speed =>
    rw [assign, read, phyDelayAt_setPhyDelay, if_pos rfl]
    exact congrArg Nat.cast (hdelay hv)

/-- One delay of a link speed is as it was, if it was there or is 0. -/
theorem delay_phyDelayAt_iff (delay : PhyDelaySpec → UInt16) (hzero : delay ⟨0, 0⟩ = 0)
    (speed : UInt32) :
    ((delay (c.phyDelayAt stray speed)).toNat : ℤ) = (delay (c.phyDelayAt ⟨0, 0⟩ speed)).toNat ↔
      c.phyDelay speed ≠ none ∨ delay stray = 0 := by
  rw [Int.natCast_inj, UInt16.toNat_inj]
  unfold phyDelayAt
  cases c.phyDelay speed with
  | none => simp [hzero]
  | some d => simp

/-- Setting the delays of a link speed sets two fields. -/
theorem read_setPhyDelay (speed : UInt32) (d : PhyDelaySpec) (g : CfgField) :
    (c.setPhyDelay speed d).read g =
      if g = .txDelay speed then (d.txDelay.toNat : ℤ)
      else if g = .rxDelay speed then (d.rxDelay.toNat : ℤ) else c.read g := by
  cases g with
  | txDelay speed' =>
    simp only [read, phyDelayAt_setPhyDelay, CfgField.txDelay.injEq, reduceCtorEq, if_false]
    split_ifs <;> rfl
  | rxDelay speed' =>
    simp only [read, phyDelayAt_setPhyDelay, CfgField.rxDelay.injEq, reduceCtorEq, if_false]
    split_ifs <;> rfl
  | _ => simp only [reduceCtorEq, if_false]; rfl

/-- Apart from one delay of a link speed, only the other one can change when they are set. -/
theorem read_setPhyDelay_others_iff {speed : UInt32} (d : PhyDelaySpec) (other : CfgField)
    {f : CfgField} (hne : other ≠ f)
    (hdelays : ∀ g, g ≠ f → g ≠ other → g ≠ .txDelay speed ∧ g ≠ .rxDelay speed) :
    (∀ g, g ≠ f → (c.setPhyDelay speed d).read g = c.read g) ↔
      (c.setPhyDelay speed d).read other = c.read other := by
  constructor
  · exact fun h => h other hne
  · intro hother g hg
    by_cases hg' : g = other
    · rw [hg', hother]
    · obtain ⟨htx, hrx⟩ := hdelays g hg hg'
      rw [read_setPhyDelay, if_neg htx, if_neg hrx]

/-- The other fields are left exactly if the field can be set alone. -/
theorem read_assign_other_iff {f : CfgField} {v : ℕ} :
    (∀ g, g ≠ f → (c.assign stray v f).read g = c.read g) ↔ Settled stray c f := by
  cases f with
  | txDelay speed =>
    rw [Settled, ← delay_phyDelayAt_iff PhyDelaySpec.rxDelay rfl speed, assign,
      read_setPhyDelay_others_iff _ (.rxDelay speed) CfgField.noConfusion
        fun g htx hrx => ⟨htx, hrx⟩,
      read_setPhyDelay, if_neg CfgField.noConfusion, if_pos rfl]
    rfl
  | rxDelay speed =>
    rw [Settled, ← delay_phyDelayAt_iff PhyDelaySpec.txDelay rfl speed, assign,
      read_setPhyDelay_others_iff _ (.txDelay speed) CfgField.noConfusion
        fun g hrx htx => ⟨htx, hrx⟩,
      read_setPhyDelay, if_pos rfl]
    rfl
  | _ =>
    refine iff_of_true (fun g hg => ?_) trivial
    cases g <;> first | rfl | exact absurd rfl hg

end GptpCfg

theorem CfgField.accepts_of_le {f : CfgField} {v : ℕ} (hv : v ≤ f.max) : f.accepts v = true := by
  cases f with
  | allowNegativeCorrField =>
    rcases Nat.le_one_iff_eq_zero_or_eq_one.mp hv with rfl | rfl <;> rfl
  | _ => rfl

theorem CfgField.accepts_zero (f : CfgField) : f.accepts 0 = true := accepts_of_le (Nat.zero_le _)

/-! ### Values -/

namespace NumberItem

variable {libc : Libc} {stray : PhyDelaySpec} {it : NumberItem} {value : List Char} {c : GptpCfg}

/-- The value is a numeral whose number the field can hold. -/
def Fits (it : NumberItem) (value : List Char) : Prop :=
  IsNumeral value ∧ numeralValue value ≤ it.field.max

/-- The value is one that `strtoul` and the checks behind it refuse: neither empty, unless that is
reported, nor a numeral, unless its number is too large for an `unsigned long` or, for a flag, not 0
or 1. -/
def Refused (libc : Libc) (it : NumberItem) (value : List Char) : Prop :=
  (value = [] → libc.reportsNoDigits = true) ∧
    ∀ negative n, SignedNumeral value negative n →
      libc.ulongMax < n ∨ it.field.accepts (libc.ulong negative n) = false

/-- What becomes of a signed numeral. -/
theorem parse_of_signedNumeral {negative : Bool} {n : ℕ} (h : SignedNumeral value negative n) :
    it.parse libc stray value c =
      if n ≤ libc.ulongMax ∧ it.field.accepts (libc.ulong negative n) = true then
        some (c.assign stray (libc.ulong negative n) it.field)
      else none := by
  unfold parse
  rw [Libc.strtoul_of_signedNumeral h]
  by_cases hmax : libc.ulongMax < n
  · simp [hmax, Nat.not_le.mpr hmax]
  · simp [hmax, Nat.not_lt.mp hmax]

/-- What is no numeral is refused, unless it is empty. -/
theorem parse_of_not_signedNumeral (h : ∀ negative n, ¬ SignedNumeral value negative n) :
    it.parse libc stray value c = none ↔ value = [] → libc.reportsNoDigits = true := by
  by_cases hempty : value = []
  · subst hempty
    unfold parse
    rw [Libc.strtoul_nil]
    cases libc.reportsNoDigits <;> simp [CfgField.accepts_zero]
  · refine iff_of_true ?_ fun h => absurd h hempty
    exact if_neg fun haccepted => Libc.strtoul_rest_ne_nil hempty h haccepted.1

/-- When a value is refused. -/
theorem parse_eq_none_iff : it.parse libc stray value c = none ↔ it.Refused libc value := by
  unfold Refused
  by_cases hnumeral : ∃ negative n, SignedNumeral value negative n
  · obtain ⟨negative, n, h⟩ := hnumeral
    have hne : value ≠ [] := by
      rintro rfl
      exact (signedNumeral_iff.mp h).2.1.1 rfl
    have hone : (∀ negative n, SignedNumeral value negative n →
        libc.ulongMax < n ∨ it.field.accepts (libc.ulong negative n) = false) ↔
        libc.ulongMax < n ∨ it.field.accepts (libc.ulong negative n) = false := by
      refine ⟨fun hall => hall negative n h, fun hrefused negative' n' h' => ?_⟩
      obtain ⟨rfl, rfl⟩ := h.unique h'
      exact hrefused
    rw [parse_of_signedNumeral h, hone, and_iff_right fun hempty => absurd hempty hne]
    simp only [ite_eq_right_iff, reduceCtorEq, imp_false, not_and_or, Nat.not_le,
      Bool.not_eq_true]
  · have hnone : ∀ negative n, ¬ SignedNumeral value negative n :=
      fun negative n h => hnumeral ⟨negative, n, h⟩
    rw [parse_of_not_signedNumeral hnone]
    exact (and_iff_left fun negative n h => absurd h (hnone negative n)).symm

/-- A numeral that the field and an `unsigned long` can hold is assigned. -/
theorem parse_of_fits (hfits : it.Fits value) (hmax : numeralValue value ≤ libc.ulongMax) :
    it.parse libc stray value c = some (c.assign stray (numeralValue value) it.field) := by
  rw [parse_of_signedNumeral hfits.1.signedNumeral, if_pos ⟨hmax, CfgField.accepts_of_le hfits.2⟩]
  rfl

end NumberItem

/-! ### Items -/

/-- The single-number items: all that are recognised but `phy_delay`. -/
def NumberItem.all : List NumberItem := ptpItems ++ portItems ++ ethItems

/-- Sections and names are compared without regard to upper and lower case. -/
theorem recognise_congr {sectionName sectionName' name name' : List Char}
    (hsection : sectionName.map Char.toLower = sectionName'.map Char.toLower)
    (hname : name.map Char.toLower = name'.map Char.toLower) :
    recognise sectionName name = recognise sectionName' name' := by
  unfold recognise parseMatch
  rw [hsection, hname]

/-- Every single-number item is recognised by its section and name. -/
theorem recognise_numberItem {it : NumberItem} (hit : it ∈ NumberItem.all)
    {sectionName name : List Char} (hsection : parseMatch sectionName it.sectionName = true)
    (hname : parseMatch name it.name = true) : recognise sectionName name = some (.number it) := by
  rw [recognise_congr (of_decide_eq_true hsection) (of_decide_eq_true hname)]
  simp only [NumberItem.all, NumberItem.ptpItems, NumberItem.portItems, NumberItem.ethItems,
    List.cons_append, List.nil_append, List.mem_cons, List.not_mem_nil, or_false] at hit
  rcases hit with rfl | rfl | rfl | rfl | rfl | rfl | rfl | rfl | rfl | rfl | rfl | rfl <;> rfl

/-- What the callback should do with the value of a single-number item. -/
structure ParsesExactly (it : NumberItem) (value : List Char) (c : GptpCfg) (r : IniResult) : Prop where
  ret_iff : r.ret = 1 ↔ it.Fits value
  stored : r.ret = 1 → r.config.read it.field = numeralValue value ∧
    ∀ g, g ≠ it.field → r.config.read g = c.read g
  kept : r.ret ≠ 1 → r.ret = 0 ∧ r.config = c

/-- **Single numbers.** For every item whose value is a single number, the callback accepts exactly the
numerals that the field can hold, stores them, and leaves everything else alone, if and only if the value
is such a numeral, fits in an `unsigned long` too, and is not the first delay of its link speed; or it is
none, and is refused. -/
theorem iniCallBack_exact_iff (libc : Libc) (stray : PhyDelaySpec) (it : NumberItem)
    (hit : it ∈ NumberItem.all) (sectionName name : List Char)
    (hsection : parseMatch sectionName it.sectionName = true)
    (hname : parseMatch name it.name = true) (value : List Char) (c : GptpCfg) :
    ParsesExactly it value c (iniCallBack libc stray sectionName name value c) ↔
      (it.Fits value ∧ numeralValue value ≤ libc.ulongMax ∧ c.Settled stray it.field) ∨
        (¬ it.Fits value ∧ it.Refused libc value) := by
  unfold iniCallBack
  rw [recognise_numberItem hit hsection hname]
  dsimp only
  cases hparse : it.parse libc stray value c with
  | none =>
    have hrefused := NumberItem.parse_eq_none_iff.mp hparse
    constructor
    · intro h
      exact .inr ⟨fun hfits => absurd (h.ret_iff.mpr hfits) Int.zero_ne_one, hrefused⟩
    · rintro (⟨hfits, hmax, -⟩ | ⟨hnot, -⟩)
      · rw [NumberItem.parse_of_fits hfits hmax] at hparse
        cases hparse
      · exact ⟨iff_of_false Int.zero_ne_one hnot, fun h => absurd h Int.zero_ne_one, fun _ => ⟨rfl, rfl⟩⟩
  | some c' =>
    have hnot : ¬ it.Refused libc value := by
      intro hrefused
      have hnone : it.parse libc stray value c = none := NumberItem.parse_eq_none_iff.mpr hrefused
      rw [hparse] at hnone
      cases hnone
    constructor
    · intro h
      have hfits := h.ret_iff.mp rfl
      -- a number that is too large for an `unsigned long` would have been refused
      have hmax : numeralValue value ≤ libc.ulongMax := by
        by_contra hlt
        rw [NumberItem.parse_of_signedNumeral hfits.1.signedNumeral, if_neg fun h => hlt h.1] at hparse
        cases hparse
      rw [NumberItem.parse_of_fits hfits hmax, Option.some.injEq] at hparse
      subst hparse
      exact .inl ⟨hfits, hmax, GptpCfg.read_assign_other_iff.mp (h.stored rfl).2⟩
    · rintro (⟨hfits, hmax, hsettled⟩ | ⟨-, hrefused⟩)
      · rw [NumberItem.parse_of_fits hfits hmax, Option.some.injEq] at hparse
        subst hparse
        exact ⟨iff_of_true rfl hfits,
          fun _ => ⟨GptpCfg.read_assign_self hfits.2, GptpCfg.read_assign_other_iff.mpr hsettled⟩,
          fun h => absurd rfl h⟩
      · exact absurd hrefused hnot

/-- The C library of a 64-bit system, which does not report a missing number. -/
def libc64 : Libc := ⟨64, by decide, false⟩

/-- The configuration before the file is read, all zero. -/
def zeroCfg : GptpCfg := ⟨0, 0, 0, 0, 0, 0, 0, false, fun _ => none⟩

/-- A priority within range is stored, whatever the case of the name. -/
theorem priority1_parsed :
    ParsesExactly .priority1 "248".toList zeroCfg
      (iniCallBack libc64 ⟨0, 0⟩ "PTP".toList "Priority1".toList "248".toList zeroCfg) :=
  (iniCallBack_exact_iff libc64 ⟨0, 0⟩ .priority1 (by simp [NumberItem.all, NumberItem.ptpItems])
    "PTP".toList "Priority1".toList rfl rfl "248".toList zeroCfg).mpr
    (.inl ⟨⟨by decide, by decide⟩, by decide, trivial⟩)

/-- Values that are accepted and should not be, or that change another field: a priority out of range, an
empty one, a negative threshold, a flag of `2 ^ 32`, and the first delay of a link speed. -/
theorem values_misread :
    let parse (it : NumberItem) (value : String) :=
      iniCallBack libc64 ⟨9, 7⟩ it.sectionName.toList it.name.toList value.toList zeroCfg
    ((parse .priority1 "300").ret = 1 ∧ (parse .priority1 "300").config.priority1 = 44) ∧
      ¬ ParsesExactly .priority1 "300".toList zeroCfg (parse .priority1 "300") ∧
      (parse .priority1 "").ret = 1 ∧
      ((parse .lostPdelayRespThresh " -1").ret = 1 ∧
        (parse .lostPdelayRespThresh " -1").config.lostPdelayRespThresh = 65535) ∧
      (parse .allowNegativeCorrectionField "4294967296").ret = 1 ∧
      ((parse .phyDelayGbTx "184").ret = 1 ∧
        (parse .phyDelayGbTx "184").config.phyDelay linkSpeed1G = some ⟨184, 7⟩) := by
  intro parse
  refine ⟨by decide, ?_, by decide, by decide, by decide, by decide⟩
  intro h
  have hfits := h.ret_iff.mp (by decide)
  exact absurd hfits.2 (by decide)

end Gptp
