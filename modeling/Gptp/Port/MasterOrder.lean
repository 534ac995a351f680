import Gptp.Port.Bmca
import Mathlib.Data.Prod.Lex
import Mathlib.Data.Set.Finite.Lemmas
import Mathlib.Order.PiLex

/-!
# The order of grandmasters

`PTPMessageAnnounce::isBetterThan` and `IEEE1588Clock::isBetterThan` each fill two arrays of fourteen
octets and compare them with `memcmp`. Both decide the lexicographic order of the attributes
(`GrandmasterInfo.memcmpLt_key`), the variance as a 16-bit number and the identity octet by octet.

The laws of the order come from numbers: octet arrays of one length are compared as the numbers they are
in network order (`memcmpLt_iff_valueBE`), so a grandmaster has a `rank`, and the rank determines the
attributes.
-/

namespace Gptp

open Framework

variable {F : Type}

/-! ### Comparing octets -/

/-- Octet arrays are compared at the first octet in which they differ. -/
theorem memcmpLt_ofFn {n : ℕ} (f g : Fin n → UInt8) :
    memcmpLt (List.ofFn f) (List.ofFn g) ↔ toLex f < toLex g := by
  change _ ↔ ∃ i, (∀ j < i, f j = g j) ∧ f i < g i
  induction n with
  | zero => simp [memcmpLt]
  | succ n ih =>
    rw [List.ofFn_succ, List.ofFn_succ, memcmpLt_cons, ih, Fin.exists_fin_succ]
    simp [Fin.forall_fin_succ, and_assoc]

theorem valueBE_bytesBE_two (x : UInt16) : valueBE (bytesBE 2 x.toNat) = x.toNat := by
  rw [valueBE_bytesBE]
  exact Nat.mod_eq_of_lt x.toNat_lt

theorem bytesBE_two_inj {x y : UInt16} : bytesBE 2 x.toNat = bytesBE 2 y.toNat ↔ x = y := by
  refine ⟨fun h => UInt16.toNat_inj.mp ?_, fun h => by rw [h]⟩
  rw [← valueBE_bytesBE_two x, h, valueBE_bytesBE_two y]

theorem memcmpLt_bytesBE (x y : UInt16) (cs ds : List UInt8) :
    memcmpLt (bytesBE 2 x.toNat ++ cs) (bytesBE 2 y.toNat ++ ds) ↔ x < y ∨ x = y ∧ memcmpLt cs ds := by
  rw [memcmpLt_append (by simp), memcmpLt_iff_valueBE (by simp), valueBE_bytesBE_two,
    valueBE_bytesBE_two, bytesBE_two_inj, UInt16.lt_iff_toNat_lt]

theorem ClockIdentity.toList_injective : Function.Injective ClockIdentity.toList := by
  rintro ⟨f⟩ ⟨g⟩ heq
  exact congrArg ClockIdentity.mk (List.ofFn_injective heq)

/-! ### Priority vectors -/

/-- The attributes that rank a grandmaster, the most significant first. The identity is read as a
number. -/
abbrev PriorityVector : Type := UInt8 ×ₗ UInt8 ×ₗ UInt8 ×ₗ UInt16 ×ₗ UInt8 ×ₗ ℕ

namespace GrandmasterInfo

/-- The rank of a grandmaster; the smaller vector is the better clock. -/
def priorityVector (g : GrandmasterInfo) : PriorityVector :=
  toLex (g.priority1, toLex (g.clockQuality.cqClass, toLex (g.clockQuality.clockAccuracy,
    toLex (g.clockQuality.offsetScaledLogVariance,
      toLex (g.priority2, valueBE g.clockIdentity.toList)))))

/-- The octets by which a grandmaster is compared. -/
def key (g : GrandmasterInfo) : List UInt8 :=
  bestMasterKey g.priority1 g.clockQuality g.priority2 g.clockIdentity

/-- The octets of a grandmaster, as a number. -/
def rank (g : GrandmasterInfo) : ℕ := valueBE g.key

@[simp] theorem length_key (g : GrandmasterInfo) : g.key.length = 14 := by
  simp [key, bestMasterKey]

/-- **The comparison of the fourteen octets is the order of the priority vectors.** -/
theorem memcmpLt_key (g h : GrandmasterInfo) :
    memcmpLt g.key h.key ↔ g.priorityVector < h.priorityVector := by
  -- both orders are unfolded to one attribute after the other
  unfold key bestMasterKey priorityVector
  simp only [Prod.Lex.toLex_lt_toLex, memcmpLt_cons, memcmpLt_bytesBE]
  rw [memcmpLt_iff_valueBE (by simp)]

theorem priorityVector_lt_iff (g h : GrandmasterInfo) :
    g.priorityVector < h.priorityVector ↔ g.rank < h.rank := by
  rw [← memcmpLt_key, memcmpLt_iff_valueBE (by simp), rank, rank]

/-- The octets determine the grandmaster. -/
theorem key_injective : Function.Injective key := by
  rintro ⟨idG, ⟨classG, accuracyG, varianceG⟩, p1G, p2G⟩ ⟨idH, ⟨classH, accuracyH, varianceH⟩, p1H, p2H⟩
    heq
  simp only [key, bestMasterKey, List.cons.injEq] at heq
  obtain ⟨rfl, rfl, rfl, hrest⟩ := heq
  obtain ⟨hvariance, hlast⟩ := List.append_inj hrest (by simp)
  obtain ⟨rfl, hid⟩ := List.cons.inj hlast
  obtain rfl := bytesBE_two_inj.mp hvariance
  obtain rfl := ClockIdentity.toList_injective hid
  rfl

theorem rank_injective : Function.Injective rank := fun g h heq =>
  key_injective (valueBE_injective (by simp) heq)

end GrandmasterInfo

/-! ### The two comparators -/

theorem PTPMessageAnnounce.isBetterThan_iff_lt (m msg : PTPMessageAnnounce) :
    m.isBetterThan msg ↔ m.grandmaster.priorityVector < msg.grandmaster.priorityVector :=
  GrandmasterInfo.memcmpLt_key m.grandmaster msg.grandmaster

theorem isBetterThan_iff (c : Clock F) (m : PTPMessageAnnounce) :
    c.isBetterThan (some m) ↔
      c.cfg.ownGrandmaster.priorityVector < m.grandmaster.priorityVector :=
  GrandmasterInfo.memcmpLt_key c.cfg.ownGrandmaster m.grandmaster

/-- The announce of a clock that names itself as grandmaster advertises the clock. -/
theorem Daemon.grandmaster_announceMessage {d : Daemon F}
    (hown : d.clock.grandmaster.clockIdentity = d.clock.cfg.clockIdentity) :
    d.announceMessage.grandmaster = d.clock.cfg.ownGrandmaster := by
  unfold announceMessage PTPMessageAnnounce.grandmaster ClockConfig.ownGrandmaster
  rw [hown]

/-- A finite set of announces of distinct grandmasters has one that is better than all the others, and
only one. -/
theorem exists_unique_best {S : Set PTPMessageAnnounce} (hfinite : S.Finite) (hne : S.Nonempty)
    (hdistinct : S.Pairwise fun m msg => m.grandmasterIdentity ≠ msg.grandmasterIdentity) :
    ∃! m, m ∈ S ∧ ∀ msg ∈ S, msg ≠ m → m.isBetterThan msg := by
  obtain ⟨m, hm, hmin⟩ := Set.exists_min_image S (fun m => m.grandmaster.rank) hfinite hne
  refine ⟨m, ⟨hm, fun msg hmsg hother => ?_⟩, ?_⟩
  · -- another announce has another rank, which is not smaller
    have hrank : m.grandmaster.rank ≠ msg.grandmaster.rank := fun heq =>
      hdistinct hm hmsg hother.symm
        (congrArg GrandmasterInfo.clockIdentity (GrandmasterInfo.rank_injective heq))
    rw [PTPMessageAnnounce.isBetterThan_iff_lt, GrandmasterInfo.priorityVector_lt_iff]
    exact lt_of_le_of_ne (hmin msg hmsg) hrank
  · rintro msg ⟨hmsg, hbest⟩
    by_contra hother
    have hlt := hbest m hm (Ne.symm hother)
    rw [PTPMessageAnnounce.isBetterThan_iff_lt, GrandmasterInfo.priorityVector_lt_iff] at hlt
    exact absurd (hmin msg hmsg) (not_le.mpr hlt)

/-- **Both comparators decide the same strict total order.** It is the lexicographic order of
priority1, class, accuracy, variance, priority2 and the octets of the identity, in which a number in
network order compares as its octets do. -/
theorem isBetterThan_strictTotalOrder :
    (∀ m msg : PTPMessageAnnounce,
      m.isBetterThan msg ↔ m.grandmaster.priorityVector < msg.grandmaster.priorityVector) ∧
    (∀ (c : Clock F) (m : PTPMessageAnnounce), c.isBetterThan (some m) ↔
      c.cfg.ownGrandmaster.priorityVector < m.grandmaster.priorityVector) ∧
    (∀ a b : ClockIdentity, valueBE a.toList < valueBE b.toList ↔ toLex a.id < toLex b.id) ∧
    (∀ m : PTPMessageAnnounce, ¬ m.isBetterThan m) ∧
    (∀ m₁ m₂ m₃ : PTPMessageAnnounce,
      m₁.isBetterThan m₂ → m₂.isBetterThan m₃ → m₁.isBetterThan m₃) ∧
    (∀ m msg : PTPMessageAnnounce, m.grandmaster.priorityVector ≠ msg.grandmaster.priorityVector →
      m.isBetterThan msg ∨ msg.isBetterThan m) ∧
    (∀ S : Set PTPMessageAnnounce, S.Finite → S.Nonempty →
      S.Pairwise (fun m msg => m.grandmasterIdentity ≠ msg.grandmasterIdentity) →
      ∃! m, m ∈ S ∧ ∀ msg ∈ S, msg ≠ m → m.isBetterThan msg) ∧
    ∀ a b : Daemon F, a.clock.cfg.clockIdentity ≠ b.clock.cfg.clockIdentity →
      a.clock.grandmaster.clockIdentity = a.clock.cfg.clockIdentity →
      b.clock.grandmaster.clockIdentity = b.clock.cfg.clockIdentity →
      Xor (a.clock.isBetterThan (some b.announceMessage))
        (b.clock.isBetterThan (some a.announceMessage)) := by
  refine ⟨PTPMessageAnnounce.isBetterThan_iff_lt, isBetterThan_iff, fun a b => ?_, ?_, ?_, ?_,
    fun S => exists_unique_best, ?_⟩
  · rw [← memcmpLt_iff_valueBE (by simp)]
    exact memcmpLt_ofFn a.id b.id
  -- what is left is about the order of the ranks
  all_goals simp only [PTPMessageAnnounce.isBetterThan_iff_lt, isBetterThan_iff,
    GrandmasterInfo.priorityVector_lt_iff]
  · exact fun m => lt_irrefl _
  · exact fun m₁ m₂ m₃ => lt_trans
  · intro m msg hne
    exact lt_or_gt_of_ne fun heq =>
      hne (congrArg GrandmasterInfo.priorityVector (GrandmasterInfo.rank_injective heq))
  · -- a clock that names itself announces its own attributes
    intro a b hne ha hb
    rw [Daemon.grandmaster_announceMessage ha, Daemon.grandmaster_announceMessage hb]
    have hrank : a.clock.cfg.ownGrandmaster.rank ≠ b.clock.cfg.ownGrandmaster.rank := fun heq =>
      hne (congrArg GrandmasterInfo.clockIdentity (GrandmasterInfo.rank_injective heq))
    rcases lt_or_gt_of_ne hrank with h | h
    · exact .inl ⟨h, h.asymm⟩
    · exact .inr ⟨h, h.asymm⟩

end Gptp
