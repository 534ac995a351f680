import Gptp.Safety.PublishedGrandmaster
import Gptp.Segment.Model

/-!
# Best master selection on a segment

Every station ranks the announces it hears by the attributes of their grandmaster and compares the best
with its own clock. An Announce carries the attributes of its sender, whatever grandmaster it names
(`Promises`), so a station decides between itself and another station of the segment.

* `Daemon.RoleTurn`, `Daemon.roleTurn_step`: what a step does to the role.
* `heardAnnounce_run`: a qualified announce is that of another station.
* `bestClock_ne_slave`, `bestClock_stays_master`, `slave_follows`, assembled in `election_safety`: a clock
  that is better than all the others is never a slave and stays master, and a slave follows another station
  that is not worse than itself. They are about stations that decide by announces: `priority1` is not 255,
  and the port does not start as PTP_SLAVE.
* `election_decision`: a selection that runs decides by the attributes of the two stations.
-/

namespace Gptp

open Framework

variable {F : Type}

/-! ### Attributes -/

/-- The attributes that rank a clock before its identity does. -/
abbrev ClockAttributes : Type := UInt8 ×ₗ UInt8 ×ₗ UInt8 ×ₗ UInt16 ×ₗ UInt8

/-- The attributes of a grandmaster; the smaller is the better clock. -/
def GrandmasterInfo.attributes (g : GrandmasterInfo) : ClockAttributes :=
  toLex (g.priority1, toLex (g.clockQuality.cqClass, toLex (g.clockQuality.clockAccuracy,
    toLex (g.clockQuality.offsetScaledLogVariance, g.priority2))))

/-- The attributes of a clock. -/
def ClockConfig.attributes (c : ClockConfig) : ClockAttributes := c.ownGrandmaster.attributes

/-- The identity decides between equal attributes only. -/
theorem GrandmasterInfo.priorityVector_lt_of_attributes {g h : GrandmasterInfo}
    (hlt : g.attributes < h.attributes) : g.priorityVector < h.priorityVector := by
  unfold attributes at hlt
  unfold priorityVector
  simp only [Prod.Lex.toLex_lt_toLex] at hlt ⊢
  -- one attribute after the other, the first difference decides
  refine hlt.imp_right (And.imp_right fun h₁ => ?_)
  refine h₁.imp_right (And.imp_right fun h₂ => ?_)
  refine h₂.imp_right (And.imp_right fun h₃ => ?_)
  exact h₃.imp_right (And.imp_right .inl)

theorem GrandmasterInfo.not_priorityVector_lt_of_attributes {g h : GrandmasterInfo}
    (hlt : h.attributes < g.attributes) : ¬ g.priorityVector < h.priorityVector := by
  have hrank := (priorityVector_lt_iff h g).mp (priorityVector_lt_of_attributes hlt)
  rw [priorityVector_lt_iff]
  exact hrank.asymm

/-! ### What a step does to the role -/

/-- A role is resumed as it was. -/
theorem Core.resumeRole_keeps {c : Core F} (hprio : c.clockCfg.priority1 ≠ 255) :
    c.resumeRole.portState = c.portState ∧ c.resumeRole.grandmaster = c.grandmaster := by
  unfold resumeRole
  split_ifs with hslave hmaster
  · exact ⟨(hslave.resolve_left hprio).symm, rfl⟩
  · exact ⟨hmaster.symm, rfl⟩
  · exact ⟨rfl, rfl⟩

namespace Daemon

/-- What a step does to the role of a clock that is not slave-only. -/
inductive RoleTurn (d d' : Daemon F) : Prop
  | keep (hstate : d'.port.portState = d.port.portState)
      (hgrandmaster : d'.clock.grandmaster = d.clock.grandmaster)
  /-- The port is master, whatever it was before. -/
  | takeOver (hstate : d'.port.portState = .ptpMaster)
  /-- The qualified announce decides. -/
  | select (a : PTPMessageAnnounce) (ha : d.port.qualifiedAnnounce = some a)
      (hmaster : d.Precedes a →
        d'.clock.grandmaster = d.clock.cfg.ownGrandmaster ∧ d'.port.portState = .ptpMaster)
      (hslave : ¬ d.Precedes a →
        d'.clock.grandmaster = a.grandmaster ∧ d'.port.portState = .ptpSlave)

end Daemon

variable [Platform F]

/-- Without a state change, the role stays as it is or the port takes over. -/
theorem EventStep.keeps_or_master {e : Event} {c c' : Core F} (h : EventStep e c c')
    (he : e ≠ .stateChangeEvent) (hprio : c.clockCfg.priority1 ≠ 255) :
    c'.portState = c.portState ∧ c'.grandmaster = c.grandmaster ∨ c'.portState = .ptpMaster := by
  have hrole := h.role
  change c'.toRole.portState = _ ∧ c'.toRole.grandmaster = _ ∨ c'.toRole.portState = _
  generalize c'.toRole = r at hrole ⊢
  cases hrole with
  | keep => exact .inl ⟨rfl, rfl⟩
  | resume => exact .inl (Core.resumeRole_keeps hprio)
  | stateChange => exact absurd rfl he
  | receiptTimeout => exact .inr rfl
  | announceInterval => exact .inl ⟨rfl, rfl⟩
  | syncInterval => exact .inl ⟨rfl, rfl⟩

namespace Daemon

variable {d : Daemon F} {i : Input}

theorem roleTurn_of_ne (hne : d.handledEvent i ≠ some .stateChangeEvent)
    (hprio : d.clock.cfg.priority1 ≠ 255) : RoleTurn d (d.step i) := by
  have hstep := d.step_core i
  have hcore : (d.step i).core.portState = d.core.portState ∧
      (d.step i).core.grandmaster = d.core.grandmaster ∨ (d.step i).core.portState = .ptpMaster := by
    generalize (d.step i).core = c' at hstep ⊢
    generalize hlabel : d.label i = l at hstep
    cases hstep with
    | event h =>
      refine h.keeps_or_master ?_ hprio
      rintro rfl
      exact hne (handledEvent_eq_some.mpr (.inl hlabel))
    | @timer e c c₀ c' hpop h =>
      -- taking the timer out of the queue does not matter
      have hrole := Core.toRole_of_pop hpop
      have hstate : c₀.portState = d.core.portState := (congrArg Role.portState hrole).symm
      have hgm : c₀.grandmaster = d.core.grandmaster := (congrArg Role.grandmaster hrole).symm
      have hcfg : c₀.clockCfg = d.core.clockCfg := (congrArg Role.clockCfg hrole).symm
      rw [← hstate, ← hgm]
      refine h.keeps_or_master ?_ (hcfg ▸ hprio)
      rintro rfl
      exact hne (handledEvent_eq_some.mpr (.inr hlabel))
    | receive h =>
      rcases h.role with ⟨m, -, -, hrole⟩ | ⟨m, -, hrole⟩ | ⟨-, hrole⟩
      · exact .inr (congrArg Role.portState hrole)
      · -- a Signalling message arms timers only
        have hstate := congrArg Role.portState hrole
        have hgm := congrArg Role.grandmaster hrole
        exact .inl ⟨hstate, hgm⟩
      · exact .inl ⟨congrArg Role.portState hrole, congrArg Role.grandmaster hrole⟩
    | idle => exact .inl ⟨rfl, rfl⟩
  rcases hcore with ⟨hstate, hgm⟩ | hmaster
  · exact .keep hstate hgm
  · exact .takeOver hmaster

/-- A selection that runs. -/
theorem select_of_stateChange (hevent : d.handledEvent i = some .stateChangeEvent)
    (hauto : d.port.cfg.automotiveProfile = false) (hprio : d.clock.cfg.priority1 ≠ 255)
    (hindex : d.port.cfg.ifindex < maxPorts) (hstate : d.port.portState.ignoresMessages = false)
    {a : PTPMessageAnnounce} (ha : d.port.qualifiedAnnounce = some a) :
    (d.Precedes a → (d.step i).clock.grandmaster = d.clock.cfg.ownGrandmaster ∧
        (d.step i).port.portState = .ptpMaster) ∧
      (¬ d.Precedes a → (d.step i).clock.grandmaster = a.grandmaster ∧
        (d.step i).port.portState = .ptpSlave) := by
  obtain ⟨d₀, hclock, hport, hstep⟩ := step_of_handledEvent hevent
  have hruns : ¬ (d₀.clock.cfg.priority1 = 255 ∨ maxPorts ≤ d₀.port.cfg.ifindex ∨
      d₀.port.portState.ignoresMessages) := by
    rw [hclock, hport, hstate]
    rintro (h | h | h)
    · exact hprio h
    · exact absurd hindex h.not_gt
    · cases h
  have hassign : d.step i = d₀.assignRole a := by
    rw [hstep, processEvent_stateChangeEvent, hport, hauto, if_neg Bool.false_ne_true,
      processStateChange_eq, if_neg hruns, hport, ha]
  have hassigned := roleAssigned_assignRole a d₀
  rw [hassign, ← hclock]
  unfold Precedes at hassigned ⊢
  rw [← hclock]
  exact ⟨hassigned.master, hassigned.slave⟩

/-- **What a step does to the role.** -/
theorem roleTurn_step (d : Daemon F) (i : Input) (hprio : d.clock.cfg.priority1 ≠ 255) :
    RoleTurn d (d.step i) := by
  by_cases hevent : d.handledEvent i = some .stateChangeEvent
  · obtain ⟨d₀, hclock, hport, hstep⟩ := step_of_handledEvent hevent
    have hidle (h : d₀.processEvent i.env .stateChangeEvent = d₀) : RoleTurn d (d.step i) := by
      rw [hstep, h]
      exact .keep (by rw [hport]) (by rw [hclock])
    rw [processEvent_stateChangeEvent, processStateChange_eq, hport] at hidle
    cases hauto : d.port.cfg.automotiveProfile with
    | true => exact hidle (if_pos hauto)
    | false =>
      rw [hauto, if_neg Bool.false_ne_true] at hidle
      by_cases hpart : d.port.cfg.ifindex < maxPorts ∧ d.port.portState.ignoresMessages = false
      · cases ha : d.port.qualifiedAnnounce with
        | none =>
          rw [ha] at hidle
          exact hidle (ite_self _)
        | some a =>
          have hselect := select_of_stateChange hevent hauto hprio hpart.1 hpart.2 ha
          exact .select a ha hselect.1 hselect.2
      · rw [not_and_or, not_lt, Bool.not_eq_false] at hpart
        exact hidle (if_pos (.inr hpart))
  · exact roleTurn_of_ne hevent hprio

/-- **Origin of the qualified announce.** It was stored before, or it has just been received. -/
theorem qualifiedAnnounce_origin (d : Daemon F) (i : Input) (a : PTPMessageAnnounce)
    (ha : (d.step i).port.qualifiedAnnounce = some a) :
    d.port.qualifiedAnnounce = some a ∨ ∃ linkSpeed, i.stimulus = .receive (.announce a) linkSpeed := by
  by_cases hannounce : ∃ m linkSpeed, i.stimulus = .receive (.announce m) linkSpeed
  · obtain ⟨m, linkSpeed, hi⟩ := hannounce
    have hstep : (d.step i).port.qualifiedAnnounce =
        if d.qualifies m then some m else d.port.qualifiedAnnounce := by
      unfold step
      rw [hi]
      exact qualifiedAnnounce_processAnnounce m _
    rw [hstep] at ha
    split at ha
    · obtain rfl := Option.some.inj ha
      exact .inr ⟨linkSpeed, hi⟩
    · exact .inl ha
  refine .inl ?_
  by_cases hreceipt : ∃ e, d.handledEvent i = some e ∧
      (e = .announceReceiptTimeoutExpires ∨ e = .syncReceiptTimeoutExpires)
  · -- a receipt timeout keeps it or drops it
    obtain ⟨e, he, hreceipt⟩ := hreceipt
    obtain ⟨d₀, -, hport, hstep⟩ := step_of_handledEvent he
    rw [hstep, d₀.qualifiedAnnounce_receiptTimeout i.env hreceipt, hport] at ha
    split at ha
    · exact ha
    · cases ha
  -- nothing else touches it
  rw [← ha]
  symm
  refine read_step (l := .qualifiedAnnounce) (fun e he => ⟨nofun, ?_⟩) (fun msg linkSpeed hi _ => ?_) nofun
  · have hnot : ¬ (e = .announceReceiptTimeoutExpires ∨ e = .syncReceiptTimeoutExpires) :=
      fun h => hreceipt ⟨e, he, h⟩
    cases e <;> first | decide | exact absurd (.inl rfl) hnot | exact absurd (.inr rfl) hnot
  · cases msg with
    | announce m => exact absurd ⟨m, linkSpeed, hi⟩ hannounce
    | _ => dsimp only [PTPMessage.footprint]; decide

end Daemon

/-! ### Runs -/

section Runs

variable {ι : Type} [DecidableEq ι] {s : ι → Start F} {σ : ℕ → SegmentInput ι} {n k : ℕ} {i : ι}
  (hdelivers : (segment F ι).Delivers (Segment.start s) σ n)

include hdelivers

/-- **A qualified announce is that of another station**, and has the attributes of its clock. -/
theorem heardAnnounce_run (hk : k ≤ n) {a : PTPMessageAnnounce}
    (ha : ((Segment.run s σ k).node i).port.qualifiedAnnounce = some a) :
    ∃ c ≠ i, a.sourcePortIdentity = (s c).portConfig.portIdentity ∧
      a.grandmaster.attributes = (s c).clockConfig.attributes := by
  obtain ⟨j, hj, ⟨input, hhandles, linkSpeed, hinput⟩, -⟩ := slot_run hdelivers
    (fun d : Daemon F => d.port.qualifiedAnnounce)
    (fun _ input a => ∃ linkSpeed, input.stimulus = .receive (.announce a) linkSpeed)
    (s i).hasReceivedNothing_daemon.qualifiedAnnounce Daemon.qualifiedAnnounce_origin hk ha
  obtain ⟨-, c, t, arrival, sent, hhears, hpromise⟩ :=
    hears_of_handles hdelivers (hj.trans_le hk) hhandles hinput
  refine ⟨c, hhears.other, ?_⟩
  have harrives := hhears.arrives
  cases harrives with
  | @announce m common hsource hsequence =>
    obtain ⟨hfrom, hgrandmaster, -, -⟩ := hpromise
    refine ⟨hsource.trans hfrom, ?_⟩
    -- the body has arrived as it was sent
    change m.grandmaster.attributes = _
    rw [hgrandmaster]
    rfl

/-- A station that selects by an announce compares itself with another station. -/
theorem precedes_run (hk : k ≤ n) {a : PTPMessageAnnounce}
    (ha : ((Segment.run s σ k).node i).port.qualifiedAnnounce = some a) :
    ∃ c ≠ i, a.sourcePortIdentity = (s c).portConfig.portIdentity ∧
      a.grandmaster.attributes = (s c).clockConfig.attributes ∧
      ((s i).clockConfig.attributes < (s c).clockConfig.attributes →
        ((Segment.run s σ k).node i).Precedes a) ∧
      ((s c).clockConfig.attributes < (s i).clockConfig.attributes →
        ¬ ((Segment.run s σ k).node i).Precedes a) := by
  obtain ⟨c, hother, hsource, hattributes⟩ := heardAnnounce_run hdelivers hk ha
  have hcfg := (configured_run hdelivers hk i).1
  refine ⟨c, hother, hsource, hattributes, fun hlt => ?_, fun hlt => ?_⟩
  · unfold Daemon.Precedes
    rw [hcfg]
    exact GrandmasterInfo.priorityVector_lt_of_attributes (hattributes.symm ▸ hlt)
  · unfold Daemon.Precedes
    rw [hcfg]
    exact GrandmasterInfo.not_priorityVector_lt_of_attributes (hattributes.symm ▸ hlt)

/-- The role of a station whose clock is better than every other changes to master only. -/
theorem bestClock_turn {b : ι} (hprio : (s b).clockConfig.priority1 ≠ 255)
    (hbest : ∀ i ≠ b, (s b).clockConfig.attributes < (s i).clockConfig.attributes) (hk : k < n)
    (input : Input) :
    let d := (Segment.run s σ k).node b
    (d.step input).port.portState = d.port.portState ∨ (d.step input).port.portState = .ptpMaster := by
  have hcfg := (configured_run hdelivers hk.le b).1
  cases Daemon.roleTurn_step _ input (hcfg.symm ▸ hprio) with
  | keep hstate => exact .inl hstate
  | takeOver hstate => exact .inr hstate
  | select a ha hmaster =>
    obtain ⟨c, hother, -, -, hprecedes, -⟩ := precedes_run hdelivers hk.le ha
    exact .inr (hmaster (hprecedes (hbest c hother))).2

/-- A slave that a turn leaves has been a slave of the same grandmaster before, or has just been decided to
follow another station, one that is not worse. -/
theorem slave_turn (hprio : (s i).clockConfig.priority1 ≠ 255) (hk : k < n) (input : Input) :
    let d := (Segment.run s σ k).node i
    (d.step input).port.portState = .ptpSlave →
      d.port.portState = .ptpSlave ∧ (d.step input).clock.grandmaster = d.clock.grandmaster ∨
      ∃ c ≠ i, ¬ (s i).clockConfig.attributes < (s c).clockConfig.attributes ∧
        (d.step input).clock.grandmaster.attributes = (s c).clockConfig.attributes := by
  intro d hslave
  have hcfg := (configured_run hdelivers hk.le i).1
  cases Daemon.roleTurn_step d input (hcfg.symm ▸ hprio) with
  | keep hstate hgrandmaster => exact .inl ⟨hstate.symm.trans hslave, hgrandmaster⟩
  | takeOver hstate => exact absurd (hstate.symm.trans hslave) nofun
  | select a ha hmaster hfollows =>
    obtain ⟨c, hother, -, hattributes, hprecedes, -⟩ := precedes_run hdelivers hk.le ha
    have hnot : ¬ d.Precedes a := fun h => absurd ((hmaster h).2.symm.trans hslave) nofun
    refine .inr ⟨c, hother, fun hlt => hnot (hprecedes hlt), ?_⟩
    rw [(hfollows hnot).1, hattributes]

section BestClock

variable {b : ι} (hprio : (s b).clockConfig.priority1 ≠ 255)
  (hbest : ∀ i ≠ b, (s b).clockConfig.attributes < (s i).clockConfig.attributes)

include hprio hbest

/-- The best clock, unless it starts as one, is never a slave: its role changes to master only. -/
theorem bestClock_ne_slave (hstart : (s b).daemon.port.portState ≠ .ptpSlave) :
    ∀ k ≤ n, ((Segment.run s σ k).node b).port.portState ≠ .ptpSlave := by
  refine invariant_run hdelivers (P := fun d => d.port.portState ≠ .ptpSlave) hstart ?_
  intro k hk input _ hinv
  rcases bestClock_turn hdelivers hprio hbest hk input with hkept | hmaster
  · rw [hkept]
    exact hinv
  · rw [hmaster]
    exact nofun

/-- The best clock stays master once it is: there is no turn that makes it anything else. -/
theorem bestClock_stays_master {j : ℕ}
    (hmaster : ((Segment.run s σ j).node b).port.portState = .ptpMaster) (hjk : j ≤ k) (hk : k ≤ n) :
    ((Segment.run s σ k).node b).port.portState = .ptpMaster := by
  refine stable_run hdelivers (P := fun d => d.port.portState = .ptpMaster) ?_ hmaster hjk hk
  intro l hl input _ hinv
  rcases bestClock_turn hdelivers hprio hbest hl input with hkept | htaken
  · exact hkept.trans hinv
  · exact htaken

end BestClock

/-- A slave, unless it starts as one, follows another station that is not worse. The decision that made it
a slave has compared the two; no later turn changes the grandmaster and leaves the port a slave without
another such decision. -/
theorem slave_follows (hprio : (s i).clockConfig.priority1 ≠ 255)
    (hstart : (s i).daemon.port.portState ≠ .ptpSlave) :
    ∀ k ≤ n, ((Segment.run s σ k).node i).port.portState = .ptpSlave →
      ∃ c ≠ i, ¬ (s i).clockConfig.attributes < (s c).clockConfig.attributes ∧
        ((Segment.run s σ k).node i).clock.grandmaster.attributes = (s c).clockConfig.attributes := by
  refine invariant_run hdelivers (P := fun d => d.port.portState = .ptpSlave →
    ∃ c ≠ i, ¬ (s i).clockConfig.attributes < (s c).clockConfig.attributes ∧
      d.clock.grandmaster.attributes = (s c).clockConfig.attributes)
    (fun hslave => absurd hslave hstart) ?_
  intro k hk input _ hinv hslave
  rcases slave_turn hdelivers hprio hk input hslave with ⟨hbefore, hgrandmaster⟩ | hfollows
  · rw [hgrandmaster]
    exact hinv hbefore
  · exact hfollows

/-- **Safety of best master selection.** Whatever is lost, delayed, reordered or duplicated, for a station
whose `priority1` is not 255 and whose port does not start as PTP_SLAVE: if the attributes of its clock are
better than those of every other station it is never a slave, and once it is master it stays master; and
whenever it is a slave it has the attributes of another station, one that is not worse than itself, as its
grandmaster.

Both conditions are needed: a power-up makes a port with 255 a slave whatever it hears, and a port that
starts as PTP_SLAVE (option `-L`, or the automotive profile without `-GM`) is one without a decision. -/
theorem election_safety :
    (∀ b, (s b).clockConfig.priority1 ≠ 255 → (s b).daemon.port.portState ≠ .ptpSlave →
      (∀ i ≠ b, (s b).clockConfig.attributes < (s i).clockConfig.attributes) →
      (∀ k ≤ n, ((Segment.run s σ k).node b).port.portState ≠ .ptpSlave) ∧
      ∀ j k, j ≤ k → k ≤ n → ((Segment.run s σ j).node b).port.portState = .ptpMaster →
        ((Segment.run s σ k).node b).port.portState = .ptpMaster) ∧
    ∀ i, (s i).clockConfig.priority1 ≠ 255 → (s i).daemon.port.portState ≠ .ptpSlave →
      ∀ k ≤ n, ((Segment.run s σ k).node i).port.portState = .ptpSlave →
        ∃ c ≠ i, ¬ (s i).clockConfig.attributes < (s c).clockConfig.attributes ∧
          ((Segment.run s σ k).node i).clock.grandmaster.attributes = (s c).clockConfig.attributes := by
  refine ⟨fun b hprio hstart hbest => ⟨?_, ?_⟩, fun i hprio hstart => ?_⟩
  · exact bestClock_ne_slave hdelivers hprio hbest hstart
  · intro j k hjk hk hmaster
    exact bestClock_stays_master hdelivers hprio hbest hmaster hjk hk
  · exact slave_follows hdelivers hprio hstart

omit hdelivers in
theorem attributes_twoStations :
    (twoStations false).clockConfig.attributes < (twoStations true).clockConfig.attributes :=
  Prod.Lex.toLex_lt_toLex.mpr (.inl (by decide))

omit hdelivers in
theorem election_safety_twoStations :
    (∀ k ≤ 11, ((Segment.run twoStations twoStationsRun k).node false).port.portState ≠ .ptpSlave) ∧
    ((Segment.run twoStations twoStationsRun 11).node true).port.portState = .ptpSlave ∧
    ∃ c ≠ true, ((Segment.run twoStations twoStationsRun 11).node true).clock.grandmaster.attributes =
      (twoStations c).clockConfig.attributes := by
  obtain ⟨hbest, hfollows⟩ := election_safety delivers_twoStations
  have hslave : ((Segment.run twoStations twoStationsRun 11).node true).port.portState = .ptpSlave := by
    rw [run_eq_messageStation]
    decide +kernel
  refine ⟨(hbest false (by decide) (by decide) ?_).1, hslave, ?_⟩
  · intro i hi
    obtain rfl : i = true := Bool.eq_true_of_not_eq_false hi
    exact attributes_twoStations
  · obtain ⟨c, hc, -, hattributes⟩ := hfollows true (by decide) (by decide) 11 le_rfl hslave
    exact ⟨c, hc, hattributes⟩

/-- **Decisions agree with the ranking.** When a station handles a state change with an announce at hand, the
announce is that of another station; if the clock of that station is better the port becomes a slave of it,
and if it is worse the port is master and the clock names itself. This is about stations that take part: not
those of the automotive profile, with `priority1` 255, with a port that is not in the port table, or with a
port that is disabled or faulty. -/
theorem election_decision (hk : k < n) {input : Input}
    (hhandles : Handles (Segment.run s σ k) (σ k) i input)
    (hevent : ((Segment.run s σ k).node i).handledEvent input = some .stateChangeEvent)
    (hauto : (s i).portConfig.automotiveProfile = false) (hprio : (s i).clockConfig.priority1 ≠ 255)
    (hindex : (s i).portConfig.ifindex < maxPorts)
    (hstate : ((Segment.run s σ k).node i).port.portState.ignoresMessages = false)
    {a : PTPMessageAnnounce}
    (ha : ((Segment.run s σ k).node i).port.qualifiedAnnounce = some a) :
    let d := (Segment.run s σ (k + 1)).node i
    ∃ c ≠ i, a.sourcePortIdentity = (s c).portConfig.portIdentity ∧
      ((s c).clockConfig.attributes < (s i).clockConfig.attributes →
        d.port.portState = .ptpSlave ∧
          d.clock.grandmaster.attributes = (s c).clockConfig.attributes) ∧
      ((s i).clockConfig.attributes < (s c).clockConfig.attributes →
        d.port.portState = .ptpMaster ∧ d.clock.grandmaster = (s i).clockConfig.ownGrandmaster) := by
  intro d
  obtain ⟨hclock, hport⟩ := configured_run hdelivers hk.le i
  have hselect := Daemon.select_of_stateChange hevent (hport.symm ▸ hauto) (hclock.symm ▸ hprio)
    (hport.symm ▸ hindex) hstate ha
  rw [← node_run_of_handles hhandles, hclock] at hselect
  obtain ⟨c, hother, hsource, hattributes, hbetter, hworse⟩ := precedes_run hdelivers hk.le ha
  refine ⟨c, hother, hsource, fun hlt => ?_, fun hlt => ?_⟩
  · obtain ⟨hgrandmaster, hslave⟩ := hselect.2 (hworse hlt)
    exact ⟨hslave, (congrArg GrandmasterInfo.attributes hgrandmaster).trans hattributes⟩
  · obtain ⟨hgrandmaster, hmaster⟩ := hselect.1 (hbetter hlt)
    exact ⟨hmaster, hgrandmaster⟩

end Runs

theorem election_decision_twoStations :
    ((Segment.run twoStations twoStationsRun 4).node true).port.portState = .ptpSlave ∧
    ((Segment.run twoStations twoStationsRun 4).node true).clock.grandmaster.attributes =
      (twoStations false).clockConfig.attributes := by
  obtain ⟨a, ha⟩ : ∃ a,
      ((Segment.run twoStations twoStationsRun 3).node true).port.qualifiedAnnounce = some a := by
    rw [← Option.isSome_iff_exists, run_eq_messageStation]
    decide +kernel
  have hhandles : Handles (Segment.run twoStations twoStationsRun 3) (twoStationsRun 3) true
      ⟨.timer 0, .sentAt 0 0⟩ :=
    handles_of_handled (delivers_twoStations 3 (by decide)) rfl
  obtain ⟨c, hc, -, hbetter, -⟩ := election_decision delivers_twoStations (by decide) hhandles
    (by rw [run_eq_messageStation]; decide +kernel) rfl (by decide) (by decide)
    (by rw [run_eq_messageStation]; decide +kernel) ha
  obtain rfl : c = false := Bool.eq_false_of_not_eq_true hc
  exact hbetter attributes_twoStations

end Gptp
