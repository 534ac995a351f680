import Gptp.Safety.Mastership

/-!
# Transmission of Sync, Follow_Up and Announce

Sync and Follow_Up messages are sent when a SYNC_INTERVAL timer expires, Announce messages when an
ANNOUNCE_INTERVAL timer does (`Daemon.step_explains`). Neither handler looks at the port state, so
whether only a master transmits depends on where those timers are armed.

* `Role.MasterTimers`: the timers are pending only in the master state. Every step keeps this, except
  a Signalling message with an interval to adopt that arrives in another state.
* `Role.OwnAnnounce`: Announce timers are pending only in a master whose grandmaster is itself.
-/

namespace Gptp

open Framework

variable {F : Type}

/-! ### Which steps transmit -/

section Transmits

/-- What the core before a step says about an effect `x` of the step. -/
structure Core.Explains (c : Core F) (e : Event) (x : Effect F) : Prop where
  /-- Sync and Follow_Up messages are sent by the Sync interval handler. -/
  sync : x.isSyncMessage → e = .syncIntervalTimeoutExpires ∧ c.link.asCapable = true
  /-- Announce messages are sent by the Announce interval handler. -/
  announce : x.isAnnounce → e = .announceIntervalTimeoutExpires ∧ c.link.asCapable = true ∧
    ∃ m, x = .send (.announce m) ∧ c.Announces m
  /-- The process aborts if no follow-up is stored when one is due. -/
  abort : x = .abort → e = .pdelayDeferredProcessing ∧ c.lastPDelayRespFollowUp = none

/-- An effect that neither transmits a Sync, a Follow_Up or an Announce nor aborts. -/
structure Effect.IsSilent (x : Effect F) : Prop where
  sync : x.isSyncMessage = false
  announce : x.isAnnounce = false
  abort : x ≠ .abort

theorem Effect.isSilent_setLinkDelay (delay : Int64) :
    (Effect.setLinkDelay delay : Effect F).IsSilent := ⟨rfl, rfl, nofun⟩

theorem Effect.isSilent_setMasterOffset (u : MasterOffset F) :
    (Effect.setMasterOffset u).IsSilent := ⟨rfl, rfl, nofun⟩

theorem Effect.IsSilent.explains {c : Core F} {e : Event} {x : Effect F} (h : x.IsSilent) :
    c.Explains e x where
  sync hx := by rw [h.sync] at hx; cases hx
  announce hx := by rw [h.announce] at hx; cases hx
  abort hx := absurd hx h.abort

theorem Core.Explains.of_abort {c : Core F} {e : Event} (he : e = .pdelayDeferredProcessing)
    (hnone : c.lastPDelayRespFollowUp = none) : c.Explains e .abort where
  sync hx := absurd hx Bool.false_ne_true
  announce hx := absurd hx Bool.false_ne_true
  abort _ := ⟨he, hnone⟩

theorem Core.Explains.of_announce {c : Core F} {e : Event} {m : PTPMessageAnnounce}
    (he : e = .announceIntervalTimeoutExpires) (hcap : c.link.asCapable = true)
    (hm : c.Announces m) : c.Explains e (.send (.announce m)) where
  sync hx := absurd hx Bool.false_ne_true
  announce _ := ⟨he, hcap, m, rfl, hm⟩
  abort hx := by cases hx

/-- The explanation depends on the link, the grandmaster data and the stored follow-up only. -/
theorem Core.Explains.congr {c₀ c : Core F} {e : Event} {x : Effect F} (h : c₀.Explains e x)
    (hlink : c₀.link = c.link) (hgm : c₀.grandmaster = c.grandmaster)
    (hcfg : c₀.clockCfg = c.clockCfg)
    (hstored : c₀.lastPDelayRespFollowUp = c.lastPDelayRespFollowUp) : c.Explains e x where
  sync hx := hlink ▸ h.sync hx
  abort hx := hstored ▸ h.abort hx
  announce hx := by
    obtain ⟨he, hcap, m, hm, hid, hquality, hprio1, hprio2, hsteps⟩ := h.announce hx
    rw [hlink] at hcap
    rw [hgm] at hid
    rw [hcfg] at hquality hprio1 hprio2
    exact ⟨he, hcap, m, hm, hid, hquality, hprio1, hprio2, hsteps⟩

variable [Platform F]

/-- Peer delay processing records at most a measured delay. -/
theorem RespFollowUpStep.log {m : PTPMessagePathDelayRespFollowUp} {c c' : Core F} {gc : Bool}
    (h : RespFollowUpStep m c c' gc) :
    c'.log = c.log ∨ ∃ delay, c'.log = c.log ++ [.setLinkDelay delay] := by
  cases h with
  | ignored => exact .inl rfl
  | dropped => exact .inl rfl
  | deferred => exact .inl rfl
  | measured _ _ _ _ => exact .inr ⟨_, c.log_measure _ _ m⟩

/-- **Events that transmit.** -/
theorem EventStep.explains {e : Event} {c c' : Core F} (h : EventStep e c c') (hlog : c.log = [])
    {x : Effect F} (hx : x ∈ c'.log) : c.Explains e x := by
  -- most events record nothing
  have hsilent (hsame : c'.log = c.log) : c.Explains e x := by
    rw [hsame, hlog] at hx
    cases hx
  cases h with
  | idle => exact hsilent rfl
  | powerup => exact hsilent c.changesRole_resumeRole.log
  | linkup =>
    refine hsilent ?_
    unfold Core.linkup
    split <;> exact c.changesRole_resumeRole.log
  | loseCapability =>
    refine hsilent ?_
    unfold Core.loseCapability
    split <;> rfl
  | stateChange => exact hsilent (c.changesRole_assignRole _ _).log
  | receiptTimeout => exact hsilent rfl
  | pdelayInterval => exact hsilent rfl
  | abort hnone =>
    obtain rfl : x = .abort := by simpa [Core.record, hlog] using hx
    exact .of_abort rfl hnone
  | @deferred _ c₁ m gc _ h =>
    have hgc : (if gc then c₁.setLastPDelayRespFollowUp none else c₁).log = c₁.log := by
      split <;> rfl
    rw [hgc] at hx
    rcases h.log with h | ⟨delay, h⟩
    · rw [h, hlog] at hx
      cases hx
    · obtain rfl : x = .setLinkDelay delay := by simpa [h, hlog] using hx
      exact (Effect.isSilent_setLinkDelay delay).explains
  | announceInterval m hm =>
    cases hcap : c.link.asCapable with
    | false =>
      refine hsilent ?_
      unfold Core.announceInterval
      rw [if_neg (by rw [hcap]; exact Bool.false_ne_true)]
    | true =>
      obtain rfl : x = .send (.announce m) := by
        simpa [Core.announceInterval, Core.record, hcap, hlog] using hx
      exact .of_announce rfl hcap hm
  | syncInterval sent stepped u hcapable hsent =>
    have hx' : x ∈ sent ∨ x = .setMasterOffset u := by
      simpa [Core.syncInterval, Core.setMasterOffset, Core.record, hlog] using hx
    rcases hx' with hx' | rfl
    · have hcap : c.link.asCapable = true := by
        by_contra hfalse
        rw [hcapable (Bool.eq_false_iff.mpr hfalse)] at hx'
        cases hx'
      -- a Sync or Follow_Up is neither an Announce nor an abort
      have hsync := hsent x hx'
      refine ⟨fun _ => ⟨rfl, hcap⟩, fun hann => ?_, ?_⟩
      · cases x with
        | send msg => cases msg <;> simp_all [Effect.isSyncMessage, Effect.isAnnounce]
        | _ => simp [Effect.isAnnounce] at hann
      · rintro rfl
        cases hsync
    · exact (Effect.isSilent_setMasterOffset u).explains

/-- No received message makes the port transmit a Sync, Follow_Up or Announce, or abort. -/
theorem MessageStep.silent {msg : PTPMessage} {c c' : Core F} (h : MessageStep msg c c')
    (hlog : c.log = []) {x : Effect F} (hx : x ∈ c'.log) : x.IsSilent := by
  have hsilent (hsame : c'.log = c.log) : x.IsSilent := by
    rw [hsame, hlog] at hx
    cases hx
  cases h with
  | followUp h =>
    cases h with
    | ignored | mismatch | takeOver | unused => exact hsilent rfl
    | offset _ _ _ stepped u =>
      obtain rfl : x = .setMasterOffset u := by
        simpa [Core.setLastSync, Core.setMasterOffset, hlog] using hx
      exact Effect.isSilent_setMasterOffset u
  | pathDelayRespFollowUp h =>
    rcases h.log with h | ⟨delay, h⟩
    · exact hsilent h
    · obtain rfl : x = .setLinkDelay delay := by simpa [h, hlog] using hx
      exact Effect.isSilent_setLinkDelay delay
  | _ => exact hsilent rfl

/-- **Steps that transmit or abort.** A Sync, Follow_Up or Announce is an effect of an interval event,
handled while `asCapable` holds; the process aborts at a deferral with no follow-up stored. -/
theorem Daemon.step_explains (d : Daemon F) (i : Input) {x : Effect F}
    (hx : x ∈ (d.step i).effects) (hloud : ¬ x.IsSilent) :
    ∃ e, (d.label i = .event e ∨ d.label i = .timer e) ∧ d.core.Explains e x := by
  by_cases hsalient : x.isSalient = true
  · have hlog : x ∈ (d.step i).core.log := List.mem_filter.mpr ⟨hx, hsalient⟩
    have hstep := d.step_core i
    generalize (d.step i).core = c' at hstep hlog
    generalize d.label i = l at hstep ⊢
    cases hstep with
    | event h => exact ⟨_, .inl rfl, (h.explains rfl hlog).congr rfl rfl rfl rfl⟩
    | @timer e _ c₀ _ hpop h =>
      have hrole := Core.toRole_of_pop hpop
      exact ⟨e, .inr rfl, (h.explains (congrArg Core.log hpop).symm hlog).congr
        (congrArg Core.link hpop).symm (congrArg Role.grandmaster hrole).symm
        (congrArg Role.clockCfg hrole).symm
        (congrArg Exchange.lastPDelayRespFollowUp (Core.toExchange_of_pop hpop)).symm⟩
    | receive h => exact absurd (h.silent rfl hlog) hloud
    | idle => cases hlog
  · -- every effect outside the core is silent
    refine absurd ⟨?_, ?_, ?_⟩ hloud
    · cases h : x.isSyncMessage <;> simp_all [Effect.isSalient]
    · cases h : x.isAnnounce <;> simp_all [Effect.isSalient]
    · rintro rfl
      exact hsalient rfl

omit [Platform F] in
/-- Transmissions are not silent. -/
theorem Effect.not_isSilent_of_transmits {x : Effect F} (h : x.isSyncMessage ∨ x.isAnnounce) :
    ¬ x.IsSilent := by
  intro hsilent
  rw [hsilent.sync, hsilent.announce] at h
  simp at h

end Transmits

/-! ### Only a master transmits -/

namespace Daemon

/-- The Signalling message starts the Sync timer. -/
def armsSync (m : PTPMessageSignalling) : Bool := !keepsInterval m.tlv.timeSyncInterval

/-- The Signalling message starts the Announce timer. -/
def armsAnnounce (cfg : PortConfig) (m : PTPMessageSignalling) : Bool :=
  !cfg.automotiveProfile && !keepsInterval m.tlv.announceInterval &&
    m.tlv.announceInterval ≠ sigMsgIntervalInitial

/-- A Signalling message starts an interval timer of a port that is not master. -/
def SignalledOutsideMaster (d : Daemon F) (i : Input) : Prop :=
  ∃ m linkSpeed, i.stimulus = .receive (.signalling m) linkSpeed ∧
    (armsSync m ∨ armsAnnounce d.port.cfg m) ∧ d.port.portState ≠ .ptpMaster

theorem compensate_eq_signalling {cfg : PortConfig} {linkSpeed : UInt32} {msg : PTPMessage}
    {m : PTPMessageSignalling} :
    compensate cfg linkSpeed msg = .signalling m ↔ msg = .signalling m := by
  cases msg <;> simp [compensate]

end Daemon

/-- The interval timers are pending only in the master state. -/
def Role.MasterTimers (r : Role) : Prop :=
  0 < r.syncTimers ∨ 0 < r.announceTimers → r.portState = .ptpMaster

theorem Core.signalled_syncTimers (m : PTPMessageSignalling) (c : Core F) :
    (c.signalled m).syncTimers = if Daemon.armsSync m then 1 else c.syncTimers := by
  unfold signalled Daemon.armsSync
  cases Daemon.keepsInterval m.tlv.timeSyncInterval <;> rfl

theorem Core.signalled_announceTimers (m : PTPMessageSignalling) (c : Core F) :
    (c.signalled m).announceTimers =
      if Daemon.armsAnnounce c.portCfg m then 1 else c.announceTimers := by
  unfold signalled Daemon.armsAnnounce
  by_cases hinit : m.tlv.announceInterval = sigMsgIntervalInitial <;>
    cases c.portCfg.automotiveProfile <;> cases Daemon.keepsInterval m.tlv.announceInterval <;>
      simp [hinit]

theorem Role.MasterTimers.becomeMaster (c : Core F) : c.becomeMaster.toRole.MasterTimers :=
  fun _ => rfl

theorem Role.MasterTimers.becomeSlave (c : Core F) : c.becomeSlave.toRole.MasterTimers := by
  rintro (h | h)
  · exact absurd h (lt_irrefl 0)
  · exact absurd h (lt_irrefl 0)

theorem Role.MasterTimers.resumeRole {c : Core F} (h : c.toRole.MasterTimers) :
    c.resumeRole.toRole.MasterTimers := by
  unfold Core.resumeRole
  split_ifs
  · exact becomeSlave c
  · exact becomeMaster c
  · exact h

variable [Platform F]

/-- No event arms an interval timer outside the master state. The handlers of the interval events
restart their timer; they run in the master state. -/
theorem EventStep.masterTimers {e : Event} {c c' : Core F} (h : EventStep e c c')
    (hinv : c.toRole.MasterTimers)
    (hfired : e = .syncIntervalTimeoutExpires ∨ e = .announceIntervalTimeoutExpires →
      c.portState = .ptpMaster) : c'.toRole.MasterTimers := by
  have hrole := h.role
  generalize c'.toRole = r at hrole ⊢
  cases hrole with
  | keep => exact hinv
  | resume => exact hinv.resumeRole
  | stateChange better m =>
    unfold Core.assignRole Core.recommendMaster Core.recommendSlave
    split_ifs
    · exact hinv
    · exact Role.MasterTimers.becomeMaster _
    · exact hinv
    · exact Role.MasterTimers.becomeSlave c
  -- the timeout makes the port a master
  | receiptTimeout => exact fun _ => rfl
  -- an interval timer arms itself again, and it has fired on a master
  | announceInterval => exact fun _ => hfired (.inr rfl)
  | syncInterval => exact fun _ => hfired (.inl rfl)

/-- **Step lemma.** A delivered input keeps `MasterTimers`, unless it is a Signalling message that
starts an interval timer outside the master state. -/
theorem Daemon.step_masterTimers {d : Daemon F} {i : Input} (henabled : d.enabled i)
    (hcond : ¬ d.SignalledOutsideMaster i) (hinv : d.core.toRole.MasterTimers) :
    (d.step i).core.toRole.MasterTimers := by
  have hstep := d.step_core i
  generalize hlabel : d.label i = l at hstep
  generalize (d.step i).core = c' at hstep ⊢
  cases hstep with
  | event h =>
    have hexternal := isExternal_of_label_event henabled hlabel
    refine h.masterTimers hinv ?_
    rintro (rfl | rfl) <;> cases hexternal
  | @timer e _ c₀ _ hpop h =>
    rw [Core.toRole_of_pop hpop] at hinv
    refine h.masterTimers (fun htimers => hinv ?_) ?_
    · exact htimers.imp (Nat.add_pos_left · _) (Nat.add_pos_left · _)
    · -- the timer that fired was pending
      rintro (rfl | rfl)
      · exact hinv (.inl (Nat.succ_pos _))
      · exact hinv (.inr (Nat.succ_pos _))
  | receive h =>
    rcases h.role with ⟨m, -, -, hrole⟩ | ⟨m, rfl, hrole⟩ | ⟨-, hrole⟩
    · rw [hrole]
      exact fun _ => rfl
    · obtain ⟨msg, linkSpeed, hi, hmsg⟩ := stimulus_of_label_receive hlabel
      rw [compensate_eq_signalling] at hmsg
      subst hmsg
      rw [hrole]
      by_cases hmaster : d.port.portState = .ptpMaster
      · exact fun _ => hmaster
      · have hkeep : ¬ (armsSync m ∨ armsAnnounce d.port.cfg m) :=
          fun h => hcond ⟨m, linkSpeed, hi, h, hmaster⟩
        rw [not_or] at hkeep
        have hannounce : ¬ armsAnnounce d.core.clear.portCfg m := hkeep.2
        intro htimers
        rw [Core.signalled_syncTimers, Core.signalled_announceTimers, if_neg hkeep.1,
          if_neg hannounce] at htimers
        exact hinv htimers
    · rw [hrole]
      exact hinv
  | idle => exact hinv

omit [Platform F] in
/-- The event behind a transmission was delivered by a timer of its kind. -/
theorem Daemon.pending_of_label {d : Daemon F} {i : Input} {e : Event} (henabled : d.enabled i)
    (hlabel : d.label i = .event e ∨ d.label i = .timer e) (he : e.isExternal = false) :
    0 < armed d.timerq e := by
  rcases hlabel with h | h
  · rw [isExternal_of_label_event henabled h] at he
    cases he
  · obtain ⟨stimulus, env⟩ := i
    cases stimulus with
    | timer k =>
      cases hk : d.timerq[k]? with
      | none => simp [label, hk] at h
      | some t =>
        obtain rfl : t.event = e := by simpa [label, hk] using h
        rw [armed_eraseIdx hk, if_pos rfl]
        exact Nat.succ_pos _
    | event e' => cases h
    | receive msg linkSpeed => cases hdrops : env.drops msg <;> simp [label, hdrops] at h
    | setLinkSpeed linkSpeed => cases h

/-- **Only a master transmits.** In every run in which no Signalling message starts an interval timer
of a port that is not master, the port is master at every step that transmits a Sync, a Follow_Up or
an Announce. -/
theorem master_of_transmits (s : Start F) (σ : ℕ → Input) (n : ℕ)
    (hdelivers : (machine F).Delivers s.daemon σ n)
    (hsignal : ∀ k < n, ¬ ((machine F).stateAt s.daemon σ k).SignalledOutsideMaster (σ k)) :
    ∀ k < n, ∀ x ∈ ((machine F).stateAt s.daemon σ (k + 1)).effects,
      x.isSyncMessage ∨ x.isAnnounce →
        ((machine F).stateAt s.daemon σ k).port.portState = .ptpMaster := by
  have hinv := Machine.invariant (M := machine F) (s := s.daemon) (σ := σ) (n := n)
    (P := fun d => d.core.toRole.MasterTimers)
    (fun h => absurd h (not_or.mpr ⟨lt_irrefl 0, lt_irrefl 0⟩))
    fun k hk h => Daemon.step_masterTimers (hdelivers k hk) (hsignal k hk) h
  intro k hk x hx htrans
  obtain ⟨e, hlabel, hexplains⟩ := Daemon.step_explains _ (σ k) hx
    (Effect.not_isSilent_of_transmits htrans)
  refine hinv k hk.le ?_
  rcases htrans with h | h
  · obtain ⟨rfl, -⟩ := hexplains.sync h
    exact .inl (Daemon.pending_of_label (hdelivers k hk) hlabel rfl)
  · obtain ⟨rfl, -⟩ := hexplains.announce h
    exact .inr (Daemon.pending_of_label (hdelivers k hk) hlabel rfl)

/-- POWERUP and the first Announce interval of a port that is already master. -/
def forcedRun : ℕ → Input
  | 0 => .ofEvent .powerup
  | _ => .expiry 0

/-- A daemon that transmits an Announce is master. -/
theorem forced_master_of_transmits :
    (∃ x ∈ ((machine ℚ).stateAt (Start.capable (some .ptpMaster)).daemon forcedRun 2).effects,
        x.isAnnounce) ∧
      ((machine ℚ).stateAt (Start.capable (some .ptpMaster)).daemon forcedRun 1).port.portState =
        .ptpMaster := by
  have htransmits : ∃ x ∈ ((machine ℚ).stateAt (Start.capable (some .ptpMaster)).daemon forcedRun
      2).effects, x.isAnnounce := by decide
  refine ⟨htransmits, ?_⟩
  obtain ⟨x, hx, hannounce⟩ := htransmits
  refine master_of_transmits (Start.capable (some .ptpMaster)) forcedRun 2 (by decide) ?_ 1
    (by decide) x hx (.inr hannounce)
  rintro k - ⟨_, _, hi, -⟩
  unfold forcedRun at hi
  split at hi <;> cases hi

/-- A Signalling message that asks for Sync messages every second, then the expiry of the timer it
starts. -/
def signalledSync (k : ℕ) : Input :=
  if k = 0 then .message (.signalling (neighborSignalling 127 0 127)) else .expiry 0

/-- After a Signalling message the slave transmits a Sync. -/
theorem slave_transmits_sync :
    (machine ℚ).Delivers (Start.capable (some .ptpSlave)).daemon signalledSync 2 ∧
      ((machine ℚ).stateAt (Start.capable (some .ptpSlave)).daemon signalledSync 1).port.portState =
        .ptpSlave ∧
      ∃ x ∈ ((machine ℚ).stateAt (Start.capable (some .ptpSlave)).daemon signalledSync 2).effects,
        x.isSyncMessage := by
  refine ⟨by decide, by decide, by decide⟩

end Gptp
