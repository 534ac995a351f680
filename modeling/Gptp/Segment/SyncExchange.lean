import Gptp.Safety.SyncPairing
import Gptp.Segment.Transmission

/-!
# Sync and Follow_Up across a segment

A slave computes its offset from the time at which a Sync arrived and the time at which it left, which the
Follow_Up carries. The two messages travel on their own, and either may be lost, delayed, duplicated or
overtaken by those of another round or another sender.

`syncExchange`: as long as the sequence numbers of a sender have not come round, both times are those of
one and the same Sync.
-/

namespace Gptp

open Framework

variable {F : Type} [Platform F] {ι : Type} [DecidableEq ι] {s : ι → Start F}
  {σ : ℕ → SegmentInput ι} {n k : ℕ} {i c : ι}

/-- In step `p` station `c` sends a Sync: its interval is over, and the port is capable. -/
abbrev SendsSync (s : ι → Start F) (σ : ℕ → SegmentInput ι) (c : ι) (p : ℕ) : Prop :=
  Counts s σ c .syncIntervalTimeoutExpires (fun d => d.port.link.asCapable) p

/-- In step `p` station `c` numbers a Sync with `sequenceId`. -/
structure SyncRound (s : ι → Start F) (σ : ℕ → SegmentInput ι) (p : ℕ) (c : ι)
    (sequenceId : UInt16) : Prop where
  sends : SendsSync s σ c p
  sequenceId : sequenceId = ((Segment.run s σ p).node c).port.seq.sync

section Runs

variable (hdelivers : (segment F ι).Delivers (Segment.start s) σ n)

include hdelivers

/-- A Sync on the wire belongs to a round of its sender. -/
theorem sync_origin (hk : k ≤ n) {t : ℕ} {m : PTPMessageSync} {time : Timestamp}
    (ht : (Segment.run s σ k).sent[t]? = some (c, ⟨.sync m, time⟩)) :
    ∃ p < k, SyncRound s σ p c m.sequenceId ∧ t = (Segment.run s σ p).sent.length := by
  obtain ⟨p, hp, input, q, h, hq, rfl⟩ := sent_origin hdelivers hk ht
  cases Daemon.sends_of_getElem? hq with
  | sync he hcapable => exact ⟨p, hp, ⟨(counts_iff h).mpr ⟨he, hcapable⟩, rfl⟩, rfl⟩

/-- A Follow_Up on the wire belongs to a round of its sender, and carries the time at which the Sync of
that round has left. -/
theorem followUp_origin (hk : k ≤ n) {t : ℕ} {m : PTPMessageFollowUp} {time : Timestamp}
    (ht : (Segment.run s σ k).sent[t]? = some (c, ⟨.followUp m, time⟩)) :
    ∃ p < k, SyncRound s σ p c m.sequenceId ∧ t = (Segment.run s σ p).sent.length + 1 ∧
      ∃ sync, Departs s σ p (Segment.run s σ p).sent.length c (.sync sync)
        (m.preciseOriginTimestamp, true) := by
  obtain ⟨p, hp, input, q, h, hq, rfl⟩ := sent_origin hdelivers hk ht
  cases Daemon.sends_of_getElem? hq with
  | followUp he hcapable htx hsync =>
    have hround : SyncRound s σ p c _ := ⟨(counts_iff h).mpr ⟨he, hcapable⟩, rfl⟩
    exact ⟨p, hp, hround, rfl, _, departs_of_handles h hsync (Prod.ext rfl htx)⟩

theorem SyncRound.unique {p p' : ℕ} {sequenceId : UInt16} (hp : p < n) (hp' : p' < n)
    (hcount : Nat.count (SendsSync s σ c) n ≤ 65536)
    (h : SyncRound s σ p c sequenceId) (h' : SyncRound s σ p' c sequenceId) : p = p' :=
  eq_of_sequenceId hdelivers (fun d => d.port.seq.sync) (fun d => d.port.link.asCapable)
    Daemon.seq_sync_step hcount hp hp' h.sends h'.sends (h.sequenceId.symm.trans h'.sequenceId)

/-- The times from which an offset is computed, for a station to which the identities of their ports tell
the others apart. -/
theorem syncTimes_of_offset (hdistinct : ∀ c c', c ≠ i → c' ≠ i →
      (s c).portConfig.portIdentity = (s c').portConfig.portIdentity → c = c')
    (hcount : ∀ c, Nat.count (SendsSync s σ c) n ≤ 65536)
    (hk : k < n) {input : Input} {m : PTPMessageFollowUp} {linkSpeed : UInt32} {u : MasterOffset F}
    (hhandles : Handles (Segment.run s σ k) (σ k) i input)
    (hinput : input.stimulus = .receive (.followUp m) linkSpeed)
    (hu : .setMasterOffset u ∈ ((Segment.run s σ (k + 1)).node i).effects) :
    ∃ c ≠ i, ∃ p j t sync tx, p < j ∧ j < k ∧ Departs s σ p t c (.sync sync) (tx, true) ∧
      Lands s σ j t i u.localTime ∧ SameTime tx m.preciseOriginTimestamp := by
  rw [node_run_of_handles hhandles] at hu
  obtain ⟨-, -, stored, hstored, hmatch, -, harrival⟩ := Daemon.step_offset hinput hu
  simp only [Daemon.syncMatches, Bool.and_eq_true, decide_eq_true_eq] at hmatch
  -- the stored Sync was heard in an earlier step
  obtain ⟨j, hj, ⟨input', hhandles', heard, linkSpeed', hinput', hheard⟩, -⟩ := slot_run hdelivers
    (fun d : Daemon F => d.port.lastSync) Daemon.ReceivesSync
    (s i).hasReceivedNothing_daemon.lastSync Daemon.step_lastSync hk.le hstored
  obtain ⟨hspeed, c, t, a, sent, hhears, hpromise⟩ :=
    hears_of_handles hdelivers (hj.trans hk) hhandles' hinput'
  obtain ⟨hdeliver, ⟨time, hsent⟩, hother, harrives⟩ := hhears
  obtain ⟨-, c', t', a', sent', hhears', hpromise'⟩ := hears_of_handles hdelivers hk hhandles hinput
  obtain ⟨-, ⟨time', hsent'⟩, hother', harrives'⟩ := hhears'
  cases harrives with
  | @sync S _ horigin hrx =>
    cases harrives' with
    | @followUp f _ horigin' htime =>
      -- it is of the same sender as the Follow_Up, and has the same number
      obtain rfl : c = c' := by
        refine hdistinct c c' hother hother' ?_
        have hsource : stored.sourcePortIdentity = heard.sourcePortIdentity := by rw [hheard]
        rw [← hpromise'.1, ← horigin'.sourcePortIdentity, ← hmatch.2, hsource,
          horigin.sourcePortIdentity]
        exact hpromise.symm
      have hsequence : S.sequenceId = f.sequenceId := by
        have hnumber : stored.sequenceId = heard.sequenceId := by rw [hheard]
        rw [← horigin.sequenceId, ← horigin'.sequenceId, ← hmatch.1, hnumber]
      obtain ⟨p, hp, hround, rfl⟩ := sync_origin hdelivers (hj.trans hk).le hsent
      obtain ⟨p', hp', hround', -, sync, hdeparts⟩ := followUp_origin hdelivers hk.le hsent'
      rw [hsequence] at hround
      obtain rfl := SyncRound.unique hdelivers (hp.trans (hj.trans hk)) (hp'.trans hk) (hcount c)
        hround hround'
      refine ⟨c, hother, p, j, _, sync, _, hp, hj, hdeparts, ?_, htime⟩
      rw [harrival, hheard, hspeed]
      exact lands_of_deliver hdeliver hrx

/-- **One Sync.** Whatever the medium does to the messages: an offset that a station computes from a
Follow_Up is computed from the time at which some Sync has left and the time at which a copy of that same
Sync has arrived, provided that the ports have different identities and none of them has sent more than
65536 Syncs. -/
theorem syncExchange (hdistinct : Function.Injective fun i => (s i).portConfig.portIdentity)
    (hcount : ∀ c, Nat.count (SendsSync s σ c) n ≤ 65536)
    (hk : k < n) {input : Input} {m : PTPMessageFollowUp} {linkSpeed : UInt32} {u : MasterOffset F}
    (hhandles : Handles (Segment.run s σ k) (σ k) i input)
    (hinput : input.stimulus = .receive (.followUp m) linkSpeed)
    (hu : .setMasterOffset u ∈ ((Segment.run s σ (k + 1)).node i).effects) :
    ∃ c ≠ i, ∃ p j t sync tx, p < j ∧ j < k ∧ Departs s σ p t c (.sync sync) (tx, true) ∧
      Lands s σ j t i u.localTime ∧ SameTime tx m.preciseOriginTimestamp :=
  syncTimes_of_offset hdelivers (fun _ _ _ _ heq => hdistinct heq) hcount hk hhandles hinput hu

end Runs

theorem exists_offset_twoStations : ∃ u : MasterOffset ℚ,
    .setMasterOffset u ∈ ((Segment.run twoStations twoStationsRun 7).node true).effects := by
  have hoffset : ∃ x ∈ (((messageStation ℚ).network.stateAt (Segment.start twoStations) twoStationsRun
      7).node true).effects, x.isMasterOffset = true := by decide +kernel
  rw [← run_eq_messageStation] at hoffset
  exact exists_masterOffset hoffset

theorem exists_followUp_twoStations : ∃ input m linkSpeed,
    Handles (Segment.run twoStations twoStationsRun 6) (twoStationsRun 6) true input ∧
      input.stimulus = .receive (.followUp m) linkSpeed := by
  obtain ⟨input, msg, linkSpeed, hhandles, hinput, htype⟩ :=
    exists_handles_of_messageType (k := 6) (i := true) .followup delivers_twoStations (by decide)
      (by decide +kernel)
  cases msg with
  | followUp m => exact ⟨input, m, linkSpeed, hhandles, hinput⟩
  | _ => cases htype

theorem syncExchange_twoStations : ∃ u : MasterOffset ℚ,
    .setMasterOffset u ∈ ((Segment.run twoStations twoStationsRun 7).node true).effects ∧
    ∃ c ≠ true, ∃ p j t sync tx, p < j ∧ j < 6 ∧
      Departs twoStations twoStationsRun p t c (.sync sync) (tx, true) ∧
      Lands twoStations twoStationsRun j t true u.localTime := by
  obtain ⟨u, hu⟩ := exists_offset_twoStations
  obtain ⟨input, m, linkSpeed, hhandles, hinput⟩ := exists_followUp_twoStations
  obtain ⟨c, hc, p, j, t, sync, tx, hpj, hj, hdeparts, hlands, -⟩ :=
    syncExchange delivers_twoStations (by decide) (fun c => (Nat.count_le _).trans (by decide))
      (by decide) hhandles hinput hu
  exact ⟨u, hu, c, hc, p, j, t, sync, tx, hpj, hj, hdeparts, hlands⟩

end Gptp
