import Gptp.Port.Run
import Gptp.Wireless.TimingMeasurement

/-!
# Which request the Follow_Up belongs to

A request that carries a Follow_Up element names a dialog token, a time T1 and, in the Follow_Up itself, a
sequence number. All three come from the slot of the port. They belong together, and to the request right
before, as long as nothing but that request and its confirmation has written the slot since:

* an indication overwrites the slot with the dialog of the peer, and a confirmation that is accepted
  after it keeps the sequence number found there;
* a late confirmation is told from the awaited one by its token alone. The tokens of requests less than
  255 apart differ, except where the sequence number wraps around: 65535 and 0 share a token.

`Pairing` keeps the score of a schedule, that is, of the order of the calls without the values in them.
`dialogs_paired_iff`: a schedule pairs its requests properly whatever the values are, exactly if no request
is made on a slot with a foreign dialog or a stray time in it.
-/

namespace Gptp

open Framework

/-! ### Schedules -/

/-- A call without the values in it. -/
inductive WirelessCall where
  | syncInterval
  | confirm (answers : ℕ)
  | indication
  deriving DecidableEq

def WirelessInput.call : WirelessInput → WirelessCall
  | .syncInterval _ _ => .syncInterval
  | .confirm answers _ => .confirm answers
  | .indication _ _ _ => .indication

/-- What a schedule has come to. -/
structure Pairing where
  /-- The number of requests so far. -/
  sent : ℕ
  /-- An indication has come since the last request. -/
  indicated : Bool
  /-- The last confirmation to be accepted was for the request before the last one. -/
  stray : Bool
  deriving DecidableEq

namespace Pairing

def start : Pairing := ⟨0, false, false⟩

/-- Request `i` was the one before the last, and has the same token as the last one. -/
def MistakenFor (i sent : ℕ) : Prop := i + 2 = sent ∧ i % 65536 = 65535

instance (i sent : ℕ) : Decidable (MistakenFor i sent) := inferInstanceAs (Decidable (_ ∧ _))

def step (s : Pairing) : WirelessCall → Pairing
  | .syncInterval => ⟨s.sent + 1, false, false⟩
  | .confirm i =>
    if i + 1 = s.sent then { s with stray := false }
    else if MistakenFor i s.sent then { s with stray := true }
    else s
  | .indication => { s with indicated := true }

/-- Confirmations are for requests that have been made, with fewer than 255 further requests since. -/
def enabled (s : Pairing) : WirelessCall → Prop
  | .confirm i => i < s.sent ∧ s.sent ≤ i + 255
  | _ => True

instance (s : Pairing) : (c : WirelessCall) → Decidable (s.enabled c)
  | .confirm _ => inferInstanceAs (Decidable (_ ∧ _))
  | .syncInterval => inferInstanceAs (Decidable True)
  | .indication => inferInstanceAs (Decidable True)

def machine : Machine Pairing WirelessCall where
  enabled := enabled
  step := step

instance (s : Pairing) (c : WirelessCall) : Decidable (machine.enabled s c) :=
  inferInstanceAs (Decidable (s.enabled c))

/-- The score of a schedule after `k` calls. -/
abbrev after (τ : ℕ → WirelessCall) (k : ℕ) : Pairing := machine.stateAt start τ k

theorem sent_step_of_ne {s : Pairing} {c : WirelessCall} (hc : c ≠ .syncInterval) :
    (s.step c).sent = s.sent := by
  cases c with
  | syncInterval => exact absurd rfl hc
  | confirm i =>
    unfold step
    dsimp only
    split_ifs <;> rfl
  | indication => rfl

/-- A late confirmation counts only if it is mistaken for the awaited one. -/
theorem stray_step_of_late {s : Pairing} {i : ℕ} (hlate : i + 1 ≠ s.sent) :
    (s.step (.confirm i)).stray = if MistakenFor i s.sent then true else s.stray := by
  unfold step
  dsimp only
  rw [if_neg hlate]
  split_ifs <;> rfl

variable {τ : ℕ → WirelessCall}

/-- Between two requests the count stays. -/
theorem sent_of_last {j k : ℕ} (hjk : j < k) (hj : τ j = .syncInterval)
    (hlast : ∀ l, j < l → l < k → τ l ≠ .syncInterval) : (after τ k).sent = (after τ j).sent + 1 := by
  have hfirst : (after τ (j + 1)).sent = (after τ j).sent + 1 := by
    rw [after, Machine.stateAt_succ, hj]
    rfl
  refine Machine.invariant_from (M := machine) (P := fun s => s.sent = (after τ j).sent + 1) hjk
    hfirst ?_
  intro l hjl hlk hl
  exact (sent_step_of_ne (hlast l hjl hlk)).trans hl

/-- If there have been requests, one of them was the last. -/
theorem exists_last {k : ℕ} (h : (after τ k).sent ≠ 0) :
    ∃ j < k, τ j = .syncInterval ∧ ∀ l, j < l → l < k → τ l ≠ .syncInterval := by
  induction k with
  | zero => exact absurd rfl h
  | succ k ih =>
    by_cases hk : τ k = .syncInterval
    · refine ⟨k, Nat.lt_succ_self k, hk, ?_⟩
      intro l hkl hlk
      omega
    · have hsent : (after τ (k + 1)).sent = (after τ k).sent := sent_step_of_ne hk
      rw [hsent] at h
      obtain ⟨j, hjk, hj, hlast⟩ := ih h
      refine ⟨j, hjk.trans (Nat.lt_succ_self k), hj, ?_⟩
      intro l hjl hlk
      rcases Nat.lt_succ_iff_lt_or_eq.mp hlk with hlk | rfl
      · exact hlast l hjl hlk
      · exact hk

end Pairing

/-! ### Tokens -/

/-- The sequence number of request `i`. -/
def sequenceOf (i : ℕ) : UInt16 := UInt16.ofNat i

/-- The token of request `i`. -/
def tokenOf (i : ℕ) : UInt8 := dialogTokenOf (sequenceOf i)

theorem toNat_tokenOf (i : ℕ) : (tokenOf i).toNat = i % 65536 % 255 + 1 := by
  unfold tokenOf dialogTokenOf sequenceOf
  rw [UInt16.toNat_toUInt8, UInt16.toNat_add, UInt16.toNat_mod, UInt16.toNat_ofNat']
  change (i % 65536 % 255 + 1) % 65536 % 256 = _
  omega

theorem tokenOf_ne_zero (i : ℕ) : tokenOf i ≠ 0 := by
  intro h
  have hnat := toNat_tokenOf i
  rw [h] at hnat
  exact Nat.succ_ne_zero _ hnat.symm

/-- **When two requests share a token.** Of the requests less than 255 before the last one, only the one
with sequence number 65535 does, if it comes right before. -/
theorem tokenOf_eq_iff {i last : ℕ} (hlast : i < last) (hwindow : last < i + 255) :
    tokenOf i = tokenOf last ↔ Pairing.MistakenFor i (last + 1) := by
  rw [← UInt8.toNat_inj, toNat_tokenOf, toNat_tokenOf, Pairing.MistakenFor]
  -- the sequence number wraps around at most once between the two
  have hwrap : last / 65536 = i / 65536 ∨ last / 65536 = i / 65536 + 1 := by omega
  rcases hwrap with hwrap | hwrap
  · have hdiff : last % 65536 = i % 65536 + (last - i) := by omega
    rw [hdiff]
    omega
  · have hdiff : last % 65536 + 65536 = i % 65536 + (last - i) := by omega
    omega

/-! ### The slot -/

namespace WirelessPort

variable (p : WirelessPort) (i : ℕ) {dialog : WirelessDialog}

/-- The time of a confirmation is taken over if its token is that in the slot. -/
theorem actionDevclk_step_of_accept (h : dialog.dialogToken = p.prevDialog.dialogToken) :
    (p.step (.confirm i dialog)).prevDialog.actionDevclk = dialog.actionDevclk := by
  change (ite _ _ _ : WirelessPort).prevDialog.actionDevclk = _
  rw [if_pos h]
  rfl

theorem prevDialog_step_of_reject (h : dialog.dialogToken ≠ p.prevDialog.dialogToken) :
    (p.step (.confirm i dialog)).prevDialog = p.prevDialog := by
  change (ite _ _ _ : WirelessPort).prevDialog = _
  rw [if_neg h]

/-- Accepted or not, a confirmation changes neither the token nor the sequence number in the slot. -/
theorem step_confirm_keeps (dialog : WirelessDialog) :
    (p.step (.confirm i dialog)).prevDialog.dialogToken = p.prevDialog.dialogToken ∧
      (p.step (.confirm i dialog)).prevDialog.fwupSeq = p.prevDialog.fwupSeq ∧
      (p.step (.confirm i dialog)).syncSequenceId = p.syncSequenceId := by
  change (ite _ _ _ : WirelessPort).prevDialog.dialogToken = _ ∧
    (ite _ _ _ : WirelessPort).prevDialog.fwupSeq = _ ∧
    (ite _ _ _ : WirelessPort).syncSequenceId = _
  split_ifs with h
  · exact ⟨h, rfl, rfl⟩
  · exact ⟨rfl, rfl, rfl⟩

end WirelessPort

/-- The input `σ j`, before position `k`, confirms request `i` with the time `v`. -/
def Confirmed (σ : ℕ → WirelessInput) (k i : ℕ) (v : UInt64) : Prop :=
  ∃ j < k, ∃ dialog, σ j = .confirm i dialog ∧ dialog.actionDevclk = v

theorem Confirmed.succ {σ : ℕ → WirelessInput} {k i : ℕ} {v : UInt64} (h : Confirmed σ k i v) :
    Confirmed σ (k + 1) i v := by
  obtain ⟨j, hjk, hj⟩ := h
  exact ⟨j, hjk.trans (Nat.lt_succ_self k), hj⟩

/-- What the slot holds when a schedule has come to `s`. Without an indication it is the dialog of the
last request, and without a stray confirmation its time is the one confirmed. -/
structure Tracks (σ : ℕ → WirelessInput) (k : ℕ) (s : Pairing) (p : WirelessPort) : Prop where
  sequence : p.syncSequenceId = sequenceOf s.sent
  unused : s.indicated = false → s.sent = 0 → p.prevDialog.dialogToken = 0
  dialog : s.indicated = false → ∀ i, i + 1 = s.sent →
    p.prevDialog.dialogToken = tokenOf i ∧ p.prevDialog.fwupSeq = sequenceOf i
  time : s.indicated = false → s.stray = false → ∀ i, i + 1 = s.sent →
    p.prevDialog.actionDevclk = 0 ∨ Confirmed σ k i p.prevDialog.actionDevclk

/-- The driver confirms a request with the token of that request. -/
def WirelessInput.TokenRight : WirelessInput → Prop
  | .confirm i dialog => dialog.dialogToken = tokenOf i
  | _ => True

namespace Tracks

variable {σ : ℕ → WirelessInput} {k : ℕ} {s : Pairing} {p : WirelessPort}

theorem new (peerAddr : Fin 6 → UInt8) (actionDevclk ackDevclk : UInt64) (fwupSeq : UInt16) :
    Tracks σ 0 .start (.new peerAddr actionDevclk ackDevclk fwupSeq) where
  sequence := rfl
  unused _ _ := rfl
  dialog _ i hi := absurd hi (Nat.succ_ne_zero i)
  time _ _ i hi := absurd hi (Nat.succ_ne_zero i)

theorem syncInterval (h : Tracks σ k s p) (followUp : PTPMessageFollowUp) (ackDevclk : UInt64) :
    Tracks σ (k + 1) (s.step .syncInterval) (p.step (.syncInterval followUp ackDevclk)) where
  sequence := by
    change p.syncSequenceId + 1 = UInt16.ofNat (s.sent + 1)
    rw [h.sequence, UInt16.ofNat_add]
    rfl
  unused _ hsent := absurd hsent (Nat.succ_ne_zero s.sent)
  dialog _ i hi := by
    obtain rfl : i = s.sent := Nat.succ_injective hi
    change dialogTokenOf p.syncSequenceId = _ ∧ p.syncSequenceId = _
    rw [h.sequence]
    exact ⟨rfl, rfl⟩
  time _ _ _ _ := .inl rfl

/-- An indication takes the slot, and leaves the sequence number alone. -/
theorem indication (h : Tracks σ k s p) (current previous : WirelessDialog)
    (fwup : Option PTPMessageFollowUp) :
    Tracks σ (k + 1) (s.step .indication) (p.step (.indication current previous fwup)) where
  sequence := by
    refine Eq.trans ?_ h.sequence
    cases fwup with
    | none => rfl
    | some m =>
      change (ite _ _ _ : WirelessPort).syncSequenceId = _
      split <;> rfl
  unused hindicated := by cases hindicated
  dialog hindicated := by cases hindicated
  time hindicated := by cases hindicated

theorem sent_confirm (i : ℕ) : (s.step (.confirm i)).sent = s.sent :=
  Pairing.sent_step_of_ne (by rintro ⟨⟩)

theorem indicated_confirm (i : ℕ) : (s.step (.confirm i)).indicated = s.indicated := by
  unfold Pairing.step
  dsimp only
  split_ifs <;> rfl

/-- A late confirmation has the token in the slot exactly if it is mistaken for the awaited one. -/
theorem tokenOf_eq_slot_iff (h : Tracks σ k s p) (hindicated : s.indicated = false) {i : ℕ}
    (henabled : s.enabled (.confirm i)) (hlate : i + 1 ≠ s.sent) :
    tokenOf i = p.prevDialog.dialogToken ↔ Pairing.MistakenFor i s.sent := by
  obtain ⟨hsent, hwindow⟩ : i < s.sent ∧ s.sent ≤ i + 255 := henabled
  obtain ⟨last, hlast⟩ : ∃ last, last + 1 = s.sent := ⟨s.sent - 1, by omega⟩
  rw [(h.dialog hindicated last hlast).1, ← hlast]
  exact tokenOf_eq_iff (by omega) (by omega)

/-- A confirmation is accepted if its token is that of the last request: if it is for the last request,
or mistaken for it. -/
theorem confirm (h : Tracks σ k s p) {i : ℕ} {dialog : WirelessDialog}
    (hσ : σ k = .confirm i dialog) (henabled : s.enabled (.confirm i))
    (htoken : dialog.dialogToken = tokenOf i) :
    Tracks σ (k + 1) (s.step (.confirm i)) (p.step (.confirm i dialog)) := by
  obtain ⟨htokenKept, hseqKept, hsyncKept⟩ := p.step_confirm_keeps i dialog
  refine ⟨?_, ?_, ?_, ?_⟩
  · rw [hsyncKept, sent_confirm]
    exact h.sequence
  · rw [sent_confirm]
    exact fun _ hnone => absurd (hnone ▸ henabled.1) (Nat.not_lt_zero i)
  · rw [indicated_confirm, sent_confirm, htokenKept, hseqKept]
    exact h.dialog
  · rw [indicated_confirm, sent_confirm]
    intro hindicated hstray last hlast
    by_cases hlate : i + 1 = s.sent
    · -- the awaited confirmation
      obtain rfl : i = last := Nat.succ_injective (hlate.trans hlast.symm)
      have haccept : dialog.dialogToken = p.prevDialog.dialogToken :=
        htoken.trans (h.dialog hindicated i hlast).1.symm
      rw [p.actionDevclk_step_of_accept i haccept]
      exact .inr ⟨k, Nat.lt_succ_self k, dialog, hσ, rfl⟩
    · -- a late confirmation that is not mistaken for the awaited one is dropped
      rw [Pairing.stray_step_of_late hlate] at hstray
      split_ifs at hstray with hmistaken
      have hreject : dialog.dialogToken ≠ p.prevDialog.dialogToken := by
        rw [htoken, Ne, h.tokenOf_eq_slot_iff hindicated henabled hlate]
        exact hmistaken
      rw [p.prevDialog_step_of_reject i hreject]
      exact (h.time hindicated hstray last hlast).imp_right Confirmed.succ

end Tracks

/-- A run with the calls of a schedule, in which the driver gets the tokens right. -/
structure Performs (τ : ℕ → WirelessCall) (σ : ℕ → WirelessInput) (n : ℕ) : Prop where
  call : ∀ k < n, (σ k).call = τ k
  tokenRight : ∀ k < n, (σ k).TokenRight

/-- **Run lemma.** The slot holds what the schedule says. -/
theorem Performs.tracks {τ : ℕ → WirelessCall} {σ : ℕ → WirelessInput} {n : ℕ} (h : Performs τ σ n)
    (hdelivers : Pairing.machine.Delivers .start τ n) {p₀ : WirelessPort}
    (hnew : Tracks σ 0 .start p₀) :
    ∀ k ≤ n, Tracks σ k (.after τ k) (wirelessMachine.stateAt p₀ σ k) := by
  intro k
  induction k with
  | zero => exact fun _ => hnew
  | succ k ih =>
    intro hk
    have hstep := ih (Nat.le_of_succ_le hk)
    have hcall := h.call k hk
    have henabled := hdelivers k hk
    have htoken := h.tokenRight k hk
    rw [Machine.stateAt_succ, Pairing.after, Machine.stateAt_succ]
    rw [← hcall] at henabled ⊢
    -- one case for each of the three writers of the slot
    cases hσ : σ k with
    | syncInterval followUp ackDevclk => exact hstep.syncInterval followUp ackDevclk
    | confirm i dialog =>
      rw [hσ] at henabled htoken
      exact hstep.confirm hσ henabled htoken
    | indication current previous fwup => exact hstep.indication current previous fwup

/-! ### Requests -/

namespace WirelessPort

/-- The call makes the port send a request. -/
def Requests (p : WirelessPort) (i : WirelessInput) (req : TimingMeasurementRequest) : Prop :=
  .requestTimingMeasurement req ∈ (p.step i).effects

/-- The request that a call makes the port send. -/
def requestFor (p : WirelessPort) (followUp : PTPMessageFollowUp) : TimingMeasurementRequest :=
  timingMeasurementRequest p.peerAddr p.syncSequenceId p.prevDialog (p.followUpFor followUp)

variable {p : WirelessPort} {i : WirelessInput} {req : TimingMeasurementRequest}

/-- Only the Sync interval timer makes the port send requests, one at a time. -/
theorem requests_iff :
    p.Requests i req ↔
      ∃ followUp ackDevclk, i = .syncInterval followUp ackDevclk ∧ req = p.requestFor followUp := by
  unfold Requests
  cases i with
  | syncInterval followUp ackDevclk =>
    change _ ∈ [WirelessEffect.requestTimingMeasurement (p.requestFor followUp)] ↔ _
    rw [List.mem_singleton]
    constructor
    · intro h
      exact ⟨followUp, ackDevclk, rfl, WirelessEffect.requestTimingMeasurement.inj h⟩
    · rintro ⟨followUp', ackDevclk', hi, rfl⟩
      obtain ⟨rfl, -⟩ := WirelessInput.syncInterval.inj hi
      rfl
  | confirm answers dialog =>
    have hquiet : (p.step (.confirm answers dialog)).effects = [] := by
      change (ite _ _ _ : WirelessPort).effects = []
      split <;> rfl
    simp [hquiet]
  | indication current previous fwup =>
    -- an indication may set the link delay and process a Follow_Up
    have heffects : (p.step (.indication current previous fwup)).effects = [] ∨
        ∃ delay m syncArrival, (p.step (.indication current previous fwup)).effects =
          [.setLinkDelay delay, .processFollowUp m syncArrival] := by
      cases fwup with
      | none => exact .inl rfl
      | some m =>
        change (ite _ _ _ : WirelessPort).effects = [] ∨
          ∃ delay m syncArrival, (ite _ _ _ : WirelessPort).effects = _
        split_ifs
        · exact .inr ⟨_, _, _, rfl⟩
        · exact .inl rfl
    rcases heffects with h | ⟨delay, m, syncArrival, h⟩ <;> simp [h]

variable (p) (followUp : PTPMessageFollowUp)

/-- A request has a Follow_Up element exactly if the slot holds a dialog with a time. -/
theorem length_requestFor :
    (p.requestFor followUp).length ≠ 0 ↔
      p.prevDialog.dialogToken ≠ 0 ∧ p.prevDialog.actionDevclk ≠ 0 := by
  have hlength : followUpLength + 4 ≠ 0 := by decide
  unfold requestFor timingMeasurementRequest
  simp [hlength]

theorem t1_requestFor (h : (p.requestFor followUp).length ≠ 0) :
    (p.requestFor followUp).t1 = p.prevDialog.actionDevclk.toUInt32 := by
  rw [length_requestFor] at h
  unfold requestFor timingMeasurementRequest
  simp [h]

theorem fwupData_requestFor (h : (p.requestFor followUp).length ≠ 0) :
    ∃ m, (p.requestFor followUp).fwupData = some m ∧ m.sequenceId = p.prevDialog.fwupSeq := by
  rw [length_requestFor] at h
  exact ⟨_, if_pos h.1, rfl⟩

end WirelessPort

theorem WirelessInput.call_eq_syncInterval {i : WirelessInput} :
    i.call = .syncInterval ↔ ∃ followUp ackDevclk, i = .syncInterval followUp ackDevclk := by
  cases i <;> simp [call]

/-- If the call at position `k` makes the port send a request with a Follow_Up element, the dialog token,
the sequence number and T1 in it are those of the request right before, made at position `j`, and T1 is a
time that has been confirmed for that request. -/
def PairedAt (τ : ℕ → WirelessCall) (p₀ : WirelessPort) (σ : ℕ → WirelessInput) (k : ℕ) : Prop :=
  let p := wirelessMachine.stateAt p₀ σ
  ∀ req, (p k).Requests (σ k) req → req.length ≠ 0 →
    ∃ j < k, ∃ last, (p j).Requests (σ j) last ∧
      (∀ l, j < l → l < k → τ l ≠ .syncInterval) ∧
      req.followUpDialogToken = last.dialogToken ∧
      (∃ m, req.fwupData = some m ∧ m.sequenceId = (p j).syncSequenceId) ∧
      ∃ v, Confirmed σ k (Pairing.after τ j).sent v ∧ req.t1 = v.toUInt32

section Pairings

variable {τ : ℕ → WirelessCall} {σ : ℕ → WirelessInput} {n k : ℕ} {p₀ : WirelessPort}

/-- A request made on a slot that nothing else has written is paired. -/
theorem Performs.pairedAt (h : Performs τ σ n) (hdelivers : Pairing.machine.Delivers .start τ n)
    (hnew : Tracks σ 0 .start p₀) (hk : k < n)
    (hclean : (Pairing.after τ k).indicated = false ∧ (Pairing.after τ k).stray = false) :
    PairedAt τ p₀ σ k := by
  obtain ⟨hindicated, hstray⟩ := hclean
  intro req hreq hlength
  set p := wirelessMachine.stateAt p₀ σ
  obtain ⟨followUp, -, -, rfl⟩ := WirelessPort.requests_iff.mp hreq
  have htracks := h.tracks hdelivers hnew
  obtain ⟨htoken, hdevclk⟩ := (WirelessPort.length_requestFor _ _).mp hlength
  -- the slot is in use, so there has been a last request
  obtain ⟨j, hjk, hj, hlast⟩ := Pairing.exists_last (τ := τ) (k := k) fun hsent =>
    htoken ((htracks k hk.le).unused hindicated hsent)
  have hsent := Pairing.sent_of_last hjk hj hlast
  obtain ⟨hslotToken, hslotSeq⟩ := (htracks k hk.le).dialog hindicated _ hsent.symm
  have hsequence := (htracks j (hjk.trans hk).le).sequence
  obtain ⟨followUp', ackDevclk', hσj⟩ :=
    WirelessInput.call_eq_syncInterval.mp ((h.call j (hjk.trans hk)).trans hj)
  refine ⟨j, hjk, _, WirelessPort.requests_iff.mpr ⟨_, _, hσj, rfl⟩, hlast, ?_, ?_, ?_⟩
  · change (p k).prevDialog.dialogToken = dialogTokenOf (p j).syncSequenceId
    rw [hsequence]
    exact hslotToken
  · obtain ⟨m, hm, hseq⟩ := WirelessPort.fwupData_requestFor _ _ hlength
    exact ⟨m, hm, hseq.trans (hslotSeq.trans hsequence.symm)⟩
  · have htime := (htracks k hk.le).time hindicated hstray _ hsent.symm
    exact ⟨_, htime.resolve_left hdevclk, WirelessPort.t1_requestFor _ _ hlength⟩

/-! Values that betray every foreign slot. -/

/-- The calls of a schedule with telling values: the times confirmed for a request and for the next one
differ, and the dialogs of the peer have the sequence number `g`. -/
def telling (g : UInt16) (followUp : PTPMessageFollowUp) : WirelessCall → WirelessInput
  | .syncInterval => .syncInterval followUp 0
  | .confirm i => .confirm i ⟨.zero, UInt64.ofNat (i % 2 + 1), .zero, 0, tokenOf i, 0⟩
  | .indication => .indication ⟨.zero, 1, .zero, 0, 1, g⟩ ⟨.zero, 0, .zero, 0, 0, 0⟩ none

theorem performs_telling (g : UInt16) (followUp : PTPMessageFollowUp) :
    Performs τ (fun k => telling g followUp (τ k)) n where
  call k _ := by cases τ k <;> rfl
  tokenRight k _ := by
    cases τ k with
    | confirm i => exact rfl
    | syncInterval => trivial
    | indication => trivial

/-- What the slot holds after an indication or a stray confirmation with telling values. -/
structure Tells (g : UInt16) (s : Pairing) (p : WirelessPort) : Prop where
  indicated : s.indicated = true →
    p.prevDialog.dialogToken ≠ 0 ∧ p.prevDialog.actionDevclk ≠ 0 ∧ p.prevDialog.fwupSeq = g
  stray : s.stray = true → s.indicated = false →
    ∃ i, i + 2 = s.sent ∧ p.prevDialog.actionDevclk = UInt64.ofNat (i % 2 + 1)

namespace Tells

variable {g : UInt16} {s : Pairing} {p : WirelessPort}

theorem start (p : WirelessPort) : Tells g .start p where
  indicated h := by cases h
  stray h := by cases h

/-- A confirmation with telling values. -/
theorem confirm (h : Tells g s p) (htracks : Tracks σ k s p) {i : ℕ}
    (henabled : s.enabled (.confirm i)) (followUp : PTPMessageFollowUp) :
    Tells g (s.step (.confirm i)) (p.step (telling g followUp (.confirm i))) := by
  have htime : UInt64.ofNat (i % 2 + 1) ≠ 0 := by
    rcases Nat.mod_two_eq_zero_or_one i with hi | hi <;> rw [hi] <;> decide
  unfold telling
  obtain ⟨htokenKept, hseqKept, -⟩ := p.step_confirm_keeps i
    ⟨.zero, UInt64.ofNat (i % 2 + 1), .zero, 0, tokenOf i, 0⟩
  constructor
  · -- the slot of the peer gets another time at most
    rw [Tracks.indicated_confirm, htokenKept, hseqKept]
    intro hindicated
    obtain ⟨htoken, hdevclk, hseq⟩ := h.indicated hindicated
    refine ⟨htoken, ?_, hseq⟩
    by_cases haccept : tokenOf i = p.prevDialog.dialogToken
    · rwa [p.actionDevclk_step_of_accept i haccept]
    · rwa [p.prevDialog_step_of_reject i haccept]
  · rw [Tracks.indicated_confirm, Tracks.sent_confirm]
    intro hstray hindicated
    have hlate : i + 1 ≠ s.sent := by
      intro hawaited
      simp [Pairing.step, hawaited] at hstray
    have htokens := htracks.tokenOf_eq_slot_iff hindicated henabled hlate
    rw [Pairing.stray_step_of_late hlate] at hstray
    split_ifs at hstray with hmistaken
    · rw [p.actionDevclk_step_of_accept i (htokens.mpr hmistaken)]
      exact ⟨i, hmistaken.1, rfl⟩
    · -- dropped, so the stray time is still there
      rw [p.prevDialog_step_of_reject i fun haccept => hmistaken (htokens.mp haccept)]
      exact h.stray hstray hindicated

theorem step (h : Tells g s p) (htracks : Tracks σ k s p) {c : WirelessCall} (henabled : s.enabled c)
    (followUp : PTPMessageFollowUp) : Tells g (s.step c) (p.step (telling g followUp c)) := by
  cases c with
  | syncInterval =>
    refine ⟨?_, ?_⟩ <;> intro hflag <;> cases hflag
  | confirm i => exact h.confirm htracks henabled followUp
  | indication =>
    have htoken : (1 : UInt8) ≠ 0 := by decide
    have htime : (1 * 10 : UInt64) ≠ 0 := by decide
    exact ⟨fun _ => ⟨htoken, htime, rfl⟩, fun _ hindicated => by cases hindicated⟩

end Tells

theorem tells (hdelivers : Pairing.machine.Delivers .start τ n) (g : UInt16)
    (followUp : PTPMessageFollowUp) (hnew : ∀ σ, Tracks σ 0 .start p₀) :
    ∀ k ≤ n, Tells g (.after τ k)
      (wirelessMachine.stateAt p₀ (fun k => telling g followUp (τ k)) k) := by
  intro k
  induction k with
  | zero => exact fun _ => .start p₀
  | succ k ih =>
    intro hk
    have htracks := (performs_telling g followUp).tracks hdelivers (hnew _) k (Nat.le_of_succ_le hk)
    exact (ih (Nat.le_of_succ_le hk)).step htracks (hdelivers k hk) followUp

theorem actionDevclk_telling {g : UInt16} {followUp : PTPMessageFollowUp} {c : WirelessCall} {i : ℕ}
    {dialog : WirelessDialog} (h : telling g followUp c = .confirm i dialog) :
    dialog.actionDevclk = UInt64.ofNat (i % 2 + 1) := by
  cases c with
  | syncInterval => cases h
  | confirm i' =>
    obtain ⟨rfl, rfl⟩ := WirelessInput.confirm.inj h
    rfl
  | indication => cases h

/-- The times confirmed for a request and for the next one tell them apart in 32 bits. -/
theorem telling_times_ne (i : ℕ) :
    (UInt64.ofNat (i % 2 + 1)).toUInt32 ≠ (UInt64.ofNat ((i + 1) % 2 + 1)).toUInt32 := by
  rcases Nat.mod_two_eq_zero_or_one i with hi | hi
  · rw [hi, show (i + 1) % 2 = 1 by omega]
    decide
  · rw [hi, show (i + 1) % 2 = 0 by omega]
    decide

theorem sequenceOf_succ_ne (i : ℕ) : sequenceOf (i + 1) ≠ sequenceOf i := by
  unfold sequenceOf
  rw [Ne, ← UInt16.toNat_inj, UInt16.toNat_ofNat', UInt16.toNat_ofNat']
  omega

/-- A request made on a foreign slot is not paired, with telling values. -/
theorem not_pairedAt_telling (hdelivers : Pairing.machine.Delivers .start τ n)
    (hnew : ∀ σ, Tracks σ 0 .start p₀) (hk : k < n) (hτ : τ k = .syncInterval)
    (hforeign : (Pairing.after τ k).indicated = true ∨
      (Pairing.after τ k).indicated = false ∧ (Pairing.after τ k).stray = true)
    (followUp : PTPMessageFollowUp) :
    ¬ PairedAt τ p₀ (fun l => telling (sequenceOf (Pairing.after τ k).sent) followUp (τ l)) k := by
  set g := sequenceOf (Pairing.after τ k).sent with hg
  set σ := fun l => telling g followUp (τ l) with hσ
  have htracks := (performs_telling g followUp).tracks hdelivers (hnew σ)
  have htells := tells hdelivers g followUp hnew k hk.le
  set p := wirelessMachine.stateAt p₀ σ with hp
  -- the request carries a Follow_Up element
  have hrequest : (p k).Requests (σ k) ((p k).requestFor followUp) := by
    refine WirelessPort.requests_iff.mpr ⟨followUp, 0, ?_, rfl⟩
    rw [hσ]
    dsimp only
    rw [hτ]
    rfl
  have hlength : ((p k).requestFor followUp).length ≠ 0 := by
    rw [WirelessPort.length_requestFor]
    rcases hforeign with hindicated | ⟨hindicated, hstray⟩
    · obtain ⟨htoken, hdevclk, -⟩ := htells.indicated hindicated
      exact ⟨htoken, hdevclk⟩
    · obtain ⟨i, hi, hdevclk⟩ := htells.stray hstray hindicated
      rw [((htracks k hk.le).dialog hindicated (i + 1) hi).1, hdevclk]
      refine ⟨tokenOf_ne_zero _, ?_⟩
      rcases Nat.mod_two_eq_zero_or_one i with hi | hi <;> rw [hi] <;> decide
  intro hpaired
  obtain ⟨j, hjk, last, hmade, hlast, -, ⟨m, hm, hseq⟩, v, ⟨l, -, dialog, hl, rfl⟩, ht1⟩ :=
    hpaired _ hrequest hlength
  obtain ⟨followUp', ackDevclk', hj, -⟩ := WirelessPort.requests_iff.mp hmade
  have hτj : τ j = .syncInterval := by
    rw [← (performs_telling (τ := τ) (n := n) g followUp).call j (hjk.trans hk)]
    exact WirelessInput.call_eq_syncInterval.mpr ⟨_, _, hj⟩
  have hsent := Pairing.sent_of_last hjk hτj hlast
  rcases hforeign with hindicated | ⟨hindicated, hstray⟩
  · -- the sequence number is the one in the dialog of the peer
    obtain ⟨m', hm', hseq'⟩ := WirelessPort.fwupData_requestFor _ _ hlength
    obtain rfl := Option.some.inj (hm.symm.trans hm')
    have hsequence := (htracks j (hjk.trans hk).le).sequence
    rw [(htells.indicated hindicated).2.2, hg, hsent] at hseq'
    exact sequenceOf_succ_ne _ (hseq'.symm.trans (hseq.trans hsequence))
  · -- T1 is the time confirmed for the request before the last one
    obtain ⟨i, hi, hdevclk⟩ := htells.stray hstray hindicated
    have hnumber : (Pairing.after τ j).sent = i + 1 := by omega
    rw [hnumber] at hl
    rw [WirelessPort.t1_requestFor _ _ hlength, hdevclk, actionDevclk_telling hl] at ht1
    exact telling_times_ne i ht1

end Pairings

/-- **Which schedules pair their requests.** Whatever the values in the calls are, every request with a
Follow_Up element carries the token, the sequence number and the confirmed time of the request right
before, exactly if no request follows an indication, or a stray confirmation, without another request in
between. -/
theorem dialogs_paired_iff (peerAddr : Fin 6 → UInt8) (actionDevclk ackDevclk : UInt64)
    (fwupSeq : UInt16) (τ : ℕ → WirelessCall) (n : ℕ)
    (hdelivers : Pairing.machine.Delivers .start τ n) :
    (∀ σ, Performs τ σ n →
      ∀ k < n, PairedAt τ (.new peerAddr actionDevclk ackDevclk fwupSeq) σ k) ↔
    ∀ k < n, τ k = .syncInterval →
      (Pairing.after τ k).indicated = false ∧ (Pairing.after τ k).stray = false := by
  have hnew : ∀ σ, Tracks σ 0 .start (.new peerAddr actionDevclk ackDevclk fwupSeq) :=
    fun σ => .new peerAddr actionDevclk ackDevclk fwupSeq
  constructor
  · intro hpaired k hk hτ
    by_contra hforeign
    refine not_pairedAt_telling hdelivers hnew hk hτ ?_ (neighborFollowUp 0)
      (hpaired _ (performs_telling _ _) k hk)
    cases hindicated : (Pairing.after τ k).indicated with
    | true => exact .inl rfl
    | false =>
      refine .inr ⟨rfl, ?_⟩
      rw [← Bool.not_eq_false]
      exact fun hstray => hforeign ⟨hindicated, hstray⟩
  · intro hclean σ hσ k hk
    by_cases hτ : τ k = .syncInterval
    · exact hσ.pairedAt hdelivers (hnew σ) hk (hclean k hk hτ)
    · -- the other calls make no request
      intro req hreq
      obtain ⟨followUp, ackDevclk, hi, -⟩ := WirelessPort.requests_iff.mp hreq
      refine absurd ?_ hτ
      rw [← hσ.call k hk]
      exact WirelessInput.call_eq_syncInterval.mpr ⟨_, _, hi⟩

/-- A master makes a request, which is confirmed; it becomes slave and hears a frame of the peer; it
becomes master again and makes another request. -/
def roleChanges : ℕ → WirelessInput
  | 0 => .syncInterval (neighborFollowUp 0) 0
  | 1 => .confirm 0 ⟨.zero, 500, .zero, 510, 1, 0⟩
  | 2 => .indication ⟨.zero, 70, .zero, 80, 9, 4660⟩ ⟨.zero, 0, .zero, 0, 0, 0⟩ none
  | _ => .syncInterval (neighborFollowUp 0) 0

/-- **The Follow_Up of the peer's dialog.** The second request of `roleChanges` carries a Follow_Up element
with the token of the peer, the time at which the frame of the peer was received, and the sequence number
that happened to be in the dialog. -/
theorem roleChanges_mispaired :
    let p₀ := WirelessPort.new (fun _ => 0) 0 0 0
    let τ := fun k => (roleChanges k).call
    Pairing.machine.Delivers .start τ 4 ∧ Performs τ roleChanges 4 ∧
      (∃ req, (wirelessMachine.stateAt p₀ roleChanges 3).Requests (roleChanges 3) req ∧
        req.length = 80 ∧ req.followUpDialogToken = 9 ∧ req.t1 = 700 ∧
        req.fwupData.map (·.sequenceId) = some 4660) ∧
      ¬ PairedAt τ p₀ roleChanges 3 := by
  intro p₀ τ
  have hreq : (wirelessMachine.stateAt p₀ roleChanges 3).Requests (roleChanges 3)
      ((wirelessMachine.stateAt p₀ roleChanges 3).requestFor (neighborFollowUp 0)) :=
    WirelessPort.requests_iff.mpr ⟨_, _, rfl, rfl⟩
  refine ⟨by decide, ⟨fun _ _ => rfl, ?_⟩, ⟨_, hreq, by decide, by decide, by decide, by decide⟩, ?_⟩
  · intro k _
    unfold roleChanges
    split <;> trivial
  · intro hpaired
    obtain ⟨j, hj, last, hmade, -, htoken, -⟩ := hpaired _ hreq (by decide)
    obtain ⟨followUp, ackDevclk, hi, rfl⟩ := WirelessPort.requests_iff.mp hmade
    obtain rfl | rfl | rfl : j = 0 ∨ j = 1 ∨ j = 2 := by omega
    · -- the only request before has the token 1
      change (9 : UInt8) = dialogTokenOf 0 at htoken
      exact absurd htoken (by decide)
    · cases hi
    · cases hi

/-- Requests and their confirmations in turn. -/
def confirmedInTurn (k : ℕ) : WirelessCall := if k % 2 = 0 then .syncInterval else .confirm (k / 2)

/-- Such a schedule pairs its requests. -/
theorem confirmedInTurn_paired :
    Pairing.machine.Delivers .start confirmedInTurn 6 ∧
      ∀ σ, Performs confirmedInTurn σ 6 →
        ∀ k < 6, PairedAt confirmedInTurn (.new (fun _ => 0) 0 0 0) σ k := by
  have hdelivers : Pairing.machine.Delivers .start confirmedInTurn 6 := by decide
  exact ⟨hdelivers,
    (dialogs_paired_iff (fun _ => 0) 0 0 0 confirmedInTurn 6 hdelivers).mpr (by decide)⟩

end Gptp
