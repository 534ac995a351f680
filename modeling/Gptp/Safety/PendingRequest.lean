import Gptp.Safety.Deferral
import Gptp.Safety.PeerRate

/-!
# Requests that stay pending

A Pdelay_Req is stored with the timestamp `PDELAY_PENDING_TIMESTAMP` and then sent; sending it replaces
the timestamp by the time of transmission, or by `INVALID_TIMESTAMP`. A follow-up that finds the pending
timestamp is deferred, in the expectation that the request is just being sent. But `sendPort` returns
at once while peer delay requests are halted, and nothing keeps the interval timer from running then: a
Signalling message starts it. The request that is stored in such a step stays pending
(`Daemon.LeavesPending`), and every follow-up to it is deferred.
-/

namespace Gptp

open Framework

variable {F : Type}

namespace Daemon

/-- The stored request, if any, is not pending; the nanoseconds are what the source tests. -/
def RequestResolved (d : Daemon F) : Prop :=
  ∀ req, d.port.pdelay.lastPDelayReq = some req →
    req.timestamp.nanoseconds ≠ Timestamp.pdelayPending.nanoseconds

/-- The input makes the port store a request that stays pending: requests are halted, or the timestamp
of the transmission looks like a pending one. -/
def LeavesPending (d : Daemon F) (i : Input) : Prop :=
  d.handledEvent i = some .pdelayIntervalTimeoutExpires ∧
    (d.port.pdelay.pdelayHalted = true ∨
      (d.getTxTimestamp i.env).1.nanoseconds = Timestamp.pdelayPending.nanoseconds)

/-- From `d` to `d'` a request was stored with the time of its transmission, or with
`INVALID_TIMESTAMP` if there is none. -/
def StoresSent (env : Env) (d d' : Daemon F) : Prop :=
  ∃ req, d'.port.pdelay.lastPDelayReq = some req ∧
    ((∃ ts, env.txTimestamp = some ts ∧ req.timestamp = (d.getTxTimestamp env).1) ∨
      req.timestamp = Timestamp.invalid)

variable {d : Daemon F} {i : Input}

/-- A transmit timestamp is the time of the transmission or invalid. -/
theorem getTxTimestamp_cases (env : Env) (d : Daemon F) :
    (∃ ts, env.txTimestamp = some ts) ∨ (d.getTxTimestamp env).1 = Timestamp.invalid := by
  unfold getTxTimestamp
  cases env.txTimestamp with
  | none => exact .inr rfl
  | some ts => exact .inl ⟨ts, rfl⟩

variable [Platform F]

/-- **Step lemma.** -/
theorem RequestResolved.step_iff (h : d.RequestResolved) :
    (d.step i).RequestResolved ↔ ¬ d.LeavesPending i := by
  by_cases hevent : d.handledEvent i = some .pdelayIntervalTimeoutExpires
  · obtain ⟨req, hreq, htimestamp⟩ := storedRequest_step.1 hevent
    have hresolved : (d.step i).RequestResolved ↔
        req.timestamp.nanoseconds ≠ Timestamp.pdelayPending.nanoseconds := by
      unfold RequestResolved
      simp only [hreq, Option.some.injEq, forall_eq']
    rw [hresolved, htimestamp, LeavesPending, and_iff_right hevent]
    split_ifs with hhalted
    · simp [hhalted]
    · simp [hhalted]
  · -- the request stays
    refine iff_of_true ?_ fun hleaves => hevent hleaves.1
    unfold RequestResolved
    rw [storedRequest_step.2 hevent]
    exact h

/-- A request that does not stay pending has been sent. -/
theorem storesSent_of_not_leavesPending (hevent : d.handledEvent i = some .pdelayIntervalTimeoutExpires)
    (h : ¬ d.LeavesPending i) : d.StoresSent i.env (d.step i) := by
  obtain ⟨req, hreq, htimestamp⟩ := storedRequest_step.1 hevent
  have hhalted : ¬ d.port.pdelay.pdelayHalted = true := fun hhalted => h ⟨hevent, .inl hhalted⟩
  rw [if_neg hhalted] at htimestamp
  refine ⟨req, hreq, ?_⟩
  rcases getTxTimestamp_cases i.env d with ⟨ts, hts⟩ | hinvalid
  · exact .inl ⟨ts, hts, htimestamp⟩
  · exact .inr (htimestamp.trans hinvalid)

end Daemon

/-- **Requests are resolved.** In every state of a run the stored request is not pending, and each
PDELAY_INTERVAL_TIMEOUT_EXPIRES stores its request with the time of transmission or with
`INVALID_TIMESTAMP`, exactly if no such event is handled while requests are halted, and no time of
transmission looks like a pending one. -/
theorem requestResolved_iff [Platform F] (s : Start F) (σ : ℕ → Input) (n : ℕ) :
    ((∀ k ≤ n, ∀ req, ((machine F).stateAt s.daemon σ k).port.pdelay.lastPDelayReq = some req →
        req.timestamp.nanoseconds ≠ Timestamp.pdelayPending.nanoseconds) ∧
      ∀ k < n, let d := (machine F).stateAt s.daemon σ k
        d.handledEvent (σ k) = some .pdelayIntervalTimeoutExpires →
          d.StoresSent (σ k).env (d.step (σ k))) ↔
    ∀ k < n, ¬ ((machine F).stateAt s.daemon σ k).LeavesPending (σ k) := by
  have hinit : s.daemon.RequestResolved := by
    intro req hreq
    rw [s.hasReceivedNothing_daemon.lastPDelayReq] at hreq
    cases hreq
  have hresolved := holds_iff_no_breach (n := n)
    (p := fun k => ((machine F).stateAt s.daemon σ k).RequestResolved) hinit
    fun k _ hk => hk.step_iff (i := σ k)
  constructor
  · exact fun h => hresolved.mp h.1
  · intro h
    exact ⟨hresolved.mpr h, fun k hk hevent =>
      Daemon.storesSent_of_not_leavesPending hevent (h k hk)⟩

/-- **A request that stays pending.** LINKDOWN halts requests, a Signalling message starts the interval
timer, and its expiry stores a request that is never sent. The follow-up to it is deferred, and
deferred again when the deferral is due. -/
theorem singleDeferral_pending :
    let d (k : ℕ) := (machine ℚ).stateAt (Start.standard localIdentity).daemon singleDeferral k
    (machine ℚ).Delivers (Start.standard localIdentity).daemon singleDeferral 7 ∧
      (d 3).handledEvent (singleDeferral 3) = some .pdelayIntervalTimeoutExpires ∧
      (d 4).port.pdelay.lastPDelayReq.map (·.timestamp) = some Timestamp.pdelayPending ∧
      (d 7).port.pdelay.lastPDelayReq.map (·.timestamp) = some Timestamp.pdelayPending ∧
      ((d 7).timersOf .pdelayDeferredProcessing).length = 1 := by
  decide +kernel

end Gptp
