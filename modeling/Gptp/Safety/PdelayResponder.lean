import Gptp.Port.Run
import Gptp.Safety.PhyCompensation

/-!
# Answering peer delay requests

A Pdelay_Req is answered by a Pdelay_Resp and, once that has been transmitted, by a follow-up with the
time of its transmission. The response is always right (`Daemon.Responds`). The follow-up is built from
the timestamp field of the response whether or not a timestamp was obtained: if not, the field holds
`INVALID_TIMESTAMP`, and this value is sent as the time of transmission (`pathDelayReq_answered_iff`,
`neighborReq_invalid_followUp`).
-/

namespace Gptp

variable {F : Type}

namespace Daemon

/-! ### What is sent -/

/-- The Pdelay_Resp messages sent in the current step. -/
def sentResps (d : Daemon F) : List PTPMessagePathDelayResp :=
  d.effects.filterMap fun
    | .send (.pathDelayResp m) => some m
    | _ => none

/-- The Pdelay_Resp_Follow_Up messages sent in the current step. -/
def sentRespFollowUps (d : Daemon F) : List PTPMessagePathDelayRespFollowUp :=
  d.effects.filterMap fun
    | .send (.pathDelayRespFollowUp m) => some m
    | _ => none

/-- The compensated time of a transmission, if it was obtained. -/
def txTimestamp (env : Env) (d : Daemon F) : Option Timestamp :=
  if (d.getTxTimestamp env).2 then some (d.getTxTimestamp env).1 else none

/-- One Pdelay_Resp has been sent, with the sequence number, the sender and the time of arrival of
the request. -/
def Responds (req : PTPMessagePathDelayReq) (d : Daemon F) : Prop :=
  ∃ resp, d.sentResps = [resp] ∧ resp.sequenceId = req.sequenceId ∧
    resp.requestingPortIdentity = req.sourcePortIdentity ∧
    resp.requestReceiptTimestamp = req.timestamp

/-- A follow-up to the request has been sent exactly if the response was timestamped, and then one,
with the sequence number and the sender of the request and a normalised time of transmission. -/
def FollowsUp (req : PTPMessagePathDelayReq) (sent : Option Timestamp) (d : Daemon F) : Prop :=
  match sent with
  | none => d.sentRespFollowUps = []
  | some t => t.Normalized ∧ ∃ m, d.sentRespFollowUps = [m] ∧ m.sequenceId = req.sequenceId ∧
      m.requestingPortIdentity = req.sourcePortIdentity ∧ m.responseOriginTimestamp = t

/-! ### Requests -/

/-- The effects of handling a request. -/
theorem effects_processPathDelayReq (env : Env) (req : PTPMessagePathDelayReq) {d : Daemon F}
    (hstate : d.port.portState.ignoresMessages = false) :
    (d.processPathDelayReq env req).1.effects = d.effects ++
      [.send (.pathDelayResp (d.pathDelayRespMessage env req)),
        .send (.pathDelayRespFollowUp
          (d.pathDelayRespFollowUpMessage req (d.pathDelayRespMessage env req)))] := by
  unfold processPathDelayReq
  rw [hstate, if_neg Bool.false_ne_true]
  simp

variable [Platform F]

/-- A step that receives a request, in a port that is neither DISABLED nor FAULTY. -/
theorem effects_step_of_pathDelayReq {d : Daemon F} {i : Input} {m : PTPMessagePathDelayReq}
    {linkSpeed : UInt32} (hi : i.stimulus = .receive (.pathDelayReq m) linkSpeed)
    (hdisabled : d.port.portState ≠ .ptpDisabled) (hfaulty : d.port.portState ≠ .ptpFaulty) :
    (d.step i).effects =
      let req := { m with timestamp := rxCompensate d.port.cfg linkSpeed m.timestamp }
      [.send (.pathDelayResp (d.pathDelayRespMessage i.env req)),
        .send (.pathDelayRespFollowUp
          (d.pathDelayRespFollowUpMessage req (d.pathDelayRespMessage i.env req)))] := by
  have hstate : d.port.portState.ignoresMessages = false := by
    simp [PortState.ignoresMessages, hdisabled, hfaulty]
  rw [step, hi]
  exact effects_processPathDelayReq (d := { d with effects := [] }) i.env _ hstate

end Daemon

/-- **Peer delay requests are answered.** The response is always sent, with the data of the request. The
follow-up is right exactly if the transmission of the response was timestamped (by a timestamp that
compensation leaves normalised; see `Daemon.normalized_getTxTimestamp`). -/
theorem pathDelayReq_answered_iff [Platform F] (d : Daemon F) (i : Input) (m : PTPMessagePathDelayReq)
    (linkSpeed : UInt32) (hi : i.stimulus = .receive (.pathDelayReq m) linkSpeed)
    (hdisabled : d.port.portState ≠ .ptpDisabled) (hfaulty : d.port.portState ≠ .ptpFaulty) :
    let req := { m with timestamp := Daemon.rxCompensate d.port.cfg linkSpeed m.timestamp }
    (d.step i).Responds req ∧
      ((d.step i).FollowsUp req (d.txTimestamp i.env) ↔
        ∃ t, d.txTimestamp i.env = some t ∧ t.Normalized) := by
  intro req
  have heffects := Daemon.effects_step_of_pathDelayReq hi hdisabled hfaulty
  have hresps : (d.step i).sentResps = [d.pathDelayRespMessage i.env req] := by
    rw [Daemon.sentResps, heffects]
    rfl
  have hfollowUps : (d.step i).sentRespFollowUps =
      [d.pathDelayRespFollowUpMessage req (d.pathDelayRespMessage i.env req)] := by
    rw [Daemon.sentRespFollowUps, heffects]
    rfl
  refine ⟨⟨_, hresps, rfl, rfl, rfl⟩, ?_⟩
  unfold Daemon.FollowsUp
  cases hsent : d.txTimestamp i.env with
  | none =>
    -- the follow-up is sent all the same
    simp [hfollowUps]
  | some t =>
    -- the follow-up carries the timestamp field of the response
    have ht : (d.getTxTimestamp i.env).1 = t := by
      unfold Daemon.txTimestamp at hsent
      split at hsent
      · exact Option.some.inj hsent
      · cases hsent
    simp only [Option.some.injEq, exists_eq_left']
    exact and_iff_left_of_imp fun _ => ⟨_, hfollowUps, rfl, rfl, ht⟩

/-- A request of the neighbour. -/
def neighborReq (sequenceId : UInt16) : PTPMessagePathDelayReq where
  toPTPMessageCommon := neighborHeader sequenceId

/-- A request whose response is timestamped is answered. -/
theorem neighborReq_answered :
    let d := (Start.standard localIdentity).daemon
    let i := Input.message (.pathDelayReq (neighborReq 7))
    let req := { neighborReq 7 with
      timestamp := Daemon.rxCompensate d.port.cfg invalidLinkSpeed (neighborReq 7).timestamp }
    (d.step i).Responds req ∧ (d.step i).FollowsUp req (d.txTimestamp i.env) := by
  intro d i req
  obtain ⟨hresponds, hfollowsUp⟩ := pathDelayReq_answered_iff d i (neighborReq 7) invalidLinkSpeed rfl
    (by decide +kernel) (by decide +kernel)
  exact ⟨hresponds, hfollowsUp.mpr ⟨⟨0, 0, 0, 0⟩, by decide +kernel, by decide⟩⟩

/-- **A follow-up without a time of transmission.** No timestamp was obtained, and the follow-up says
that the response left at 3221225472 nanoseconds. -/
theorem neighborReq_invalid_followUp :
    let d := (Start.standard localIdentity).daemon
    let i : Input := ⟨.receive (.pathDelayReq (neighborReq 7)) invalidLinkSpeed,
      { Env.standard with txTimestamp := none }⟩
    d.txTimestamp i.env = none ∧
      (d.step i).sentRespFollowUps.map (fun m => (m.sequenceId, m.responseOriginTimestamp)) =
        [(7, Timestamp.invalid)] ∧
      ¬ Timestamp.invalid.Normalized := by
  decide +kernel

end Gptp
