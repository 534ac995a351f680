import Gptp.Framework.Machine
import Gptp.Message.Types

/-!
# Timing measurement on a wireless port

On a wireless link the driver measures time. A master requests a timing measurement at every Sync
interval, and the driver confirms the request with the times T1 and T4 of the action frame and its
acknowledgement; these times, and the Follow_Up that goes with them, are sent with the next request. At
the slave the driver indicates each frame with the times T2 and T3 of its reception, together with T1 and
T4 of the frame before.

Both sides keep what the next frame will refer to in one slot of the port, `prev_dialog`. Requests,
confirmations and indications all write it.

* `WirelessPort.syncInterval`, `timingMeasurementConfirmCB`, `timeMeasurementIndicationCB`: the three
  writers.
* `wirelessMachine`: a port among the calls its driver and its timer make.

The handlers are taken to run one at a time. A confirmation that comes in while a request is being made
finds the slot of the request before, and what it writes is overwritten: it counts as missing.
-/

namespace Gptp

open Framework

/-- `WirelessDialog`. -/
structure WirelessDialog where
  action : Timestamp
  actionDevclk : UInt64
  ack : Timestamp
  ackDevclk : UInt64
  dialogToken : UInt8
  fwupSeq : UInt16
  deriving DecidableEq

/-- `FwUpLabel_t`. -/
structure FwUpLabel where
  oui : UInt8 × UInt8 × UInt8
  type : UInt8

/-- `TIMINGMSMT_REQUEST`, with the Follow_Up that the buffer holds behind it. -/
structure TimingMeasurementRequest where
  peerMACAddress : Fin 6 → UInt8
  category : UInt8
  action : UInt8
  dialogToken : UInt8
  followUpDialogToken : UInt8
  t1 : UInt32
  t4 : UInt32
  elementId : UInt8
  /-- `WiFiVSpecHdr.Length`; a length of 0 means that there is no Follow_Up element. -/
  length : UInt8
  fwUpLabel : FwUpLabel
  fwupData : Option PTPMessageFollowUp

/-- What a port asks of others. -/
inductive WirelessEffect where
  /-- `_requestTimingMeasurement`. -/
  | requestTimingMeasurement (req : TimingMeasurementRequest)
  /-- `CommonPort::setLinkDelay`. -/
  | setLinkDelay (delay : Int64)
  /-- `PTPMessageFollowUp::processMessage(port, sync_arrival)`. -/
  | processFollowUp (m : PTPMessageFollowUp) (syncArrival : Timestamp)

/-- The part of `WirelessPort` that timing measurements use. -/
structure WirelessPort where
  peerAddr : Fin 6 → UInt8
  prevDialog : WirelessDialog
  /-- `sync_sequence_id`. -/
  syncSequenceId : UInt16
  /-- What the port has asked for in the current step. -/
  effects : List WirelessEffect

/-- The dialog token of the request with a sequence number: between 1 and `MAX_DIALOG_TOKEN`. -/
def dialogTokenOf (seq : UInt16) : UInt8 := (seq % 255 + 1).toUInt8

/-- The octets `PTPMessageFollowUp::buildMessage` writes. -/
def followUpLength : UInt8 := 34 + 10 + 32

namespace WirelessPort

/-- `WirelessPort::WirelessPort`. Apart from its token, the numbers in the slot are not initialized. -/
def new (peerAddr : Fin 6 → UInt8) (actionDevclk ackDevclk : UInt64) (fwupSeq : UInt16) :
    WirelessPort where
  peerAddr := peerAddr
  prevDialog := ⟨Timestamp.zero, actionDevclk, Timestamp.zero, ackDevclk, 0, fwupSeq⟩
  syncSequenceId := 0
  effects := []

/-- `WirelessPort::setPrevDialog`. -/
def setPrevDialog (dialog : WirelessDialog) (p : WirelessPort) : WirelessPort :=
  { p with prevDialog := dialog }

def emit (x : WirelessEffect) (p : WirelessPort) : WirelessPort := { p with effects := p.effects ++ [x] }

/-- The request that `requestTimingMeasurement` fills in. -/
def timingMeasurementRequest (dest : Fin 6 → UInt8) (seq : UInt16) (prevDialog : WirelessDialog)
    (followUp : Option PTPMessageFollowUp) : TimingMeasurementRequest :=
  let fills : Bool := prevDialog.dialogToken ≠ 0 && prevDialog.actionDevclk ≠ 0
  { peerMACAddress := dest
    category := 0
    action := 0
    dialogToken := dialogTokenOf seq
    followUpDialogToken := prevDialog.dialogToken
    t1 := if fills then prevDialog.actionDevclk.toUInt32 else 0
    t4 := if fills then prevDialog.ackDevclk.toUInt32 else 0
    elementId := 0xDD
    length := if fills then followUpLength + 4 else 0
    fwUpLabel := if fills then ⟨(0x00, 0x80, 0xC2), 0⟩ else ⟨(0, 0, 0), 0⟩
    fwupData := followUp }

/-- `WirelessTimestamper::requestTimingMeasurement`. The time of the acknowledgement in the new dialog is
not initialized. -/
def requestTimingMeasurement (dest : Fin 6 → UInt8) (seq : UInt16)
    (followUp : Option PTPMessageFollowUp) (ackDevclk : UInt64) (p : WirelessPort) : WirelessPort :=
  (p.emit (.requestTimingMeasurement (timingMeasurementRequest dest seq p.prevDialog followUp))
    ).setPrevDialog
    { action := Timestamp.zero
      actionDevclk := 0
      ack := Timestamp.zero
      ackDevclk := ackDevclk
      dialogToken := dialogTokenOf seq
      fwupSeq := seq }

/-- The Follow_Up that goes with a request: it is about the dialog in the slot. -/
def followUpFor (p : WirelessPort) (followUp : PTPMessageFollowUp) : Option PTPMessageFollowUp :=
  if p.prevDialog.dialogToken ≠ 0 then
    some { followUp with
      sequenceId := p.prevDialog.fwupSeq
      preciseOriginTimestamp := p.prevDialog.action }
  else none

/-- SYNC_INTERVAL_TIMEOUT_EXPIRES in `WirelessPort::_processEvent`, where `followUp` is what
`PTPMessageFollowUp(port)` builds. -/
def syncInterval (followUp : PTPMessageFollowUp) (ackDevclk : UInt64) (p : WirelessPort) :
    WirelessPort :=
  let seq := p.syncSequenceId
  requestTimingMeasurement p.peerAddr seq (p.followUpFor followUp) ackDevclk
    { p with syncSequenceId := seq + 1 }

/-- `WirelessTimestamper::timingMeasurementConfirmCB`. -/
def timingMeasurementConfirmCB (dialog : WirelessDialog) (p : WirelessPort) : WirelessPort :=
  let dialog := { dialog with action := dialog.action.set64 (dialog.actionDevclk * 10) }
  -- the token alone tells whether the awaited request is confirmed
  if dialog.dialogToken = p.prevDialog.dialogToken then
    p.setPrevDialog { dialog with fwupSeq := p.prevDialog.fwupSeq }
  else p

/-- The link delay that an indication is taken to have measured: from the times of the previous frame at
the peer and in the slot. -/
def indicatedLinkDelay (previous prevLocal : WirelessDialog) : Int64 :=
  -- the differences are taken of 64-bit numbers and cut down to `unsigned`
  let roundTrip := (previous.ackDevclk * 10 - previous.actionDevclk * 10).toUInt32
  let turnAround := (prevLocal.ackDevclk - prevLocal.actionDevclk).toUInt32
  ((roundTrip - turnAround) / 2).toUInt64.toInt64

/-- `WirelessTimestamper::timeMeasurementIndicationCB`, where `fwup` is the Follow_Up found in the
frame. -/
def timeMeasurementIndicationCB (current previous : WirelessDialog)
    (fwup : Option PTPMessageFollowUp) (p : WirelessPort) : WirelessPort :=
  let actionDevclk := current.actionDevclk * 10
  let current := { current with
    actionDevclk := actionDevclk
    ackDevclk := current.ackDevclk * 10
    action := current.action.set64 actionDevclk }
  let prevLocal := p.prevDialog
  let p := match fwup with
    | some m =>
      if previous.dialogToken = prevLocal.dialogToken ∧ previous.actionDevclk ≠ 0 then
        (p.emit (.setLinkDelay (indicatedLinkDelay previous prevLocal))).emit
          (.processFollowUp m prevLocal.action)
      else p
    | none => p
  -- in any case, and with whatever `fwup_seq` the driver's dialog has
  p.setPrevDialog current

end WirelessPort

/-- A call that a wireless port receives. -/
inductive WirelessInput where
  /-- The Sync interval timer has expired on a port that is `asCapable`. -/
  | syncInterval (followUp : PTPMessageFollowUp) (ackDevclk : UInt64)
  /-- The driver confirms the request with the number `answers`, counting from 0. The number is for the
  observer: the port sees the dialog only. -/
  | confirm (answers : ℕ) (dialog : WirelessDialog)
  /-- The driver indicates a frame of the peer. -/
  | indication (current previous : WirelessDialog) (fwup : Option PTPMessageFollowUp)

/-- Handles one call. -/
def WirelessPort.step (p : WirelessPort) (i : WirelessInput) : WirelessPort :=
  let p := { p with effects := [] }
  match i with
  | .syncInterval followUp ackDevclk => p.syncInterval followUp ackDevclk
  | .confirm _ dialog => p.timingMeasurementConfirmCB dialog
  | .indication current previous fwup => p.timeMeasurementIndicationCB current previous fwup

/-- A port with its driver and its timer, which call it whenever they like. -/
def wirelessMachine : Machine WirelessPort WirelessInput where
  enabled _ _ := True
  step := WirelessPort.step

end Gptp
