import Gptp.Message.AnnounceRoundTrip
import Gptp.Port.Listen
import Gptp.Port.StepFootprint

/-!
# Announce messages that have been through this clock

An Announce is not to be believed if it comes from the local clock, has travelled 255 steps, or has the
local clock on its path. The handler checks all three on the decoded message (`Daemon.qualifies`), and
what it stores always passes the checks: `qualifiedAnnounce_qualifies`, over every run of the listening
daemon.

But the decoded path is not the path on the wire. The receive buffer holds the first seven identities of
a path trace; those behind are cut off, and what the decoder reads in their place is the stack.
`announce_ignored_iff` says which Announce frames that should be ignored are: those that show it in the
first 128 octets. A frame with the local clock in the eighth place can make the port a slave
(`longPath_slave`).
-/

namespace Gptp

open Framework PTPMessageAnnounce

variable {F : Type} [Platform F]

/-! ### Announce frames on the wire -/

namespace Frame

/-- The `w` octets at offset `a`, if the frame has them. -/
def field (frame : Frame) (a w : ℕ) : Option (List UInt8) :=
  if a + w ≤ frame.length then some ((frame.drop a).take w) else none

/-- The message type in the first octet is that of an Announce. -/
def IsAnnounce (frame : Frame) : Prop := ∃ b ∈ frame.head?, b &&& 0xF = 0xB

/-- The upper half of the first octet. -/
def transportSpecific (frame : Frame) : Option UInt8 :=
  frame.head?.map fun b : UInt8 => (b >>> 4) &&& 0xF

/-- `stepsRemoved` is at least 255. -/
def TooFar (frame : Frame) : Prop := ∃ bs ∈ frame.field 61 2, 255 ≤ valueBE bs

/-- The clock of the source port is `id`. -/
def SentBy (frame : Frame) (id : ClockIdentity) : Prop := frame.field 20 8 = some id.toList

/-- The body is followed by a path trace TLV with `id` at position `k`. -/
structure OnPath (frame : Frame) (id : ClockIdentity) (k : ℕ) : Prop where
  tlvType : frame.field 64 2 = some [0, 8]
  tlvLength : ∃ bs ∈ frame.field 66 2, 8 * (k + 1) ≤ valueBE bs
  identity : frame.field (68 + 8 * k) 8 = some id.toList

/-- The frame is not to be believed by the clock `id`. -/
def LoopsBack (frame : Frame) (id : ClockIdentity) : Prop :=
  frame.TooFar ∨ frame.SentBy id ∨ ∃ k, frame.OnPath id k

variable {frame : Frame} {a w : ℕ} {bs : List UInt8}

theorem field_eq_some : frame.field a w = some bs ↔
    a + w ≤ frame.length ∧ (frame.drop a).take w = bs := by
  unfold field
  split
  case isTrue h => simp [h]
  case isFalse h => simp [h]

theorem length_of_field (h : frame.field a w = some bs) : a + w ≤ frame.length :=
  (field_eq_some.mp h).1

/-- A field within the buffer is what the decoder reads. -/
theorem read_of_field (h : frame.field a w = some bs) (hfits : a + w ≤ bufferSize) (stack : Mem) :
    (frame.buffer stack).read a w = bs := by
  obtain ⟨hlength, hbs⟩ := field_eq_some.mp h
  rw [read_buffer (le_min hlength hfits), hbs]

/-- Conversely, what the decoder reads within the frame is a field. -/
theorem field_of_read {stack : Mem} (h : (frame.buffer stack).read a w = bs)
    (hcovered : a + w ≤ frame.received) : frame.field a w = some bs := by
  rw [read_buffer hcovered] at h
  exact field_eq_some.mpr ⟨hcovered.trans (min_le_left _ _), h⟩

end Frame

/-! ### The decoded Announce -/

theorem acceptHeader_announce {b : UInt8} (h : b &&& 0xF = 0xB) (rx : Option Timestamp) :
    acceptHeader b rx =
      if (b >>> 4) &&& 0xF = 1 then some (.announce, Timestamp.zero) else none := by
  unfold acceptHeader
  rw [h]
  by_cases htransport : (b >>> 4) &&& 0xF = 1
  · rw [if_pos htransport, htransport]
    rfl
  · rw [if_neg htransport]
    simp [htransport]

/-- What the handler of an Announce looks at, in terms of the octets at the buffer. -/
structure DecodedFrom (buf : Mem) (size : ℕ) (m : PTPMessageAnnounce) : Prop where
  stepsRemoved : m.stepsRemoved.toNat = valueBE (buf.read 61 2)
  source : m.sourcePortIdentity.clockId = .ofMem buf 20
  /-- The identities of the path trace, as many as both its length field and the size allow. -/
  pathTrace : m.pathTrace =
    if 8 < size ∧ valueBE (buf.read 64 2) = 8 then
      (List.range (min (size - 8) (valueBE (buf.read 66 2)) / 8)).map fun k => .ofMem buf (68 + 8 * k)
    else []

/-- An Announce that passes the checks of the first octet is decoded. -/
theorem exists_decodedFrom {buf : Mem} {size : ℕ} {rx : Option Timestamp} {ts : Timestamp}
    (haccept : acceptHeader (buf 0) rx = some (.announce, ts)) :
    ∃ m, buildPTPMessage F buf size rx = some (.announce m) ∧ DecodedFrom buf size m := by
  refine ⟨_, buildPTPMessage_eq haccept, toNat_htons_load16 buf 61, rfl, ?_⟩
  have hhas : hasPathTrace F buf size ↔ 8 < size ∧ valueBE (buf.read 64 2) = 8 := by
    rw [hasPathTrace, Bool.and_eq_true, decide_eq_true_iff, beq_iff_eq, ← UInt16.toNat_inj,
      toNat_htons_load16, PTPMessageAnnounce.tlvLength]
    refine and_congr ?_ Iff.rfl
    omega
  unfold PTPMessageAnnounce.ofMem
  dsimp only
  by_cases hpath : 8 < size ∧ valueBE (buf.read 64 2) = 8
  · rw [if_pos (hhas.mpr hpath), if_pos hpath, parseClockIdentity_eq_identitiesAt,
      traceCount_eq hpath.1, lengthField, toNat_htons_load16, PathTraceTLV.identitiesAt]
  · rw [if_neg (fun h => hpath (hhas.mp h)), if_neg hpath]

namespace DecodedFrom

variable {frame : Frame} {stack : Mem} {m : PTPMessageAnnounce} {id : ClockIdentity}
  (hm : DecodedFrom (frame.buffer stack) frame.received m)

include hm

theorem mem_pathTrace : id ∈ m.pathTrace ↔
    (8 < frame.received ∧ valueBE ((frame.buffer stack).read 64 2) = 8) ∧
      ∃ k, 8 * (k + 1) ≤ min (frame.received - 8) (valueBE ((frame.buffer stack).read 66 2)) ∧
        ClockIdentity.ofMem (frame.buffer stack) (68 + 8 * k) = id := by
  rw [hm.pathTrace]
  split
  case isTrue h =>
    rw [List.mem_map]
    refine ⟨fun ⟨k, hk, hid⟩ => ⟨h, k, ?_, hid⟩, fun ⟨_, k, hk, hid⟩ => ⟨k, ?_, hid⟩⟩
    · have := List.mem_range.mp hk
      omega
    · rw [List.mem_range]
      omega
  case isFalse h => simp [h]

/-- Too many steps are seen by the handler. -/
theorem stepsRemoved_of_tooFar (h : frame.TooFar) : 255 ≤ m.stepsRemoved := by
  obtain ⟨bs, hbs, hfar⟩ := h
  rw [UInt16.le_iff_toNat_le, hm.stepsRemoved, Frame.read_of_field hbs (by decide)]
  exact hfar

/-- A source is seen by the handler. -/
theorem source_of_sentBy (h : frame.SentBy id) : m.sourcePortIdentity.clockId = id := by
  rw [hm.source]
  exact ClockIdentity.ofMem_eq_of_read (Frame.read_of_field h (by decide) stack)

/-- One of the first seven identities is seen by the handler. -/
theorem mem_pathTrace_of_onPath {k : ℕ} (h : frame.OnPath id k) (hk : k < 7) : id ∈ m.pathTrace := by
  have hlength := Frame.length_of_field h.identity
  have hreceived : 76 + 8 * k ≤ frame.received := by
    unfold Frame.received Frame.bufferSize
    omega
  obtain ⟨bs, hbs, hcount⟩ := h.tlvLength
  rw [hm.mem_pathTrace]
  refine ⟨⟨by omega, ?_⟩, k, ?_, ?_⟩
  · rw [Frame.read_of_field h.tlvType (by decide)]
    rfl
  · rw [Frame.read_of_field hbs (by decide)]
    -- the size leaves room for more identities than the buffer holds
    omega
  · have hfits : 68 + 8 * k + 8 ≤ Frame.bufferSize := by
      unfold Frame.bufferSize
      omega
    exact ClockIdentity.ofMem_eq_of_read (Frame.read_of_field h.identity hfits stack)

/-- If the eighth identity is on the wire, only the stack decides what the decoder finds in its place
and behind: a stack without the last octet of `id` hides `id`. -/
theorem not_mem_pathTrace (hlength : Frame.bufferSize ≤ frame.length)
    (hpath : ∀ k < 7, ¬ frame.OnPath id k) (hstack : ∀ i, stack i ≠ id.id 7) :
    id ∉ m.pathTrace := by
  have hreceived : frame.received = 128 := min_eq_right hlength
  rw [hm.mem_pathTrace]
  rintro ⟨⟨-, htype⟩, k, hcount, hid⟩
  rcases lt_or_ge k 7 with hk | hk
  · -- within the buffer, the decoder reads what is on the wire
    have htlv : (frame.buffer stack).read 64 2 = [0, 8] :=
      valueBE_injective (by simp) (htype.trans rfl)
    have hidentity : (frame.buffer stack).read (68 + 8 * k) 8 = id.toList := by
      rw [← hid, ClockIdentity.toList_ofMem]
    have hlengthField : frame.field 66 2 = some ((frame.buffer stack).read 66 2) :=
      Frame.field_of_read rfl (by omega)
    exact hpath k hk
      { tlvType := Frame.field_of_read htlv (by omega)
        tlvLength := ⟨_, hlengthField, hcount.trans (min_le_right _ _)⟩
        identity := Frame.field_of_read hidentity (by omega) }
  · -- the last octet of the identity is beyond the buffer
    have hlast : frame.buffer stack (68 + 8 * k + 7) = id.id 7 :=
      congrFun (congrArg ClockIdentity.id hid) 7
    rw [Frame.buffer_of_le (by unfold Frame.bufferSize; omega)] at hlast
    exact hstack _ hlast

/-- The last octet of the eighth identity is one of the stack. -/
theorem eighth_identity {k : ℕ} (h : frame.OnPath id k) (hk : 7 ≤ k) :
    ∃ c, m.pathTrace[7]? = some c ∧ c.id 7 = stack 131 := by
  have hlength := Frame.length_of_field h.identity
  have hreceived : frame.received = 128 := by
    unfold Frame.received Frame.bufferSize
    omega
  obtain ⟨bs, hbs, hcount⟩ := h.tlvLength
  have htype : valueBE ((frame.buffer stack).read 64 2) = 8 := by
    rw [Frame.read_of_field h.tlvType (by decide)]
    rfl
  have hindex : 7 < min (frame.received - 8) (valueBE ((frame.buffer stack).read 66 2)) / 8 := by
    rw [Frame.read_of_field hbs (by decide), hreceived]
    omega
  refine ⟨.ofMem (frame.buffer stack) (68 + 8 * 7), ?_, Frame.buffer_of_le (by decide) stack⟩
  rw [hm.pathTrace, if_pos ⟨by omega, htype⟩, List.getElem?_map, List.getElem?_range hindex]
  rfl

end DecodedFrom

namespace Daemon

/-! ### Receiving a frame -/

omit [Platform F] in
theorem qualifies_iff {m : PTPMessageAnnounce} {d : Daemon F} : d.qualifies m = true ↔
    m.stepsRemoved < 255 ∧ m.sourcePortIdentity.clockId ≠ d.clock.cfg.clockIdentity ∧
      d.clock.cfg.clockIdentity ∉ m.pathTrace := by
  simp [qualifies, and_assoc]

/-- What a turn of the listening thread does with an Announce. -/
theorem qualifiedAnnounce_listen {frame : Frame} {b : UInt8} (hb : frame.head? = some b)
    (hannounce : b &&& 0xF = 0xB) (htransport : (b >>> 4) &&& 0xF = 1) (env : Env)
    (rx : Option Timestamp) (stack : Mem) (d : Daemon F) :
    ∃ m, DecodedFrom (frame.buffer stack) frame.received m ∧
      (d.listen env (.succeed frame rx stack)).1.port.qualifiedAnnounce =
        if d.qualifies m then some m else d.port.qualifiedAnnounce := by
  have haccept : acceptHeader (frame.buffer stack 0) rx = some (.announce, Timestamp.zero) := by
    rw [Frame.buffer_zero hb, acceptHeader_announce hannounce, if_pos htransport]
  obtain ⟨m, hbuild, hm⟩ := exists_decodedFrom (F := F) haccept
  refine ⟨m, hm, ?_⟩
  unfold listen processBuffer
  dsimp only
  rw [hbuild]
  exact qualifiedAnnounce_processAnnounce m _

/-- An Announce of another transport is discarded. -/
theorem listen_of_transportSpecific {frame : Frame} {b : UInt8} (hb : frame.head? = some b)
    (hannounce : b &&& 0xF = 0xB) (htransport : (b >>> 4) &&& 0xF ≠ 1) (env : Env)
    (rx : Option Timestamp) (stack : Mem) (d : Daemon F) :
    (d.listen env (.succeed frame rx stack)).1 = d := by
  have hreject : acceptHeader (frame.buffer stack 0) rx = none := by
    rw [Frame.buffer_zero hb, acceptHeader_announce hannounce, if_neg htransport]
  unfold listen processBuffer
  dsimp only
  rw [buildPTPMessage_eq_none hreject]

omit [Platform F] in
/-- What shows within the receive buffer is enough to reject the Announce. -/
theorem not_qualifies_of_visible {frame : Frame} {stack : Mem} {m : PTPMessageAnnounce}
    {d : Daemon F} (hm : DecodedFrom (frame.buffer stack) frame.received m)
    (hvisible : frame.TooFar ∨ frame.SentBy d.clock.cfg.clockIdentity ∨
      ∃ k < 7, frame.OnPath d.clock.cfg.clockIdentity k) : ¬ d.qualifies m = true := by
  rw [qualifies_iff]
  rintro ⟨hsteps, hsource, hpath⟩
  rcases hvisible with hfar | hsent | ⟨k, hk, hon⟩
  · exact absurd (hm.stepsRemoved_of_tooFar hfar) (UInt16.not_le.mpr hsteps)
  · exact hsource (hm.source_of_sentBy hsent)
  · exact hpath (hm.mem_pathTrace_of_onPath hon hk)

omit [Platform F] in
/-- What is cut off is not: over a stack that hides it, the Announce qualifies. -/
theorem qualifies_of_hidden {frame : Frame} {stack : Mem} {m : PTPMessageAnnounce} {d : Daemon F}
    (hm : DecodedFrom (frame.buffer stack) frame.received m)
    (hlength : Frame.bufferSize ≤ frame.length) (hnear : ¬ frame.TooFar)
    (hforeign : ¬ frame.SentBy d.clock.cfg.clockIdentity)
    (hpath : ∀ k < 7, ¬ frame.OnPath d.clock.cfg.clockIdentity k)
    (hstack : ∀ i, stack i ≠ d.clock.cfg.clockIdentity.id 7) : d.qualifies m = true := by
  have hreceived : frame.received = 128 := min_eq_right hlength
  rw [qualifies_iff]
  refine ⟨?_, ?_, hm.not_mem_pathTrace hlength hpath hstack⟩
  · rw [UInt16.lt_iff_toNat_lt, hm.stepsRemoved]
    by_contra hfar
    exact hnear ⟨_, Frame.field_of_read rfl (by omega), not_lt.mp hfar⟩
  · intro hsource
    have hread : (frame.buffer stack).read 20 8 = d.clock.cfg.clockIdentity.toList := by
      rw [← hsource, hm.source, ClockIdentity.toList_ofMem]
    exact hforeign (Frame.field_of_read hread (by omega))

end Daemon

/-- **Which Announce frames are ignored.** -/
theorem announce_ignored_iff (env : Env) (rx : Option Timestamp) (frame : Frame) (d : Daemon F)
    (hannounce : frame.IsAnnounce) (hloops : frame.LoopsBack d.clock.cfg.clockIdentity) :
    (∀ stack, (d.listen env (.succeed frame rx stack)).1.port.qualifiedAnnounce =
      d.port.qualifiedAnnounce) ↔
      frame.transportSpecific ≠ some 1 ∨ frame.TooFar ∨ frame.SentBy d.clock.cfg.clockIdentity ∨
        ∃ k < 7, frame.OnPath d.clock.cfg.clockIdentity k := by
  obtain ⟨b, hb, htype⟩ := hannounce
  have hhead : frame.transportSpecific = some ((b >>> 4) &&& 0xF) := by
    rw [Frame.transportSpecific, hb]
    rfl
  by_cases htransport : (b >>> 4) &&& 0xF = 1
  swap
  · refine iff_of_true (fun stack => ?_) (.inl ?_)
    · rw [Daemon.listen_of_transportSpecific hb htype htransport]
    · rw [hhead]
      exact fun h => htransport (Option.some.inj h)
  have hsupported : ¬ frame.transportSpecific ≠ some 1 := by
    rw [hhead, htransport]
    exact fun h => h rfl
  rw [or_iff_right hsupported]
  constructor
  · intro hunchanged
    by_contra hhidden
    push Not at hhidden
    obtain ⟨hnear, hforeign, hpath⟩ := hhidden
    obtain ⟨k, hon⟩ : ∃ k, frame.OnPath d.clock.cfg.clockIdentity k :=
      (hloops.resolve_left hnear).resolve_left hforeign
    have hk : 7 ≤ k := not_lt.mp fun hk => hpath k hk hon
    have hlength : Frame.bufferSize ≤ frame.length := by
      have := Frame.length_of_field hon.identity
      unfold Frame.bufferSize
      omega
    -- over a stack of octets `v` the Announce is stored, and shows `v` in its eighth identity
    have hstored (v : UInt8) (hv : v ≠ d.clock.cfg.clockIdentity.id 7) :
        ∃ m c, d.port.qualifiedAnnounce = some m ∧ m.pathTrace[7]? = some c ∧ c.id 7 = v := by
      obtain ⟨m, hm, hlisten⟩ := d.qualifiedAnnounce_listen hb htype htransport env rx fun _ => v
      have hqualifies := Daemon.qualifies_of_hidden hm hlength hnear hforeign hpath fun _ => hv
      obtain ⟨c, hc, hoctet⟩ := hm.eighth_identity hon hk
      rw [hunchanged, if_pos hqualifies] at hlisten
      exact ⟨m, c, hlisten, hc, hoctet⟩
    -- there are two such octets, and only one message that was there before
    obtain ⟨m, c, hm, hc, hoctet⟩ := hstored (d.clock.cfg.clockIdentity.id 7 + 1) (by simp)
    obtain ⟨m', c', hm', hc', hoctet'⟩ := hstored (d.clock.cfg.clockIdentity.id 7 + 2) (by simp)
    obtain rfl : m = m' := Option.some.inj (hm.symm.trans hm')
    obtain rfl : c = c' := Option.some.inj (hc.symm.trans hc')
    have hsame := hoctet.symm.trans hoctet'
    simp at hsame
  · intro hvisible stack
    obtain ⟨m, hm, hlisten⟩ := d.qualifiedAnnounce_listen hb htype htransport env rx stack
    rw [hlisten, if_neg (Daemon.not_qualifies_of_visible hm hvisible)]

/-- The frame of the neighbour's Announce with the given path, as the daemon itself would encode
it. -/
def announceFrame (path : List ClockIdentity) : Frame :=
  let m := { neighborAnnounce with pathTrace := path }
  (m.sendPort ℚ).read 0 m.payloadLength

/-- A path through the local clock that fits into the buffer: the Announce is ignored. -/
theorem shortPath_ignored :
    (announceFrame [neighborIdentity, localIdentity]).OnPath localIdentity 1 ∧
    ∀ stack, ((Start.standard localIdentity).daemon.listen .standard
        (.succeed (announceFrame [neighborIdentity, localIdentity]) none stack)).1.port.qualifiedAnnounce =
      none := by
  have hpath : (announceFrame [neighborIdentity, localIdentity]).OnPath localIdentity 1 :=
    ⟨by decide +kernel, ⟨[0, 16], by decide +kernel, by decide⟩, by decide +kernel⟩
  refine ⟨hpath, (announce_ignored_iff .standard none _ (Start.standard localIdentity).daemon
    ⟨0x1B, by decide +kernel, by decide⟩ (.inr (.inr ⟨1, hpath⟩))).mpr ?_⟩
  exact .inr (.inr (.inr ⟨1, by decide, hpath⟩))

/-- An Announce that has passed seven other clocks since it passed the local one. -/
def longPath : Frame := announceFrame (List.replicate 7 neighborIdentity ++ [localIdentity])

/-- The port is powered up, receives `longPath` over a stack of zeros, and decides on its state. -/
def longPathRun : ℕ → ThreadInput
  | 0 => .other (.ofEvent .powerup)
  | 1 => .listen .standard (.succeed longPath none fun _ => 0)
  | _ => .other (.expiry 1)

/-- **A slave to a path through itself.** The local clock is the eighth on the path, the Announce
becomes the qualified one, and the port a slave. -/
theorem longPath_slave :
    longPath.IsAnnounce ∧ longPath.OnPath localIdentity 7 ∧
      (let run := (listeningMachine ℚ).stateAt ⟨(Start.standard localIdentity).daemon, true⟩ longPathRun
       (run 1).daemon.clock.cfg.clockIdentity = localIdentity ∧
         (run 1).daemon.port.qualifiedAnnounce = none ∧
         (run 2).daemon.port.qualifiedAnnounce ≠ none ∧
         (run 3).daemon.port.portState = .ptpSlave) := by
  refine ⟨⟨0x1B, by decide +kernel, by decide⟩, ?_, by decide +kernel⟩
  exact ⟨by decide +kernel, ⟨[0, 64], by decide +kernel, by decide⟩, by decide +kernel⟩

/-! ### Runs -/

namespace Daemon

/-- A step keeps the qualified announce, drops it, or stores one that qualifies. -/
theorem qualifiedAnnounce_step (d : Daemon F) (i : Input) :
    (d.step i).port.qualifiedAnnounce = d.port.qualifiedAnnounce ∨
      (d.step i).port.qualifiedAnnounce = none ∨
      ∃ m, d.qualifies m = true ∧ (d.step i).port.qualifiedAnnounce = some m := by
  by_cases hannounce : ∃ m linkSpeed, i.stimulus = .receive (.announce m) linkSpeed
  · obtain ⟨m, linkSpeed, hi⟩ := hannounce
    have hstep : (d.step i).port.qualifiedAnnounce =
        if d.qualifies m then some m else d.port.qualifiedAnnounce := by
      unfold step
      rw [hi]
      exact qualifiedAnnounce_processAnnounce m _
    rw [hstep]
    split
    case isTrue hqualifies => exact .inr (.inr ⟨m, hqualifies, rfl⟩)
    case isFalse => exact .inl rfl
  by_cases hreceipt : ∃ e, d.handledEvent i = some e ∧
      (e = .announceReceiptTimeoutExpires ∨ e = .syncReceiptTimeoutExpires)
  · obtain ⟨e, he, hreceipt⟩ := hreceipt
    obtain ⟨d₀, -, hport, hstep⟩ := step_of_handledEvent he
    rw [hstep, d₀.qualifiedAnnounce_receiptTimeout i.env hreceipt, hport]
    split
    · exact .inl rfl
    · exact .inr (.inl rfl)
  -- nothing else touches it
  refine .inl (read_step (l := .qualifiedAnnounce) (fun e he => ⟨nofun, ?_⟩) (fun msg linkSpeed hi _ => ?_)
    nofun)
  · have hnot : ¬ (e = .announceReceiptTimeoutExpires ∨ e = .syncReceiptTimeoutExpires) :=
      fun h => hreceipt ⟨e, he, h⟩
    cases e <;> first | decide | exact absurd (.inl rfl) hnot | exact absurd (.inr rfl) hnot
  · cases msg with
    | announce m => exact absurd ⟨m, linkSpeed, hi⟩ hannounce
    | _ => dsimp only [PTPMessage.footprint]; decide

end Daemon

/-- **What is qualified qualifies.** In every state a listening daemon reaches, the qualified announce
as it was decoded has come fewer than 255 steps, from another clock, and has not been through the local
clock. -/
theorem qualifiedAnnounce_qualifies (s : Start F) {τ : ℕ → ThreadInput} {n : ℕ}
    (hdelivers : (listeningMachine F).Delivers ⟨s.daemon, true⟩ τ n) {m : PTPMessageAnnounce}
    (hm : ((listeningMachine F).stateAt ⟨s.daemon, true⟩ τ n).daemon.port.qualifiedAnnounce = some m) :
    ((listeningMachine F).stateAt ⟨s.daemon, true⟩ τ n).daemon.qualifies m = true := by
  have hinit := s.hasReceivedNothing_daemon.qualifiedAnnounce
  obtain ⟨σ, k, -, hstate⟩ := listening_simulates s.daemon hdelivers
  rw [← hstate] at hm ⊢
  refine Machine.invariant_all (M := machine F)
    (P := fun d => ∀ m, d.port.qualifiedAnnounce = some m → d.qualifies m = true)
    (fun m hm => absurd (hinit.symm.trans hm) nofun) (fun d i hinv m hm => ?_) k m hm
  -- the rule reads the configuration only, so an announce that qualified still does
  have hconfig : Daemon.qualifies m (d.step i) = d.qualifies m := by
    rw [Daemon.qualifies, Daemon.qualifies, (d.step_cfg i).1]
  change Daemon.qualifies m (d.step i) = true
  rw [hconfig]
  change (d.step i).port.qualifiedAnnounce = some m at hm
  rcases d.qualifiedAnnounce_step i with hkept | hdropped | ⟨m', hqualifies, hstored⟩
  · exact hinv m (hkept.symm.trans hm)
  · exact absurd (hdropped.symm.trans hm) nofun
  · obtain rfl : m' = m := Option.some.inj (hstored.symm.trans hm)
    exact hqualifies

end Gptp
