import Gptp.Message.PathTrace

/-!
# How far the decoder reads

`buildPTPMessage` should depend on nothing but the octets of the frame. For the messages whose length
it checks this is so; Pdelay_Resp_Follow_Up, Announce and Signalling messages are decoded whatever the
size of the frame. An Announce reads far: its common header is taken from behind the body, and its path
trace ends where its length field says.

* `extent`: the first offset the decoded fields do not depend on, for the types without a check.
* `parseBody_congr`, `buildPTPMessage_congr`: a frame that covers its extent determines the result.
* `not_determined_announce` and its companions: a frame that does not cover its extent does not.
* `determined_iff`: both together.
-/

namespace Gptp

open Framework

variable {F : Type} [Platform F] {buf buf' : Mem} {n a : ℕ}

/-! ### Loads within a common prefix -/

section Congr

variable (h : Mem.AgreeBelow n buf buf')

include h

theorem load16_congr (ha : a + 2 ≤ n) : load16 F buf a = load16 F buf' a := by
  rw [load16, load16, h.read ha]

theorem load32_congr (ha : a + 4 ≤ n) : load32 F buf a = load32 F buf' a := by
  rw [load32, load32, h.read ha]

theorem load64_congr (ha : a + 8 ≤ n) : load64 F buf a = load64 F buf' a := by
  rw [load64, load64, h.read ha]

theorem ClockIdentity.ofMem_congr (ha : a + 8 ≤ n) :
    ClockIdentity.ofMem buf a = ClockIdentity.ofMem buf' a := by
  have hoctet (i : Fin 8) : buf (a + i) = buf' (a + i) := h _ (by omega)
  rw [ClockIdentity.ofMem, ClockIdentity.ofMem, funext hoctet]

theorem PortIdentity.ofMem_congr {p : ℕ} (ha : a + 8 ≤ n) (hp : p + 2 ≤ n) :
    PortIdentity.ofMem F buf a p = PortIdentity.ofMem F buf' a p := by
  rw [PortIdentity.ofMem, PortIdentity.ofMem, ClockIdentity.ofMem_congr h ha, load16_congr h hp]

theorem Timestamp.ofMem_congr (ha : a + 10 ≤ n) :
    Timestamp.ofMem F buf a = Timestamp.ofMem F buf' a := by
  simp (disch := omega) only [Timestamp.ofMem, load16_congr h, load32_congr h]

theorem FollowUpTLV.ofMem_congr (ha : a + 32 ≤ n) :
    FollowUpTLV.ofMem F buf a = FollowUpTLV.ofMem F buf' a := by
  simp (disch := omega) only [FollowUpTLV.ofMem, load16_congr h, load32_congr h, load64_congr h,
    h _]

theorem SignallingTLV.ofMem_congr (ha : a + 16 ≤ n) :
    SignallingTLV.ofMem F buf a = SignallingTLV.ofMem F buf' a := by
  simp (disch := omega) only [SignallingTLV.ofMem, load16_congr h, h _]

theorem PTPMessageCommon.ofMem_congr (ha : a + 36 ≤ n) (src : PortIdentity) (seq : UInt16)
    (ts : Timestamp) :
    PTPMessageCommon.ofMem F buf a src seq ts = PTPMessageCommon.ofMem F buf' a src seq ts := by
  simp (disch := omega) only [PTPMessageCommon.ofMem, load16_congr h, load32_congr h,
    load64_congr h, h _]

end Congr

/-! ### The path trace -/

namespace PTPMessageAnnounce

theorem hasPathTrace_congr {size : ℕ} (h : buf.read 64 2 = buf'.read 64 2) :
    hasPathTrace F buf size = hasPathTrace F buf' size := by
  rw [hasPathTrace, hasPathTrace, load16, load16, h]

/-- The length field of the path trace TLV. -/
def lengthField (F : Type) [Platform F] (buf : Mem) : ℕ := (htons F (load16 F buf 66)).toNat

/-- The number of identities read from the path trace of an Announce of the given size. -/
def traceCount (F : Type) [Platform F] (buf : Mem) (size : ℕ) : ℕ :=
  PathTraceTLV.identityCount F buf 66 (tlvLength size - 2).toNat

theorem traceCount_congr {size : ℕ} (h : buf.read 66 2 = buf'.read 66 2) :
    traceCount F buf size = traceCount F buf' size := by
  rw [traceCount, traceCount, PathTraceTLV.identityCount, PathTraceTLV.identityCount, load16, load16, h]

/-- The identities of the path trace are those behind its length field. -/
theorem parseClockIdentity_eq_identitiesAt (buf : Mem) (size : ℕ) :
    PathTraceTLV.parseClockIdentity F buf 66 (tlvLength size - 2).toNat =
      PathTraceTLV.identitiesAt buf (traceCount F buf size) 68 := rfl

/-- At most as many identities are read as fit into `size - 8` octets. (There is room for 60 octets
less.) -/
theorem traceCount_eq {size : ℕ} (hsize : 8 < size) :
    traceCount F buf size = min (size - 8) (lengthField F buf) / 8 := by
  have hroom : (tlvLength size - 2).toNat - 2 = size - 8 := by
    rw [tlvLength]
    omega
  rw [traceCount, PathTraceTLV.identityCount_eq, hroom, ← lengthField]

/-- The path trace stays within the frame exactly if its length field says so: the bound computed from
the size is too large to matter. -/
theorem traceCount_le_iff {size : ℕ} (hsize : 8 < size) :
    68 + 8 * traceCount F buf size ≤ size ↔ 68 + 8 * (lengthField F buf / 8) ≤ size := by
  rw [traceCount_eq hsize]
  rcases le_total (size - 8) (lengthField F buf) with h | h
  · rw [min_eq_left h]
    omega
  · rw [min_eq_right h]

end PTPMessageAnnounce

open PTPMessageAnnounce

/-! ### Extents -/

variable (F) in
/-- Where the fields decoded without a check of the size end. -/
def extent (buf : Mem) (size : ℕ) : MessageType → ℕ
  | .pathDelayFollowup => 54
  | .signalling => 60
  | .announce =>
    if hasPathTrace F buf size then max 102 (68 + 8 * (lengthField F buf / 8)) else 100
  | _ => 0

variable {size : ℕ} {rx : Option Timestamp}

theorem extent_of_hasPathTrace (h : hasPathTrace F buf size) :
    extent F buf size .announce = max 102 (68 + 8 * (lengthField F buf / 8)) := if_pos h

theorem extent_of_not_hasPathTrace (h : ¬ hasPathTrace F buf size) :
    extent F buf size .announce = 100 := if_neg h

theorem le_extent_announce : 100 ≤ extent F buf size .announce := by
  by_cases h : hasPathTrace F buf size
  · rw [extent_of_hasPathTrace h]
    omega
  · rw [extent_of_not_hasPathTrace h]

/-- An Announce that covers its extent determines its path trace. -/
theorem PTPMessageAnnounce.ofMem_congr (h : Mem.AgreeBelow size buf buf')
    (hext : extent F buf size .announce ≤ size) (common : PTPMessageCommon) :
    PTPMessageAnnounce.ofMem F buf size common = PTPMessageAnnounce.ofMem F buf' size common := by
  have hsize : 100 ≤ size := le_extent_announce.trans hext
  have htrace : hasPathTrace F buf size = hasPathTrace F buf' size :=
    hasPathTrace_congr (h.read (by omega))
  -- the identities lie inside the bytes both buffers share, as the extent counts them
  have hpath : hasPathTrace F buf size →
      PathTraceTLV.parseClockIdentity F buf 66 (tlvLength size - 2).toNat =
        PathTraceTLV.parseClockIdentity F buf' 66 (tlvLength size - 2).toNat := by
    intro hhas
    rw [extent_of_hasPathTrace hhas] at hext
    have hfits : 68 + 8 * traceCount F buf size ≤ size :=
      (traceCount_le_iff (by omega)).mpr (le_trans (le_max_right _ _) hext)
    rw [parseClockIdentity_eq_identitiesAt, parseClockIdentity_eq_identitiesAt,
      ← traceCount_congr (h.read (by omega))]
    refine List.map_congr_left fun k hk => ClockIdentity.ofMem_congr h ?_
    have := List.mem_range.mp hk
    omega
  unfold PTPMessageAnnounce.ofMem
  rw [← htrace]
  cases hhas : hasPathTrace F buf size
  · simp (disch := omega) only [load16_congr h, ClockIdentity.ofMem_congr h, h _,
      Bool.false_eq_true, if_false]
  · simp (disch := omega) only [load16_congr h, ClockIdentity.ofMem_congr h, h _, hpath hhas,
      if_true]

/-- A frame that covers its extent determines everything but the common header. -/
theorem parseBody_congr (h : Mem.AgreeBelow size buf buf') (t : MessageType)
    (hext : extent F buf size t ≤ size) : parseBody F buf size t = parseBody F buf' size t := by
  cases t with
  | sync =>
    simp only [parseBody]
    split
    · rfl
    · simp (disch := omega) only [load16_congr h, load32_congr h]
  | followup =>
    simp only [parseBody]
    split
    · rfl
    · rw [Timestamp.ofMem_congr h (by omega), FollowUpTLV.ofMem_congr h (by omega)]
  | pathDelayReq => rfl
  | pathDelayResp =>
    simp only [parseBody]
    split
    · rfl
    · rw [PortIdentity.ofMem_congr h (by omega) (by omega), Timestamp.ofMem_congr h (by omega)]
  -- this one and the next two read without a check of the size
  | pathDelayFollowup =>
    have hsize : 54 ≤ size := hext
    simp only [parseBody]
    rw [PortIdentity.ofMem_congr h (by omega) (by omega), Timestamp.ofMem_congr h (by omega)]
  | announce =>
    have hsize : 100 ≤ size := le_extent_announce.trans hext
    have htrace : hasPathTrace F buf size = hasPathTrace F buf' size :=
      hasPathTrace_congr (h.read (by omega))
    simp only [parseBody, PTPMessageAnnounce.ofMem_congr h hext, htrace]
  | signalling =>
    have hsize : 60 ≤ size := hext
    simp only [parseBody]
    rw [h 34 (by omega), SignallingTLV.ofMem_congr h (by omega)]
  | delayReq | delayResp | management => rfl

/-- A frame that covers its extent covers the common header, wherever that is read. -/
theorem base_le_of_parseBody {t : MessageType} {message : PTPMessageCommon → PTPMessage} {base : ℕ}
    (hparse : parseBody F buf size t = some (message, base)) (hext : extent F buf size t ≤ size) :
    base + 36 ≤ size ∧ 32 ≤ size := by
  cases t with
  -- these check the size themselves
  | sync | followup | pathDelayReq | pathDelayResp =>
    simp only [parseBody, Option.ite_none_left_eq_some] at hparse
    obtain ⟨hsize, hparse⟩ := hparse
    cases hparse
    omega
  -- the others do not; their extent is what bounds them
  | pathDelayFollowup =>
    cases hparse
    have hsize : 54 ≤ size := hext
    omega
  | signalling =>
    cases hparse
    have hsize : 60 ≤ size := hext
    omega
  | announce =>
    cases hparse
    by_cases hhas : hasPathTrace F buf size
    · rw [extent_of_hasPathTrace hhas] at hext
      rw [if_pos hhas]
      omega
    · rw [extent_of_not_hasPathTrace hhas] at hext
      rw [if_neg hhas]
      omega
  | delayReq | delayResp | management => cases hparse

/-- **A frame that covers its extent determines the result.** -/
theorem buildPTPMessage_congr (h : Mem.AgreeBelow size buf buf') (hsize : 1 ≤ size)
    (hext : ∀ t ts, acceptHeader (buf 0) rx = some (t, ts) → extent F buf size t ≤ size) :
    buildPTPMessage F buf size rx = buildPTPMessage F buf' size rx := by
  unfold buildPTPMessage
  rw [← h 0 hsize]
  match haccept : acceptHeader (buf 0) rx with
  | none => rfl
  | some (t, ts) =>
    have hext := hext t ts haccept
    simp only [Option.bind_eq_bind, Option.bind_some]
    rw [← parseBody_congr h t hext]
    match hparse : parseBody F buf size t with
    | none => rfl
    | some (message, base) =>
      obtain ⟨hbase, hheader⟩ := base_le_of_parseBody hparse hext
      simp only [Option.bind_some]
      rw [PTPMessageCommon.ofMem_congr h hbase, PortIdentity.ofMem_congr h (by omega) (by omega),
        load16_congr h (by omega)]

/-! ### Frames that are too short -/

variable (F) in
/-- The result of decoding depends on nothing but the octets of the frame. -/
def Determined (buf : Mem) (size : ℕ) (rx : Option Timestamp) : Prop :=
  ∀ buf', Mem.AgreeBelow size buf buf' →
    buildPTPMessage F buf size rx = buildPTPMessage F buf' size rx

theorem buildPTPMessage_eq {t : MessageType} {ts : Timestamp}
    (haccept : acceptHeader (buf 0) rx = some (t, ts)) :
    buildPTPMessage F buf size rx = (parseBody F buf size t).map fun (message, base) =>
      message (.ofMem F buf base (.ofMem F buf 20 28) (htons F (load16 F buf 30)) ts) := by
  unfold buildPTPMessage
  rw [haccept]
  simp only [Option.bind_eq_bind, Option.bind_some]
  cases parseBody F buf size t <;> rfl

theorem buildPTPMessage_eq_none (hreject : acceptHeader (buf 0) rx = none) :
    buildPTPMessage F buf size rx = none := by
  rw [buildPTPMessage, hreject]
  rfl

theorem isSome_buildPTPMessage_of_signalling {ts : Timestamp}
    (haccept : acceptHeader (buf 0) rx = some (.signalling, ts)) :
    (buildPTPMessage F buf size rx).isSome := by
  rw [buildPTPMessage_eq haccept, Option.isSome_map]
  rfl

/-- Even the first octet is read from an empty frame. -/
theorem not_determined_zero : ¬ Determined F buf 0 rx := by
  intro hdet
  -- of these two one is accepted, and the other is of an unknown type
  have haccepted := hdet (fun _ => 0x1C) (fun i hi => absurd hi (Nat.not_lt_zero i))
  have hrejected := hdet (fun _ => 0x1F) (fun i hi => absurd hi (Nat.not_lt_zero i))
  have hsome : (buildPTPMessage F (fun _ => 0x1C) 0 rx).isSome :=
    isSome_buildPTPMessage_of_signalling rfl
  have hnone : buildPTPMessage F (fun _ => 0x1F) 0 rx = none := buildPTPMessage_eq_none rfl
  rw [← haccepted, hrejected, hnone] at hsome
  exact Bool.false_ne_true hsome

section TooShort

variable {ts : Timestamp}

/-- The requesting port number of a Pdelay_Resp_Follow_Up ends at offset 54. -/
theorem not_determined_pathDelayFollowup
    (haccept : acceptHeader (buf 0) rx = some (.pathDelayFollowup, ts)) (hsize : size < 54) :
    ¬ Determined F buf size rx := by
  intro hdet
  have heq := hdet (buf.flip 53) (buf.flip_agreeBelow (by omega))
  have haccept' : acceptHeader (buf.flip 53 0) rx = some (.pathDelayFollowup, ts) := haccept
  rw [buildPTPMessage_eq haccept, buildPTPMessage_eq haccept'] at heq
  simp only [parseBody, Option.map_some, Option.some.injEq,
    PTPMessage.pathDelayRespFollowUp.injEq, PTPMessagePathDelayRespFollowUp.mk.injEq] at heq
  have hport := htons_injective (congrArg PortIdentity.portNumber heq.2.1)
  exact buf.read_flip_ne (by omega) (by omega) (read_eq_of_load16_eq hport)

/-- The TLV of a Signalling message ends at offset 60. -/
theorem not_determined_signalling
    (haccept : acceptHeader (buf 0) rx = some (.signalling, ts)) (hsize : size < 60) :
    ¬ Determined F buf size rx := by
  intro hdet
  have heq := hdet (buf.flip 59) (buf.flip_agreeBelow (by omega))
  have haccept' : acceptHeader (buf.flip 59 0) rx = some (.signalling, ts) := haccept
  rw [buildPTPMessage_eq haccept, buildPTPMessage_eq haccept'] at heq
  simp only [parseBody, Option.map_some, Option.some.injEq,
    PTPMessage.signalling.injEq, PTPMessageSignalling.mk.injEq] at heq
  have hreserved := congrArg SignallingTLV.reserved heq.2.2
  exact buf.read_flip_ne (by omega) (by omega) (read_eq_of_load16_eq hreserved)

/-- What two Announce frames that are decoded to the same message have in common: the octets of the
control field, and the path trace. -/
theorem announce_eq (haccept : acceptHeader (buf 0) rx = some (.announce, ts))
    (haccept' : acceptHeader (buf' 0) rx = some (.announce, ts))
    (hhas : hasPathTrace F buf size = hasPathTrace F buf' size)
    (h : buildPTPMessage F buf size rx = buildPTPMessage F buf' size rx) :
    (let control := (if hasPathTrace F buf size then 66 else 64) + 32
     buf.read control 4 = buf'.read control 4) ∧
      (hasPathTrace F buf size →
        PathTraceTLV.parseClockIdentity F buf 66 (tlvLength size - 2).toNat =
          PathTraceTLV.parseClockIdentity F buf' 66 (tlvLength size - 2).toNat) := by
  rw [buildPTPMessage_eq haccept, buildPTPMessage_eq haccept'] at h
  simp only [parseBody, Option.map_some, Option.some.injEq, PTPMessage.announce.injEq, ← hhas] at h
  refine ⟨read_eq_of_load32_eq (congrArg (fun m : PTPMessageAnnounce => m.control) h), ?_⟩
  intro hpath
  have htrace := congrArg PTPMessageAnnounce.pathTrace h
  simpa only [PTPMessageAnnounce.ofMem, ← hhas, hpath, if_true] using htrace

/-- The common header of an Announce, or else its path trace, may end beyond the frame. -/
theorem not_determined_announce (haccept : acceptHeader (buf 0) rx = some (.announce, ts))
    (hsize : size < extent F buf size .announce) : ¬ Determined F buf size rx := by
  intro hdet
  -- what a change of one octet beyond the frame and the TLV header leaves alone
  have hflip : ∀ p, size ≤ p → 68 ≤ p →
      acceptHeader (buf.flip p 0) rx = some (.announce, ts) ∧
        hasPathTrace F buf size = hasPathTrace F (buf.flip p) size ∧
        buildPTPMessage F buf size rx = buildPTPMessage F (buf.flip p) size rx := by
    intro p hp hp'
    refine ⟨?_, hasPathTrace_congr ?_, hdet _ (buf.flip_agreeBelow hp)⟩
    · rwa [buf.flip_of_ne (by omega)]
    · exact (buf.read_flip_of_disjoint (by omega)).symm
  by_cases hhas : hasPathTrace F buf size
  swap
  · rw [extent_of_not_hasPathTrace hhas] at hsize
    obtain ⟨haccept', hhas', heq⟩ := hflip 99 (by omega) (by omega)
    have hcontrol := (announce_eq haccept haccept' hhas' heq).1
    rw [if_neg hhas] at hcontrol
    exact buf.read_flip_ne (by omega) (by omega) hcontrol
  rw [extent_of_hasPathTrace hhas] at hsize
  by_cases hshort : size < 102
  · obtain ⟨haccept', hhas', heq⟩ := hflip 101 (by omega) (by omega)
    have hcontrol := (announce_eq haccept haccept' hhas' heq).1
    rw [if_pos hhas] at hcontrol
    exact buf.read_flip_ne (by omega) (by omega) hcontrol
  -- the header is covered, so the last identity of the path trace is not
  have hbeyond : size < 68 + 8 * traceCount F buf size := by
    by_contra hcovered
    have := (traceCount_le_iff (by omega)).mp (not_lt.mp hcovered)
    omega
  obtain ⟨k, hk⟩ : ∃ k, traceCount F buf size = k + 1 :=
    Nat.exists_eq_add_one.mpr (by omega)
  obtain ⟨haccept', hhas', heq⟩ := hflip (68 + 8 * k + 7) (by omega) (by omega)
  have htrace := (announce_eq haccept haccept' hhas' heq).2 hhas
  rw [parseClockIdentity_eq_identitiesAt, parseClockIdentity_eq_identitiesAt,
    traceCount_congr (buf.read_flip_of_disjoint (by omega))] at htrace
  have hlast := List.map_inj_left.mp htrace k (List.mem_range.mpr (by omega))
  exact buf.flip_ne _ (congrFun (congrArg ClockIdentity.id hlast) 7)

end TooShort

/-- **The frames that determine their message.** The result of decoding depends on the octets of the
frame alone exactly if there is a first octet and the frame, if its first octet is accepted, covers
the extent of its type. -/
theorem determined_iff (buf : Mem) (size : ℕ) (rx : Option Timestamp) :
    Determined F buf size rx ↔
      1 ≤ size ∧ ∀ t ts, acceptHeader (buf 0) rx = some (t, ts) → extent F buf size t ≤ size := by
  constructor
  · intro hdet
    refine ⟨?_, fun t ts haccept => ?_⟩
    · by_contra hsize
      obtain rfl : size = 0 := by omega
      exact not_determined_zero hdet
    · by_contra hsize
      rw [not_le] at hsize
      cases t with
      | pathDelayFollowup => exact not_determined_pathDelayFollowup haccept hsize hdet
      | signalling => exact not_determined_signalling haccept hsize hdet
      | announce => exact not_determined_announce haccept hsize hdet
      | sync | followup | pathDelayReq | pathDelayResp | delayReq | delayResp | management =>
        exact Nat.not_lt_zero _ hsize
  · rintro ⟨hsize, hext⟩ buf' h
    exact buildPTPMessage_congr h hsize hext

/-- An Announce frame that ends with its fixed part, in a buffer filled with `fill`. -/
def shortAnnounce (fill : UInt8) : Mem := fun i => if i = 0 then 0x1B else if i < 64 then 0 else fill

/-- **A decoded field can come from behind the frame.** Two frames with the same 64 octets are decoded
to Announce messages of different versions. -/
theorem shortAnnounce_not_determined :
    Mem.AgreeBelow 64 (shortAnnounce 1) (shortAnnounce 2) ∧
      buildPTPMessage ℚ (shortAnnounce 1) 64 none ≠ buildPTPMessage ℚ (shortAnnounce 2) 64 none := by
  refine ⟨?_, by decide +kernel⟩
  intro i hi
  simp only [shortAnnounce, hi, if_true]

end Gptp
