import Gptp.Framework.Words
import Gptp.Message.Codec

/-!
# The path trace TLV

A `PathTraceTLV` is a list of clock identities. `toByteString` writes its type, its length and the
identities, in this order; `parseClockIdentity` is given what follows the type and appends the identities
it finds to the list. How many it takes is the smaller of two numbers: what the length field announces, and
what the size of the buffer leaves room for.

* `parseClockIdentityOnto`: the function as it works on a TLV that need not be empty, with the `int`
  arithmetic of its sizes. On a size of two octets or more it appends what `parseClockIdentity` returns
  (`parseClockIdentityOnto_eq`).
* `parseClockIdentityOnto_of_size_lt`: a smaller size becomes a huge one, since sizes are compared as
  unsigned numbers. The length field is then believed.
* `parseClockIdentity_of_read`, `read_toByteString_parseClockIdentity`: what was written is parsed to the
  same list, and what was parsed is written back with the same octets.
-/

namespace Gptp

open Framework

namespace PathTraceTLV

variable {F : Type} [Platform F] {buf : Mem} {a : ℕ}

/-! ### Identities in memory -/

/-- The octets of a list of identities. -/
def octets (ids : List ClockIdentity) : List UInt8 := ids.flatMap ClockIdentity.toList

@[simp] theorem octets_nil : octets [] = [] := rfl

@[simp] theorem octets_cons (id : ClockIdentity) (ids : List ClockIdentity) :
    octets (id :: ids) = id.toList ++ octets ids := rfl

@[simp] theorem length_octets (ids : List ClockIdentity) : (octets ids).length = 8 * ids.length := by
  induction ids with
  | nil => rfl
  | cons id ids ih =>
    rw [octets_cons, List.length_append, ih, ClockIdentity.length_toList, List.length_cons]
    omega

theorem storeIdentities_eq (ids : List ClockIdentity) (a : ℕ) (buf : Mem) :
    storeIdentities ids a buf = buf.store a (octets ids) := by
  induction ids generalizing a buf with
  | nil => exact (Mem.store_nil buf a).symm
  | cons id ids ih =>
    have hnext := Mem.store_store buf a id.toList (octets ids)
    rw [ClockIdentity.length_toList] at hnext
    rw [storeIdentities, ih, hnext, octets_cons]

/-- The `n` identities from offset `a` on. -/
def identitiesAt (buf : Mem) (n a : ℕ) : List ClockIdentity :=
  (List.range n).map fun k => .ofMem buf (a + 8 * k)

@[simp] theorem length_identitiesAt (buf : Mem) (n a : ℕ) : (identitiesAt buf n a).length = n := by
  simp [identitiesAt]

theorem identitiesAt_succ (buf : Mem) (n a : ℕ) :
    identitiesAt buf (n + 1) a = .ofMem buf a :: identitiesAt buf n (a + 8) := by
  rw [identitiesAt, List.range_succ_eq_map, List.map_cons, List.map_map]
  refine congrArg (_ :: ·) (List.map_congr_left fun k _ => congrArg (ClockIdentity.ofMem buf) ?_)
  change a + 8 * (k + 1) = a + 8 + 8 * k
  omega

/-- Identities have the octets they were read from. -/
theorem octets_identitiesAt (buf : Mem) (n a : ℕ) :
    octets (identitiesAt buf n a) = buf.read a (8 * n) := by
  induction n generalizing a with
  | zero => rfl
  | succ n ih =>
    rw [identitiesAt_succ, octets_cons, ih, ClockIdentity.toList_ofMem, mul_add, mul_one, add_comm (8 * n),
      Mem.read_add]

/-- The octets of a list of identities are read as that list. -/
theorem identitiesAt_of_read (ids : List ClockIdentity)
    (h : buf.read a (8 * ids.length) = octets ids) : identitiesAt buf ids.length a = ids := by
  induction ids generalizing a with
  | nil => rfl
  | cons id ids ih =>
    rw [List.length_cons, mul_add, mul_one, add_comm, Mem.read_add] at h
    obtain ⟨hhead, htail⟩ := List.append_inj h (by simp)
    rw [List.length_cons, identitiesAt_succ, ih htail, ClockIdentity.ofMem_eq_of_read hhead]

/-! ### The encoder -/

/-- The length field of a list that the field can describe. -/
theorem toNat_lengthField {n : ℕ} (h : n ≤ 8191) : (UInt16.ofNat n * 8).toNat = 8 * n := by
  have hlt : n < 2 ^ 16 := by omega
  rw [UInt16.toNat_mul, UInt16.toNat_ofNat_of_lt' hlt]
  change n * 8 % 2 ^ 16 = 8 * n
  omega

/-- What `toByteString` writes behind the type. -/
theorem read_toByteString (ids : List ClockIdentity) (a : ℕ) (buf : Mem) :
    (toByteString F ids a buf).read (a + 2) (2 + 8 * ids.length) =
      bytesBE 2 (UInt16.ofNat ids.length * 8).toNat ++ octets ids := by
  rw [toByteString, storeIdentities_eq, Mem.read_add, Mem.read_store _ _ _ (length_octets ids),
    Mem.read_store_of_disjoint (.inl (by omega)), Mem.read_store _ _ _ (by simp), bytes16_htons]

/-! ### The decoder -/

/-- The loop of `parseClockIdentity`, with `length` more identities to append. -/
def pushIdentities (buf : Mem) : ℕ → ℕ → List ClockIdentity → List ClockIdentity
  | 0, _, identityList => identityList
  | length + 1, buffer, identityList =>
    pushIdentities buf length (buffer + 8) (identityList ++ [.ofMem buf buffer])

variable (F) in
/-- `PathTraceTLV::parseClockIdentity` on a TLV that holds `identityList`. -/
def parseClockIdentityOnto (identityList : List ClockIdentity) (buf : Mem) (a : ℕ) (size : Int32) :
    List ClockIdentity :=
  let length := (htons F (load16 F buf a)).toUInt32.toInt32
  let size := size - 2
  -- a comparison of unsigned numbers
  let length := if size.toUInt32 < length.toUInt32 then size else length
  pushIdentities buf (length / 8).toNatClampNeg (a + 2) identityList

theorem pushIdentities_eq (buf : Mem) (n a : ℕ) (identityList : List ClockIdentity) :
    pushIdentities buf n a identityList = identityList ++ identitiesAt buf n a := by
  induction n generalizing a identityList with
  | zero => exact (List.append_nil _).symm
  | succ n ih => rw [pushIdentities, ih, identitiesAt_succ, List.append_assoc, List.singleton_append]

theorem identityCount_eq (buf : Mem) (a size : ℕ) :
    identityCount F buf a size = min (size - 2) (htons F (load16 F buf a)).toNat / 8 := by
  rw [identityCount]
  split
  case isTrue h => rw [min_eq_left h.le]
  case isFalse h => rw [min_eq_right (not_lt.mp h)]

theorem parseClockIdentity_eq (buf : Mem) (a size : ℕ) :
    parseClockIdentity F buf a size =
      identitiesAt buf (min (size - 2) (valueBE (buf.read a 2)) / 8) (a + 2) := by
  rw [parseClockIdentity, identityCount_eq, toNat_htons_load16, identitiesAt]

/-- The octets that the size leaves behind the length field, as the code computes them. -/
def room (size : Int32) : ℕ := (size - 2).toUInt32.toNat

theorem room_eq (size : Int32) : (room size : ℤ) = (size.toInt - 2) % 2 ^ 32 := by
  have hdiff : (size - 2).toInt = Int.bmod (size.toInt - 2) (2 ^ 32) := Int32.toInt_sub size 2
  rw [room, toNat_toUInt32, hdiff]
  exact Int.bmod_emod

theorem room_of_le {size : Int32} (h : 2 ≤ size.toInt) : room size = size.toInt.toNat - 2 := by
  have hlt := size.toInt_lt
  have hroom := room_eq size
  omega

/-- Of a size below two, what is left counts as more than any length field can say. -/
theorem le_room_of_lt {size : Int32} (h : size.toInt < 2) : 2 ^ 16 ≤ room size := by
  have hge := size.le_toInt
  have hroom := room_eq size
  omega

/-- The identities that `parseClockIdentity` appends, whatever the size: as many as both the length field
and the room, taken as an unsigned number, allow. -/
theorem parseClockIdentityOnto_eq_room (identityList : List ClockIdentity) (buf : Mem) (a : ℕ)
    (size : Int32) :
    parseClockIdentityOnto F identityList buf a size =
      identityList ++ identitiesAt buf (min (room size) (valueBE (buf.read a 2)) / 8) (a + 2) := by
  have hfield : (htons F (load16 F buf a)).toUInt32.toNat = valueBE (buf.read a 2) := by
    rw [UInt16.toNat_toUInt32, toNat_htons_load16]
  have hlt := valueBE_read_lt buf a
  have hlength : (htons F (load16 F buf a)).toUInt32.toInt32.toInt = valueBE (buf.read a 2) := by
    rw [toInt_toInt32_of_lt (by omega), hfield]
  have hpos : (0 : ℤ) < (8 : Int32).toInt := by decide
  rw [parseClockIdentityOnto, pushIdentities_eq]
  congr 2
  rw [UInt32.toUInt32_toInt32]
  -- where the room is the smaller number it is below `2 ^ 16`, so it is not a negative `int` either
  by_cases h : room size < valueBE (buf.read a 2)
  · have hroom : (size - 2).toInt = room size := by
      have hunsigned := toNat_toUInt32 (size - 2)
      have hsigned := (size - 2).le_toInt
      have hsigned' := (size - 2).toInt_lt
      rw [← room] at hunsigned
      omega
    rw [if_pos (UInt32.lt_iff_toNat_lt.mpr (hfield ▸ h)), toNatClampNeg_div (by omega) hpos, hroom,
      min_eq_left h.le]
    rfl
  · rw [if_neg (UInt32.lt_iff_toNat_lt.not.mpr (hfield ▸ h)), toNatClampNeg_div (by omega) hpos,
      hlength, min_eq_right (not_lt.mp h)]
    rfl

theorem parseClockIdentityOnto_eq (identityList : List ClockIdentity) (buf : Mem) (a : ℕ)
    {size : Int32} (hsize : 2 ≤ size.toInt) :
    parseClockIdentityOnto F identityList buf a size =
      identityList ++ parseClockIdentity F buf a size.toInt.toNat := by
  rw [parseClockIdentityOnto_eq_room, room_of_le hsize, parseClockIdentity_eq]

/-- A size too small for the length field does not limit it. -/
theorem parseClockIdentityOnto_of_size_lt (identityList : List ClockIdentity) (buf : Mem) (a : ℕ)
    {size : Int32} (hsize : size.toInt < 2) :
    parseClockIdentityOnto F identityList buf a size =
      identityList ++ identitiesAt buf (valueBE (buf.read a 2) / 8) (a + 2) := by
  rw [parseClockIdentityOnto_eq_room,
    min_eq_right ((valueBE_read_lt buf a).le.trans (le_room_of_lt hsize))]

/-! ### Round trips -/

/-- The octets of a list are parsed to that list. -/
theorem parseClockIdentity_of_read {ids : List ClockIdentity} {size : ℕ} (hids : ids.length ≤ 8191)
    (hsize : 2 + 8 * ids.length ≤ size)
    (h : buf.read a (2 + 8 * ids.length) = bytesBE 2 (8 * ids.length) ++ octets ids) :
    parseClockIdentity F buf a size = ids := by
  rw [Mem.read_add] at h
  obtain ⟨hfield, hoctets⟩ := List.append_inj h (by simp)
  have hcount : min (size - 2) (valueBE (buf.read a 2)) / 8 = ids.length := by
    rw [hfield, valueBE_bytesBE]
    omega
  rw [parseClockIdentity_eq, hcount, identitiesAt_of_read ids hoctets]

/-- What is parsed from a buffer that holds all of its length field is written back as it was. -/
theorem read_toByteString_parseClockIdentity {size : ℕ} (buf buf' : Mem) (a b : ℕ)
    (hsize : 2 + valueBE (buf.read a 2) ≤ size) (hdvd : 8 ∣ valueBE (buf.read a 2)) :
    (toByteString F (parseClockIdentity F buf a size) b buf').read (b + 2)
        (2 + valueBE (buf.read a 2)) = buf.read a (2 + valueBE (buf.read a 2)) := by
  obtain ⟨n, hn⟩ := hdvd
  have hlt := valueBE_read_lt buf a
  have hcount : min (size - 2) (valueBE (buf.read a 2)) / 8 = n := by omega
  have hfield : bytesBE 2 (8 * n) = buf.read a 2 := by
    refine valueBE_injective (by simp) ?_
    rw [valueBE_bytesBE, ← hn]
    exact Nat.mod_eq_of_lt hlt
  have hwritten := read_toByteString (F := F) (identitiesAt buf n (a + 2)) b buf'
  rw [length_identitiesAt, toNat_lengthField (by omega), octets_identitiesAt, hfield] at hwritten
  rw [parseClockIdentity_eq, hcount, hn, hwritten, Mem.read_add]

/-- **Path traces.** A buffer that holds what `toByteString` writes behind the type, given with a size that
covers it, is parsed to the list that was written, if the length field can describe that list. From any
buffer of two octets or more, as many identities are taken as the length field announces and the size leaves
room for, in their order. -/
theorem parseClockIdentityOnto_spec (identityList : List ClockIdentity) :
    (∀ (ids : List ClockIdentity) (written buf : Mem) (b a : ℕ) (size : Int32), ids.length ≤ 8191 →
        2 + 8 * (ids.length : ℤ) ≤ size.toInt →
        buf.read a (2 + 8 * ids.length) =
          (toByteString F ids b written).read (b + 2) (2 + 8 * ids.length) →
        parseClockIdentityOnto F identityList buf a size = identityList ++ ids) ∧
      ∀ (buf : Mem) (a : ℕ) (size : Int32), 2 ≤ size.toInt →
        ∃ ids, parseClockIdentityOnto F identityList buf a size = identityList ++ ids ∧
          (ids.length : ℤ) = min (valueBE (buf.read a 2) : ℤ) (size.toInt - 2) / 8 ∧
          ∀ k (hk : k < ids.length), (ids.get ⟨k, hk⟩).toList = buf.read (a + (2 + 8 * k)) 8 := by
  refine ⟨?_, ?_⟩
  · intro ids written buf b a size hids hsize h
    rw [read_toByteString, toNat_lengthField hids] at h
    rw [parseClockIdentityOnto_eq _ _ _ (by omega), parseClockIdentity_of_read hids (by omega) h]
  · intro buf a size hsize
    refine ⟨_, parseClockIdentityOnto_eq identityList buf a hsize, ?_, ?_⟩
    · rw [parseClockIdentity_eq, length_identitiesAt]
      omega
    · intro k hk
      simp only [parseClockIdentity_eq, identitiesAt, List.get_eq_getElem, List.getElem_map,
        List.getElem_range, ClockIdentity.toList_ofMem, add_assoc]

/-- Two identities, written to a zeroed buffer, behind one that was there before; and a length field of 20
octets in a buffer of 11, which has room for one identity. -/
theorem parseClockIdentityOnto_two_and_one :
    let zero := ClockIdentity.zero
    let ones : ClockIdentity := ⟨fun _ => 1⟩
    let buf : Mem := fun i => if i = 1 then 20 else 0
    parseClockIdentityOnto ℚ [ones] (toByteString ℚ [zero, ones] 0 fun _ => 0) 2 18 =
        [ones, zero, ones] ∧
      ∃ ids, parseClockIdentityOnto ℚ [ones] buf 0 11 = [ones] ++ ids ∧ (ids.length : ℤ) = 1 := by
  intro zero ones buf
  obtain ⟨hwritten, hany⟩ := parseClockIdentityOnto_spec (F := ℚ) [ones]
  obtain ⟨ids, hids, hlength, -⟩ := hany buf 0 11 (by decide)
  exact ⟨hwritten [zero, ones] (fun _ => 0) _ 0 2 18 (by decide) (by decide) rfl, ids, hids, hlength⟩

end PathTraceTLV

end Gptp
