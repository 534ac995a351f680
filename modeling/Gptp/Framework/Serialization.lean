import Gptp.Framework.Memory

/-!
# Field by field serialization

Functions that save an object and restore it, one field after the other, through a pointer and a signed
count of the octets that are left. Every field is handled by the same block:

    if (ret && *count >= size) { memcpy; *count -= size; buf += size; }
    else if (!ret)               *count += size;
    else                       { *count = size - *count; ret = false; }

so that the count holds the octets left as long as all fields have fitted, and the octets missing
afterwards. Saving and restoring do the same to the pointer and the count (`Cursor.advance`) and differ
in the direction of the copy (`Member.write`, `Member.read`).

The two directions meet in the image of an object, the representations of its fields one after the
other:

* `advanceAll_room`, `writeAll_snd_room`, `readAll_snd_room`: from a buffer of any size the fields are
  copied that fit (`fitting`, the longest sequence of first fields that does), and the count tells the
  octets left or missing.
* `writeAll_of_le`: with room for all fields, saving stores the image.
* `readAll_of_image`: with room for all fields, restoring from the image of an object assigns the fields
  of that object.
-/

namespace Framework

/-! ### Representations -/

/-- How the values of a type lie in memory: in a fixed number of octets, from which the value can be
read back. What octets that represent no value are read as is left open. -/
structure Representation (α : Type) where
  size : ℕ
  bytes : α → List UInt8
  ofBytes : List UInt8 → α
  length_bytes : ∀ x, (bytes x).length = size
  ofBytes_bytes : ∀ x, ofBytes (bytes x) = x

namespace Representation

/-- Octets represent themselves. -/
def octets (n : ℕ) : Representation (Fin n → UInt8) where
  size := n
  bytes := List.ofFn
  ofBytes bs i := bs.getD i 0
  length_bytes x := List.length_ofFn
  ofBytes_bytes x := by
    funext i
    rw [List.getD_eq_getElem?_getD, List.getElem?_ofFn, dif_pos i.isLt]
    rfl

/-- A type whose values are numbered below `256 ^ w` is represented by the octets of the number. -/
def ofNumbering {α : Type} (e : Endian) (w : ℕ) (number : α → ℕ) (ofNumber : ℕ → α)
    (hlt : ∀ x, number x < 256 ^ w) (hinv : ∀ x, ofNumber (number x) = x) : Representation α where
  size := w
  bytes x := e.bytes w (number x)
  ofBytes bs := ofNumber (e.value bs)
  length_bytes x := e.length_bytes w (number x)
  ofBytes_bytes x := by rw [e.value_bytes, Nat.mod_eq_of_lt (hlt x), hinv]

end Representation

/-! ### The pointer and the count -/

/-- The local state of a function that saves or restores: its result so far, the count and the
pointer. -/
structure Cursor where
  ret : Bool
  count : Int64
  buf : ℕ
  deriving DecidableEq

namespace Cursor

/-- Whether the next field, of `w` octets, is copied. -/
def fits (w : ℕ) (c : Cursor) : Bool := c.ret && decide (Int64.ofNat w ≤ c.count)

/-- What handling a field of `w` octets does to the result, the count and the pointer. -/
def advance (w : ℕ) (c : Cursor) : Cursor :=
  if c.fits w then { c with count := c.count - Int64.ofNat w, buf := c.buf + w }
  else if c.ret = false then { c with count := c.count + Int64.ofNat w }
  else { c with count := Int64.ofNat w - c.count, ret := false }

/-- A cursor at `a` with `k` octets left. -/
def room (a k : ℕ) : Cursor := ⟨true, Int64.ofNat k, a⟩

variable {a k w : ℕ}

theorem fits_room (hk : k < 2 ^ 63) (hw : w ≤ k) : (Cursor.room a k).fits w = true := by
  have hle : Int64.ofNat w ≤ Int64.ofNat k := by
    rw [Int64.le_iff_toInt_le, Int64.toInt_ofNat_of_lt (hw.trans_lt hk), Int64.toInt_ofNat_of_lt hk]
    exact_mod_cast hw
  simp [fits, Cursor.room, hle]

theorem advance_room (hk : k < 2 ^ 63) (hw : w ≤ k) :
    (Cursor.room a k).advance w = Cursor.room (a + w) (k - w) := by
  rw [advance, if_pos (fits_room hk hw)]
  unfold Cursor.room
  rw [← Int64.ofNat_sub _ _ hw]

theorem fits_room_of_lt (hk : k < 2 ^ 63) (hlt : k < w) (hw : w < 2 ^ 63) :
    (Cursor.room a k).fits w = false := by
  have hle : ¬ Int64.ofNat w ≤ Int64.ofNat k := by
    rw [Int64.le_iff_toInt_le, Int64.toInt_ofNat_of_lt hw, Int64.toInt_ofNat_of_lt hk]
    exact_mod_cast Nat.not_le.mpr hlt
  simp [fits, Cursor.room, hle]

theorem advance_room_of_lt (hk : k < 2 ^ 63) (hlt : k < w) (hw : w < 2 ^ 63) :
    (Cursor.room a k).advance w = ⟨false, Int64.ofNat (w - k), a⟩ := by
  rw [advance, fits_room_of_lt hk hlt hw, Int64.ofNat_sub _ _ hlt.le]
  rfl

theorem fits_of_failed {c : Cursor} (hc : c.ret = false) : c.fits w = false := by
  simp [fits, hc]

/-- With a negative count no field is copied. -/
theorem fits_of_neg {c : Cursor} (hc : c.count.toInt < 0) (hw : w < 2 ^ 63) : c.fits w = false := by
  have hle : ¬ Int64.ofNat w ≤ c.count := by
    rw [Int64.le_iff_toInt_le, Int64.toInt_ofNat_of_lt hw]
    omega
  simp [fits, hle]

theorem ret_advance_of_not_fits {c : Cursor} (hc : c.fits w = false) :
    (c.advance w).ret = false := by
  rw [advance, hc, if_neg Bool.false_ne_true]
  split
  case isTrue hret => exact hret
  case isFalse => rfl

end Cursor

/-! ### Fields -/

/-- A field of the objects of a type: its representation in an object, and its assignment. -/
structure Member (σ : Type) where
  size : ℕ
  bytes : σ → List UInt8
  assign : List UInt8 → σ → σ
  length_bytes : ∀ s, (bytes s).length = size

namespace Member

variable {σ α : Type}

/-- A field that holds a value of a represented type. -/
def of (r : Representation α) (get : σ → α) (set : α → σ → σ) : Member σ where
  size := r.size
  bytes s := r.bytes (get s)
  assign bs := set (r.ofBytes bs)
  length_bytes s := r.length_bytes (get s)

/-- The block that saves a field. -/
def write (s : σ) (x : Cursor × Mem) (f : Member σ) : Cursor × Mem :=
  (x.1.advance f.size, if x.1.fits f.size then x.2.store x.1.buf (f.bytes s) else x.2)

/-- The block that restores a field. -/
def read (m : Mem) (x : Cursor × σ) (f : Member σ) : Cursor × σ :=
  (x.1.advance f.size,
    if x.1.fits f.size then f.assign (m.read x.1.buf f.size) x.2 else x.2)

end Member

section Objects

variable {σ : Type}

/-- Saves the fields of `s` one after the other. -/
def writeAll (fs : List (Member σ)) (s : σ) (c : Cursor) (m : Mem) : Cursor × Mem :=
  fs.foldl (Member.write s) (c, m)

/-- Restores fields of `s` one after the other. -/
def readAll (fs : List (Member σ)) (m : Mem) (c : Cursor) (s : σ) : Cursor × σ :=
  fs.foldl (Member.read m) (c, s)

/-- The octets that all fields take. -/
def totalSize (fs : List (Member σ)) : ℕ := (fs.map Member.size).sum

/-- The representations of the fields of an object, one after the other. -/
def image (fs : List (Member σ)) (s : σ) : List UInt8 := fs.flatMap fun f => f.bytes s

/-- Assigns each field of `s` what it is in `s₀`. -/
def assignAll (fs : List (Member σ)) (s₀ s : σ) : σ := fs.foldl (fun s f => f.assign (f.bytes s₀) s) s

theorem length_image (fs : List (Member σ)) (s : σ) : (image fs s).length = totalSize fs := by
  simp only [image, totalSize, List.length_flatMap, Member.length_bytes]

/-! ### Buffers that are too small -/

/-- The fields that are copied if there are `k` octets: the first ones, as long as they fit. -/
def fitting : List (Member σ) → ℕ → List (Member σ)
  | [], _ => []
  | f :: fs, k => if f.size ≤ k then f :: fitting fs (k - f.size) else []

/-- Copies the fields one after the other, at consecutive places from `a` on. -/
def copyFrom {τ : Type} (copy : ℕ → Member σ → τ → τ) : List (Member σ) → ℕ → τ → τ
  | [], _, t => t
  | f :: fs, a, t => copyFrom copy fs (a + f.size) (copy a f t)

/-- Copies a field of `s` to `a`. -/
def Member.save (s : σ) (a : ℕ) (f : Member σ) (m : Mem) : Mem := m.store a (f.bytes s)

/-- Assigns a field the octets at `a`. -/
def Member.load (m : Mem) (a : ℕ) (f : Member σ) (s : σ) : σ := f.assign (m.read a f.size) s

/-- Restores fields of `s` from consecutive places, from `a` on. -/
def assignFrom (fs : List (Member σ)) (m : Mem) (a : ℕ) (s : σ) : σ :=
  copyFrom (Member.load m) fs a s

/-- What handling all fields does to the result, the count and the pointer. -/
def advanceAll (fs : List (Member σ)) (c : Cursor) : Cursor :=
  fs.foldl (fun c f => c.advance f.size) c

theorem totalSize_cons (f : Member σ) (fs : List (Member σ)) :
    totalSize (f :: fs) = f.size + totalSize fs := List.sum_cons

theorem fitting_of_le {f : Member σ} (fs : List (Member σ)) {k : ℕ} (h : f.size ≤ k) :
    fitting (f :: fs) k = f :: fitting fs (k - f.size) := if_pos h

theorem fitting_of_lt {f : Member σ} (fs : List (Member σ)) {k : ℕ} (h : k < f.size) :
    fitting (f :: fs) k = [] := if_neg (Nat.not_le.mpr h)

theorem fitting_eq_self {fs : List (Member σ)} {k : ℕ} (h : totalSize fs ≤ k) : fitting fs k = fs := by
  induction fs generalizing k with
  | nil => rfl
  | cons f fs ih =>
    rw [totalSize_cons] at h
    rw [fitting_of_le fs (by omega), ih (by omega)]

/-- A sequence of first fields fits, and no longer one does. -/
structure LongestFitting (fs : List (Member σ)) (k : ℕ) (gs : List (Member σ)) : Prop where
  initial : gs <+: fs
  fits : totalSize gs ≤ k
  longest : ∀ hs, hs <+: fs → totalSize hs ≤ k → hs <+: gs

theorem longestFitting (fs : List (Member σ)) (k : ℕ) : LongestFitting fs k (fitting fs k) := by
  induction fs generalizing k with
  | nil => exact ⟨List.prefix_refl _, Nat.zero_le _, fun _ h _ => h⟩
  | cons f fs ih =>
    by_cases hf : f.size ≤ k
    · rw [fitting_of_le fs hf]
      have hrest := ih (k - f.size)
      refine ⟨(List.prefix_cons_inj f).mpr hrest.initial, ?_, ?_⟩
      · have := hrest.fits
        rw [totalSize_cons]
        omega
      · intro hs hinitial hfits
        rcases List.prefix_cons_iff.mp hinitial with rfl | ⟨hs, rfl, hrestInitial⟩
        · exact List.nil_prefix
        · rw [totalSize_cons] at hfits
          exact (List.prefix_cons_inj f).mpr (hrest.longest hs hrestInitial (by omega))
    · rw [fitting_of_lt fs (Nat.not_le.mp hf)]
      refine ⟨List.nil_prefix, Nat.zero_le _, ?_⟩
      -- any field at all would have to be the first one
      intro hs hinitial hfits
      rcases List.prefix_cons_iff.mp hinitial with rfl | ⟨hs, rfl, -⟩
      · exact List.prefix_refl _
      · rw [totalSize_cons] at hfits
        exact absurd (Nat.le_of_add_right_le hfits) hf

/-- After a field has not fitted, the sizes of the others are added up. -/
theorem advanceAll_of_failed (fs : List (Member σ)) (n a : ℕ) :
    advanceAll fs ⟨false, Int64.ofNat n, a⟩ = ⟨false, Int64.ofNat (n + totalSize fs), a⟩ := by
  induction fs generalizing n with
  | nil => rfl
  | cons f fs ih =>
    have hfirst : Cursor.advance f.size ⟨false, Int64.ofNat n, a⟩ =
        ⟨false, Int64.ofNat (n + f.size), a⟩ := by
      rw [Int64.ofNat_add]
      rfl
    have hrest := ih (n + f.size)
    unfold advanceAll at hrest ⊢
    rw [List.foldl_cons, hfirst, hrest, totalSize_cons, Nat.add_assoc]

/-- **The count.** It holds the octets left if all fields have fitted, and the octets missing
otherwise. -/
theorem advanceAll_room (fs : List (Member σ)) {a k : ℕ} (hk : k < 2 ^ 63)
    (hsize : totalSize fs < 2 ^ 63) :
    advanceAll fs (.room a k) =
      if totalSize fs ≤ k then .room (a + totalSize fs) (k - totalSize fs)
      else ⟨false, Int64.ofNat (totalSize fs - k), a + totalSize (fitting fs k)⟩ := by
  induction fs generalizing a k with
  | nil => exact (if_pos (Nat.zero_le k)).symm
  | cons f fs ih =>
    rw [totalSize_cons] at hsize ⊢
    have hstep : advanceAll (f :: fs) (.room a k) =
        advanceAll fs ((Cursor.room a k).advance f.size) := rfl
    by_cases hf : f.size ≤ k
    · rw [hstep, Cursor.advance_room hk hf, ih (by omega) (by omega), fitting_of_le fs hf,
        totalSize_cons, Nat.add_assoc, Nat.add_assoc, Nat.sub_sub]
      have hle : totalSize fs ≤ k - f.size ↔ f.size + totalSize fs ≤ k := by omega
      have hmissing : totalSize fs - (k - f.size) = f.size + totalSize fs - k := by omega
      simp only [hle, hmissing]
    · have hlt := Nat.not_le.mp hf
      rw [hstep, Cursor.advance_room_of_lt hk hlt (by omega), advanceAll_of_failed,
        if_neg (by omega), fitting_of_lt fs hlt, ← Nat.sub_add_comm hlt.le]
      rfl

section Copying

variable {τ : Type} (copy : ℕ → Member σ → τ → τ)

/-- The block that handles a field, whichever way it is copied. -/
def copyBlock (x : Cursor × τ) (f : Member σ) : Cursor × τ :=
  (x.1.advance f.size, if x.1.fits f.size then copy x.1.buf f x.2 else x.2)

theorem copyBlock_of_not_fits {c : Cursor} {f : Member σ} (hfits : c.fits f.size = false) (t : τ) :
    copyBlock copy (c, t) f = (c.advance f.size, t) := by
  rw [copyBlock, hfits]
  rfl

/-- Saving and restoring treat the result, the count and the pointer alike. -/
theorem foldl_copyBlock_fst (fs : List (Member σ)) (c : Cursor) (t : τ) :
    (fs.foldl (copyBlock copy) (c, t)).1 = advanceAll fs c := by
  induction fs generalizing c t with
  | nil => rfl
  | cons f fs ih => exact ih _ _

theorem foldl_copyBlock_snd_of_failed (fs : List (Member σ)) {c : Cursor} (hc : c.ret = false)
    (t : τ) : (fs.foldl (copyBlock copy) (c, t)).2 = t := by
  induction fs generalizing c with
  | nil => rfl
  | cons f fs ih =>
    have hfits := Cursor.fits_of_failed (w := f.size) hc
    rw [List.foldl_cons, copyBlock_of_not_fits copy hfits]
    exact ih (Cursor.ret_advance_of_not_fits hfits)

theorem foldl_copyBlock_snd_of_neg (fs : List (Member σ)) {c : Cursor} (hc : c.count.toInt < 0)
    (hsize : totalSize fs < 2 ^ 63) (t : τ) : (fs.foldl (copyBlock copy) (c, t)).2 = t := by
  cases fs with
  | nil => rfl
  | cons f fs =>
    rw [totalSize_cons] at hsize
    have hfits := Cursor.fits_of_neg (w := f.size) hc (by omega)
    rw [List.foldl_cons, copyBlock_of_not_fits copy hfits]
    exact foldl_copyBlock_snd_of_failed copy fs (Cursor.ret_advance_of_not_fits hfits) t

/-- **What is copied**: the fields that fit. -/
theorem foldl_copyBlock_snd (fs : List (Member σ)) {a k : ℕ} (t : τ) (hk : k < 2 ^ 63)
    (hsize : totalSize fs < 2 ^ 63) :
    (fs.foldl (copyBlock copy) (.room a k, t)).2 = copyFrom copy (fitting fs k) a t := by
  induction fs generalizing a k t with
  | nil => rfl
  | cons f fs ih =>
    rw [totalSize_cons] at hsize
    rw [List.foldl_cons]
    by_cases hf : f.size ≤ k
    · have hfirst : copyBlock copy (.room a k, t) f =
          (.room (a + f.size) (k - f.size), copy a f t) := by
        rw [copyBlock, Cursor.advance_room hk hf, if_pos (Cursor.fits_room hk hf)]
        rfl
      rw [hfirst, ih _ (by omega) (by omega), fitting_of_le fs hf, copyFrom]
    · have hlt := Nat.not_le.mp hf
      have hfits := Cursor.fits_room_of_lt (a := a) hk hlt (by omega)
      rw [copyBlock_of_not_fits copy hfits, fitting_of_lt fs hlt, copyFrom]
      exact foldl_copyBlock_snd_of_failed copy fs (Cursor.ret_advance_of_not_fits hfits) t

end Copying

theorem copyFrom_store (fs : List (Member σ)) (s : σ) (a : ℕ) (m : Mem) :
    copyFrom (Member.save s) fs a m = m.store a (image fs s) := by
  induction fs generalizing a m with
  | nil => exact (Mem.store_nil m a).symm
  | cons f fs ih =>
    rw [copyFrom, ih, Member.save, ← f.length_bytes s, Mem.store_store]
    rfl

theorem writeAll_fst (fs : List (Member σ)) (s : σ) (c : Cursor) (m : Mem) :
    (writeAll fs s c m).1 = advanceAll fs c :=
  foldl_copyBlock_fst (Member.save s) fs c m

theorem readAll_fst (fs : List (Member σ)) (m : Mem) (c : Cursor) (s : σ) :
    (readAll fs m c s).1 = advanceAll fs c :=
  foldl_copyBlock_fst (Member.load m) fs c s

/-- **What is saved.** -/
theorem writeAll_snd_room (fs : List (Member σ)) (s : σ) {a k : ℕ} (m : Mem) (hk : k < 2 ^ 63)
    (hsize : totalSize fs < 2 ^ 63) :
    (writeAll fs s (.room a k) m).2 = m.store a (image (fitting fs k) s) :=
  (foldl_copyBlock_snd (Member.save s) fs m hk hsize).trans
    (copyFrom_store _ s a m)

/-- **What is restored.** -/
theorem readAll_snd_room (fs : List (Member σ)) (m : Mem) {a k : ℕ} (s : σ) (hk : k < 2 ^ 63)
    (hsize : totalSize fs < 2 ^ 63) :
    (readAll fs m (.room a k) s).2 = assignFrom (fitting fs k) m a s :=
  foldl_copyBlock_snd (Member.load m) fs s hk hsize

theorem readAll_snd_of_neg (fs : List (Member σ)) (m : Mem) {c : Cursor} (hc : c.count.toInt < 0)
    (s : σ) (hsize : totalSize fs < 2 ^ 63) : (readAll fs m c s).2 = s :=
  foldl_copyBlock_snd_of_neg (Member.load m) fs hc hsize s

/-- **Saving with room for all fields** stores the image. -/
theorem writeAll_of_le (fs : List (Member σ)) (s : σ) {a k : ℕ} (m : Mem) (hk : k < 2 ^ 63)
    (hle : totalSize fs ≤ k) :
    writeAll fs s (.room a k) m =
      (.room (a + totalSize fs) (k - totalSize fs), m.store a (image fs s)) := by
  have hsize := hle.trans_lt hk
  refine Prod.ext ?_ ?_
  · rw [writeAll_fst, advanceAll_room fs hk hsize, if_pos hle]
  · rw [writeAll_snd_room fs s m hk hsize, fitting_eq_self hle]

/-- From the image of an object the fields of that object are restored. -/
theorem assignFrom_of_image (fs : List (Member σ)) (s₀ s : σ) {a : ℕ} {m : Mem}
    (himage : m.read a (totalSize fs) = image fs s₀) : assignFrom fs m a s = assignAll fs s₀ s := by
  induction fs generalizing a s with
  | nil => rfl
  | cons f fs ih =>
    -- the window splits into the first field and the others
    obtain ⟨hbytes, himage⟩ : m.read a f.size = f.bytes s₀ ∧
        m.read (a + f.size) (totalSize fs) = image fs s₀ := by
      rw [totalSize_cons, Mem.read_add] at himage
      refine List.append_inj himage ?_
      rw [Mem.length_read, f.length_bytes]
    have hrest := ih (f.assign (f.bytes s₀) s) himage
    rw [assignFrom] at hrest ⊢
    rw [copyFrom, Member.load, hbytes, hrest]
    rfl

/-- **Restoring with room for all fields** from the image of an object assigns the fields of that
object. -/
theorem readAll_of_image (fs : List (Member σ)) (s₀ s : σ) {a k : ℕ} {m : Mem} (hk : k < 2 ^ 63)
    (hle : totalSize fs ≤ k) (himage : m.read a (totalSize fs) = image fs s₀) :
    readAll fs m (.room a k) s =
      (.room (a + totalSize fs) (k - totalSize fs), assignAll fs s₀ s) := by
  have hsize := hle.trans_lt hk
  refine Prod.ext ?_ ?_
  · rw [readAll_fst, advanceAll_room fs hk hsize, if_pos hle]
  · rw [readAll_snd_room fs m s hk hsize, fitting_eq_self hle, assignFrom_of_image fs s₀ s himage]

/-! ### Fields that hold what the octets represent already -/

/-- The octets at consecutive places from `a` on represent what the fields hold already. -/
def Agree : List (Member σ) → Mem → ℕ → σ → Prop
  | [], _, _, _ => True
  | f :: fs, m, a, s => Member.load m a f s = s ∧ Agree fs m (a + f.size) s

/-- The fields are independent of each other: assigning one leaves the ones before it, and changes
nothing at all if it does not change that field. -/
def Independent (fs : List (Member σ)) : Prop :=
  (∀ f ∈ fs, ∀ bs s, f.bytes (f.assign bs s) = f.bytes s → f.assign bs s = s) ∧
    fs.Pairwise fun f g => ∀ bs s, f.bytes (g.assign bs s) = f.bytes s

theorem Independent.sublist {fs gs : List (Member σ)} (h : Independent fs) (hsub : gs.Sublist fs) :
    Independent gs :=
  ⟨fun f hf => h.1 f (hsub.subset hf), h.2.sublist hsub⟩

/-- Fields that are restored after a field leave it. -/
theorem bytes_assignFrom {f : Member σ} {fs : List (Member σ)}
    (h : ∀ g ∈ fs, ∀ bs s, f.bytes (g.assign bs s) = f.bytes s) (m : Mem) (a : ℕ) (s : σ) :
    f.bytes (assignFrom fs m a s) = f.bytes s := by
  induction fs generalizing a s with
  | nil => rfl
  | cons g fs ih =>
    have hrest := ih (fun g hg => h g (List.mem_cons_of_mem _ hg)) (a + g.size)
      (Member.load m a g s)
    exact hrest.trans (h g List.mem_cons_self _ s)

/-- Restoring changes nothing exactly if every field holds what its octets represent. -/
theorem assignFrom_eq_self_iff {fs : List (Member σ)} (h : Independent fs) (m : Mem) (a : ℕ) (s : σ) :
    assignFrom fs m a s = s ↔ Agree fs m a s := by
  induction fs generalizing a with
  | nil => exact iff_of_true rfl trivial
  | cons f fs ih =>
    have hstep : assignFrom (f :: fs) m a s =
        assignFrom fs m (a + f.size) (Member.load m a f s) := rfl
    have hrest := ih (h.sublist (List.sublist_cons_self f fs)) (a + f.size)
    rw [hstep, Agree]
    constructor
    · intro heq
      -- the later fields have left the first one, so that it is as it was
      have hbytes := bytes_assignFrom (List.pairwise_cons.mp h.2).1 m (a + f.size)
        (Member.load m a f s)
      rw [heq] at hbytes
      have hfirst : Member.load m a f s = s := h.1 f List.mem_cons_self _ s hbytes.symm
      rw [hfirst] at heq
      exact ⟨hfirst, hrest.mp heq⟩
    · rintro ⟨hfirst, hothers⟩
      rw [hfirst]
      exact hrest.mpr hothers

end Objects

/-- A field that is read back as it was assigned changes nothing unless its value changes. -/
theorem Member.assign_of_bytes {σ α : Type} (r : Representation α) {get : σ → α} {set : α → σ → σ}
    (hget : ∀ x s, get (set x s) = x) (hset : ∀ s, set (get s) s = s) (bs : List UInt8) (s : σ)
    (h : (Member.of r get set).bytes ((Member.of r get set).assign bs s) =
      (Member.of r get set).bytes s) : (Member.of r get set).assign bs s = s := by
  have hvalue : r.ofBytes bs = get s := by
    have hbytes : r.bytes (get (set (r.ofBytes bs) s)) = r.bytes (get s) := h
    rw [hget] at hbytes
    rw [← r.ofBytes_bytes (r.ofBytes bs), hbytes, r.ofBytes_bytes]
  have hassign : (Member.of r get set).assign bs s = set (r.ofBytes bs) s := rfl
  rw [hassign, hvalue, hset]

end Framework
