import Mathlib.Data.List.Nodup
import Mathlib.Logic.Function.Basic

/-!
# Objects owned by slots

Objects are allocated one after the other and numbered in that order. A program refers to them from a
fixed set of slots, and deletes them. `Heap Slot` records which object each slot refers to and which
objects have been deleted.

* `Heap.Sound`: slots refer to different objects that have been allocated and not deleted, and no
  object was deleted twice.
* `Heap.Settled`: the object has been deleted and no slot refers to it, or it has not been deleted and
  exactly one slot refers to it.
* `Heap.Fresh`: the object has neither been deleted nor put into a slot. A fresh object is not settled;
  it becomes settled by being stored or deleted.
-/

namespace Framework

/-- The objects a program has allocated: those below `next`. -/
structure Heap (Slot : Type) where
  slots : Slot → Option ℕ
  freed : List ℕ
  next : ℕ

namespace Heap

variable {Slot : Type}

/-- No objects. -/
def empty : Heap Slot := ⟨fun _ => none, [], 0⟩

/-- A new object, with number `h.next`. -/
def alloc (h : Heap Slot) : Heap Slot := { h with next := h.next + 1 }

/-- Deletes an object, or nothing. -/
def delete (o : Option ℕ) (h : Heap Slot) : Heap Slot := { h with freed := h.freed ++ o.toList }

variable [DecidableEq Slot]

/-- Assigns a slot and deletes the object it referred to. -/
def replace (s : Slot) (o : Option ℕ) (h : Heap Slot) : Heap Slot :=
  { h.delete (h.slots s) with slots := Function.update h.slots s o }

omit [DecidableEq Slot] in
@[simp] theorem mem_freed_delete {o : Option ℕ} {x : ℕ} {h : Heap Slot} :
    x ∈ (h.delete o).freed ↔ x ∈ h.freed ∨ o = some x := by
  simp [delete, Option.mem_toList]

@[simp] theorem mem_freed_replace {s : Slot} {o : Option ℕ} {x : ℕ} {h : Heap Slot} :
    x ∈ (h.replace s o).freed ↔ x ∈ h.freed ∨ h.slots s = some x := mem_freed_delete

@[simp] theorem next_replace (s : Slot) (o : Option ℕ) (h : Heap Slot) :
    (h.replace s o).next = h.next := rfl

@[simp] theorem slots_replace_self (s : Slot) (o : Option ℕ) (h : Heap Slot) :
    (h.replace s o).slots s = o := Function.update_self ..

theorem slots_replace_of_ne {s s' : Slot} (hne : s' ≠ s) (o : Option ℕ) (h : Heap Slot) :
    (h.replace s o).slots s' = h.slots s' := Function.update_of_ne hne ..

/-! ### Settled objects -/

/-- The object has neither been deleted nor put into a slot. -/
def Fresh (x : ℕ) (h : Heap Slot) : Prop := x ∉ h.freed ∧ ∀ s, h.slots s ≠ some x

/-- The object is either deleted, or referred to from exactly one slot, and not both. -/
def Settled (x : ℕ) (h : Heap Slot) : Prop :=
  (x ∈ h.freed ∧ ∀ s, h.slots s ≠ some x) ∨ (x ∉ h.freed ∧ ∃! s, h.slots s = some x)

section Settled

variable {x : ℕ} {h : Heap Slot}

omit [DecidableEq Slot] in
theorem Fresh.not_settled (hx : h.Fresh x) : ¬ h.Settled x := by
  rintro (⟨hfreed, -⟩ | ⟨-, s, hs, -⟩)
  · exact hx.1 hfreed
  · exact hx.2 s hs

omit [DecidableEq Slot] in
theorem Fresh.settled_delete (hx : h.Fresh x) : (h.delete (some x)).Settled x :=
  .inl ⟨mem_freed_delete.mpr (.inr rfl), hx.2⟩

/-- Emptying a slot does not concern a fresh object. -/
theorem Fresh.replace_none (hx : h.Fresh x) (s : Slot) : (h.replace s none).Fresh x := by
  refine ⟨?_, fun s' => ?_⟩
  · rw [mem_freed_replace, not_or]
    exact ⟨hx.1, hx.2 s⟩
  · by_cases hs : s' = s
    · rw [hs, slots_replace_self]
      exact nofun
    · rw [slots_replace_of_ne hs]
      exact hx.2 s'

theorem Fresh.settled_replace (hx : h.Fresh x) (s : Slot) : (h.replace s (some x)).Settled x := by
  refine .inr ⟨?_, s, slots_replace_self s _ h, fun s' hs' => ?_⟩
  · rw [mem_freed_replace, not_or]
    exact ⟨hx.1, hx.2 s⟩
  · -- no other slot refers to a fresh object
    by_contra hne
    change (h.replace s (some x)).slots s' = some x at hs'
    rw [slots_replace_of_ne hne] at hs'
    exact hx.2 s' hs'

end Settled

/-! ### Sound heaps -/

/-- No dangling slot, no object in two slots, and no object deleted twice. -/
structure Sound (h : Heap Slot) : Prop where
  slot_lt : ∀ s x, h.slots s = some x → x < h.next
  slot_live : ∀ s x, h.slots s = some x → x ∉ h.freed
  slot_unique : ∀ s s' x, h.slots s = some x → h.slots s' = some x → s = s'
  freed_lt : ∀ x ∈ h.freed, x < h.next
  freed_nodup : h.freed.Nodup

namespace Sound

variable {h : Heap Slot}

omit [DecidableEq Slot] in
theorem empty : (Heap.empty : Heap Slot).Sound where
  slot_lt := nofun
  slot_live := nofun
  slot_unique := nofun
  freed_lt := nofun
  freed_nodup := List.nodup_nil

omit [DecidableEq Slot] in
theorem alloc (hs : h.Sound) : h.alloc.Sound where
  slot_lt s x hx := Nat.lt_succ_of_lt (hs.slot_lt s x hx)
  slot_live := hs.slot_live
  slot_unique := hs.slot_unique
  freed_lt x hx := Nat.lt_succ_of_lt (hs.freed_lt x hx)
  freed_nodup := hs.freed_nodup

omit [DecidableEq Slot] in
/-- The object that is allocated next is fresh. -/
theorem fresh (hs : h.Sound) : h.alloc.Fresh h.next :=
  ⟨fun hfreed => Nat.lt_irrefl _ (hs.freed_lt _ hfreed),
    fun s hslot => Nat.lt_irrefl _ (hs.slot_lt s _ hslot)⟩

omit [DecidableEq Slot] in
/-- A fresh object may be deleted. -/
theorem delete (hs : h.Sound) {x : ℕ} (hx : h.Fresh x) (hlt : x < h.next) :
    (h.delete (some x)).Sound where
  slot_lt := hs.slot_lt
  slot_live s y hy := by
    rw [mem_freed_delete, not_or]
    refine ⟨hs.slot_live s y hy, ?_⟩
    rintro ⟨⟩
    exact hx.2 s hy
  slot_unique := hs.slot_unique
  freed_lt y hy := by
    rcases mem_freed_delete.mp hy with hy | hxy
    · exact hs.freed_lt y hy
    · exact Option.some.inj hxy ▸ hlt
  freed_nodup := List.nodup_append.mpr
    ⟨hs.freed_nodup, List.nodup_singleton x, fun y hy z hz => by
      rintro rfl
      obtain rfl := List.mem_singleton.mp hz
      exact hx.1 hy⟩

/-- A slot may be emptied, or assigned a fresh object: the object it referred to was live, and no
other slot refers to it. -/
theorem replace (hs : h.Sound) (s : Slot) {o : Option ℕ}
    (ho : ∀ x, o = some x → h.Fresh x ∧ x < h.next) : (h.replace s o).Sound where
  slot_lt s' x hx := by
    by_cases hne : s' = s
    · rw [hne, slots_replace_self] at hx
      exact (ho x hx).2
    · rw [slots_replace_of_ne hne] at hx
      exact hs.slot_lt s' x hx
  slot_live s' x hx := by
    rw [mem_freed_replace, not_or]
    by_cases hne : s' = s
    · rw [hne, slots_replace_self] at hx
      exact ⟨(ho x hx).1.1, (ho x hx).1.2 s⟩
    · rw [slots_replace_of_ne hne] at hx
      exact ⟨hs.slot_live s' x hx, fun hold => hne (hs.slot_unique s' s x hx hold)⟩
  slot_unique s₁ s₂ x h₁ h₂ := by
    -- the new object is fresh, so it shares with no other slot
    by_cases hne₁ : s₁ = s <;> by_cases hne₂ : s₂ = s
    · rw [hne₁, hne₂]
    · rw [hne₁, slots_replace_self] at h₁
      rw [slots_replace_of_ne hne₂] at h₂
      exact absurd h₂ ((ho x h₁).1.2 s₂)
    · rw [hne₂, slots_replace_self] at h₂
      rw [slots_replace_of_ne hne₁] at h₁
      exact absurd h₁ ((ho x h₂).1.2 s₁)
    · rw [slots_replace_of_ne hne₁] at h₁
      rw [slots_replace_of_ne hne₂] at h₂
      exact hs.slot_unique s₁ s₂ x h₁ h₂
  freed_lt x hx := by
    -- what is freed in addition is the old content of the slot
    rcases mem_freed_replace.mp hx with hx | hx
    · exact hs.freed_lt x hx
    · exact hs.slot_lt s x hx
  freed_nodup := by
    have hone : (h.slots s).toList.Nodup := by
      cases h.slots s with
      | none => exact List.nodup_nil
      | some x => exact List.nodup_singleton x
    refine List.nodup_append.mpr ⟨hs.freed_nodup, hone, fun x hx y hy => ?_⟩
    rintro rfl
    exact hs.slot_live s x (Option.mem_toList.mp hy) hx

theorem replace_none (hs : h.Sound) (s : Slot) : (h.replace s none).Sound := hs.replace s nofun

theorem replace_some (hs : h.Sound) (s : Slot) {x : ℕ} (hx : h.Fresh x) (hlt : x < h.next) :
    (h.replace s (some x)).Sound :=
  hs.replace s fun _ h => Option.some.inj h ▸ ⟨hx, hlt⟩

end Sound

end Heap

end Framework
