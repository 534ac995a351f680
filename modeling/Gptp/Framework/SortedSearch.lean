import Mathlib.Data.List.Pairwise
import Mathlib.Order.Lattice

/-!
# Searching a sorted list from its start

A list is kept in descending order of a key, and searched from its start for an element with a given key:
the search stops at the first element whose key is not larger. The key of the search may be coarser than
the one that the list is ordered by, so that several elements have it.

`search_spec` says where the search stops, in terms of what is before and behind that position.
-/

namespace Framework

variable {α : Type}

section Search

variable {K : Type} [LinearOrder K]

/-- Where the search for the key `x` stops, and whether it has found an element with that key. -/
def search (key : α → K) (x : K) : List α → ℕ × Bool
  | [] => (0, false)
  | a :: l =>
    if key a = x then (0, true)
    else if key a < x then (0, false)
    else ((search key x l).1 + 1, (search key x l).2)

/-- The search has found an element: the first one with the key. -/
structure Finds (key : α → K) (x : K) (l l₁ : List α) (a : α) (l₂ : List α) : Prop where
  split : l = l₁ ++ a :: l₂
  eq : key a = x
  before : ∀ b ∈ l₁, x < key b

/-- The search has missed: the position at which it stopped is where such an element belongs. -/
structure Misses (key : α → K) (x : K) (l l₁ l₂ : List α) : Prop where
  split : l = l₁ ++ l₂
  before : ∀ b ∈ l₁, x < key b
  behind : ∀ b ∈ l₂, key b < x

/-- **The search.** In a list that is sorted by the key, it either finds the first element with the key,
or stops where such an element belongs. -/
theorem search_spec (key : α → K) (x : K) {l : List α} (h : l.Pairwise fun a b => key b ≤ key a) :
    (∃ l₁ a l₂, Finds key x l l₁ a l₂ ∧ search key x l = (l₁.length, true)) ∨
      ∃ l₁ l₂, Misses key x l l₁ l₂ ∧ search key x l = (l₁.length, false) := by
  induction l with
  | nil => exact .inr ⟨[], [], ⟨rfl, by simp, by simp⟩, rfl⟩
  | cons a l ih =>
    obtain ⟨hhead, htail⟩ := List.pairwise_cons.mp h
    rcases lt_trichotomy (key a) x with hlt | heq | hgt
    · refine .inr ⟨[], a :: l, ⟨rfl, by simp, ?_⟩, ?_⟩
      · intro b hb
        rcases List.mem_cons.mp hb with rfl | hb
        · exact hlt
        · exact (hhead b hb).trans_lt hlt
      · rw [search, if_neg hlt.ne, if_pos hlt]
        rfl
    · refine .inl ⟨[], a, l, ⟨rfl, heq, by simp⟩, ?_⟩
      rw [search, if_pos heq]
      rfl
    · -- the search goes on behind `a`
      have hstep : search key x (a :: l) = ((search key x l).1 + 1, (search key x l).2) := by
        rw [search, if_neg hgt.ne', if_neg hgt.not_gt]
      rw [hstep]
      rcases ih htail with ⟨l₁, b, l₂, hfinds, heq⟩ | ⟨l₁, l₂, hmisses, heq⟩
      · refine .inl ⟨a :: l₁, b, l₂, ⟨?_, hfinds.eq, ?_⟩, by rw [heq]; rfl⟩
        · rw [hfinds.split, List.cons_append]
        · exact List.forall_mem_cons.mpr ⟨hgt, hfinds.before⟩
      · refine .inr ⟨a :: l₁, l₂, ⟨?_, ?_, hmisses.behind⟩, by rw [heq]; rfl⟩
        · rw [hmisses.split, List.cons_append]
        · exact List.forall_mem_cons.mpr ⟨hgt, hmisses.before⟩

section Results

variable {key : α → K} {x : K} {l l₁ l₂ : List α} {a : α}

/-- Elements with the key are at the position found or behind it. -/
theorem Finds.mem_of_key_eq (h : Finds key x l l₁ a l₂) {b : α} (hb : b ∈ l) (heq : key b = x) :
    b = a ∨ b ∈ l₂ := by
  rw [h.split, List.mem_append, List.mem_cons] at hb
  rcases hb with hb | hb
  · exact absurd heq (h.before b hb).ne'
  · exact hb

theorem Finds.mem (h : Finds key x l l₁ a l₂) : a ∈ l := by
  rw [h.split]
  exact List.mem_append_cons_self

/-- After a miss there is no element with the key. -/
theorem Misses.key_ne (h : Misses key x l l₁ l₂) {b : α} (hb : b ∈ l) : key b ≠ x := by
  rw [h.split, List.mem_append] at hb
  rcases hb with hb | hb
  · exact (h.before b hb).ne'
  · exact (h.behind b hb).ne

end Results

end Search

/-! ### Inserting and erasing where the search has stopped -/

theorem insertIdx_length (l₁ l₂ : List α) (a : α) :
    (l₁ ++ l₂).insertIdx l₁.length a = l₁ ++ a :: l₂ := by
  induction l₁ with
  | nil => rfl
  | cons b l₁ ih => exact congrArg (b :: ·) ih

theorem eraseIdx_length (l₁ : List α) (a : α) (l₂ : List α) :
    (l₁ ++ a :: l₂).eraseIdx l₁.length = l₁ ++ l₂ := by
  rw [List.eraseIdx_append_of_length_le (Nat.le_refl _), Nat.sub_self]
  rfl

end Framework
