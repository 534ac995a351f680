import Mathlib.Data.List.Basic

/-!
# Footprints

A state is read at locations: `read s l` is what state `s` holds at location `l`. An operation has the
footprint `L` if it leaves every location outside `L` as it is (`ModifiesOnly`). The rules below put the
footprint of a compound operation together from those of its parts, so that each operation is looked at
once, and what it leaves alone is read off its footprint afterwards.
-/

namespace Framework

variable {State Loc : Type} {Value : Loc → Type} {read : State → ∀ l, Value l}

variable (read) in
/-- `s'` differs from `s` at the locations in `L` at most. -/
def ModifiesOnly (L : List Loc) (s s' : State) : Prop := ∀ l, l ∉ L → read s' l = read s l

namespace ModifiesOnly

variable {L L' : List Loc} {s s' s'' : State}

theorem refl (L : List Loc) (s : State) : ModifiesOnly read L s s := fun _ _ => rfl

theorem mono (h : ModifiesOnly read L s s') (hsub : L ⊆ L') : ModifiesOnly read L' s s' :=
  fun l hl => h l fun hmem => hl (hsub hmem)

theorem trans (h : ModifiesOnly read L s s') (h' : ModifiesOnly read L s' s'') :
    ModifiesOnly read L s s'' :=
  fun l hl => (h' l hl).trans (h l hl)

/-- One more operation, with its own footprint within `L`. -/
theorem step {L₁ : List Loc} (h : ModifiesOnly read L s s') (h' : ModifiesOnly read L₁ s' s'')
    (hsub : L₁ ⊆ L) : ModifiesOnly read L s s'' :=
  h.trans (h'.mono hsub)

/-- A choice between two operations. -/
theorem ite {p : Prop} [Decidable p] (h : ModifiesOnly read L s s')
    (h' : ModifiesOnly read L s s'') : ModifiesOnly read L s (if p then s' else s'') := by
  split
  · exact h
  · exact h'

end ModifiesOnly

end Framework
