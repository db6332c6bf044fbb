import Mathlib

/-!
# Rows of a table

What is found in a table is one of its rows.
-/

universe u v

variable {α : Type u} {β : Type v}

theorem mem_of_lookup [BEq α] [LawfulBEq α] {rows : List (α × β)} {key : α} {value : β}
    (found : rows.lookup key = some value) : (key, value) ∈ rows := by
  obtain ⟨before, after, split, -⟩ := List.lookup_eq_some_iff.mp found
  rw [split]
  exact List.mem_append_right _ List.mem_cons_self

/-- A value that is looked up is that of a row with the key, or the default. -/
theorem lookup_getD [BEq α] [LawfulBEq α] {rows : List (α × β)} {P : β → Prop} {key : α} {default : β}
    (all : ∀ row ∈ rows, row.1 = key → P row.2) (other : P default) :
    P ((rows.lookup key).getD default) := by
  cases found : rows.lookup key with
  | none => exact other
  | some value => exact all (key, value) (mem_of_lookup found) rfl

/-- The first row that fits. -/
theorem find_row {rows : List α} {Fits : α → Prop} [DecidablePred Fits] {row : α}
    (found : rows.find? (fun row => Fits row) = some row) : row ∈ rows ∧ Fits row := by
  have fits := List.find?_some found
  exact ⟨List.mem_of_find?_eq_some found, of_decide_eq_true fits⟩
