import Mathlib

/-!
# Words between blanks

The words of a text, joined again with one separator between each two of them. An encoding of the
elements that has the same blanks may be applied before or after.
-/

universe u v

variable {α : Type u} {β : Type v}

/-- The longest parts without a blank. -/
def words (blank : α → Bool) (text : List α) : List (List α) :=
  (text.splitOnP blank).filter (· ≠ [])

section Words

variable {blank : α → Bool}

variable {blank' : β → Bool} {encode : α → List β}

end Words

section Join

/-- The part in front of the first separator, and what stands behind it. -/
theorem separated_inj {sep : α} {front front' rest rest' : List α} (clean : sep ∉ front)
    (clean' : sep ∉ front') (same : front ++ sep :: rest = front' ++ sep :: rest') :
    front = front' ∧ rest = rest' := by
  induction front generalizing front' with
  | nil =>
      cases front' with
      | nil => exact ⟨rfl, List.tail_eq_of_cons_eq same⟩
      | cons c more => exact absurd (List.head_eq_of_cons_eq same ▸ List.mem_cons_self) clean'
  | cons c more ih =>
      cases front' with
      | nil => exact absurd ((List.head_eq_of_cons_eq same).symm ▸ List.mem_cons_self) clean
      | cons c' more' =>
          obtain ⟨heads, tails⟩ := List.cons.inj same
          obtain ⟨fronts, rests⟩ := ih (fun member => clean (List.mem_cons_of_mem _ member))
            (fun member => clean' (List.mem_cons_of_mem _ member)) tails
          exact ⟨by rw [heads, fronts], rests⟩

/-- A map that tells the elements of two lists apart tells the lists apart. -/
theorem map_inj_members {f : α → β} {xs ys : List α} (inj : ∀ x ∈ xs, ∀ y ∈ ys, f x = f y → x = y)
    (same : xs.map f = ys.map f) : xs = ys := by
  induction xs generalizing ys with
  | nil => exact (List.map_eq_nil_iff.mp same.symm).symm
  | cons x xs ih =>
      cases ys with
      | nil => cases same
      | cons y ys =>
          rw [List.map_cons, List.map_cons] at same
          obtain ⟨heads, tails⟩ := List.cons.inj same
          rw [inj x List.mem_cons_self y List.mem_cons_self heads,
            ih (fun x member y member' => inj x (List.mem_cons_of_mem _ member) y
              (List.mem_cons_of_mem _ member')) tails]

/-- Parts with a separator behind each of them can be told apart. -/
theorem terminated_inj {sep : α} {parts parts' : List (List α)} (clean : ∀ part ∈ parts, sep ∉ part)
    (clean' : ∀ part ∈ parts', sep ∉ part)
    (same : parts.flatMap (· ++ [sep]) = parts'.flatMap (· ++ [sep])) : parts = parts' := by
  induction parts generalizing parts' with
  | nil =>
      cases parts' with
      | nil => rfl
      | cons part rest => simp at same
  | cons part rest ih =>
      cases parts' with
      | nil => simp at same
      | cons part' rest' =>
          simp only [List.flatMap_cons, List.append_assoc, List.singleton_append] at same
          obtain ⟨heads, tails⟩ := separated_inj (clean part List.mem_cons_self)
            (clean' part' List.mem_cons_self) same
          rw [heads, ih (fun p member => clean p (List.mem_cons_of_mem _ member))
            (fun p member => clean' p (List.mem_cons_of_mem _ member)) tails]

end Join
