import Mathlib

/-!
# Running checksums

A checksum is folded over a sequence one symbol at a time and sent behind it. A step that is
injective in the state and in the symbol never takes the effect of a single change back, and a
step that adds parities makes the parity of the whole word constant; either way the receiver's
checksum of the changed sequence differs from the one that arrives.
-/

namespace Checksum

universe u v

variable {σ : Type u} {β : Type v}

/-- The number of positions at which two sequences of one length differ. -/
def distance [DecidableEq β] (xs ys : List β) : Nat :=
  (xs.zip ys).countP (fun pair => pair.1 ≠ pair.2)

/-- The number of units, such as bits, in which the symbols of two sequences differ. -/
def flips (diff : β → β → Nat) (xs ys : List β) : Nat := (List.zipWith diff xs ys).sum

@[simp] theorem distance_cons [DecidableEq β] (x y : β) (xs ys : List β) :
    distance (x :: xs) (y :: ys) = distance xs ys + if x = y then 0 else 1 := by
  by_cases same : x = y <;> simp [distance, same]

theorem distance_append [DecidableEq β] {xs ys : List β} (same : xs.length = ys.length)
    (xs' ys' : List β) : distance (xs ++ xs') (ys ++ ys') = distance xs ys + distance xs' ys' := by
  unfold distance
  rw [List.zip_append same, List.countP_append]

theorem eq_of_distance_zero [DecidableEq β] {xs ys : List β} (same : xs.length = ys.length)
    (zero : distance xs ys = 0) : xs = ys := by
  induction xs generalizing ys with
  | nil => exact (List.length_eq_zero_iff.mp same.symm).symm
  | cons x xs ih =>
      cases ys with
      | nil => cases same
      | cons y ys =>
          rw [distance_cons] at zero
          obtain ⟨rest, here⟩ := Nat.add_eq_zero_iff.mp zero
          have equal : x = y := Decidable.byContradiction fun differ => by simp [differ] at here
          rw [equal, ih (Nat.succ.inj same) rest]

section Single

variable {step : σ → β → σ} (state : ∀ b s t, step s b = step t b → s = t)
  (symbol : ∀ s b c, step s b = step s c → b = c)

include state in
/-- Different states stay different over equal symbols. -/
theorem foldl_injective {s t : σ} {xs : List β} (equal : xs.foldl step s = xs.foldl step t) :
    s = t := by
  induction xs generalizing s t with
  | nil => exact equal
  | cons x xs ih => exact state x s t (ih equal)

include state symbol in
/-- A single changed symbol changes the checksum. -/
theorem foldl_ne_of_distance_one [DecidableEq β] {s : σ} {xs ys : List β}
    (same : xs.length = ys.length) (one : distance xs ys = 1) :
    xs.foldl step s ≠ ys.foldl step s := by
  induction xs generalizing ys s with
  | nil =>
      rw [List.length_eq_zero_iff.mp same.symm] at one
      cases one
  | cons x xs ih =>
      cases ys with
      | nil => cases same
      | cons y ys =>
          have rest := Nat.succ.inj same
          rw [distance_cons] at one
          by_cases equal : x = y
          · subst equal
            simp only [if_true, Nat.add_zero] at one
            exact ih rest one
          · simp only [equal, if_false, Nat.add_eq_right] at one
            rw [← eq_of_distance_zero rest one]
            intro folded
            exact equal (symbol s x y (foldl_injective state folded))

end Single

/-- A word with one changed symbol, the checksum included, does not pass the check. -/
theorem detects_single [DecidableEq β] {step : β → β → β}
    (state : ∀ b s t, step s b = step t b → s = t) (symbol : ∀ s b c, step s b = step s c → b = c)
    {s : β} {xs ys : List β} {received : β} (same : xs.length = ys.length)
    (one : distance (xs ++ [xs.foldl step s]) (ys ++ [received]) = 1) :
    ys.foldl step s ≠ received := by
  rw [distance_append same, distance_cons] at one
  by_cases kept : xs.foldl step s = received
  · rw [← kept]
    simp only [kept, if_true] at one
    exact (foldl_ne_of_distance_one state symbol same one).symm
  · have body : distance xs ys = 0 := by
      simp only [kept, if_false] at one
      omega
    rwa [← eq_of_distance_zero same body]

section Parity

variable {diff : β → β → Nat} {weight : β → Nat}
  (diffs : ∀ b c, diff b c % 2 = (weight b + weight c) % 2)

include diffs in
theorem flips_mod_two {xs ys : List β} (same : xs.length = ys.length) :
    flips diff xs ys % 2 = ((xs.map weight).sum + (ys.map weight).sum) % 2 := by
  induction xs generalizing ys with
  | nil =>
      rw [List.length_eq_zero_iff.mp same.symm]
      rfl
  | cons x xs ih =>
      cases ys with
      | nil => cases same
      | cons y ys =>
          have rest := ih (Nat.succ.inj same)
          have here := diffs x y
          simp only [flips, List.zipWith_cons_cons, List.sum_cons, List.map_cons] at rest ⊢
          omega

/-- A step that adds parities folds to the parity of the whole sequence. -/
theorem foldl_mod_two {step : σ → β → σ} {value : σ → Nat}
    (adds : ∀ s b, value (step s b) % 2 = (value s + weight b) % 2) (s : σ) (xs : List β) :
    value (xs.foldl step s) % 2 = (value s + (xs.map weight).sum) % 2 := by
  induction xs generalizing s with
  | nil => simp
  | cons x xs ih =>
      have rest := ih (step s x)
      have here := adds s x
      simp only [List.foldl_cons, List.map_cons, List.sum_cons] at rest ⊢
      omega

include diffs in
/-- A word changed in an odd number of units, the checksum included, does not pass the check. -/
theorem detects_odd {step : β → β → β}
    (adds : ∀ s b, weight (step s b) % 2 = (weight s + weight b) % 2) {s : β} {xs ys : List β}
    {received : β} (same : xs.length = ys.length)
    (odd : flips diff (xs ++ [xs.foldl step s]) (ys ++ [received]) % 2 = 1) :
    ys.foldl step s ≠ received := by
  rintro rfl
  have longer : (xs ++ [xs.foldl step s]).length = (ys ++ [ys.foldl step s]).length := by
    simp [same]
  rw [flips_mod_two diffs longer] at odd
  have sent := foldl_mod_two adds s xs
  have arrived := foldl_mod_two adds s ys
  simp only [List.map_append, List.map_singleton, List.sum_append, List.sum_singleton] at odd
  omega

end Parity

end Checksum
