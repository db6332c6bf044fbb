import Mathlib

/-!
# Runs of a labelled transition system

A run takes one labelled step after another, and each step may be held to a side condition
on the state it leaves and on its label (`ok`). An invariant that every such step preserves
holds at the end of every such run; a step condition that is always true gives the ordinary
reachable states.
-/

universe u v

/-- A labelled transition system: `step s e t` takes `s` to `t` under the label `e`. -/
structure LTS (S : Type u) (E : Type v) where
  step : S → E → S → Prop

namespace LTS

variable {S : Type u} {E : Type v} {A : LTS S E} {ok : S → E → Prop}

/-- `A.Run ok s es t`: the labels `es` lead from `s` to `t`, and every step meets `ok`. -/
inductive Run (A : LTS S E) (ok : S → E → Prop) (s : S) : List E → S → Prop
  | nil : Run A ok s [] s
  | snoc {es : List E} {t u : S} {e : E} :
      Run A ok s es t → ok t e → A.step t e u → Run A ok s (es ++ [e]) u

/-- The system whose step is a partial function. -/
def ofOption (f : S → E → Option S) : LTS S E := ⟨fun s e t => f s e = some t⟩

/-- The induction rule: an invariant of the guarded steps holds at the end of a run. -/
theorem Run.invariant {I : S → Prop} {s t : S} {es : List E} (run : A.Run ok s es t)
    (start : I s) (preserved : ∀ t e u, I t → ok t e → A.step t e u → I u) : I t := by
  induction run with
  | nil => exact start
  | snoc _ guard step ih => exact preserved _ _ _ ih guard step

/-- The steps of a run may be held to an invariant of the run. -/
theorem Run.held {I : S → Prop} {s t : S} {es : List E} (run : A.Run ok s es t) (start : I s)
    (preserved : ∀ t e u, I t → ok t e → A.step t e u → I u) :
    A.Run (fun t e => ok t e ∧ I t) s es t := by
  induction run with
  | nil => exact .nil
  | snoc before guard step ih => exact .snoc ih ⟨guard, before.invariant start preserved⟩ step

/-- A bound that every step lowers bounds the length of a run. -/
theorem Run.bounded {I : Nat → S → Prop} {n : Nat} {s t : S} {es : List E} (run : A.Run ok s es t)
    (start : I n s) (lowered : ∀ m t e u, I m t → ok t e → A.step t e u → ∃ k, k + 1 ≤ m ∧ I k u) :
    ∃ m, es.length + m ≤ n ∧ I m t := by
  induction run with
  | nil => exact ⟨n, by simp, start⟩
  | snoc _ guard step ih =>
      obtain ⟨m, bound, inv⟩ := ih
      obtain ⟨k, less, inv'⟩ := lowered _ _ _ _ inv guard step
      refine ⟨k, ?_, inv'⟩
      rw [List.length_append, List.length_singleton]
      omega

/-- A run of guarded steps is a run of any weaker guard. -/
theorem Run.weaken {ok' : S → E → Prop} {s t : S} {es : List E} (run : A.Run ok s es t)
    (weaker : ∀ t e, ok t e → ok' t e) : A.Run ok' s es t := by
  induction run with
  | nil => exact .nil
  | snoc _ guard step ih => exact .snoc ih (weaker _ _ guard) step

/-- A run may also begin with a step. -/
theorem Run.cons {s t u : S} {e : E} {es : List E} (guard : ok s e) (step : A.step s e t)
    (run : A.Run ok t es u) : A.Run ok s (e :: es) u := by
  induction run with
  | nil =>
      show A.Run ok s ([] ++ [e]) t
      exact .snoc .nil guard step
  | @snoc es u v e' _ guard' step' ih =>
      show A.Run ok s ((e :: es) ++ [e']) v
      exact .snoc ih guard' step'

/-- One run after the other. -/
theorem Run.append {s t u : S} {es fs : List E} (run : A.Run ok s es t) (rest : A.Run ok t fs u) :
    A.Run ok s (es ++ fs) u := by
  induction rest with
  | nil =>
      rw [List.append_nil]
      exact run
  | snoc _ guard step ih =>
      rw [← List.append_assoc]
      exact .snoc ih guard step

theorem Run.of_nil {s t : S} (run : A.Run ok s [] t) : t = s := by
  generalize empty : [] = labels at run
  cases run with
  | nil => rfl
  | snoc _ _ _ => simp at empty

/-- The last step of a run. -/
theorem Run.of_snoc {s u : S} {es : List E} {e : E} (run : A.Run ok s (es ++ [e]) u) :
    ∃ t, A.Run ok s es t ∧ ok t e ∧ A.step t e u := by
  generalize split : es ++ [e] = labels at run
  cases run with
  | nil => simp at split
  | snoc before guard step =>
      obtain ⟨rfl, same⟩ := List.append_inj' split rfl
      cases same
      exact ⟨_, before, guard, step⟩

/-- Where the steps are a partial function, the labels determine the state. -/
theorem Run.unique {f : S → E → Option S} {ok' : S → E → Prop} {s t u : S} {es : List E}
    (run : (ofOption f).Run ok s es t) (run' : (ofOption f).Run ok' s es u) : t = u := by
  induction run generalizing u with
  | nil => exact run'.of_nil.symm
  | snoc _ _ step ih =>
      obtain ⟨t', before, -, step'⟩ := run'.of_snoc
      obtain rfl := ih before
      exact Option.some.inj (step.symm.trans step')

/-- The run of a partial function through a list of labels. -/
theorem Run.ofFold [∀ s e, Decidable (ok s e)] {f : S → E → Option S} {s t : S} {es : List E}
    (fold : es.foldlM (fun s e => if ok s e then f s e else none) s = some t) :
    (ofOption f).Run ok s es t := by
  induction es generalizing s with
  | nil =>
      cases fold
      exact .nil
  | cons e rest ih =>
      rw [List.foldlM_cons] at fold
      obtain ⟨u, step, fold⟩ := Option.bind_eq_some_iff.mp fold
      by_cases guard : ok s e
      · rw [if_pos guard] at step
        exact .cons guard step (ih fold)
      · rw [if_neg guard] at step
        cases step

end LTS
