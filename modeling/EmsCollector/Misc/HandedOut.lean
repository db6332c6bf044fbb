import Mathlib

/-!
# Elements handed out

A computation that appends elements to a list, and may fail. A property of the elements that it
hands out is one of its parts.
-/

universe u

variable {α ε β γ : Type u}

/-- If the computation does not fail, all elements that it hands out have the property. -/
def HandsOut (P : α → Prop) (m : StateT (List α) (Except ε) β) : Prop :=
  ∀ earlier b all, m earlier = .ok (b, all) → ∃ more, all = earlier ++ more ∧ ∀ a ∈ more, P a

/-- A sequence that does not fail went through a state between its parts. -/
theorem stateBind_ok {m : StateT (List α) (Except ε) β} {next : β → StateT (List α) (Except ε) γ}
    {earlier all : List α} {c : γ} (ran : (m >>= next) earlier = .ok (c, all)) :
    ∃ b middle, m earlier = .ok (b, middle) ∧ next b middle = .ok (c, all) := by
  change (m earlier >>= fun s => next s.1 s.2) = _ at ran
  cases run : m earlier with
  | error e =>
      rw [run] at ran
      cases ran
  | ok s =>
      rw [run] at ran
      exact ⟨s.1, s.2, rfl, ran⟩

namespace HandsOut

variable {P Q : α → Prop}

theorem pure (b : β) : HandsOut P (pure b : StateT (List α) (Except ε) β) := by
  rintro earlier b all ⟨⟩
  exact ⟨[], (List.append_nil _).symm, fun _ member => absurd member List.not_mem_nil⟩

theorem lift (e : Except ε β) : HandsOut P (liftM e : StateT (List α) (Except ε) β) := by
  intro earlier b all ran
  cases e with
  | error e => cases ran
  | ok b => exact pure b _ _ _ ran

theorem bind {m : StateT (List α) (Except ε) β} {next : β → StateT (List α) (Except ε) γ}
    (first : HandsOut P m) (rest : ∀ b, HandsOut P (next b)) : HandsOut P (m >>= next) := by
  intro earlier c all ran
  obtain ⟨b, middle, run, ran⟩ := stateBind_ok ran
  obtain ⟨more, rfl, members⟩ := first _ _ _ run
  obtain ⟨more', rfl, members'⟩ := rest b _ _ _ ran
  refine ⟨more ++ more', List.append_assoc .., fun a member => ?_⟩
  rcases List.mem_append.mp member with old | new
  · exact members a old
  · exact members' a new

theorem ite {c : Prop} [Decidable c] {yes no : StateT (List α) (Except ε) β} (first : HandsOut P yes)
    (second : HandsOut P no) : HandsOut P (if c then yes else no) := by
  split
  · exact first
  · exact second

theorem mono {m : StateT (List α) (Except ε) β} (hands : HandsOut P m) (weaker : ∀ a, P a → Q a) :
    HandsOut Q m := by
  intro earlier b all ran
  obtain ⟨more, same, members⟩ := hands _ _ _ ran
  exact ⟨more, same, fun a member => weaker a (members a member)⟩

end HandsOut
