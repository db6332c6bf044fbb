import Mathlib

/-!
# Scanning from the front

An automaton takes elements from the front of a list until it rejects one or the list ends. It
never looks behind the element it stops at, so what stands behind that element does not matter.
-/

universe u v

namespace Scan

variable {σ : Type u} {β : Type v}

/-- The state in which the automaton stops, and what it has left. -/
def run (step : σ → β → Option σ) : σ → List β → σ × List β
  | state, [] => (state, [])
  | state, b :: rest =>
      match step state b with
      | some state' => run step state' rest
      | none => (state, b :: rest)

/-- What is left is the end of what was given. -/
theorem run_suffix (step : σ → β → Option σ) (state : σ) (input : List β) :
    (run step state input).2 <:+ input := by
  induction input generalizing state with
  | nil => exact List.suffix_refl _
  | cons b rest ih =>
      unfold run
      cases step state b with
      | none => exact List.suffix_refl _
      | some state' => exact (ih state').trans (List.suffix_cons b rest)

/-- The automaton rejects the element that it stops at. -/
theorem run_stopped {step : σ → β → Option σ} {state : σ} {input rest : List β} {b : β}
    (stopped : (run step state input).2 = b :: rest) :
    step (run step state input).1 b = none := by
  induction input generalizing state with
  | nil => cases stopped
  | cons c input ih =>
      unfold run at stopped ⊢
      cases next : step state c with
      | none =>
          rw [next] at stopped
          cases stopped
          exact next
      | some state' =>
          rw [next] at stopped
          exact ih stopped

/-- An automaton that has stopped is not moved by more input. -/
theorem run_append_stopped {step : σ → β → Option σ} {state : σ} {input : List β}
    (stopped : (run step state input).2 ≠ []) (more : List β) :
    run step state (input ++ more) =
      ((run step state input).1, (run step state input).2 ++ more) := by
  induction input generalizing state with
  | nil => exact absurd rfl stopped
  | cons b rest ih =>
      rw [List.cons_append]
      unfold run at stopped ⊢
      cases next : step state b with
      | none => simp
      | some state' =>
          rw [next] at stopped
          exact ih stopped

/-- An automaton at the end of its input goes on with more input. -/
theorem run_append_exhausted {step : σ → β → Option σ} {state : σ} {input : List β}
    (exhausted : (run step state input).2 = []) (more : List β) :
    run step state (input ++ more) = run step (run step state input).1 more := by
  induction input generalizing state with
  | nil => rfl
  | cons b rest ih =>
      rw [List.cons_append]
      unfold run at exhausted
      cases next : step state b with
      | none =>
          rw [next] at exhausted
          cases exhausted
      | some state' =>
          rw [next] at exhausted
          conv => lhs; unfold run
          conv => rhs; arg 2; unfold run
          rw [next]
          exact ih exhausted

/-- What every step keeps holds where the automaton stops. -/
theorem run_invariant {step : σ → β → Option σ} {P : σ → Prop}
    (kept : ∀ state b state', step state b = some state' → P state → P state') {state : σ}
    (holds : P state) (input : List β) : P (run step state input).1 := by
  induction input generalizing state with
  | nil => exact holds
  | cons b rest ih =>
      unfold run
      cases next : step state b with
      | none => exact holds
      | some state' => exact ih (kept state b state' next holds)

/-- The first element is taken if the automaton accepts it. -/
theorem length_run_lt {step : σ → β → Option σ} {state : σ} {b : β} {rest : List β}
    (accepts : step state b ≠ none) : (run step state (b :: rest)).2.length < (b :: rest).length := by
  unfold run
  cases next : step state b with
  | none => exact absurd next accepts
  | some state' => exact Nat.lt_succ_of_le (run_suffix step state' rest).length_le

/-- An automaton that takes no delimiter does not look behind a word. -/
theorem run_word {step : σ → β → Option σ} {rest : List β}
    (delimited : ∀ b ∈ rest.head?, ∀ state, step state b = none) (state : σ) (word : List β) :
    run step state (word ++ rest) = ((run step state word).1, (run step state word).2 ++ rest) := by
  induction word generalizing state with
  | nil =>
      cases rest with
      | nil => rfl
      | cons b rest =>
          show run step state (b :: rest) = (state, b :: rest)
          unfold run
          rw [delimited b rfl state]
  | cons b word ih =>
      rw [List.cons_append]
      unfold run
      cases step state b with
      | none => rfl
      | some state' => exact ih state'

end Scan
