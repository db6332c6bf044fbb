import EmsCollector.Misc.Run

/-!
# Traces

What a run has to show for itself: each label adds something that depends on the labels before it.
The items that pass while a switch is on are the trace of a component that listens only then.
-/

universe u v w

namespace Trace

variable {ε : Type u} {α : Type v}

/-- What the labels add, each looking back at those before it. -/
def traced (adds : List ε → ε → List α) (es : List ε) : List α :=
  (es.inits.zip es).flatMap fun (before, e) => adds before e

variable {adds : List ε → ε → List α}

@[simp] theorem traced_nil : traced adds [] = [] := rfl

theorem inits_snoc (es : List ε) (e : ε) : (es ++ [e]).inits = es.inits ++ [es ++ [e]] := by
  rw [List.inits_append]
  simp

theorem traced_snoc (es : List ε) (e : ε) :
    traced adds (es ++ [e]) = traced adds es ++ adds es e := by
  obtain ⟨front, last⟩ : ∃ front, es.inits = front ++ [es] := by
    rcases List.eq_nil_or_concat' es with rfl | ⟨init, final, rfl⟩
    · exact ⟨[], rfl⟩
    · exact ⟨init.inits, inits_snoc init final⟩
  have length : front.length = es.length := by
    have lengths := congrArg List.length last
    rw [List.length_inits, List.length_append, List.length_singleton] at lengths
    omega
  have before : (front ++ [es]).zip es = front.zip es := by
    have split : (front ++ [es]).zip (es ++ []) = front.zip es ++ [es].zip [] :=
      List.zip_append length
    rw [List.append_nil, List.zip_nil_right, List.append_nil] at split
    exact split
  unfold traced
  rw [inits_snoc, last, List.append_assoc, List.zip_append length, List.flatMap_append, before]
  simp

/-- What the first labels add is the first part of the trace. -/
theorem traced_prefix {before es : List ε} (part : before <+: es) :
    traced adds before <+: traced adds es := by
  obtain ⟨rest, rfl⟩ := part
  induction rest using List.reverseRecOn with
  | nil => rw [List.append_nil]
  | append_singleton rest last ih =>
      rw [← List.append_assoc, traced_snoc]
      exact ih.trans (List.prefix_append _ _)

/-- Something in a trace was added by a label. -/
theorem mem_traced {es : List ε} {a : α} : a ∈ traced adds es ↔
    ∃ before e after, es = before ++ e :: after ∧ a ∈ adds before e := by
  induction es using List.reverseRecOn with
  | nil => simp
  | append_singleton es last ih =>
      rw [traced_snoc, List.mem_append, ih]
      constructor
      · rintro (⟨before, e, after, rfl, member⟩ | member)
        · exact ⟨before, e, after ++ [last], by simp, member⟩
        · exact ⟨es, last, [], rfl, member⟩
      · rintro ⟨before, e, after, split, member⟩
        rcases List.eq_nil_or_concat' after with rfl | ⟨after, final, rfl⟩
        · obtain ⟨rfl, same⟩ := List.append_inj' split rfl
          cases same
          exact .inr member
        · rw [← List.cons_append, ← List.append_assoc] at split
          obtain ⟨rfl, -⟩ := List.append_inj' split rfl
          exact .inl ⟨before, e, after, rfl, member⟩

section Switch

/-- Where the labels leave a switch that some of them turn; at first it is off. -/
def switched (toggle : ε → Option Bool) (es : List ε) : Bool := (es.filterMap toggle).getLastD false

/-- The items of the labels that find the switch on. -/
def passed (toggle : ε → Option Bool) (items : ε → List α) (es : List ε) : List α :=
  traced (fun before e => if switched toggle before then items e else []) es

variable {toggle : ε → Option Bool} {items : ε → List α}

theorem switched_snoc (es : List ε) (e : ε) :
    switched toggle (es ++ [e]) = (toggle e).getD (switched toggle es) := by
  unfold switched
  rw [List.filterMap_append]
  cases moved : toggle e with
  | none => simp [moved]
  | some position => simp [moved]

theorem passed_snoc (es : List ε) (e : ε) : passed toggle items (es ++ [e]) =
    passed toggle items es ++ (if switched toggle es then items e else []) := traced_snoc es e

/-- The rule for a component that the labels turn on and off and that records their items while it
    is on. -/
theorem recorded {S : Type w} {A : LTS S ε} {ok : S → ε → Prop} (listening : S → Bool)
    (record : S → List α) {s t : S} {es : List ε} (run : A.Run ok s es t)
    (off : listening s = false) (empty : record s = [])
    (turned : ∀ t e u, ok t e → A.step t e u → listening u = (toggle e).getD (listening t))
    (kept : ∀ t e u, ok t e → A.step t e u →
      record u = record t ++ (if listening t then items e else [])) :
    listening t = switched toggle es ∧ record t = passed toggle items es := by
  induction run with
  | nil => exact ⟨off, empty⟩
  | snoc _ guard step ih =>
      obtain ⟨position, passed⟩ := ih
      refine ⟨?_, ?_⟩
      · rw [turned _ _ _ guard step, switched_snoc, position]
      · rw [kept _ _ _ guard step, passed_snoc, position, passed]

end Switch

end Trace
