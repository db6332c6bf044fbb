import Mathlib

/-!
# The backlog of a queue

A queue is filled and served in rounds: what arrives is added, and then as much as the round can
serve is taken away. The level is the largest excess of what has arrived over what could be served,
over all last stretches of rounds. So a bound on the level is one on the excess of every stretch.
-/

namespace Backlog

/-- What arrives in a round, and what it can serve. -/
abbrev Round := Nat × Nat

def arrivals (rounds : List Round) : Nat := (rounds.map Prod.fst).sum

def services (rounds : List Round) : Nat := (rounds.map Prod.snd).sum

/-- The level behind the rounds. -/
def level (rounds : List Round) : Nat :=
  rounds.foldl (fun level round => level + round.1 - round.2) 0

theorem level_snoc (rounds : List Round) (round : Round) :
    level (rounds ++ [round]) = level rounds + round.1 - round.2 := by
  unfold level
  rw [List.foldl_append]
  rfl

theorem arrivals_append (rounds more : List Round) :
    arrivals (rounds ++ more) = arrivals rounds + arrivals more := by
  simp [arrivals]

theorem services_append (rounds more : List Round) :
    services (rounds ++ more) = services rounds + services more := by
  simp [services]

theorem arrivals_snoc (rounds : List Round) (round : Round) :
    arrivals (rounds ++ [round]) = arrivals rounds + round.1 := by
  simp [arrivals]

theorem services_snoc (rounds : List Round) (round : Round) :
    services (rounds ++ [round]) = services rounds + round.2 := by
  simp [services]

/-- No last stretch exceeds the level. -/
theorem arrivals_le (before rest : List Round) :
    arrivals rest ≤ level (before ++ rest) + services rest := by
  induction rest using List.reverseRecOn with
  | nil => exact Nat.zero_le _
  | append_singleton rest round ih =>
      rw [← List.append_assoc, level_snoc, arrivals_snoc, services_snoc]
      omega

/-- One of them reaches it: since the queue was last empty, all services were used. -/
theorem exists_busy (rounds : List Round) :
    ∃ before busy, rounds = before ++ busy ∧ level rounds + services busy = arrivals busy := by
  induction rounds using List.reverseRecOn with
  | nil => exact ⟨[], [], rfl, rfl⟩
  | append_singleton rounds round ih =>
      obtain ⟨before, busy, split, reached⟩ := ih
      by_cases empties : level rounds + round.1 ≤ round.2
      · refine ⟨rounds ++ [round], [], (List.append_nil _).symm, ?_⟩
        rw [level_snoc, Nat.sub_eq_zero_of_le empties]
        rfl
      · refine ⟨before, busy ++ [round], by rw [split, List.append_assoc], ?_⟩
        rw [level_snoc, arrivals_snoc, services_snoc]
        omega

/-- With what arrives, the level never exceeds the bound. -/
def Fits (bound : Nat) (rounds : List Round) : Prop :=
  ∀ before round rest, rounds = before ++ round :: rest → level before + round.1 ≤ bound

theorem Fits.snoc_iff {bound : Nat} {rounds : List Round} {round : Round} :
    Fits bound (rounds ++ [round]) ↔ Fits bound rounds ∧ level rounds + round.1 ≤ bound := by
  constructor
  · intro fits
    refine ⟨fun before other rest split => fits before other (rest ++ [round]) ?_,
      fits rounds round [] rfl⟩
    rw [split, List.append_assoc, List.cons_append]
  · rintro ⟨fits, last⟩ before other rest split
    rcases List.eq_nil_or_concat' rest with rfl | ⟨rest, final, rfl⟩
    · obtain ⟨rfl, same⟩ := List.append_inj' split rfl
      cases same
      exact last
    · rw [← List.cons_append, ← List.append_assoc] at split
      exact fits before other rest (List.append_inj' split rfl).1

theorem Fits.level_le {bound : Nat} {rounds : List Round} (fits : Fits bound rounds) :
    level rounds ≤ bound := by
  induction rounds using List.reverseRecOn with
  | nil => exact Nat.zero_le _
  | append_singleton rounds round _ =>
      have last := (Fits.snoc_iff.mp fits).2
      rw [level_snoc]
      omega

/-- The level fits exactly if no stretch of rounds exceeds its services by more than the bound;
    the service of its last round comes too late. -/
theorem fits_iff (bound : Nat) (rounds : List Round) : Fits bound rounds ↔
    ∀ before busy round rest, rounds = before ++ busy ++ round :: rest →
      arrivals busy + round.1 ≤ bound + services busy := by
  constructor
  · intro fits before busy round rest split
    have level := fits (before ++ busy) round rest split
    have excess := arrivals_le before busy
    omega
  · intro stretches before round rest split
    obtain ⟨front, busy, same, reached⟩ := exists_busy before
    have excess := stretches front busy round rest (same ▸ split)
    omega

end Backlog
