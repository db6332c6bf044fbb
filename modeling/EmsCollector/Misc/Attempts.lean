import EmsCollector.Misc.RunLength

/-!
# Run-length encoding with writes that fail

Two writes follow each reading: one ends the last stretch at its time, and if its value is
another one, one begins a new stretch. Each of them may fail. As long as the new stretch could
not be begun, the old one stays the last and the next reading ends it too late.
-/

universe u v

namespace RunLength

variable {τ : Type u} {α : Type v}

/-- A reading, and whether the writes for it succeed. -/
structure Attempt (τ : Type u) (α : Type v) where
  time : τ
  value : α
  updated : Bool
  inserted : Bool
  deriving DecidableEq

section Attempt

variable [DecidableEq α]

/-- One more reading. -/
def attempt (stretches : List (Stretch τ α)) (a : Attempt τ α) : List (Stretch τ α) :=
  match stretches.getLast? with
  | none => if a.inserted then [.single (a.time, a.value)] else []
  | some last =>
      stretches.dropLast ++ (if a.updated then last.until a.time else last) ::
        (if last.value = a.value ∨ a.inserted = false then [] else [.single (a.time, a.value)])

/-- The stretches that come of the readings. -/
def attempts (as : List (Attempt τ α)) : List (Stretch τ α) := as.foldl attempt []

@[simp] theorem attempt_nil (a : Attempt τ α) :
    attempt [] a = if a.inserted then [.single (a.time, a.value)] else [] := rfl

theorem attempt_snoc (front : List (Stretch τ α)) (last : Stretch τ α) (a : Attempt τ α) :
    attempt (front ++ [last]) a = front ++ (if a.updated then last.until a.time else last) ::
      (if last.value = a.value ∨ a.inserted = false then [] else [.single (a.time, a.value)]) := by
  simp [attempt]

/-- Writes that succeed encode the reading. -/
theorem attempt_push (stretches : List (Stretch τ α)) (t : τ) (value : α) :
    attempt stretches ⟨t, value, true, true⟩ = push stretches (t, value) := by
  rcases List.eq_nil_or_concat' stretches with rfl | ⟨front, last, rfl⟩
  · rfl
  · simp [attempt_snoc, push_snoc]

@[simp] theorem attempts_nil : attempts ([] : List (Attempt τ α)) = [] := rfl

@[simp] theorem attempts_snoc (as : List (Attempt τ α)) (a : Attempt τ α) :
    attempts (as ++ [a]) = attempt (attempts as) a := by
  simp [attempts]

/-- What the last stretch is after one more reading: the new one, or the old one with its begin
    and value. -/
theorem getLast?_attempt (stretches : List (Stretch τ α)) (a : Attempt τ α) {last : Stretch τ α}
    (is_last : (attempt stretches a).getLast? = some last) :
    last.start = a.time ∨ ∃ before, stretches.getLast? = some before ∧
      before.start = last.start ∧ before.value = last.value ∧
      (before.value = a.value ∨ a.inserted = false) := by
  rcases List.eq_nil_or_concat' stretches with rfl | ⟨front, before, rfl⟩
  · left
    rw [attempt_nil] at is_last
    split at is_last
    · cases is_last
      rfl
    · cases is_last
  · rw [attempt_snoc] at is_last
    by_cases kept : before.value = a.value ∨ a.inserted = false
    · right
      rw [if_pos kept, List.getLast?_concat] at is_last
      cases is_last
      refine ⟨before, List.getLast?_concat, ?_, ?_, kept⟩
      · split <;> rfl
      · split <;> rfl
    · left
      rw [if_neg kept, List.append_cons, List.getLast?_concat] at is_last
      cases is_last
      rfl

/-- A reading that begins no stretch leaves the begin and the value of the last one. -/
theorem getLast?_attempt_kept {stretches : List (Stretch τ α)} {a : Attempt τ α}
    {last : Stretch τ α} (is_last : stretches.getLast? = some last)
    (kept : last.value = a.value ∨ a.inserted = false) :
    ∃ after, (attempt stretches a).getLast? = some after ∧ after.start = last.start ∧
      after.value = last.value := by
  rcases List.eq_nil_or_concat' stretches with rfl | ⟨front, before, rfl⟩
  · cases is_last
  · rw [List.getLast?_concat] at is_last
    cases is_last
    rw [attempt_snoc, if_pos kept, List.getLast?_concat]
    refine ⟨_, rfl, ?_, ?_⟩
    · split <;> rfl
    · split <;> rfl

/-- Readings that begin no stretch leave the begin and the value of the last one. -/
theorem getLast?_kept {before rest : List (Attempt τ α)} {last : Stretch τ α}
    (is_last : (attempts before).getLast? = some last)
    (kept : ∀ x ∈ rest, last.value = x.value ∨ x.inserted = false) :
    ∃ after, (attempts (before ++ rest)).getLast? = some after ∧ after.start = last.start ∧
      after.value = last.value := by
  induction rest using List.reverseRecOn with
  | nil => exact ⟨last, by simpa using is_last, rfl, rfl⟩
  | append_singleton rest x ih =>
      obtain ⟨middle, is_middle, start, value⟩ :=
        ih (fun x member => kept x (List.mem_append_left _ member))
      have here := kept x (by simp)
      rw [← value] at here
      obtain ⟨after, is_after, start', value'⟩ := getLast?_attempt_kept is_middle here
      rw [← List.append_assoc, attempts_snoc]
      exact ⟨after, is_after, start'.trans start, value'.trans value⟩

end Attempt

/-- No stretch ends later than a reading of another value that was made after its begin. -/
def Truthful [LE τ] [LT τ] (stretches : List (Stretch τ α)) (as : List (Attempt τ α)) : Prop :=
  ∀ stretch ∈ stretches, ∀ a ∈ as, stretch.start < a.time → a.value ≠ stretch.value →
    stretch.stop ≤ a.time

/-- When a reading has another value than the last stretch, then as long as no stretch is begun,
    every update that succeeds does so at its time. -/
def Harmless [LE τ] [LT τ] [DecidableEq α] (as : List (Attempt τ α)) : Prop :=
  ∀ before a between b after last, as = before ++ a :: (between ++ b :: after) →
    (attempts before).getLast? = some last → last.start < a.time → a.value ≠ last.value →
    (∀ x ∈ a :: between, last.value = x.value ∨ x.inserted = false) →
    b.updated = true → b.time ≤ a.time

section Harmless

variable [LinearOrder τ] [DecidableEq α]

/-- The stretches lie within the time of the readings. -/
theorem attempts_le {as : List (Attempt τ α)} {t : τ} (older : ∀ a ∈ as, a.time ≤ t) :
    ∀ stretch ∈ attempts as, stretch.start ≤ t ∧ stretch.stop ≤ t := by
  induction as using List.reverseRecOn with
  | nil => exact nofun
  | append_singleton as a ih =>
      have bounded := ih (fun a member => older a (List.mem_append_left _ member))
      have now : a.time ≤ t := older a (by simp)
      rw [attempts_snoc]
      rcases List.eq_nil_or_concat' (attempts as) with empty | ⟨front, last, split⟩
      · rw [empty, attempt_nil]
        split
        · intro stretch member
          cases List.mem_singleton.mp member
          exact ⟨now, now⟩
        · exact nofun
      · rw [split] at bounded ⊢
        rw [attempt_snoc]
        intro stretch member
        rcases List.mem_append.mp member with closed | recent
        · exact bounded stretch (List.mem_append_left _ closed)
        · obtain ⟨start, stop⟩ := bounded last (by simp)
          rcases List.mem_cons.mp recent with rfl | new
          · split
            · exact ⟨start, now⟩
            · exact ⟨start, stop⟩
          · split at new
            · cases new
            · cases List.mem_singleton.mp new
              exact ⟨now, now⟩

/-- If the last stretch begins before the time of the later readings, none of them began one. -/
theorem getLast?_older {before rest : List (Attempt τ α)} {last : Stretch τ α}
    (is_last : (attempts (before ++ rest)).getLast? = some last)
    (older : ∀ x ∈ rest, last.start < x.time) :
    ∃ first, (attempts before).getLast? = some first ∧ first.start = last.start ∧
      first.value = last.value ∧ ∀ x ∈ rest, first.value = x.value ∨ x.inserted = false := by
  induction rest using List.reverseRecOn generalizing last with
  | nil => exact ⟨last, by simpa using is_last, rfl, rfl, nofun⟩
  | append_singleton rest x ih =>
      rw [← List.append_assoc, attempts_snoc] at is_last
      rcases getLast?_attempt _ x is_last with new | ⟨middle, is_middle, start, value, kept⟩
      · exact absurd (older x (by simp)) (by rw [new]; exact lt_irrefl _)
      · obtain ⟨first, is_first, start', value', rest_kept⟩ := ih is_middle
          (fun y member => by rw [start]; exact older y (List.mem_append_left _ member))
        refine ⟨first, is_first, start'.trans start, value'.trans value, ?_⟩
        intro y member
        rcases List.mem_append.mp member with earlier | final
        · exact rest_kept y earlier
        · cases List.mem_singleton.mp final
          rwa [value']

/-- What one more reading does to the truth of the stretches: only an update of the last one can
    break it. -/
theorem truthful_snoc {as : List (Attempt τ α)} {b : Attempt τ α}
    (order : ∀ a ∈ as, a.time ≤ b.time) :
    Truthful (attempts (as ++ [b])) (as ++ [b]) ↔ Truthful (attempts as) as ∧
      (b.updated = true → ∀ last, (attempts as).getLast? = some last → ∀ a ∈ as,
        last.start < a.time → a.value ≠ last.value → b.time ≤ a.time) := by
  have bounded := attempts_le order
  rw [attempts_snoc]
  rcases List.eq_nil_or_concat' (attempts as) with empty | ⟨front, last, split⟩
  · rw [empty, attempt_nil]
    refine ⟨fun _ => ⟨nofun, fun _ last wrong => by cases wrong⟩, fun _ => ?_⟩
    split
    · intro stretch member a listed later
      cases List.mem_singleton.mp member
      rcases List.mem_append.mp listed with before | final
      · exact absurd later (not_lt_of_ge (order a before))
      · cases List.mem_singleton.mp final
        exact absurd later (lt_irrefl _)
    · exact nofun
  · rw [split] at bounded ⊢
    rw [attempt_snoc]
    constructor
    · intro truthful
      refine ⟨?_, ?_⟩
      · intro stretch member a listed later other
        have listed' : a ∈ as ++ [b] := List.mem_append_left _ listed
        rcases List.mem_append.mp member with closed | final
        · exact truthful stretch (List.mem_append_left _ closed) a listed' later other
        · cases List.mem_singleton.mp final
          have here := truthful _ (List.mem_append_right _ (List.mem_cons_self ..)) a listed'
          split at here
          · exact le_trans (bounded last (by simp)).2 (here later other)
          · exact here later other
      · intro updated final is_last a listed later other
        rw [List.getLast?_concat] at is_last
        cases is_last
        have here := truthful _ (List.mem_append_right _ (List.mem_cons_self ..)) a
          (List.mem_append_left _ listed)
        rw [if_pos updated] at here
        exact here later other
    · rintro ⟨truthful, update⟩ stretch member a listed later other
      have recent : a = b → stretch.stop ≤ a.time := by
        rintro rfl
        have older : ∀ x ∈ as ++ [a], x.time ≤ a.time := by
          intro x listed
          rcases List.mem_append.mp listed with before | final
          · exact order x before
          · cases List.mem_singleton.mp final
            exact le_refl _
        have inside := attempts_le older
        rw [attempts_snoc, split, attempt_snoc] at inside
        exact (inside stretch member).2
      rcases List.mem_append.mp listed with before | final
      case inr => exact recent (List.mem_singleton.mp final)
      rcases List.mem_append.mp member with closed | open'
      · exact truthful stretch (List.mem_append_left _ closed) a before later other
      rcases List.mem_cons.mp open' with rfl | new
      · by_cases updated : b.updated = true
        · rw [if_pos updated] at later other ⊢
          exact update updated last List.getLast?_concat a before later other
        · rw [if_neg updated] at later other ⊢
          exact truthful last (by simp) a before later other
      · split at new
        · cases new
        · cases List.mem_singleton.mp new
          exact absurd later (not_lt_of_ge (order a before))

theorem harmless_snoc {as : List (Attempt τ α)} {b : Attempt τ α} :
    Harmless (as ++ [b]) ↔ Harmless as ∧
      ∀ before a between last, as = before ++ a :: between →
        (attempts before).getLast? = some last → last.start < a.time → a.value ≠ last.value →
        (∀ x ∈ a :: between, last.value = x.value ∨ x.inserted = false) →
        b.updated = true → b.time ≤ a.time := by
  constructor
  · intro harmless
    refine ⟨?_, ?_⟩
    · rintro before a between c after last rfl
      exact harmless before a between c (after ++ [b]) last (by simp)
    · rintro before a between last rfl
      exact harmless before a between b [] last (by simp)
  · rintro ⟨harmless, latest⟩ before a between c after last split
    rcases List.eq_nil_or_concat' after with rfl | ⟨after', final, rfl⟩
    · rw [← List.cons_append, ← List.append_assoc] at split
      obtain ⟨rfl, same⟩ := List.append_inj' split rfl
      cases same
      exact latest before a between last rfl
    · rw [← List.cons_append, ← List.append_assoc, ← List.cons_append, ← List.append_assoc] at split
      obtain ⟨rfl, -⟩ := List.append_inj' split rfl
      exact harmless before a between c after' last (by simp)

/-- Along readings in the order of time the stretches are truthful exactly if the failures are
    harmless. -/
theorem truthful_iff_harmless {as : List (Attempt τ α)} (sorted : as.Pairwise (·.time ≤ ·.time)) :
    Truthful (attempts as) as ↔ Harmless as := by
  induction as using List.reverseRecOn with
  | nil =>
      refine ⟨fun _ => ?_, fun _ => nofun⟩
      intro before a between b after last split
      simp at split
  | append_singleton as b ih =>
      rw [List.pairwise_append] at sorted
      obtain ⟨sorted, -, order⟩ := sorted
      rw [truthful_snoc (fun a member => order a member b (List.mem_singleton_self b)),
        harmless_snoc, ih sorted]
      refine and_congr_right fun _ => ⟨?_, ?_⟩
      · rintro update before a between last rfl is_last later other kept updated
        obtain ⟨after, is_after, start, value⟩ := getLast?_kept is_last kept
        exact update updated after is_after a (by simp) (by rwa [start]) (by rwa [value])
      · intro latest updated last is_last a member later other
        obtain ⟨before, between, rfl⟩ := List.append_of_mem member
        have tail := (List.pairwise_append.mp sorted).2.1
        have older : ∀ x ∈ a :: between, last.start < x.time := by
          intro x listed
          rcases List.mem_cons.mp listed with rfl | behind
          · exact later
          · exact lt_of_lt_of_le later ((List.pairwise_cons.mp tail).1 x behind)
        obtain ⟨first, is_first, start, value, kept⟩ := getLast?_older is_last older
        exact latest before a between first rfl is_first (by rwa [start]) (by rwa [value]) kept
          updated

end Harmless

end RunLength
