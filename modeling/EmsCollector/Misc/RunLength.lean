import Mathlib

/-!
# Run-length encoding of a history

A history of readings, each with its time, is kept as stretches of the same value. A reading ends
the last stretch at its own time, and begins a new one there if its value is another one.
-/

universe u v

namespace RunLength

variable {τ : Type u} {α : Type v}

/-- A stretch of readings with the same value. -/
structure Stretch (τ : Type u) (α : Type v) where
  value : α
  start : τ
  stop : τ
  deriving DecidableEq

/-- The stretch of a single reading. -/
def Stretch.single (reading : τ × α) : Stretch τ α :=
  { value := reading.2, start := reading.1, stop := reading.1 }

def Stretch.until (stretch : Stretch τ α) (t : τ) : Stretch τ α := { stretch with stop := t }

/-- Neighbouring stretches differ in their values and meet in time. -/
def Meets (stretch next : Stretch τ α) : Prop :=
  stretch.value ≠ next.value ∧ stretch.stop = next.start

/-- The time is within the stretch of that value. -/
def Covers [LE τ] (stretch : Stretch τ α) (reading : τ × α) : Prop :=
  stretch.value = reading.2 ∧ stretch.start ≤ reading.1 ∧ reading.1 ≤ stretch.stop

section Push

variable [DecidableEq α]

/-- One more reading. -/
def push (stretches : List (Stretch τ α)) (reading : τ × α) : List (Stretch τ α) :=
  match stretches.getLast? with
  | none => [.single reading]
  | some last =>
      stretches.dropLast ++ last.until reading.1 ::
        (if last.value = reading.2 then [] else [.single reading])

/-- The stretches of a history. -/
def encode (readings : List (τ × α)) : List (Stretch τ α) := readings.foldl push []

@[simp] theorem push_nil (reading : τ × α) : push [] reading = [.single reading] := rfl

theorem push_snoc (front : List (Stretch τ α)) (last : Stretch τ α) (reading : τ × α) :
    push (front ++ [last]) reading = front ++ last.until reading.1 ::
      (if last.value = reading.2 then [] else [.single reading]) := by
  simp [push]

@[simp] theorem encode_nil : encode ([] : List (τ × α)) = [] := rfl

@[simp] theorem encode_snoc (readings : List (τ × α)) (reading : τ × α) :
    encode (readings ++ [reading]) = push (encode readings) reading := by
  simp [encode]

end Push

/-- Neighbours meet, and no stretch ends before it begins. -/
structure Contiguous [LE τ] (stretches : List (Stretch τ α)) : Prop where
  meet : stretches.IsChain Meets
  ordered : ∀ stretch ∈ stretches, stretch.start ≤ stretch.stop

/-- The stretches tell the history: they are contiguous, the last one ends with the last reading,
    and every reading is covered. -/
structure Encodes [LE τ] (stretches : List (Stretch τ α)) (readings : List (τ × α)) : Prop
    extends Contiguous stretches where
  latest : stretches.getLast?.map Stretch.stop = readings.getLast?.map Prod.fst
  covered : ∀ reading ∈ readings, ∃ stretch ∈ stretches, Covers stretch reading

section Encodes

variable [Preorder τ] {front : List (Stretch τ α)} {last : Stretch τ α}

/-- The last stretch may end later. -/
theorem Contiguous.prolong (contiguous : Contiguous (front ++ [last])) {t : τ} (later : last.stop ≤ t) :
    Contiguous (front ++ [last.until t]) := by
  obtain ⟨meet, ordered⟩ := contiguous
  refine ⟨?_, ?_⟩
  · rw [List.isChain_append] at meet ⊢
    refine ⟨meet.1, .singleton _, ?_⟩
    intro before member next first
    cases first
    exact meet.2.2 before member last rfl
  · intro stretch member
    rcases List.mem_append.mp member with before | final
    · exact ordered stretch (List.mem_append_left _ before)
    · cases List.mem_singleton.mp final
      exact le_trans (ordered last (by simp)) later

/-- A stretch with another value may begin where the last one ends. -/
theorem Contiguous.extend (contiguous : Contiguous (front ++ [last])) {reading : τ × α}
    (different : last.value ≠ reading.2) (stop : last.stop = reading.1) :
    Contiguous (front ++ [last] ++ [.single reading]) := by
  obtain ⟨meet, ordered⟩ := contiguous
  refine ⟨?_, ?_⟩
  · refine List.isChain_append.mpr ⟨meet, .singleton _, ?_⟩
    intro before member next first
    rw [List.getLast?_append, List.getLast?_singleton] at member
    cases member
    cases first
    exact ⟨different, stop⟩
  · intro stretch member
    rcases List.mem_append.mp member with before | final
    · exact ordered stretch before
    · cases List.mem_singleton.mp final
      exact le_refl reading.1

/-- What the stretches cover is covered when the last one ends later. -/
theorem covered_prolong {t : τ} (later : last.stop ≤ t) {reading : τ × α}
    (covered : ∃ stretch ∈ front ++ [last], Covers stretch reading) :
    ∃ stretch ∈ front ++ [last.until t], Covers stretch reading := by
  obtain ⟨stretch, member, value, start, stop⟩ := covered
  rcases List.mem_append.mp member with before | final
  · exact ⟨stretch, List.mem_append_left _ before, value, start, stop⟩
  · cases List.mem_singleton.mp final
    exact ⟨_, List.mem_append_right _ (List.mem_singleton_self _), value, start, le_trans stop later⟩

theorem Encodes.nil : Encodes ([] : List (Stretch τ α)) [] where
  meet := .nil
  ordered := nofun
  latest := rfl
  covered := nofun

/-- The first reading. -/
theorem Encodes.first (reading : τ × α) : Encodes [.single reading] [reading] where
  meet := .singleton _
  ordered := by
    intro stretch member
    cases List.mem_singleton.mp member
    exact le_refl reading.1
  latest := rfl
  covered := by
    intro other member
    cases List.mem_singleton.mp member
    exact ⟨_, List.mem_singleton_self _, rfl, le_refl _, le_refl _⟩

/-- A reading that is not older than the last one is encoded by `push`. -/
theorem Encodes.push [DecidableEq α] {stretches : List (Stretch τ α)} {readings : List (τ × α)}
    (encodes : Encodes stretches readings) {reading : τ × α}
    (later : ∀ last ∈ readings.getLast?, last.1 ≤ reading.1) :
    Encodes (push stretches reading) (readings ++ [reading]) := by
  obtain ⟨contiguous, latest, covered⟩ := encodes
  rcases List.eq_nil_or_concat' stretches with rfl | ⟨front, last, rfl⟩
  · have empty : readings = [] := by
      rw [← List.getLast?_eq_none_iff]
      exact Option.map_eq_none_iff.mp latest.symm
    rw [empty]
    exact .first reading
  · obtain ⟨final, final_last, stop⟩ : ∃ final, readings.getLast? = some final ∧ final.1 = last.stop := by
      rw [List.getLast?_append, List.getLast?_singleton] at latest
      exact Option.map_eq_some_iff.mp latest.symm
    have grown : last.stop ≤ reading.1 := stop ▸ later final final_last
    have start : last.start ≤ reading.1 := le_trans (contiguous.ordered last (by simp)) grown
    have prolonged := contiguous.prolong grown
    have latest' : (readings ++ [reading]).getLast?.map Prod.fst = some reading.1 := by simp
    rw [push_snoc]
    by_cases same : last.value = reading.2
    · rw [if_pos same]
      refine ⟨prolonged, ?_, ?_⟩
      · rw [latest']
        simp [Stretch.until]
      · intro other member
        rcases List.mem_append.mp member with before | final
        · exact covered_prolong grown (covered other before)
        · cases List.mem_singleton.mp final
          exact ⟨_, List.mem_append_right _ (List.mem_singleton_self _), same, start, le_refl _⟩
    · rw [if_neg same, List.append_cons]
      refine ⟨prolonged.extend same rfl, ?_, ?_⟩
      · rw [latest']
        simp [Stretch.single]
      · intro other member
        rcases List.mem_append.mp member with before | final
        · obtain ⟨stretch, member', covers⟩ := covered_prolong grown (covered other before)
          exact ⟨stretch, List.mem_append_left _ member', covers⟩
        · cases List.mem_singleton.mp final
          exact ⟨_, List.mem_append_right _ (List.mem_singleton_self _), rfl, le_refl _, le_refl _⟩

/-- The encoding of a history in the order of time. -/
theorem encode_encodes [DecidableEq α] {readings : List (τ × α)}
    (sorted : readings.Pairwise (·.1 ≤ ·.1)) : Encodes (encode readings) readings := by
  induction readings using List.reverseRecOn with
  | nil => exact .nil
  | append_singleton readings reading ih =>
      rw [List.pairwise_append] at sorted
      obtain ⟨before, -, order⟩ := sorted
      rw [encode_snoc]
      refine (ih before).push ?_
      intro last member
      exact order last (List.mem_of_getLast? member) reading (List.mem_singleton_self _)

end Encodes

end RunLength
