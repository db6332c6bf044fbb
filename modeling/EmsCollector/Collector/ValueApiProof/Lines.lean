import EmsCollector.Collector.EmsMessageProof.Kinds
import EmsCollector.Collector.ValueApi

/-!
# The text of a value is one line

`formatValue` of a value whose reading is stored as its reading type says, other than a curve or
an error entry.
-/

namespace EmsCollector.ValueApi

open ApiCommandParser (Plain formatDec_plain toString_plain)
open EmsMessage (OneLine)

theorem formatFixed_plain (digits decimals : Nat) : Plain (formatFixed digits decimals) := by
  unfold formatFixed
  refine (toString_plain _).append ?_
  split
  · decide
  · refine Plain.append (by decide) ?_
    unfold Plain
    rw [String.toList_ofList]
    exact fun member => formatDec_plain _ _ ((List.rdropWhile_prefix _ _).subset member)

theorem formatFloat_plain (value : Rat) : Plain (formatFloat value) := by
  unfold formatFloat
  split
  · decide
  · refine Plain.append ?_ ?_
    · split <;> decide
    · split
      · exact formatFixed_plain _ _
      · refine ((formatFixed_plain _ _).append ?_).append (formatDec_plain _ _)
        split <;> decide

theorem formatDate_plain (year month day : UInt8) : Plain (formatDate year month day) := by
  have dash : Plain "-" := by decide
  exact ((((formatDec_plain _ _).append dash).append (formatDec_plain _ _)).append dash).append
    (formatDec_plain _ _)

/-- The names of the values of an enumeration. -/
theorem enumMapping_plain (value : EmsValue) : ∀ entry ∈ enumMapping value, Plain entry.2 := by
  have chosen {hk : Mapping} (own : ∀ entry ∈ hk, Plain entry.2) :
      ∀ entry ∈ bySubType value hk, Plain entry.2 := by
    unfold bySubType
    split
    · exact own
    · split
      · decide
      · split <;> decide
  unfold enumMapping
  split
  case h_6 => exact chosen (by decide)
  case h_7 => exact chosen (by decide)
  all_goals decide

variable {value : EmsValue}

/-- The text of a value, and that it is one line if the value is. -/
theorem formatValue_plain (stored : value.value.readingType = value.readingType)
    (noCurve : value.readingType ≠ .kennlinie) (noError : value.readingType ≠ .error) :
    ∃ text, formatValue value = .ok text ∧ (OneLine value → Plain text) := by
  obtain ⟨type, subType, readingType, reading, isValid⟩ := value
  dsimp only at stored noCurve noError
  subst stored
  have unavailable : Plain "unavailable" := by decide
  cases reading with
  | numeric number =>
      cases isValid with
      | false => exact ⟨_, rfl, fun _ => unavailable⟩
      | true => exact ⟨_, rfl, fun _ => formatFloat_plain number⟩
  | integer number =>
      cases isValid with
      | false => exact ⟨_, rfl, fun _ => unavailable⟩
      | true => exact ⟨_, rfl, fun _ => toString_plain _⟩
  | boolean flag =>
      refine ⟨_, rfl, fun _ => ?_⟩
      cases flag <;> decide
  | enumeration number =>
      refine ⟨_, rfl, fun _ => ?_⟩
      cases named : (enumMapping _).lookup number with
      | none => exact toString_plain _
      | some name =>
          exact enumMapping_plain _ (number, name) (mem_of_lookup named)
  | kennlinie points => exact absurd rfl noCurve
  | error type index record => exact absurd rfl noError
  | date record => exact ⟨_, rfl, fun _ => formatDate_plain _ _ _⟩
  | systemTime record =>
      have blank : Plain " " := by decide
      have colon : Plain ":" := by decide
      exact ⟨_, rfl, fun _ => ((((((formatDate_plain _ _ _).append blank).append
        (formatDec_plain _ _)).append colon).append (formatDec_plain _ _)).append colon).append
        (formatDec_plain _ _)⟩
  | formatted text => exact ⟨text, rfl, fun line => line text rfl⟩

end EmsCollector.ValueApi
