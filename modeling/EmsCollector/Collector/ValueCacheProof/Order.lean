import EmsCollector.Collector.ValueCacheProof.Fetch

/-!
# The order of the cache

The entries of the cache stand in the order of their keys, whatever the order in which the values
came. What is printed are therefore the lines of the latest values, by key.
-/

namespace EmsCollector

namespace CacheKey

/-- The place of a key in the order. -/
def rank (key : CacheKey) : ℕ ×ₗ ℕ := toLex (key.type.ctorIdx, key.subtype.ctorIdx)

theorem rank_injective : Function.Injective rank := by
  intro key other same
  obtain ⟨type, subtype⟩ := key
  obtain ⟨type', subtype'⟩ := other
  obtain ⟨types, subtypes⟩ := Prod.mk.inj (toLex.injective same)
  have type_eq : type = type' := calc
    type = EmsValue.ValueType.ofNat type.ctorIdx := (EmsValue.ValueType.ofNat_ctorIdx type).symm
    _ = EmsValue.ValueType.ofNat type'.ctorIdx := congrArg _ types
    _ = type' := EmsValue.ValueType.ofNat_ctorIdx type'
  have subtype_eq : subtype = subtype' := calc
    subtype = EmsValue.SubType.ofNat subtype.ctorIdx := (EmsValue.SubType.ofNat_ctorIdx subtype).symm
    _ = EmsValue.SubType.ofNat subtype'.ctorIdx := congrArg _ subtypes
    _ = subtype' := EmsValue.SubType.ofNat_ctorIdx subtype'
  rw [type_eq, subtype_eq]

/-- `operator<` is the order of the places. -/
theorem before_iff (key other : CacheKey) : key.before other = true ↔ key.rank < other.rank := by
  unfold before rank
  rw [Prod.Lex.toLex_lt_toLex]
  by_cases same : key.type = other.type
  · rw [if_neg (not_not_intro same)]
    simp [same]
  · have differs : key.type.ctorIdx ≠ other.type.ctorIdx := by
      intro places
      apply same
      rw [← EmsValue.ValueType.ofNat_ctorIdx key.type, places, EmsValue.ValueType.ofNat_ctorIdx]
    rw [if_pos same]
    simp [differs]

end CacheKey

namespace ValueCache

variable {c : ValueCache} {stored : List (TimeT × EmsValue)}

/-- The keys are in order. -/
def Ordered (entries : List (CacheKey × CacheEntry)) : Prop :=
  entries.Pairwise (fun e other => e.1.rank < other.1.rank)

theorem insert_ordered {key : CacheKey} (entry : CacheEntry) {entries : List (CacheKey × CacheEntry)}
    (ordered : Ordered entries) (absent : ∀ e ∈ entries, e.1 ≠ key) :
    Ordered (insert key entry entries) := by
  induction entries with
  | nil => exact List.pairwise_singleton _ _
  | cons first rest ih =>
      obtain ⟨least, ordered⟩ := List.pairwise_cons.mp ordered
      have other : first.1 ≠ key := absent first List.mem_cons_self
      unfold insert
      split
      · rename_i less
        have less := (CacheKey.before_iff key first.1).mp less
        refine List.pairwise_cons.mpr ⟨?_, List.pairwise_cons.mpr ⟨least, ordered⟩⟩
        intro e member
        rcases List.mem_cons.mp member with rfl | later
        · exact less
        · exact less.trans (least e later)
      · rename_i notLess
        have above : first.1.rank < key.rank := by
          refine lt_of_le_of_ne (not_lt.mp ?_) (fun same => other (CacheKey.rank_injective same))
          exact fun less => notLess ((CacheKey.before_iff key first.1).mpr less)
        refine List.pairwise_cons.mpr ⟨?_, ih ordered fun e member => absent e (List.mem_cons_of_mem _ member)⟩
        intro e member
        rcases List.mem_cons.mp ((insert_perm key entry rest).mem_iff.mp member) with rfl | later
        · exact above
        · exact least e later

theorem handleValue_ordered (ordered : Ordered c.cache) (now : TimeT) (value : EmsValue) :
    Ordered (c.handleValue now value).cache := by
  refine insert_ordered _ (ordered.filter _) fun e member => ?_
  exact of_decide_eq_true (List.mem_filter.mp member).2

theorem handleValues_ordered (ordered : Ordered c.cache) (values : List (TimeT × EmsValue)) :
    Ordered (c.handleValues values).cache := by
  induction values generalizing c with
  | nil => exact ordered
  | cons e rest ih => exact ih (handleValue_ordered ordered e.1 e.2)

/-- What is printed of a key, if its latest value is selected and has a name. -/
def printed (selector : List String) (last : CacheKey → Option CacheEntry) (key : CacheKey) : String :=
  if key.typeName = "" ∨ matchesSelector selector key.typeName key.subtypeName = false then ""
  else ((last key).map fun entry =>
    key.line (History.shownText entry) entry.timestamp ++ "\n").getD ""

theorem outputEntry_printed {selector : List String} {key : CacheKey} {entry : CacheEntry}
    {last : CacheKey → Option CacheEntry} (latest : last key = some entry) {text : String}
    (shown : ValueApi.formatValue entry.value = .ok text) :
    outputEntry selector key entry = .ok (printed selector last key) := by
  unfold printed
  split
  · rename_i silent
    exact outputEntry_silent silent entry
  · rename_i heard
    obtain ⟨named, selected⟩ := not_or.mp heard
    rw [outputEntry_line named (Bool.eq_true_of_not_eq_false selected) shown, latest,
      Option.map_some, Option.getD_some]
    unfold History.shownText
    rw [shown]
    rfl

/-- The cache prints the latest values of its keys, in the order of the keys. -/
theorem outputValues_printed (holds : c.Holds stored) (ordered : Ordered c.cache)
    (shown : ∀ e ∈ stored, ∃ text, ValueApi.formatValue e.2 = .ok text) :
    ∃ keys : List CacheKey, keys.Pairwise (fun key other => key.before other = true) ∧
      (∀ key, key ∈ keys ↔ ∃ e ∈ stored, e.2.key = key) ∧
      ∀ selector, c.outputValues selector =
        .ok (String.join (keys.map (printed selector (latest stored)))) := by
  refine ⟨c.cache.map Prod.fst, ?_, fun key => ?_, fun selector => ?_⟩
  · rw [List.pairwise_map]
    exact ordered.imp (CacheKey.before_iff _ _).mpr
  · constructor
    · intro member
      obtain ⟨⟨key, entry⟩, inside, rfl⟩ := List.mem_map.mp member
      obtain ⟨same, stored⟩ := latest_some ((holds.latest _ _).mp inside)
      exact ⟨_, stored, same⟩
    · rintro ⟨e, member, rfl⟩
      obtain ⟨entry, last⟩ := latest_isSome member
      exact List.mem_map_of_mem ((holds.latest _ _).mpr last)
  · rw [List.map_map]
    refine outputValues_join fun e inside => ?_
    have last := (holds.latest e.1 e.2).mp inside
    obtain ⟨text, shown⟩ := shown _ (latest_some last).2
    exact outputEntry_printed last shown

end ValueCache

end EmsCollector
