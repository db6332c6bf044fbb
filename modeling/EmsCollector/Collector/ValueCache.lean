import EmsCollector.Collector.Database
import EmsCollector.Collector.ValueApi

/-!
# The value cache

`ValueCache` (`collector/ValueCache.h`, `collector/ValueCache.cpp:31-85`): the last value of each
type and subtype. The map is a list in the order of its keys.
-/

namespace EmsCollector

/-- `ValueCache::CacheKey` (`collector/ValueCache.h:40-56`). -/
structure CacheKey where
  type : EmsValue.ValueType
  subtype : EmsValue.SubType
  deriving DecidableEq, Repr

/-- `operator<`: by the type, then by the subtype. -/
def CacheKey.before (key other : CacheKey) : Bool :=
  if key.type ≠ other.type then key.type.ctorIdx < other.type.ctorIdx
  else key.subtype.ctorIdx < other.subtype.ctorIdx

/-- `ValueCache::CacheEntry` (`collector/ValueCache.h:58-64`). -/
structure CacheEntry where
  timestamp : TimeT
  value : EmsValue
  deriving DecidableEq, Repr

/-- The key of a value. -/
def EmsValue.key (value : EmsValue) : CacheKey := ⟨value.type, value.subType⟩

/-- The member `m_cache`. -/
structure ValueCache where
  cache : List (CacheKey × CacheEntry)
  deriving DecidableEq, Repr

namespace ValueCache

/-- `std::map::insert` of a new key. -/
def insert (key : CacheKey) (entry : CacheEntry) :
    List (CacheKey × CacheEntry) → List (CacheKey × CacheEntry)
  | [] => [(key, entry)]
  | first :: rest =>
      if key.before first.1 then (key, entry) :: first :: rest else first :: insert key entry rest

/-- `handleValue` (`collector/ValueCache.cpp:31-37`) at a time. -/
def handleValue (c : ValueCache) (now : TimeT) (value : EmsValue) : ValueCache :=
  { cache := insert value.key ⟨now, value⟩ (c.cache.filter (·.1 ≠ value.key)) }

/-- `getValue` (`collector/ValueCache.cpp:39-47`). -/
def getValue (c : ValueCache) (key : CacheKey) : Option EmsValue :=
  (c.cache.lookup key).map CacheEntry.value

/-- Whether an entry with these names is selected (`collector/ValueCache.cpp:59-75`). -/
def matchesSelector (selector : List String) (type subtype : String) : Bool :=
  match selector with
  | [] => true
  | first :: rest =>
      if first = type then true
      else if first = subtype ∨ (first = "none" ∧ subtype = "") then
        match rest with
        | [] => true
        | second :: _ => second = type
      else false

/-- The output for one entry (`collector/ValueCache.cpp:53-83`). -/
def outputEntry (selector : List String) (key : CacheKey) (entry : CacheEntry) :
    Except ValueApi.FormatFault String :=
  let type := ValueApi.getTypeName key.type
  let subtype := ValueApi.getSubTypeName key.subtype
  if type = "" then .ok ""
  else if matchesSelector selector type subtype then do
    let value ← ValueApi.formatValue entry.value
    .ok ((if subtype = "" then "" else subtype ++ " ") ++ type ++ " = " ++ value ++ " | " ++
      toString entry.timestamp ++ "\n")
  else .ok ""

/-- `outputValues` (`collector/ValueCache.cpp:49-85`): what it writes to the stream. -/
def outputValues (c : ValueCache) (selector : List String) : Except ValueApi.FormatFault String :=
  c.cache.foldlM (fun stream (key, entry) => do
    let text ← outputEntry selector key entry
    .ok (stream ++ text)) ""

theorem lookup_insert (key : CacheKey) (entry : CacheEntry) {entries : List (CacheKey × CacheEntry)}
    (absent : ∀ other ∈ entries, other.1 ≠ key) (sought : CacheKey) :
    (insert key entry entries).lookup sought =
      if sought = key then some entry else entries.lookup sought := by
  induction entries with
  | nil =>
      unfold insert
      rw [List.lookup_cons]
      by_cases same : sought = key
      · rw [if_pos same, beq_iff_eq.mpr same]
      · rw [if_neg same, beq_eq_false_iff_ne.mpr same]
  | cons first rest ih =>
      have ih := ih (fun other member => absent other (List.mem_cons_of_mem _ member))
      have other : first.1 ≠ key := absent first (List.mem_cons_self ..)
      unfold insert
      split
      · rw [List.lookup_cons]
        by_cases same : sought = key
        · rw [if_pos same, beq_iff_eq.mpr same]
        · rw [if_neg same, beq_eq_false_iff_ne.mpr same]
      · rw [List.lookup_cons, List.lookup_cons, ih]
        by_cases same : sought = key
        · rw [if_pos same, if_pos same, same, beq_eq_false_iff_ne.mpr other.symm]
        · rw [if_neg same, if_neg same]

theorem lookup_filter (key sought : CacheKey) (entries : List (CacheKey × CacheEntry))
    (other : sought ≠ key) :
    (entries.filter (·.1 ≠ key)).lookup sought = entries.lookup sought := by
  induction entries with
  | nil => rfl
  | cons first rest ih =>
      rw [List.filter_cons, List.lookup_cons]
      by_cases erased : first.1 = key
      · have skipped : (sought == first.1) = false := beq_eq_false_iff_ne.mpr (erased ▸ other)
        rw [if_neg (by simp [erased]), skipped, ih]
      · rw [if_pos (by simp [erased]), List.lookup_cons, ih]

/-- A value takes the place of the last one with its key; all other keys stay. -/
theorem getValue_handleValue (c : ValueCache) (now : TimeT) (value : EmsValue) (key : CacheKey) :
    (c.handleValue now value).getValue key =
      if key = value.key then some value else c.getValue key := by
  have absent : ∀ entry ∈ c.cache.filter (·.1 ≠ value.key), entry.1 ≠ value.key := by
    intro entry member
    simpa using (List.mem_filter.mp member).2
  unfold getValue handleValue
  rw [lookup_insert _ _ absent]
  by_cases same : key = value.key
  · rw [if_pos same, if_pos same]
    rfl
  · rw [if_neg same, if_neg same, lookup_filter _ _ _ same]

/-- The values of a telegram, each with the time at which it is handed out. -/
def handleValues (c : ValueCache) (values : List (TimeT × EmsValue)) : ValueCache :=
  values.foldl (fun c entry => c.handleValue entry.1 entry.2) c

/-- Keys that the telegram has no value for stay. -/
theorem getValue_handleValues_other {values : List (TimeT × EmsValue)} {key : CacheKey}
    (absent : ∀ entry ∈ values, entry.2.key ≠ key) (c : ValueCache) :
    (c.handleValues values).getValue key = c.getValue key := by
  induction values generalizing c with
  | nil => rfl
  | cons entry rest ih =>
      have other : key ≠ entry.2.key := (absent entry (List.mem_cons_self ..)).symm
      have rest' := ih (fun e member => absent e (List.mem_cons_of_mem _ member))
        (c.handleValue entry.1 entry.2)
      refine rest'.trans ?_
      rw [getValue_handleValue, if_neg other]

/-- A value of the telegram is in the cache if no other one has its key. -/
theorem getValue_handleValues {values : List (TimeT × EmsValue)}
    (distinct : (values.map (fun entry => entry.2.key)).Nodup) {entry : TimeT × EmsValue}
    (member : entry ∈ values) (c : ValueCache) :
    (c.handleValues values).getValue entry.2.key = some entry.2 := by
  induction values generalizing c with
  | nil => cases member
  | cons first rest ih =>
      rw [List.map_cons, List.nodup_cons] at distinct
      obtain ⟨fresh, distinct⟩ := distinct
      rcases List.mem_cons.mp member with rfl | later
      · have absent : ∀ e ∈ rest, e.2.key ≠ entry.2.key := by
          intro e member same
          exact fresh (same ▸ List.mem_map_of_mem (f := fun e : TimeT × EmsValue => e.2.key) member)
        refine (getValue_handleValues_other absent _).trans ?_
        rw [getValue_handleValue, if_pos rfl]
      · exact ih distinct later (c.handleValue first.1 first.2)

end ValueCache

end EmsCollector
