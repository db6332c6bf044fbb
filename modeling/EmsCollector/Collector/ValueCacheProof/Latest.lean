import EmsCollector.Collector.ValueCache

/-!
# The latest values

After any values, the cache holds the last one of each key, and each key once.
-/

namespace EmsCollector.ValueCache

variable {c : ValueCache} {stored : List (TimeT × EmsValue)}

theorem insert_perm (key : CacheKey) (entry : CacheEntry) (entries : List (CacheKey × CacheEntry)) :
    (insert key entry entries).Perm ((key, entry) :: entries) := by
  induction entries with
  | nil => exact .refl _
  | cons first rest ih =>
      unfold insert
      split
      · exact .refl _
      · exact (ih.cons first).trans (.swap _ _ rest)

theorem mem_handleValue {now : TimeT} {value : EmsValue} {key : CacheKey} {entry : CacheEntry} :
    (key, entry) ∈ (c.handleValue now value).cache ↔
      if key = value.key then entry = ⟨now, value⟩ else (key, entry) ∈ c.cache := by
  unfold handleValue
  rw [(insert_perm _ _ _).mem_iff, List.mem_cons, List.mem_filter, Prod.mk.injEq]
  by_cases same : key = value.key
  · simp [same]
  · simp [same]

theorem nodup_handleValue (nodup : (c.cache.map Prod.fst).Nodup) (now : TimeT) (value : EmsValue) :
    ((c.handleValue now value).cache.map Prod.fst).Nodup := by
  have kept : ((c.cache.filter (·.1 ≠ value.key)).map Prod.fst).Nodup :=
    nodup.sublist (List.filter_sublist.map Prod.fst)
  have fresh : value.key ∉ (c.cache.filter (·.1 ≠ value.key)).map Prod.fst := by
    intro member
    obtain ⟨entry, inside, same⟩ := List.mem_map.mp member
    exact of_decide_eq_true (List.mem_filter.mp inside).2 same
  exact ((insert_perm _ _ _).map Prod.fst).nodup_iff.mpr (List.nodup_cons.mpr ⟨fresh, kept⟩)

/-- The last value of a key. -/
def latest (stored : List (TimeT × EmsValue)) (key : CacheKey) : Option CacheEntry :=
  (stored.filter (fun e => e.2.key = key)).getLast?.map (fun e => ⟨e.1, e.2⟩)

theorem latest_snoc (now : TimeT) (value : EmsValue) (key : CacheKey) :
    latest (stored ++ [(now, value)]) key =
      if key = value.key then some ⟨now, value⟩ else latest stored key := by
  unfold latest
  rw [List.filter_append]
  by_cases same : key = value.key
  · simp [same]
  · have other : value.key ≠ key := fun other => same other.symm
    simp [same, other]

theorem latest_some {key : CacheKey} {entry : CacheEntry} (last : latest stored key = some entry) :
    entry.value.key = key ∧ (entry.timestamp, entry.value) ∈ stored := by
  obtain ⟨e, found, rfl⟩ := Option.map_eq_some_iff.mp last
  have member := List.mem_of_getLast? found
  exact ⟨of_decide_eq_true (List.mem_filter.mp member).2, (List.mem_filter.mp member).1⟩

theorem latest_isSome {e : TimeT × EmsValue} (member : e ∈ stored) :
    ∃ entry, latest stored e.2.key = some entry := by
  have some_value : e ∈ stored.filter (fun other => other.2.key = e.2.key) :=
    List.mem_filter.mpr ⟨member, decide_eq_true rfl⟩
  have last := List.getLast?_eq_some_getLast (List.ne_nil_of_mem some_value)
  exact ⟨_, by unfold latest; rw [last]; rfl⟩

/-- What the cache holds of the values so far. -/
structure Holds (c : ValueCache) (stored : List (TimeT × EmsValue)) : Prop where
  nodup : (c.cache.map Prod.fst).Nodup
  latest : ∀ key entry, (key, entry) ∈ c.cache ↔ latest stored key = some entry

theorem holds_handleValue (holds : c.Holds stored) (now : TimeT) (value : EmsValue) :
    (c.handleValue now value).Holds (stored ++ [(now, value)]) := by
  refine ⟨nodup_handleValue holds.nodup now value, fun key entry => ?_⟩
  rw [mem_handleValue, latest_snoc]
  split
  · rw [Option.some.injEq, eq_comm]
  · exact holds.latest key entry

theorem holds_handleValues (holds : c.Holds stored) (values : List (TimeT × EmsValue)) :
    (c.handleValues values).Holds (stored ++ values) := by
  induction values generalizing c stored with
  | nil =>
      rw [List.append_nil]
      exact holds
  | cons e rest ih =>
      have next := ih (holds_handleValue holds e.1 e.2)
      rw [List.append_assoc] at next
      exact next

theorem holds_empty : (⟨[]⟩ : ValueCache).Holds [] :=
  ⟨List.nodup_nil, fun _ _ => ⟨fun member => absurd member List.not_mem_nil, nofun⟩⟩

end EmsCollector.ValueCache
