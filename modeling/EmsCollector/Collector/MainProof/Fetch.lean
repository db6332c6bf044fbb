import EmsCollector.Collector.DataHandlerProof.Stream
import EmsCollector.Collector.MainProof.Stores
import EmsCollector.Collector.ValueCacheProof.Order

/-!
# What `cache fetch` finds

The command port prints the cache that all sessions have filled.
-/

namespace EmsCollector.Collector

variable {κ δ : Type} [DecidableEq κ] [DecidableEq δ] {w : Surroundings} {setup : Setup}
  {c : Collector κ δ}

theorem payloadValues_emitted {payload : List UInt8} :
    ∀ value ∈ payloadValues payload, EmsMessage.Emitted value := by
  intro value member
  unfold payloadValues at member
  cases ran : (EmsMessage.receive payload).toOption.bind fun message => message.handle.toOption with
  | none =>
      rw [ran] at member
      cases member
  | some values =>
      rw [ran] at member
      obtain ⟨message, -, handled⟩ := Option.bind_eq_some_iff.mp ran
      cases told : message.handle with
      | error fault =>
          rw [told] at handled
          cases handled
      | ok values' =>
          rw [told] at handled
          cases handled
          exact ⟨message, values, told, member⟩

omit [DecidableEq κ] [DecidableEq δ] in
theorem values_emitted {es : List (Event κ δ)} :
    ∀ value ∈ values es, EmsMessage.Emitted value := by
  intro value member
  obtain ⟨bytes, -, inside⟩ := List.mem_flatMap.mp member
  obtain ⟨payload, -, among⟩ := List.mem_flatMap.mp inside
  exact payloadValues_emitted value among

/-- The times make no difference to the values. -/
theorem stamped_values (clock : Nat → TimeT) (n : Nat) (values : List EmsValue) :
    (stamped clock n values).map Prod.snd = values := by
  unfold stamped
  rw [List.map_map]
  exact List.zipIdx_map_fst n values

/-- In every run, the cache can be printed with any selector: the keys of the values of all sessions,
    in order and each once, with the line of the latest value if the selector selects the key and
    its type has a name. -/
theorem cache_lists_latest {ok : Collector κ δ → Event κ δ → Prop} {database : Database} {length : Nat}
    {checkSum : UInt8} {es : List (Event κ δ)}
    (run : (system w setup κ δ).Run ok (start setup database length checkSum) es c) :
    ∃ keys : List CacheKey, keys.Pairwise (fun key other => key.before other = true) ∧
      (∀ key, key ∈ keys ↔ ∃ value ∈ values es, value.key = key) ∧
      ∀ selector, c.stores.cache.outputValues selector = .ok (String.join (keys.map
        (ValueCache.printed selector (ValueCache.latest (stamped w.cacheTime 0 (values es)))))) := by
  have stores := (followed_run run).stores
  have cache : c.stores.cache = ValueCache.handleValues ⟨[]⟩ (stamped w.cacheTime 0 (values es)) := by
    rw [stores]
    rfl
  have untimed := stamped_values w.cacheTime 0 (values es)
  have holds := ValueCache.holds_handleValues ValueCache.holds_empty (stamped w.cacheTime 0 (values es))
  have ordered := ValueCache.handleValues_ordered (c := ⟨[]⟩) List.Pairwise.nil
    (stamped w.cacheTime 0 (values es))
  have shown : ∀ e ∈ stamped w.cacheTime 0 (values es), ∃ text, ValueApi.formatValue e.2 = .ok text := by
    intro e member
    have value : e.2 ∈ values es := untimed ▸ List.mem_map_of_mem member
    obtain ⟨text, shown, -⟩ := (values_emitted e.2 value).text
    exact ⟨text, shown⟩
  obtain ⟨keys, sorted, members, prints⟩ := ValueCache.outputValues_printed holds ordered shown
  refine ⟨keys, sorted, fun key => (members key).trans ⟨?_, ?_⟩, cache ▸ prints⟩
  · rintro ⟨e, member, same⟩
    exact ⟨e.2, untimed ▸ List.mem_map_of_mem member, same⟩
  · rintro ⟨value, member, same⟩
    rw [← untimed] at member
    obtain ⟨e, inside, rfl⟩ := List.mem_map.mp member
    exact ⟨e, inside, same⟩

/-- When the line was lost, the one temperature is listed. -/
theorem cache_lists_latest_lost :
    ∃ c : Collector Unit Unit, ∃ keys : List CacheKey,
      (∀ key, key ∈ keys ↔ key = ⟨.istTemp, .aussen⟩) ∧
      ∀ selector, c.stores.cache.outputValues selector = .ok (String.join (keys.map
        (ValueCache.printed selector (ValueCache.latest
          [(0, ⟨.istTemp, .aussen, .numeric, .numeric (123 / 10), true⟩)])))) := by
  let last := (lineLost.foldlM
    (fun (c : Collector Unit Unit) e => if True then step counted ⟨.serial, true⟩ c e else none)
    (start ⟨.serial, true⟩ offline 0 0)).get (by decide +kernel)
  have run : (system counted ⟨.serial, true⟩ Unit Unit).Run (fun _ _ => True)
      (start ⟨.serial, true⟩ offline 0 0) lineLost last :=
    .ofFold (Option.some_get (by decide +kernel)).symm
  have heard : values lineLost = [⟨.istTemp, .aussen, .numeric, .numeric (123 / 10), true⟩] := by
    decide +kernel
  obtain ⟨keys, -, members, prints⟩ := cache_lists_latest run
  rw [heard] at members prints
  refine ⟨last, keys, fun key => (members key).trans ⟨?_, ?_⟩, prints⟩
  · rintro ⟨value, member, rfl⟩
    cases List.mem_singleton.mp member
    rfl
  · rintro rfl
    exact ⟨_, List.mem_singleton_self _, rfl⟩

end EmsCollector.Collector
