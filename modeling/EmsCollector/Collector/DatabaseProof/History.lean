import EmsCollector.Collector.Database
import EmsCollector.Misc.Attempts
import Mathlib

/-!
# The history of a sensor

The rows of a sensor are the run-length encoding of its accepted readings. The cached value and
the last insert id of a sensor belong to its last row, whatever readings of other sensors come
between.
-/

namespace EmsCollector

open RunLength (Stretch encode push Encodes attempt)

theorem setKey_self {α : Type} (map : Nat → Option α) (key : Nat) (value : α) :
    setKey map key value key = some value := if_pos rfl

theorem setKey_other {α : Type} (map : Nat → Option α) {key other : Nat} (different : other ≠ key)
    (value : α) : setKey map key value other = map other := if_neg different

section Rows

variable {α : Type}

/-- The stretch that a row tells of. -/
def Row.stretch (row : Row α) : Stretch TimeT α :=
  { value := row.value, start := row.starttime, stop := row.endtime }

/-- The rows of a sensor. -/
def rowsOf (sensor : Nat) (rows : List (Row α)) : List (Row α) :=
  rows.filter (fun row => row.sensor = sensor)

/-- The rows of a sensor as stretches. -/
def stretches (sensor : Nat) (rows : List (Row α)) : List (Stretch TimeT α) :=
  (rowsOf sensor rows).map Row.stretch

theorem setEndtime_same {row : Row α} {id : Nat} (same : row.id = id) (now : TimeT) :
    row.setEndtime id now = { row with endtime := now } := if_pos same

theorem setEndtime_other {row : Row α} {id : Nat} (other : row.id ≠ id) (now : TimeT) :
    row.setEndtime id now = row := if_neg other

@[simp] theorem setEndtime_id (row : Row α) (id : Nat) (now : TimeT) :
    (row.setEndtime id now).id = row.id := by
  unfold Row.setEndtime
  split
  · rfl
  · rfl

@[simp] theorem setEndtime_sensor (row : Row α) (id : Nat) (now : TimeT) :
    (row.setEndtime id now).sensor = row.sensor := by
  unfold Row.setEndtime
  split
  · rfl
  · rfl

/-- An update concerns nothing if there is no row with the id. -/
theorem update_absent {rows : List (Row α)} {id : Nat} (absent : ∀ row ∈ rows, row.id ≠ id)
    (now : TimeT) : rows.map (Row.setEndtime id now) = rows := by
  conv => rhs; rw [← List.map_id rows]
  apply List.map_congr_left
  intro row member
  exact setEndtime_other (absent row member) now

theorem rowsOf_update (sensor : Nat) (rows : List (Row α)) (id : Nat) (now : TimeT) :
    rowsOf sensor (rows.map (Row.setEndtime id now)) =
      (rowsOf sensor rows).map (Row.setEndtime id now) := by
  unfold rowsOf
  rw [List.filter_map]
  congr 2
  funext row
  simp

@[simp] theorem rowsOf_append (sensor : Nat) (rows more : List (Row α)) :
    rowsOf sensor (rows ++ more) = rowsOf sensor rows ++ rowsOf sensor more :=
  List.filter_append _ _

theorem mem_rowsOf {sensor : Nat} {rows : List (Row α)} {row : Row α} :
    row ∈ rowsOf sensor rows ↔ row ∈ rows ∧ row.sensor = sensor := by
  simp [rowsOf]

/-- Rows with the same id are the same row. -/
theorem row_of_id {rows : List (Row α)} (unique : (rows.map Row.id).Nodup) {row other : Row α}
    (member : row ∈ rows) (member' : other ∈ rows) (same : row.id = other.id) : row = other :=
  List.inj_on_of_nodup_map unique member member' same

end Rows

/-- The rows that have come to a table since it held the rows `old`. -/
structure Grown {α : Type} (old new : List (Row α)) (series : Series α) : Prop where
  rows : series.rows = old ++ new
  unique : (new.map Row.id).Nodup
  apart : ∀ row ∈ new, row.id ≠ 0 ∧ ∀ before ∈ old, before.id ≠ row.id

/-- The new rows of a sensor tell its accepted readings, and the maps belong to the last one. -/
structure Tracks {α : Type} [DecidableEq α] (new : List (Row α)) (series : Series α)
    (lastInsertIds : Nat → Option Nat) (sensor : Nat) (readings : List (TimeT × α)) : Prop where
  told : stretches sensor new = encode readings
  cache : series.cache sensor = (rowsOf sensor new).getLast?.map Row.value
  id : lastInsertIds sensor = (rowsOf sensor new).getLast?.map Row.id

section Table

variable {α : Type} {old new : List (Row α)} {series : Series α} {sensor : Nat}

/-- The update leaves the rows of other sensors alone. -/
theorem rowsOf_update_other (grown : Grown old new series) {last : Row α}
    (member : last ∈ rowsOf sensor new) {other : Nat} (different : other ≠ sensor) (now : TimeT) :
    rowsOf other (new.map (Row.setEndtime last.id now)) = rowsOf other new := by
  rw [rowsOf_update]
  apply update_absent
  intro row listed same
  obtain ⟨present, its_sensor⟩ := mem_rowsOf.mp listed
  obtain ⟨present', its_sensor'⟩ := mem_rowsOf.mp member
  rw [row_of_id grown.unique present present' same] at its_sensor
  exact different (its_sensor.symm.trans its_sensor')

/-- Of the rows of the sensor it prolongs the last one. -/
theorem rowsOf_update_own (grown : Grown old new series) {front : List (Row α)} {last : Row α}
    (some_row : rowsOf sensor new = front ++ [last]) (now : TimeT) :
    rowsOf sensor (new.map (Row.setEndtime last.id now)) = front ++ [{ last with endtime := now }] := by
  have unique : ((rowsOf sensor new).map Row.id).Nodup :=
    (List.filter_sublist.map Row.id).nodup grown.unique
  rw [some_row, List.map_append, List.nodup_append] at unique
  rw [rowsOf_update, some_row, List.map_append, update_absent, List.map_singleton,
    setEndtime_same rfl]
  intro row member same
  exact unique.2.2 row.id (List.mem_map_of_mem member) last.id (by simp) same

/-- The update leaves the rows that were there before alone. -/
theorem Grown.update (grown : Grown old new series) {last : Row α} (member : last ∈ new)
    (now : TimeT) :
    Grown old (new.map (Row.setEndtime last.id now))
      { series with rows := series.rows.map (Row.setEndtime last.id now) } where
  rows := by
    show series.rows.map _ = _
    rw [grown.rows, List.map_append, update_absent (grown.apart last member).2]
  unique := by
    rw [List.map_map]
    have ids : Row.id ∘ Row.setEndtime last.id now = (Row.id : Row α → Nat) := by
      funext row
      simp
    rw [ids]
    exact grown.unique
  apart := by
    intro row member'
    obtain ⟨before, present, rfl⟩ := List.mem_map.mp member'
    rw [setEndtime_id]
    exact grown.apart before present

/-- A row with an id of its own comes to the table. -/
theorem Grown.insert (grown : Grown old new series) (row : Row α) (cache : Nat → Option α)
    (valid : row.id ≠ 0) (fresh : row.id ∉ series.rows.map Row.id) :
    Grown old (new ++ [row]) { cache, rows := series.rows ++ [row] } := by
  rw [grown.rows, List.map_append, List.mem_append, not_or] at fresh
  refine ⟨?_, ?_, ?_⟩
  · show series.rows ++ [row] = old ++ (new ++ [row])
    rw [grown.rows, List.append_assoc]
  · rw [List.map_append]
    refine List.nodup_append.mpr ⟨grown.unique, List.nodup_singleton _, ?_⟩
    intro id member other member' same
    rw [List.map_singleton, List.mem_singleton] at member'
    rw [same, member'] at member
    exact fresh.2 member
  · intro other member
    rcases List.mem_append.mp member with before | new
    · exact grown.apart other before
    · cases List.mem_singleton.mp new
      refine ⟨valid, fun before present same => fresh.1 ?_⟩
      rw [← same]
      exact List.mem_map_of_mem present

end Table

section Recorded

variable {α : Type} {old new : List (Row α)} {series : Series α} {lastInsertIds : Nat → Option Nat}
  {sensor : Nat} {told : List (Stretch TimeT α)}

/-- What a reading of a sensor leaves unchanged for the others. -/
structure Others (sensor : Nat) (new new' : List (Row α)) (series series' : Series α)
    (lastInsertIds lastInsertIds' : Nat → Option Nat) : Prop where
  rows : ∀ other, other ≠ sensor → rowsOf other new' = rowsOf other new
  cache : ∀ other, other ≠ sensor → series'.cache other = series.cache other
  ids : ∀ other, other ≠ sensor → lastInsertIds' other = lastInsertIds other

/-- The new rows of a sensor are the given stretches, and the maps belong to the last one. -/
structure Recorded (new : List (Row α)) (series : Series α) (lastInsertIds : Nat → Option Nat)
    (sensor : Nat) (told : List (Stretch TimeT α)) : Prop where
  told : stretches sensor new = told
  cache : series.cache sensor = (rowsOf sensor new).getLast?.map Row.value
  id : lastInsertIds sensor = (rowsOf sensor new).getLast?.map Row.id

theorem Others.refl (sensor : Nat) (new : List (Row α)) (series : Series α)
    (lastInsertIds : Nat → Option Nat) :
    Others sensor new new series series lastInsertIds lastInsertIds :=
  ⟨fun _ _ => rfl, fun _ _ => rfl, fun _ _ => rfl⟩

theorem Others.trans {new' new'' : List (Row α)} {series' series'' : Series α}
    {lastInsertIds' lastInsertIds'' : Nat → Option Nat}
    (first : Others sensor new new' series series' lastInsertIds lastInsertIds')
    (second : Others sensor new' new'' series' series'' lastInsertIds' lastInsertIds'') :
    Others sensor new new'' series series'' lastInsertIds lastInsertIds'' where
  rows other different := (second.rows other different).trans (first.rows other different)
  cache other different := (second.cache other different).trans (first.cache other different)
  ids other different := (second.ids other different).trans (first.ids other different)

/-- The update prolongs the last row of the sensor. -/
theorem Recorded.update (recorded : Recorded new series lastInsertIds sensor told)
    (grown : Grown old new series) {front : List (Row α)} {last : Row α}
    (some_row : rowsOf sensor new = front ++ [last]) (now : TimeT) :
    let new' := new.map (Row.setEndtime last.id now)
    let series' := { series with rows := series.rows.map (Row.setEndtime last.id now) }
    Grown old new' series' ∧
      Recorded new' series' lastInsertIds sensor
        (front.map Row.stretch ++ [last.stretch.until now]) ∧
      Others sensor new new' series series' lastInsertIds lastInsertIds := by
  have listed : last ∈ rowsOf sensor new := by
    rw [some_row]
    simp
  have prolonged := rowsOf_update_own grown some_row now
  refine ⟨grown.update (mem_rowsOf.mp listed).1 now, ⟨?_, ?_, ?_⟩, ⟨?_, ?_, ?_⟩⟩
  · rw [stretches, prolonged, List.map_append]
    rfl
  · exact recorded.cache.trans (by rw [prolonged, some_row]; simp)
  · exact recorded.id.trans (by rw [prolonged, some_row]; simp)
  · exact fun other different => rowsOf_update_other grown listed different now
  · exact fun other _ => rfl
  · exact fun other _ => rfl

/-- A row that is inserted is the last one of its sensor. -/
theorem Recorded.insert (recorded : Recorded new series lastInsertIds sensor told)
    (grown : Grown old new series) (row : Row α) (own : row.sensor = sensor) (valid : row.id ≠ 0)
    (fresh : row.id ∉ series.rows.map Row.id) :
    let series' : Series α :=
      { cache := setKey series.cache sensor row.value, rows := series.rows ++ [row] }
    Grown old (new ++ [row]) series' ∧
      Recorded (new ++ [row]) series' (setKey lastInsertIds sensor row.id) sensor
        (told ++ [row.stretch]) ∧
      Others sensor new (new ++ [row]) series series' lastInsertIds
        (setKey lastInsertIds sensor row.id) := by
  have its_own : rowsOf sensor [row] = [row] := by simp [rowsOf, own]
  have foreign {other : Nat} (different : other ≠ sensor) : rowsOf other [row] = [] := by
    simp [rowsOf, own, different.symm]
  refine ⟨grown.insert row _ valid fresh, ⟨?_, ?_, ?_⟩, ⟨?_, ?_, ?_⟩⟩
  · rw [stretches, rowsOf_append, its_own, List.map_append, ← recorded.told]
    rfl
  · exact (setKey_self _ _ _).trans (by rw [rowsOf_append, its_own]; simp)
  · exact (setKey_self _ _ _).trans (by rw [rowsOf_append, its_own]; simp)
  · intro other different
    rw [rowsOf_append, foreign different, List.append_nil]
  · exact fun other different => setKey_other _ different _
  · exact fun other different => setKey_other _ different _

/-- A reading of another sensor. -/
theorem Recorded.others {new' : List (Row α)} {series' : Series α} {lastInsertIds' : Nat → Option Nat}
    (recorded : Recorded new series lastInsertIds sensor told) {added : Nat}
    (others : Others added new new' series series' lastInsertIds lastInsertIds')
    (different : sensor ≠ added) : Recorded new' series' lastInsertIds' sensor told where
  told := by
    rw [stretches, others.rows sensor different]
    exact recorded.told
  cache := by
    rw [others.cache sensor different, others.rows sensor different]
    exact recorded.cache
  id := by
    rw [others.ids sensor different, others.rows sensor different]
    exact recorded.id

/-- An inserted row gets an id of its own. -/
def IdOk (queries : Queries) (rows : List (Row α)) : Prop :=
  ∀ id ∈ queries.insertId, id ≠ 0 ∧ id ∉ rows.map Row.id

end Recorded

section Series

variable {α : Type} [DecidableEq α] {old new : List (Row α)} {series : Series α}
  {lastInsertIds : Nat → Option Nat} {sensor : Nat} {readings : List (TimeT × α)}
  {told : List (Stretch TimeT α)}

theorem tracks_iff_recorded : Tracks new series lastInsertIds sensor readings ↔
    Recorded new series lastInsertIds sensor (encode readings) :=
  ⟨fun ⟨told, cache, id⟩ => ⟨told, cache, id⟩, fun ⟨told, cache, id⟩ => ⟨told, cache, id⟩⟩

/-- The first reading of a sensor inserts a row, if the insertion succeeds. -/
theorem add_first (recorded : Recorded new series lastInsertIds sensor [])
    (grown : Grown old new series) {queries : Queries} (idOk : IdOk queries series.rows)
    (value : α) (now : TimeT) :
    let after := series.add lastInsertIds queries sensor value now
    ∃ new', Grown old new' after.1 ∧
      Recorded new' after.1 after.2 sensor
        (attempt [] ⟨now, value, queries.update, queries.insertId.isSome⟩) ∧
      Others sensor new new' series after.1 lastInsertIds after.2 := by
  have none_yet : rowsOf sensor new = [] := List.map_eq_nil_iff.mp recorded.told
  have noId : lastInsertIds sensor = none := by
    rw [recorded.id, none_yet]
    rfl
  cases inserted : queries.insertId with
  | none =>
      have same : series.add lastInsertIds queries sensor value now = (series, lastInsertIds) := by
        simp [Series.add, noId, inserted]
      rw [same]
      exact ⟨new, grown, recorded, .refl ..⟩
  | some id =>
      obtain ⟨valid, fresh⟩ := idOk id inserted
      let row : Row α := ⟨id, sensor, value, now, now⟩
      have added : series.add lastInsertIds queries sensor value now =
          ({ cache := setKey series.cache sensor value, rows := series.rows ++ [row] },
            setKey lastInsertIds sensor id) := by
        simp [Series.add, noId, inserted, row]
      rw [added]
      exact ⟨_, recorded.insert grown row rfl valid fresh⟩

/-- A later one prolongs the last row, and inserts a row if the value is another one, as far as
    the queries succeed. -/
theorem add_later (recorded : Recorded new series lastInsertIds sensor told)
    (grown : Grown old new series) {front : List (Row α)} {last : Row α}
    (some_row : rowsOf sensor new = front ++ [last]) {queries : Queries}
    (idOk : IdOk queries series.rows) (value : α) (now : TimeT) :
    let after := series.add lastInsertIds queries sensor value now
    ∃ new', Grown old new' after.1 ∧
      Recorded new' after.1 after.2 sensor
        (attempt told ⟨now, value, queries.update, queries.insertId.isSome⟩) ∧
      Others sensor new new' series after.1 lastInsertIds after.2 := by
  have lastId : lastInsertIds sensor = some last.id := by
    rw [recorded.id, some_row]
    simp
  have cached : series.cache sensor = some last.value := by
    rw [recorded.cache, some_row]
    simp
  have member : last ∈ new := by
    have listed : last ∈ rowsOf sensor new := by
      rw [some_row]
      simp
    exact (mem_rowsOf.mp listed).1
  have valid : (lastInsertIds sensor).filter (· ≠ 0) = some last.id := by
    rw [lastId]
    simp [(grown.apart last member).1]
  have before : told = front.map Row.stretch ++ [last.stretch] := by
    rw [← recorded.told, stretches, some_row, List.map_append]
    rfl
  rw [before, RunLength.attempt_snoc, List.append_cons]
  -- the update, whether it succeeds or not
  obtain ⟨new₁, series₁, updated, grown₁, recorded₁, others₁, cached₁, ids₁⟩ :
      ∃ new₁ series₁,
        (if queries.update then
          { series with rows := series.rows.map (Row.setEndtime last.id now) } else series) = series₁ ∧
        Grown old new₁ series₁ ∧
        Recorded new₁ series₁ lastInsertIds sensor (front.map Row.stretch ++
          [if queries.update then last.stretch.until now else last.stretch]) ∧
        Others sensor new new₁ series series₁ lastInsertIds lastInsertIds ∧
        series₁.cache = series.cache ∧ series₁.rows.map Row.id = series.rows.map Row.id := by
    cases queries.update with
    | false =>
        rw [before] at recorded
        exact ⟨new, series, rfl, grown, recorded, .refl .., rfl, rfl⟩
    | true =>
        obtain ⟨grown₁, recorded₁, others₁⟩ := recorded.update grown some_row now
        refine ⟨_, _, rfl, grown₁, recorded₁, others₁, rfl, ?_⟩
        simp only [if_true, List.map_map]
        apply List.map_congr_left
        intro row _
        simp
  have changed : (series.cache sensor ≠ some value ∨ some last.id = none) ↔ last.value ≠ value := by
    rw [cached]
    simp
  unfold Series.add
  simp only [valid, changed, updated]
  by_cases same : last.value = value
  · have kept : last.stretch.value = value ∨ queries.insertId.isSome = false := .inl same
    rw [if_neg (not_not_intro same), if_pos kept, List.append_nil]
    exact ⟨new₁, grown₁, recorded₁, others₁⟩
  · rw [if_pos same]
    cases inserted : queries.insertId with
    | none =>
        have kept : last.stretch.value = value ∨ (none : Option Nat).isSome = false := .inr rfl
        rw [if_pos kept, List.append_nil]
        exact ⟨new₁, grown₁, recorded₁, others₁⟩
    | some id =>
        obtain ⟨positive, fresh⟩ := idOk id inserted
        rw [← ids₁] at fresh
        have begun : ¬ (last.stretch.value = value ∨ (some id).isSome = false) := by
          simpa [Row.stretch] using same
        obtain ⟨grown₂, recorded₂, others₂⟩ :=
          recorded₁.insert grown₁ ⟨id, sensor, value, now, now⟩ rfl positive fresh
        rw [if_neg begun]
        exact ⟨_, grown₂, recorded₂, others₁.trans others₂⟩

/-- A reading, whatever becomes of its queries. -/
theorem add_recorded (recorded : Recorded new series lastInsertIds sensor told)
    (grown : Grown old new series) {queries : Queries} (idOk : IdOk queries series.rows)
    (value : α) (now : TimeT) :
    let after := series.add lastInsertIds queries sensor value now
    ∃ new', Grown old new' after.1 ∧
      Recorded new' after.1 after.2 sensor
        (attempt told ⟨now, value, queries.update, queries.insertId.isSome⟩) ∧
      Others sensor new new' series after.1 lastInsertIds after.2 := by
  rcases List.eq_nil_or_concat' (rowsOf sensor new) with none_yet | ⟨front, last, some_row⟩
  · obtain rfl : told = [] := by
      rw [← recorded.told, stretches, none_yet]
      rfl
    exact add_first recorded grown idOk value now
  · exact add_later recorded grown some_row idOk value now

/-- A reading whose queries succeed. -/
theorem add_tracks (grown : Grown old new series)
    (tracks : Tracks new series lastInsertIds sensor readings) {queries : Queries} {id : Nat}
    (updated : queries.update = true) (inserted : queries.insertId = some id) (valid : id ≠ 0)
    (fresh : id ∉ series.rows.map Row.id) (value : α) (now : TimeT) :
    let after := series.add lastInsertIds queries sensor value now
    ∃ new', Grown old new' after.1 ∧
      Tracks new' after.1 after.2 sensor (readings ++ [(now, value)]) ∧
      Others sensor new new' series after.1 lastInsertIds after.2 := by
  have idOk : IdOk queries series.rows := by
    rintro _ same
    cases inserted.symm.trans same
    exact ⟨valid, fresh⟩
  obtain ⟨new', grown', recorded, others⟩ :=
    add_recorded (tracks_iff_recorded.mp tracks) grown idOk value now
  rw [updated, inserted, Option.isSome_some, RunLength.attempt_push, ← RunLength.encode_snoc]
    at recorded
  exact ⟨new', grown', tracks_iff_recorded.mpr recorded, others⟩

theorem Tracks.others {new' : List (Row α)} {series' : Series α} {lastInsertIds' : Nat → Option Nat}
    (tracks : Tracks new series lastInsertIds sensor readings) {added : Nat}
    (others : Others added new new' series series' lastInsertIds lastInsertIds')
    (different : sensor ≠ added) : Tracks new' series' lastInsertIds' sensor readings :=
  tracks_iff_recorded.mpr ((tracks_iff_recorded.mp tracks).others others different)

end Series

theorem NumericSensors.key_injective {a b : NumericSensors} (same : a.key = b.key) : a = b := by
  cases a <;> cases b <;> first | rfl | cases same

theorem BooleanSensors.key_injective {a b : BooleanSensors} (same : a.key = b.key) : a = b := by
  cases a <;> cases b <;> first | rfl | cases same

theorem StateSensors.key_injective {a b : StateSensors} (same : a.key = b.key) : a = b := by
  cases a <;> cases b <;> first | rfl | cases same

theorem NumericSensors.key_lt (sensor : NumericSensors) : sensor.key < 100 := by
  cases sensor <;> decide

theorem BooleanSensors.key_bounds (sensor : BooleanSensors) : 100 ≤ sensor.key ∧ sensor.key < 200 := by
  cases sensor <;> decide

theorem StateSensors.key_ge (sensor : StateSensors) : 200 ≤ sensor.key := by
  cases sensor <;> decide

/-- The keys of the three kinds of sensors are apart. -/
theorem NumericSensors.key_ne_boolean (sensor : NumericSensors) (other : BooleanSensors) :
    sensor.key ≠ other.key := by
  have small := sensor.key_lt
  have bounds := other.key_bounds
  omega

theorem NumericSensors.key_ne_state (sensor : NumericSensors) (other : StateSensors) :
    sensor.key ≠ other.key := by
  have small := sensor.key_lt
  have large := other.key_ge
  omega

theorem BooleanSensors.key_ne_state (sensor : BooleanSensors) (other : StateSensors) :
    sensor.key ≠ other.key := by
  have bounds := sensor.key_bounds
  have large := other.key_ge
  omega

namespace Database

/-- The value that a reading has for a sensor. -/
def Reading.numericOf (sensor : NumericSensors) : Reading → Option Rat
  | .numeric other value => if other = sensor then some value else none
  | .boolean _ _ | .state _ _ => none

def Reading.booleanOf (sensor : BooleanSensors) : Reading → Option Bool
  | .boolean other value => if other = sensor then some value else none
  | .numeric _ _ | .state _ _ => none

def Reading.stateOf (sensor : StateSensors) : Reading → Option String
  | .state other value => if other = sensor then some value else none
  | .numeric _ _ | .boolean _ _ => none

/-- A numeric reading is one of its sensor only. -/
theorem Reading.of_numeric {reading : Reading} {sensor : NumericSensors} {value : Rat}
    (same : reading = .numeric sensor value) : numericOf sensor reading = some value ∧
      (∀ other, other ≠ sensor → numericOf other reading = none) ∧
      (∀ other, booleanOf other reading = none) ∧ ∀ other, stateOf other reading = none := by
  subst same
  exact ⟨if_pos rfl, fun other different => if_neg different.symm, fun _ => rfl, fun _ => rfl⟩

theorem Reading.of_boolean {reading : Reading} {sensor : BooleanSensors} {value : Bool}
    (same : reading = .boolean sensor value) : booleanOf sensor reading = some value ∧
      (∀ other, other ≠ sensor → booleanOf other reading = none) ∧
      (∀ other, numericOf other reading = none) ∧ ∀ other, stateOf other reading = none := by
  subst same
  exact ⟨if_pos rfl, fun other different => if_neg different.symm, fun _ => rfl, fun _ => rfl⟩

theorem Reading.of_state {reading : Reading} {sensor : StateSensors} {value : String}
    (same : reading = .state sensor value) : stateOf sensor reading = some value ∧
      (∀ other, other ≠ sensor → stateOf other reading = none) ∧
      (∀ other, numericOf other reading = none) ∧ ∀ other, booleanOf other reading = none := by
  subst same
  exact ⟨if_pos rfl, fun other different => if_neg different.symm, fun _ => rfl, fun _ => rfl⟩

/-- The accepted readings of a sensor, in order. -/
def acceptedReadings {α : Type} (of : Reading → Option α) (es : List (Sample × Bool)) :
    List (TimeT × α) :=
  es.filterMap fun (sample, accepted) =>
    if accepted then (of sample.reading).map (fun value => (sample.now, value)) else none

theorem acceptedReadings_snoc {α : Type} (of : Reading → Option α) (es : List (Sample × Bool))
    (sample : Sample) (accepted : Bool) :
    acceptedReadings of (es ++ [(sample, accepted)]) = acceptedReadings of es ++
      (if accepted then (of sample.reading).map (fun value => (sample.now, value)) else none).toList := by
  unfold acceptedReadings
  rw [List.filterMap_append]
  congr 1

theorem acceptedReadings_other {α : Type} {of : Reading → Option α} (es : List (Sample × Bool))
    {sample : Sample} {accepted : Bool} (other : accepted = false ∨ of sample.reading = none) :
    acceptedReadings of (es ++ [(sample, accepted)]) = acceptedReadings of es := by
  rw [acceptedReadings_snoc]
  rcases other with refused | other
  · simp [refused]
  · simp [other]

theorem acceptedReadings_own {α : Type} {of : Reading → Option α} (es : List (Sample × Bool))
    {sample : Sample} {value : α} (own : of sample.reading = some value) :
    acceptedReadings of (es ++ [(sample, true)]) = acceptedReadings of es ++ [(sample.now, value)] := by
  rw [acceptedReadings_snoc, own]
  rfl

theorem mem_acceptedReadings {α : Type} {of : Reading → Option α} {es : List (Sample × Bool)}
    {reading : TimeT × α} (member : reading ∈ acceptedReadings of es) :
    ∃ sample, (sample, true) ∈ es ∧ sample.now = reading.1 := by
  obtain ⟨⟨sample, accepted⟩, listed, same⟩ := List.mem_filterMap.mp member
  cases accepted with
  | false => cases same
  | true =>
      obtain ⟨value, -, rfl⟩ := Option.map_eq_some_iff.mp same
      exact ⟨sample, listed, rfl⟩

/-- The ids in the table that a reading goes to. -/
def ids (db : Database) : Reading → List Nat
  | .numeric _ _ => db.numeric.rows.map Row.id
  | .boolean _ _ => db.boolean.rows.map Row.id
  | .state _ _ => db.state.rows.map Row.id

/-- The queries for a reading succeed, and an inserted row gets an id of its own. -/
def QueriesOk (db : Database) (sample : Sample) : Prop :=
  sample.queries.update = true ∧
    ∃ id ∈ sample.queries.insertId, id ≠ 0 ∧ id ∉ db.ids sample.reading

instance (db : Database) (sample : Sample) : Decidable (db.QueriesOk sample) :=
  inferInstanceAs (Decidable (_ ∧ ∃ id ∈ sample.queries.insertId, _))

/-- A database right after `connect`; the tables may hold rows from before. -/
structure Fresh (db : Database) : Prop where
  connected : db.connected = true
  lastWrites : db.lastWrites = fun _ => none
  lastInsertIds : db.lastInsertIds = fun _ => none
  numeric : db.numeric.cache = fun _ => none
  boolean : db.boolean.cache = fun _ => none
  state : db.state.cache = fun _ => none

/-- A reading that was refused is numeric, and the rate limit is on and has not passed since an
    earlier one that was accepted. -/
def Limited (rateLimit : UInt32) (before : List (Sample × Bool)) (sample : Sample) : Prop :=
  ∃ sensor value, sample.reading = .numeric sensor value ∧
    0 < rateLimit.toNat ∧ rateLimit.toNat < 2 ^ 31 ∧
    ∃ earlier ∈ acceptedReadings (Reading.numericOf sensor) before, sample.now - earlier.1 < rateLimit.toNat

/-- The invariant, by kinds of sensors: the table has grown by rows that tell the accepted readings
    of each of them. -/
def Told {α σ : Type} [DecidableEq α] (old : List (Row α)) (series : Series α)
    (lastInsertIds : Nat → Option Nat) (key : σ → Nat) (readings : σ → List (TimeT × α)) : Prop :=
  ∃ new, Grown old new series ∧
    ∀ sensor, Tracks new series lastInsertIds (key sensor) (readings sensor)

section Told

variable {α σ : Type} [DecidableEq α] {old : List (Row α)} {series : Series α}
  {lastInsertIds lastInsertIds' : Nat → Option Nat} {key : σ → Nat} {of : σ → Reading → Option α}
  {es : List (Sample × Bool)} {sample : Sample}

theorem told_fresh (cache : series.cache = fun _ => none) (noIds : lastInsertIds = fun _ => none)
    (key : σ → Nat) : Told series.rows series lastInsertIds key (fun _ => []) := by
  refine ⟨[], ⟨(List.append_nil _).symm, List.nodup_nil, nofun⟩, fun sensor => ⟨rfl, ?_, ?_⟩⟩
  · rw [cache]
    rfl
  · rw [noIds]
    rfl

/-- A reading of a sensor of the kind. -/
theorem Told.add (told : Told old series lastInsertIds key (fun sensor => acceptedReadings (of sensor) es))
    (injective : ∀ {a b : σ}, key a = key b → a = b) {id : Nat} (updated : sample.queries.update = true)
    (inserted : sample.queries.insertId = some id) (valid : id ≠ 0)
    (fresh : id ∉ series.rows.map Row.id) {sensor : σ} {value : α}
    (own : of sensor sample.reading = some value)
    (others : ∀ other, other ≠ sensor → of other sample.reading = none) :
    let after := series.add lastInsertIds sample.queries (key sensor) value sample.now
    Told old after.1 after.2 key
        (fun sensor => acceptedReadings (of sensor) (es ++ [(sample, true)])) ∧
      ∀ other, other ≠ key sensor → after.2 other = lastInsertIds other := by
  obtain ⟨new, grown, tracks⟩ := told
  obtain ⟨new', grown', tracks', unchanged⟩ :=
    add_tracks grown (tracks sensor) updated inserted valid fresh value sample.now
  refine ⟨⟨new', grown', fun other => ?_⟩, unchanged.ids⟩
  dsimp only
  by_cases same : other = sensor
  · subst same
    rw [acceptedReadings_own es own]
    exact tracks'
  · rw [acceptedReadings_other es (.inr (others other same))]
    exact (tracks other).others unchanged (fun collides => same (injective collides))

/-- A reading of another kind, or one that was refused. -/
theorem Told.frame (told : Told old series lastInsertIds key (fun sensor => acceptedReadings (of sensor) es))
    {accepted : Bool} (ids : ∀ sensor, lastInsertIds' (key sensor) = lastInsertIds (key sensor))
    (other : ∀ sensor, accepted = false ∨ of sensor sample.reading = none) :
    Told old series lastInsertIds' key
      (fun sensor => acceptedReadings (of sensor) (es ++ [(sample, accepted)])) := by
  obtain ⟨new, grown, tracks⟩ := told
  refine ⟨new, grown, fun sensor => ⟨?_, (tracks sensor).cache, ?_⟩⟩
  · dsimp only
    rw [acceptedReadings_other es (other sensor)]
    exact (tracks sensor).told
  · rw [ids]
    exact (tracks sensor).id

end Told

/-- The invariant of the runs. -/
structure HistoryInv (rateLimit : UInt32) (start : Database) (es : List (Sample × Bool))
    (db : Database) : Prop where
  connected : db.connected = true
  numeric : Told start.numeric.rows db.numeric db.lastInsertIds NumericSensors.key
    (fun sensor => acceptedReadings (Reading.numericOf sensor) es)
  boolean : Told start.boolean.rows db.boolean db.lastInsertIds BooleanSensors.key
    (fun sensor => acceptedReadings (Reading.booleanOf sensor) es)
  state : Told start.state.rows db.state db.lastInsertIds StateSensors.key
    (fun sensor => acceptedReadings (Reading.stateOf sensor) es)
  lastWrites : rateLimit.toInt32.toInt ≠ 0 → ∀ sensor : NumericSensors, db.lastWrites sensor.key =
    (acceptedReadings (Reading.numericOf sensor) es).getLast?.map Prod.fst
  refused : ∀ before sample after, es = before ++ (sample, false) :: after →
    Limited rateLimit before sample

theorem toInt32_positive {n : UInt32} (positive : 0 < n.toInt32.toInt) :
    n.toInt32.toInt = n.toNat ∧ n.toNat < 2 ^ 31 := by
  have toInt : n.toInt32.toInt = n.toBitVec.toInt := rfl
  have cond := BitVec.toInt_eq_toNat_cond n.toBitVec
  have toNat : n.toBitVec.toNat = n.toNat := rfl
  have bound := n.toNat_lt
  rw [toInt] at positive ⊢
  split at cond
  · omega
  · omega

/-- What the rate limit lets through, and what it remembers. -/
theorem checkAndUpdateRateLimit_cases (db : Database) (rateLimit : UInt32) (sensor : Nat) (now : TimeT) :
    (∃ last, db.lastWrites sensor = some last ∧ now - last < rateLimit.toInt32.toInt ∧
        rateLimit.toInt32.toInt ≠ 0 ∧ db.checkAndUpdateRateLimit rateLimit sensor now = (false, db)) ∨
      ∃ lastWrites, db.checkAndUpdateRateLimit rateLimit sensor now = (true, { db with lastWrites }) ∧
        (rateLimit.toInt32.toInt ≠ 0 → lastWrites = setKey db.lastWrites sensor now) := by
  unfold checkAndUpdateRateLimit
  dsimp only
  by_cases off : rateLimit.toInt32.toInt = 0
  · rw [if_pos off]
    exact .inr ⟨db.lastWrites, rfl, fun on => absurd off on⟩
  · rw [if_neg off]
    cases written : db.lastWrites sensor with
    | none => exact .inr ⟨_, rfl, fun _ => rfl⟩
    | some last =>
        dsimp only
        by_cases early : now - last < rateLimit.toInt32.toInt
        · rw [if_pos early]
          exact .inl ⟨last, rfl, early, off, rfl⟩
        · rw [if_neg early]
          exact .inr ⟨_, rfl, fun _ => rfl⟩

variable {rateLimit : UInt32} {start db : Database} {es : List (Sample × Bool)}

/-- Earlier refusals stay what they were; a new one is the last. -/
theorem refused_snoc (inv : HistoryInv rateLimit start es db) {sample : Sample} {accepted : Bool}
    (last : accepted = false → Limited rateLimit es sample) (before : List (Sample × Bool))
    (refused : Sample) (after : List (Sample × Bool))
    (split : es ++ [(sample, accepted)] = before ++ (refused, false) :: after) :
    Limited rateLimit before refused := by
  rcases List.eq_nil_or_concat' after with rfl | ⟨after', final, rfl⟩
  · obtain ⟨rfl, same⟩ := List.append_inj' split rfl
    cases same
    exact last rfl
  · rw [← List.cons_append, ← List.append_assoc] at split
    obtain ⟨earlier, -⟩ := List.append_inj' split rfl
    exact inv.refused before refused after' earlier

/-- A reading of a sensor that is refused changes nothing. -/
theorem refused_inv (inv : HistoryInv rateLimit start es db) {sample : Sample}
    (limited : Limited rateLimit es sample) :
    HistoryInv rateLimit start (es ++ [(sample, false)]) db where
  connected := inv.connected
  numeric := inv.numeric.frame (fun _ => rfl) (fun _ => .inl rfl)
  boolean := inv.boolean.frame (fun _ => rfl) (fun _ => .inl rfl)
  state := inv.state.frame (fun _ => rfl) (fun _ => .inl rfl)
  lastWrites := by
    intro on sensor
    rw [acceptedReadings_other es (.inl rfl)]
    exact inv.lastWrites on sensor
  refused := refused_snoc inv (fun _ => limited)

/-- A numeric reading that the rate limit refuses. -/
theorem numeric_refused (connected : db.connected = true) {sample : Sample} {sensor : NumericSensors}
    {value : Rat} (reading : sample.reading = .numeric sensor value)
    (refused : db.checkAndUpdateRateLimit rateLimit sensor.key sample.now = (false, db)) :
    db.accepts rateLimit sample = false ∧ db.addSensorValue rateLimit sample = db := by
  constructor
  · simp [accepts, connected, reading, refused]
  · simp [addSensorValue, addNumericValue, reading, connected, refused]

/-- A reading that is accepted goes to the table of its kind. -/
theorem numeric_accepted (connected : db.connected = true) {sample : Sample} {sensor : NumericSensors}
    {value : Rat} (reading : sample.reading = .numeric sensor value) {lastWrites : Nat → Option TimeT}
    (accepted : db.checkAndUpdateRateLimit rateLimit sensor.key sample.now =
      (true, { db with lastWrites })) :
    db.accepts rateLimit sample = true ∧ db.addSensorValue rateLimit sample = { db with
      lastWrites := lastWrites
      numeric := (db.numeric.add db.lastInsertIds sample.queries sensor.key value sample.now).1
      lastInsertIds := (db.numeric.add db.lastInsertIds sample.queries sensor.key value sample.now).2 } := by
  constructor
  · simp [accepts, connected, reading, accepted]
  · simp [addSensorValue, addNumericValue, reading, connected, accepted]

theorem boolean_accepted (connected : db.connected = true) {sample : Sample} {sensor : BooleanSensors}
    {value : Bool} (reading : sample.reading = .boolean sensor value) :
    db.accepts rateLimit sample = true ∧ db.addSensorValue rateLimit sample = { db with
      boolean := (db.boolean.add db.lastInsertIds sample.queries sensor.key value sample.now).1
      lastInsertIds := (db.boolean.add db.lastInsertIds sample.queries sensor.key value sample.now).2 } := by
  constructor
  · simp [accepts, connected, reading]
  · simp [addSensorValue, addBooleanValue, reading, connected]

theorem state_accepted (connected : db.connected = true) {sample : Sample} {sensor : StateSensors}
    {value : String} (reading : sample.reading = .state sensor value) :
    db.accepts rateLimit sample = true ∧ db.addSensorValue rateLimit sample = { db with
      state := (db.state.add db.lastInsertIds sample.queries sensor.key value sample.now).1
      lastInsertIds := (db.state.add db.lastInsertIds sample.queries sensor.key value sample.now).2 } := by
  constructor
  · simp [accepts, connected, reading]
  · simp [addSensorValue, addStateValue, reading, connected]

/-- The step of a numeric reading. -/
theorem numeric_step (inv : HistoryInv rateLimit start es db) {sample : Sample}
    {sensor : NumericSensors} {value : Rat} (reading : sample.reading = .numeric sensor value)
    (queries : db.QueriesOk sample) (clock : ∀ e ∈ es, e.1.now ≤ sample.now) :
    HistoryInv rateLimit start (es ++ [(sample, db.accepts rateLimit sample)])
      (db.addSensorValue rateLimit sample) := by
  obtain ⟨updated, id, inserted, valid, fresh⟩ := queries
  rw [reading] at fresh
  rcases checkAndUpdateRateLimit_cases db rateLimit sensor.key sample.now with
    ⟨last, written, early, on, refused⟩ | ⟨lastWrites, accepted, remembered⟩
  · obtain ⟨accepts, unchanged⟩ := numeric_refused inv.connected reading refused
    rw [accepts, unchanged]
    refine refused_inv inv ⟨sensor, value, reading, ?_⟩
    rw [inv.lastWrites on sensor] at written
    obtain ⟨earlier, latest, rfl⟩ := Option.map_eq_some_iff.mp written
    have member := List.mem_of_getLast? latest
    have older : earlier.1 ≤ sample.now := by
      obtain ⟨e, listed, same⟩ := mem_acceptedReadings member
      exact same ▸ clock (e, true) listed
    have positive : 0 < rateLimit.toInt32.toInt :=
      Int.lt_of_le_of_lt (Int.sub_nonneg_of_le older) early
    obtain ⟨same, small⟩ := toInt32_positive positive
    exact ⟨by omega, small, earlier, member, same ▸ early⟩
  · obtain ⟨accepts, added⟩ := numeric_accepted inv.connected reading accepted
    rw [accepts, added]
    obtain ⟨own, others, boolean, state⟩ := Reading.of_numeric reading
    obtain ⟨told, ids⟩ := inv.numeric.add NumericSensors.key_injective updated inserted valid fresh own
      others
    refine ⟨inv.connected, told, ?_, ?_, ?_, refused_snoc inv nofun⟩
    · exact inv.boolean.frame (fun other => ids _ (sensor.key_ne_boolean other).symm)
        (fun other => .inr (boolean other))
    · exact inv.state.frame (fun other => ids _ (sensor.key_ne_state other).symm)
        (fun other => .inr (state other))
    · intro on other
      show lastWrites other.key = _
      rw [remembered on]
      by_cases same : other = sensor
      · subst same
        rw [setKey_self, acceptedReadings_own es own]
        simp
      · rw [setKey_other _ (fun collides => same (NumericSensors.key_injective collides)),
          acceptedReadings_other es (.inr (others other same))]
        exact inv.lastWrites on other

/-- The step of a boolean reading. -/
theorem boolean_step (inv : HistoryInv rateLimit start es db) {sample : Sample}
    {sensor : BooleanSensors} {value : Bool} (reading : sample.reading = .boolean sensor value)
    (queries : db.QueriesOk sample) :
    HistoryInv rateLimit start (es ++ [(sample, db.accepts rateLimit sample)])
      (db.addSensorValue rateLimit sample) := by
  obtain ⟨updated, id, inserted, valid, fresh⟩ := queries
  rw [reading] at fresh
  obtain ⟨accepts, added⟩ := boolean_accepted inv.connected reading
  rw [accepts, added]
  obtain ⟨own, others, numeric, state⟩ := Reading.of_boolean reading
  obtain ⟨told, ids⟩ := inv.boolean.add BooleanSensors.key_injective updated inserted valid fresh own others
  refine ⟨inv.connected, ?_, told, ?_, ?_, refused_snoc inv nofun⟩
  · exact inv.numeric.frame (fun other => ids _ (other.key_ne_boolean sensor))
      (fun other => .inr (numeric other))
  · exact inv.state.frame (fun other => ids _ (sensor.key_ne_state other).symm)
      (fun other => .inr (state other))
  · intro on other
    rw [acceptedReadings_other es (.inr (numeric other))]
    exact inv.lastWrites on other

/-- The step of a state reading. -/
theorem state_step (inv : HistoryInv rateLimit start es db) {sample : Sample}
    {sensor : StateSensors} {value : String} (reading : sample.reading = .state sensor value)
    (queries : db.QueriesOk sample) :
    HistoryInv rateLimit start (es ++ [(sample, db.accepts rateLimit sample)])
      (db.addSensorValue rateLimit sample) := by
  obtain ⟨updated, id, inserted, valid, fresh⟩ := queries
  rw [reading] at fresh
  obtain ⟨accepts, added⟩ := state_accepted inv.connected reading
  rw [accepts, added]
  obtain ⟨own, others, numeric, boolean⟩ := Reading.of_state reading
  obtain ⟨told, ids⟩ := inv.state.add StateSensors.key_injective updated inserted valid fresh own others
  refine ⟨inv.connected, ?_, ?_, told, ?_, refused_snoc inv nofun⟩
  · exact inv.numeric.frame (fun other => ids _ (other.key_ne_state sensor))
      (fun other => .inr (numeric other))
  · exact inv.boolean.frame (fun other => ids _ (other.key_ne_state sensor))
      (fun other => .inr (boolean other))
  · intro on other
    rw [acceptedReadings_other es (.inr (numeric other))]
    exact inv.lastWrites on other

theorem start_inv (fresh : start.Fresh) : HistoryInv rateLimit start [] start where
  connected := fresh.connected
  numeric := told_fresh fresh.numeric fresh.lastInsertIds _
  boolean := told_fresh fresh.boolean fresh.lastInsertIds _
  state := told_fresh fresh.state fresh.lastInsertIds _
  lastWrites := by
    intro _ sensor
    rw [fresh.lastWrites]
    rfl
  refused := by
    intro before sample after split
    cases before <;> cases split

/-- The invariant holds along every run with a clock that does not go back. -/
theorem run_inv (fresh : start.Fresh)
    (run : (system rateLimit).Run (fun db e => db.QueriesOk e.1) start es db)
    (clock : (es.map (·.1.now)).Pairwise (· ≤ ·)) : HistoryInv rateLimit start es db := by
  induction run with
  | nil => exact start_inv fresh
  | @snoc es t u e _ queries next ih =>
      rw [List.map_append, List.pairwise_append] at clock
      obtain ⟨before, -, order⟩ := clock
      have inv := ih before
      obtain ⟨sample, rfl, rfl⟩ := step_cases next
      cases reading : sample.reading with
      | numeric sensor value =>
          refine numeric_step inv reading queries (fun e member => ?_)
          exact order e.1.now (List.mem_map_of_mem member) sample.now (List.mem_singleton_self _)
      | boolean sensor value => exact boolean_step inv reading queries
      | state sensor value => exact state_step inv reading queries

/-- The rows that a sensor has got since the table held `old` tell its readings. -/
def Appended {α : Type} (old rows : List (Row α)) (sensor : Nat) (readings : List (TimeT × α)) : Prop :=
  ∃ new, rowsOf sensor rows = rowsOf sensor old ++ new ∧ Encodes (new.map Row.stretch) readings

theorem Told.appended {α σ : Type} [DecidableEq α] {old : List (Row α)} {series : Series α}
    {lastInsertIds : Nat → Option Nat} {key : σ → Nat} {readings : σ → List (TimeT × α)}
    (told : Told old series lastInsertIds key readings) (sensor : σ)
    (sorted : (readings sensor).Pairwise (·.1 ≤ ·.1)) :
    Appended old series.rows (key sensor) (readings sensor) := by
  obtain ⟨new, grown, tracks⟩ := told
  refine ⟨rowsOf (key sensor) new, ?_, ?_⟩
  · rw [grown.rows, rowsOf_append]
  · have encoded : (rowsOf (key sensor) new).map Row.stretch = encode (readings sensor) :=
      (tracks sensor).told
    rw [encoded]
    exact RunLength.encode_encodes sorted

/-- The accepted readings of a sensor are in the order of time. -/
theorem acceptedReadings_sorted {α : Type} (of : Reading → Option α)
    (clock : (es.map (·.1.now)).Pairwise (· ≤ ·)) :
    (acceptedReadings of es).Pairwise (·.1 ≤ ·.1) := by
  unfold acceptedReadings
  rw [List.pairwise_filterMap]
  refine (List.pairwise_map.mp clock).imp ?_
  rintro ⟨sample, accepted⟩ ⟨sample', accepted'⟩ order reading first reading' second
  cases accepted with
  | false => cases first
  | true =>
      cases accepted' with
      | false => cases second
      | true =>
          obtain ⟨value, -, rfl⟩ := Option.map_eq_some_iff.mp first
          obtain ⟨value', -, rfl⟩ := Option.map_eq_some_iff.mp second
          exact order

/-- For every sequence of readings with queries that succeed and a clock that does not go back, the
    rows that each sensor has got tell its accepted readings: neighbouring rows have different
    values and meet in time, no row ends before it begins, the last one ends with the last accepted
    reading, and every accepted reading is covered by a row with its value. Only numeric readings
    are refused, and only within the rate limit of an accepted one. -/
theorem history_faithful (fresh : start.Fresh)
    (run : (system rateLimit).Run (fun db e => db.QueriesOk e.1) start es db)
    (clock : (es.map (·.1.now)).Pairwise (· ≤ ·)) :
    (∀ sensor : NumericSensors, Appended start.numeric.rows db.numeric.rows sensor.key
      (acceptedReadings (Reading.numericOf sensor) es)) ∧
    (∀ sensor : BooleanSensors, Appended start.boolean.rows db.boolean.rows sensor.key
      (acceptedReadings (Reading.booleanOf sensor) es)) ∧
    (∀ sensor : StateSensors, Appended start.state.rows db.state.rows sensor.key
      (acceptedReadings (Reading.stateOf sensor) es)) ∧
    ∀ before sample after, es = before ++ (sample, false) :: after →
      Limited rateLimit before sample := by
  have inv := run_inv fresh run clock
  refine ⟨fun sensor => ?_, fun sensor => ?_, fun sensor => ?_, inv.refused⟩
  · exact inv.numeric.appended sensor (acceptedReadings_sorted _ clock)
  · exact inv.boolean.appended sensor (acceptedReadings_sorted _ clock)
  · exact inv.state.appended sensor (acceptedReadings_sorted _ clock)

/-- Readings of three kinds of sensors, of which the rate limit refuses one. -/
def someSamples : List (Sample × Bool) :=
  [({ now := 100, reading := .numeric .sensorKesselIstTemp 40, queries := ⟨true, some 1⟩ }, true),
    ({ now := 130, reading := .boolean .sensorFlamme true, queries := ⟨true, some 1⟩ }, true),
    ({ now := 140, reading := .numeric .sensorKesselIstTemp 41, queries := ⟨true, some 2⟩ }, false),
    ({ now := 160, reading := .numeric .sensorKesselIstTemp 42, queries := ⟨true, some 2⟩ }, true),
    ({ now := 190, reading := .state .sensorFehlerCode "200", queries := ⟨true, some 1⟩ }, true),
    ({ now := 220, reading := .numeric .sensorKesselIstTemp 42, queries := ⟨true, some 3⟩ }, true)]

def emptyDatabase : Database :=
  { connected := true, lastWrites := fun _ => none, lastInsertIds := fun _ => none
    numeric := ⟨fun _ => none, []⟩, boolean := ⟨fun _ => none, []⟩, state := ⟨fun _ => none, []⟩ }

theorem history_faithful_limited :
    ∃ db, (system 60).Run (fun db e => db.QueriesOk e.1) emptyDatabase someSamples db ∧
      db.numeric.rows = [⟨1, 2, 40, 100, 160⟩, ⟨2, 2, 42, 160, 220⟩] ∧
      Appended [] db.numeric.rows 2 [(100, 40), (160, 42), (220, 42)] ∧
      Limited 60 (someSamples.take 2)
        { now := 140, reading := .numeric .sensorKesselIstTemp 41, queries := ⟨true, some 2⟩ } := by
  let last := (someSamples.foldlM (fun (db : Database) e => if db.QueriesOk e.1 then step 60 db e else none)
    emptyDatabase).get (by decide +kernel)
  have run : (system 60).Run (fun db e => db.QueriesOk e.1) emptyDatabase someSamples last :=
    .ofFold (Option.some_get (by decide +kernel)).symm
  obtain ⟨numeric, -, -, refused⟩ := history_faithful ⟨rfl, rfl, rfl, rfl, rfl, rfl⟩ run (by decide)
  refine ⟨last, run, by decide +kernel, numeric .sensorKesselIstTemp, ?_⟩
  exact refused _ _ _ rfl

end Database

end EmsCollector
