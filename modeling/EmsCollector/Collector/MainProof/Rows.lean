import EmsCollector.Collector.Database.Schema
import EmsCollector.Collector.MainProof.Tables

/-!
# Where the rows of the tables come from

Every row of the three tables holds the reading of a value that came over the line, its sensor
stands in the list of sensors with the type of its table, and it has no values but those of one key.
-/

namespace EmsCollector

open EmsMessage (Emitted telegramKinds errorKinds)

namespace Database

variable {value : EmsValue} {reading : Reading}

/-- The value in a row. -/
inductive Content where
  | numeric (number : Rat)
  | boolean (flag : Bool)
  | state (text : String)
  deriving DecidableEq, Repr

/-- The type of the sensors of a table. -/
def Content.sensorType : Content → Nat
  | numeric _ => sensorTypeNumeric
  | boolean _ => sensorTypeBoolean
  | state _ => sensorTypeState

/-- The sensor and the value of a reading, as in a row. -/
def Reading.stored : Reading → Nat × Content
  | .numeric sensor number => (sensor.key, .numeric number)
  | .boolean sensor flag => (sensor.key, .boolean flag)
  | .state sensor text => (sensor.key, .state text)

/-- The sensors and values in the rows of all tables. -/
def stored (db : Database) : List (Nat × Content) :=
  db.numeric.rows.map (fun row => (row.sensor, .numeric row.value)) ++
    db.boolean.rows.map (fun row => (row.sensor, .boolean row.value)) ++
    db.state.rows.map (fun row => (row.sensor, .state row.value))

/-- The sensor that gets the values of a key. -/
def sensorOf (key : CacheKey) : Option Nat :=
  match numericMapping.find? (fun row => key.type = row.1 ∧ key.subtype = row.2.1) with
  | some row => some row.2.2.key
  | none =>
  match integerMapping.find? (fun row => key.type = row.1 ∧ key.subtype = row.2.1) with
  | some row => some row.2.2.key
  | none =>
  match boolMapping.find? (fun row => key.type = row.1 ∧ (row.2.1 = .none ∨ key.subtype = row.2.1)) with
  | some row => some row.2.2.key
  | none =>
  match stateMapping.find? (fun row => key.type = row.1) with
  | some row => some row.2.key
  | none =>
    if key.type = .betriebsart ∧ (key.subtype = .hk1 ∨ key.subtype = .hk2) then
      some (if key.subtype = .hk2 then BooleanSensors.sensorHK2Automatik.key
        else BooleanSensors.sensorHK1Automatik.key)
    else none

theorem readingOf_sensor (read : readingOf value = .ok (some reading)) :
    sensorOf value.key = some reading.stored.1 := by
  have mapped {β : Type} {got : Except EmsValue.BadGet β} {make : β → Option Reading}
      (made : got.map make = .ok (some reading)) : ∃ number, make number = some reading := by
    cases got with
    | error fault => cases made
    | ok number => exact ⟨number, Except.ok.inj made⟩
  unfold readingOf at read
  unfold sensorOf EmsValue.key
  dsimp only
  split at read
  · cases read
  split at read
  · rename_i row found
    obtain ⟨number, same⟩ := mapped read
    cases same
    rw [found]
    rfl
  rename_i none₁
  rw [none₁]
  split at read
  · rename_i row found
    obtain ⟨number, same⟩ := mapped read
    cases same
    rw [found]
    rfl
  rename_i none₂
  rw [none₂]
  split at read
  · rename_i row found
    obtain ⟨flag, same⟩ := mapped read
    cases same
    rw [found]
    rfl
  rename_i none₃
  rw [none₃]
  split at read
  · rename_i row found
    obtain ⟨text, same⟩ := mapped read
    cases same
    rw [found]
    rfl
  rename_i none₄
  rw [none₄]
  split at read
  · rename_i circuit
    obtain ⟨mode, same⟩ := mapped read
    cases same
    dsimp only
    rw [if_pos circuit]
    by_cases second : value.subType = .hk2
    · simp only [second, if_true]
      rfl
    · simp only [second, if_false]
      rfl
  · cases read

/-- Of the keys of all telegrams, no two have the same sensor. -/
theorem sensorOf_nodup : ((((telegramKinds ++ errorKinds).map Kind.key).filter
    (fun key => (sensorOf key).isSome)).map sensorOf).Nodup := by decide +kernel

/-- A sensor gets the values of one key. -/
theorem one_key {value other : EmsValue} (emitted : Emitted value) (emitted' : Emitted other)
    {reading reading' : Reading} (read : readingOf value = .ok (some reading))
    (read' : readingOf other = .ok (some reading')) (same : reading'.stored.1 = reading.stored.1) :
    other.key = value.key := by
  have listed {value : EmsValue} {reading : Reading} (emitted : Emitted value)
      (read : readingOf value = .ok (some reading)) :
      value.key ∈ ((telegramKinds ++ errorKinds).map Kind.key).filter
        (fun key => (sensorOf key).isSome) := by
    refine List.mem_filter.mpr ⟨List.mem_map_of_mem (f := Kind.key) emitted.ofKinds.mem, ?_⟩
    rw [readingOf_sensor read]
    rfl
  refine List.inj_on_of_nodup_map sensorOf_nodup (listed emitted' read') (listed emitted read) ?_
  rw [readingOf_sensor read, readingOf_sensor read', same]

theorem sensorRows_nodup : (sensorRows.map SensorRow.type).Nodup := by decide +kernel

/-- Every sensor is in the list, with the type of its table. -/
theorem reading_listed (reading : Reading) : ∃ row ∈ sensorRows,
    row.type = reading.stored.1 ∧ row.valueType = reading.stored.2.sensorType := by
  cases reading with
  | numeric sensor number =>
      show ∃ row ∈ sensorRows, row.type = sensor.key ∧ row.valueType = sensorTypeNumeric
      cases sensor <;> decide +kernel
  | boolean sensor flag =>
      show ∃ row ∈ sensorRows, row.type = sensor.key ∧ row.valueType = sensorTypeBoolean
      cases sensor <;> decide +kernel
  | state sensor text =>
      show ∃ row ∈ sensorRows, row.type = sensor.key ∧ row.valueType = sensorTypeState
      cases sensor <;> decide +kernel

/-- The rows are prolonged or left, and one may be added. -/
theorem add_rows_eq {α : Type} [DecidableEq α] (series : Series α) (lastInsertIds : Nat → Option Nat)
    (queries : Queries) (sensor : Nat) (value : α) (now : TimeT) :
    ∃ rows : List (Row α),
      (rows = series.rows ∨ ∃ id, rows = series.rows.map (Row.setEndtime id now)) ∧
      ((series.add lastInsertIds queries sensor value now).1.rows = rows ∨
        ∃ id, (series.add lastInsertIds queries sensor value now).1.rows =
          rows ++ [⟨id, sensor, value, now, now⟩]) := by
  unfold Series.add
  dsimp only
  generalize (lastInsertIds sensor).filter (· ≠ 0) = validId
  obtain ⟨update, insertId⟩ := queries
  refine ⟨if update = true then (validId.map fun id =>
    series.rows.map (Row.setEndtime id now)).getD series.rows else series.rows, ?_, ?_⟩
  · cases update with
    | false => exact .inl rfl
    | true =>
        cases validId with
        | none => exact .inl rfl
        | some id => exact .inr ⟨id, rfl⟩
  · by_cases insertion : ¬ series.cache sensor = some value ∨ validId = none
    · cases update <;> cases validId <;> cases insertId <;> simp_all
    · cases update <;> cases validId <;> cases insertId <;> simp_all

/-- A row is an old one, but for its end, or holds the reading. -/
theorem add_rows {α : Type} [DecidableEq α] {series : Series α} {lastInsertIds : Nat → Option Nat}
    {queries : Queries} {sensor : Nat} {value : α} {now : TimeT} {row : Row α}
    (member : row ∈ (series.add lastInsertIds queries sensor value now).1.rows) :
    (∃ old ∈ series.rows, old.sensor = row.sensor ∧ old.value = row.value) ∨
      row.sensor = sensor ∧ row.value = value := by
  obtain ⟨rows, prolonged, added⟩ := add_rows_eq series lastInsertIds queries sensor value now
  have old {row : Row α} (member : row ∈ rows) :
      ∃ old ∈ series.rows, old.sensor = row.sensor ∧ old.value = row.value := by
    rcases prolonged with rfl | ⟨id, rfl⟩
    · exact ⟨row, member, rfl, rfl⟩
    · obtain ⟨before, inside, rfl⟩ := List.mem_map.mp member
      refine ⟨before, inside, ?_⟩
      unfold Row.setEndtime
      split <;> exact ⟨rfl, rfl⟩
  rcases added with same | ⟨id, same⟩
  · exact .inl (old (same ▸ member))
  · rw [same] at member
    rcases List.mem_append.mp member with member | new
    · exact .inl (old member)
    · cases List.mem_singleton.mp new
      exact .inr ⟨rfl, rfl⟩

theorem mem_stored {db : Database} {entry : Nat × Content} : entry ∈ db.stored ↔
    (∃ row ∈ db.numeric.rows, (row.sensor, .numeric row.value) = entry) ∨
    (∃ row ∈ db.boolean.rows, (row.sensor, .boolean row.value) = entry) ∨
    ∃ row ∈ db.state.rows, (row.sensor, .state row.value) = entry := by
  unfold stored
  simp only [List.mem_append, List.mem_map, or_assoc]

/-- A reading of a database that is not connected is lost. -/
theorem addSensorValue_unconnected {db : Database} (unconnected : db.connected = false)
    (rateLimit : UInt32) (sample : Sample) : db.addSensorValue rateLimit sample = db := by
  cases reading : sample.reading <;>
    simp [addSensorValue, addNumericValue, addBooleanValue, addStateValue, reading, unconnected]

/-- A reading adds no row but its own. -/
theorem addSensorValue_stored {db : Database} {rateLimit : UInt32} {sample : Sample}
    {entry : Nat × Content} (member : entry ∈ (db.addSensorValue rateLimit sample).stored) :
    entry ∈ db.stored ∨ entry = sample.reading.stored := by
  cases connected : db.connected with
  | false =>
      rw [addSensorValue_unconnected connected] at member
      exact .inl member
  | true =>
      cases reading : sample.reading with
      | numeric sensor number =>
          rcases checkAndUpdateRateLimit_cases db rateLimit sensor.key sample.now with
            ⟨-, -, -, -, refused⟩ | ⟨lastWrites, accepted, -⟩
          · rw [(numeric_refused connected reading refused).2] at member
            exact .inl member
          · rw [(numeric_accepted connected reading accepted).2] at member
            rcases mem_stored.mp member with ⟨row, inside, rfl⟩ | others
            · rcases add_rows inside with ⟨old, before, sensor, value⟩ | ⟨sensor, value⟩
              · exact .inl (mem_stored.mpr (.inl ⟨old, before, by rw [sensor, value]⟩))
              · exact .inr (by rw [sensor, value]; rfl)
            · exact .inl (mem_stored.mpr (.inr others))
      | boolean sensor flag =>
          have added : db.addSensorValue rateLimit sample = _ := (boolean_accepted connected reading).2
          rw [added] at member
          rcases mem_stored.mp member with numeric | ⟨row, inside, rfl⟩ | state
          · exact .inl (mem_stored.mpr (.inl numeric))
          · rcases add_rows inside with ⟨old, before, sensor, value⟩ | ⟨sensor, value⟩
            · exact .inl (mem_stored.mpr (.inr (.inl ⟨old, before, by rw [sensor, value]⟩)))
            · exact .inr (by rw [sensor, value]; rfl)
          · exact .inl (mem_stored.mpr (.inr (.inr state)))
      | state sensor text =>
          have added : db.addSensorValue rateLimit sample = _ := (state_accepted connected reading).2
          rw [added] at member
          rcases mem_stored.mp member with numeric | boolean | ⟨row, inside, rfl⟩
          · exact .inl (mem_stored.mpr (.inl numeric))
          · exact .inl (mem_stored.mpr (.inr (.inl boolean)))
          · rcases add_rows inside with ⟨old, before, sensor, value⟩ | ⟨sensor, value⟩
            · exact .inl (mem_stored.mpr (.inr (.inr ⟨old, before, by rw [sensor, value]⟩)))
            · exact .inr (by rw [sensor, value]; rfl)

/-- Readings add no rows but theirs. -/
theorem samples_stored {db : Database} {rateLimit : UInt32} {samples : List Sample}
    {entry : Nat × Content}
    (member : entry ∈ (samples.foldl (addSensorValue · rateLimit ·) db).stored) :
    entry ∈ db.stored ∨ ∃ sample ∈ samples, entry = sample.reading.stored := by
  induction samples generalizing db with
  | nil => exact .inl member
  | cons sample rest ih =>
      rcases ih member with old | ⟨later, inside, same⟩
      · rcases addSensorValue_stored old with old | same
        · exact .inl old
        · exact .inr ⟨sample, List.mem_cons_self, same⟩
      · exact .inr ⟨later, List.mem_cons_of_mem _ inside, same⟩

end Database

namespace Collector

variable {κ δ : Type} [DecidableEq κ] [DecidableEq δ] {w : Surroundings} {setup : Setup}
  {c : Collector κ δ}

theorem samplesFrom_reading {n : Nat} {values : List EmsValue} {sample : Database.Sample}
    (member : sample ∈ samplesFrom w n values) :
    ∃ value ∈ values, Database.readingOf value = .ok (some sample.reading) := by
  obtain ⟨⟨value, i⟩, inside, made⟩ := List.mem_filterMap.mp member
  obtain ⟨reading, read, rfl⟩ := Option.map_eq_some_iff.mp made
  refine ⟨value, List.fst_mem_of_mem_zipIdx inside, ?_⟩
  cases told : Database.readingOf value with
  | error fault =>
      rw [told] at read
      cases read
  | ok found =>
      rw [told] at read
      exact congrArg Except.ok read

/-- In every run that begins with empty tables, every row is the reading of a value that was decoded
    from the line; its sensor is described once in the list of sensors, with the type of the table,
    and gets the values of no other key. -/
theorem rows_follow_line {ok : Collector κ δ → Event κ δ → Prop} {database : Database} {length : Nat}
    {checkSum : UInt8} {es : List (Event κ δ)} (empty : database.stored = [])
    (run : (system w setup κ δ).Run ok (start setup database length checkSum) es c) :
    ∀ entry ∈ c.stores.database.stored, ∃ value ∈ values es, ∃ reading,
      Database.readingOf value = .ok (some reading) ∧ reading.stored = entry ∧
      (∃! row, row ∈ Database.sensorRows ∧ row.type = entry.1) ∧
      (∃ row ∈ Database.sensorRows, row.type = entry.1 ∧ row.valueType = entry.2.sensorType) ∧
      ∀ other ∈ values es, ∀ reading', Database.readingOf other = .ok (some reading') →
        reading'.stored.1 = entry.1 → other.key = value.key := by
  intro entry member
  have stores := (followed_run run).stores
  have taken : entry ∈ (recorded w 0 database (values es)).stored := by
    rw [stores] at member
    exact member
  rw [recorded_samples] at taken
  rcases Database.samples_stored taken with before | ⟨sample, inside, rfl⟩
  · rw [empty] at before
    cases before
  obtain ⟨value, heard, read⟩ := samplesFrom_reading inside
  obtain ⟨row, listed, type, valueType⟩ := Database.reading_listed sample.reading
  refine ⟨value, heard, _, read, rfl, ⟨row, ⟨listed, type⟩, ?_⟩, ⟨row, listed, type, valueType⟩, ?_⟩
  · rintro other ⟨listed', type'⟩
    exact List.inj_on_of_nodup_map Database.sensorRows_nodup listed' listed (type'.trans type.symm)
  · intro other heard' reading' read' same
    exact Database.one_key (values_emitted value heard) (values_emitted other heard') read read' same

/-- Of two outdoor temperatures, one has got a row. -/
theorem rows_follow_line_limited :
    ∃ c : Collector Unit Unit, c.stores.database.stored = [(11, .numeric (123 / 10))] ∧
      ∃ value ∈ values twoTemperatures, value.key = ⟨.istTemp, .aussen⟩ ∧
        ∃ reading, Database.readingOf value = .ok (some reading) ∧
          reading.stored = (11, .numeric (123 / 10)) := by
  let last := (twoTemperatures.foldlM
    (fun (c : Collector Unit Unit) e => if True then step answered ⟨.serial, true⟩ c e else none)
    (start ⟨.serial, true⟩ Database.emptyDatabase 0 0)).get (by decide +kernel)
  have run : (system answered ⟨.serial, true⟩ Unit Unit).Run (fun _ _ => True)
      (start ⟨.serial, true⟩ Database.emptyDatabase 0 0) twoTemperatures last :=
    .ofFold (Option.some_get (by decide +kernel)).symm
  have rows : last.stores.database.stored = [(11, .numeric (123 / 10))] := by decide +kernel
  have only : ∀ value ∈ values twoTemperatures, value.key = ⟨.istTemp, .aussen⟩ := by decide +kernel
  obtain ⟨value, heard, reading, read, same, -⟩ :=
    rows_follow_line rfl run _ (rows ▸ List.mem_singleton_self _)
  exact ⟨last, rows, value, heard, only value heard, reading, read, same⟩

end Collector

end EmsCollector
