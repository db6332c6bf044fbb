import EmsCollector.Collector.DatabaseProof.History
import EmsCollector.Collector.MainProof.Fetch

/-!
# What the tables tell of the line

The readings that the database takes are those of the decoded values, one after the other, so the
history of each sensor is the history of what came over the line.
-/

namespace EmsCollector

namespace Database

variable {rateLimit : UInt32}

/-- Readings, each with whether it gets past the checks. -/
def judged (rateLimit : UInt32) : Database → List Sample → List (Sample × Bool)
  | _, [] => []
  | db, sample :: rest =>
      (sample, db.accepts rateLimit sample) :: judged rateLimit (db.addSensorValue rateLimit sample) rest

/-- The queries for each reading succeed, in the state in which it finds the database. -/
def AllOk (rateLimit : UInt32) : Database → List Sample → Prop
  | _, [] => True
  | db, sample :: rest => db.QueriesOk sample ∧ AllOk rateLimit (db.addSensorValue rateLimit sample) rest

theorem judged_samples (rateLimit : UInt32) (db : Database) (samples : List Sample) :
    (judged rateLimit db samples).map Prod.fst = samples := by
  induction samples generalizing db with
  | nil => rfl
  | cons sample rest ih =>
      unfold judged
      rw [List.map_cons, ih]

theorem judged_run {db : Database} {samples : List Sample} (allOk : AllOk rateLimit db samples) :
    (system rateLimit).Run (fun db e => db.QueriesOk e.1) db (judged rateLimit db samples)
      (samples.foldl (addSensorValue · rateLimit ·) db) := by
  induction samples generalizing db with
  | nil => exact .nil
  | cons sample rest ih =>
      obtain ⟨queries, allOk⟩ := allOk
      exact .cons queries (if_pos rfl) (ih allOk)

end Database

namespace Collector

variable {κ δ : Type} [DecidableEq κ] [DecidableEq δ] {w : Surroundings} {setup : Setup}
  {c : Collector κ δ}

/-- What the database makes of a value, taken as the `i`-th. -/
def sampleOf (w : Surroundings) (value : EmsValue) (i : Nat) : Option Database.Sample :=
  (Database.readingOf value).toOption.join.map fun reading =>
    { now := w.databaseTime i, reading, queries := w.queries i }

/-- The readings in values, the first of them taken as the `n`-th. -/
def samplesFrom (w : Surroundings) (n : Nat) (values : List EmsValue) : List Database.Sample :=
  (values.zipIdx n).filterMap fun (value, i) => sampleOf w value i

theorem handleValue_sample (database : Database) (value : EmsValue) (i : Nat) :
    (database.handleValue w.rateLimit (w.databaseTime i) (w.queries i) value).toOption.getD database =
      ((sampleOf w value i).map (database.addSensorValue w.rateLimit)).getD database := by
  unfold sampleOf Database.handleValue
  cases Database.readingOf value with
  | error fault => rfl
  | ok reading =>
      cases reading with
      | none => rfl
      | some reading => rfl

theorem recorded_samples (n : Nat) (database : Database) (values : List EmsValue) :
    recorded w n database values =
      (samplesFrom w n values).foldl (Database.addSensorValue · w.rateLimit ·) database := by
  unfold recorded samplesFrom
  generalize values.zipIdx n = numbered
  induction numbered generalizing database with
  | nil => rfl
  | cons entry rest ih =>
      obtain ⟨value, i⟩ := entry
      rw [List.foldl_cons, List.filterMap_cons, ih]
      dsimp only
      rw [handleValue_sample]
      cases sampleOf w value i with
      | none => rfl
      | some sample => rfl

theorem samplesFrom_sorted (clock : Monotone w.databaseTime) (n : Nat) (values : List EmsValue) :
    ((samplesFrom w n values).map (·.now)).Pairwise (· ≤ ·) := by
  unfold samplesFrom
  rw [List.pairwise_map, List.pairwise_filterMap]
  have order : (values.zipIdx n).Pairwise (fun entry other => entry.2 ≤ other.2) := by
    rw [← List.pairwise_map (f := Prod.snd) (R := (· ≤ ·)), List.zipIdx_map_snd]
    exact List.pairwise_le_range'
  refine order.imp ?_
  rintro ⟨value, i⟩ ⟨value', j⟩ later sample found sample' found'
  obtain ⟨reading, -, rfl⟩ := Option.map_eq_some_iff.mp found
  obtain ⟨reading', -, rfl⟩ := Option.map_eq_some_iff.mp found'
  exact clock later

/-- In every run that begins with a fresh database whose queries succeed and whose clock does not go
    back, the rows that each sensor has got tell its accepted readings among those of the decoded
    values, and only numeric readings within the rate limit are not accepted. -/
theorem tables_follow_line {ok : Collector κ δ → Event κ δ → Prop} {database : Database} {length : Nat}
    {checkSum : UInt8} {es : List (Event κ δ)} (fresh : database.Fresh) (clock : Monotone w.databaseTime)
    (run : (system w setup κ δ).Run ok (start setup database length checkSum) es c)
    (allOk : Database.AllOk w.rateLimit database (samplesFrom w 0 (values es))) :
    let readings := Database.judged w.rateLimit database (samplesFrom w 0 (values es))
    let db := c.stores.database
    (∀ sensor, Database.Appended database.numeric.rows db.numeric.rows (NumericSensors.key sensor)
      (Database.acceptedReadings (Database.Reading.numericOf sensor) readings)) ∧
    (∀ sensor, Database.Appended database.boolean.rows db.boolean.rows (BooleanSensors.key sensor)
      (Database.acceptedReadings (Database.Reading.booleanOf sensor) readings)) ∧
    (∀ sensor, Database.Appended database.state.rows db.state.rows (StateSensors.key sensor)
      (Database.acceptedReadings (Database.Reading.stateOf sensor) readings)) ∧
    ∀ before sample after, readings = before ++ (sample, false) :: after →
      Database.Limited w.rateLimit before sample := by
  intro readings db
  have stores := (followed_run run).stores
  have took : (samplesFrom w 0 (values es)).foldl (Database.addSensorValue · w.rateLimit ·) database =
      db := by
    rw [← recorded_samples]
    show _ = c.stores.database
    rw [stores]
    rfl
  have steps := Database.judged_run allOk
  rw [took] at steps
  have sorted : (readings.map (·.1.now)).Pairwise (· ≤ ·) := by
    have times := samplesFrom_sorted clock 0 (values es)
    rw [← Database.judged_samples w.rateLimit database (samplesFrom w 0 (values es)),
      List.map_map] at times
    exact times
  have inv := Database.run_inv fresh steps sorted
  refine ⟨fun sensor => ?_, fun sensor => ?_, fun sensor => ?_, inv.refused⟩
  · exact inv.numeric.appended sensor (Database.acceptedReadings_sorted _ sorted)
  · exact inv.boolean.appended sensor (Database.acceptedReadings_sorted _ sorted)
  · exact inv.state.appended sensor (Database.acceptedReadings_sorted _ sorted)

/-- The database answers every query. -/
def answered : Surroundings := { counted with queries := fun n => ⟨true, some (n + 1)⟩ }

/-- Two outdoor temperatures within the rate limit. -/
def twoTemperatures : List (Event Unit Unit) :=
  [.read [0xaa, 0x55, 0x06, 0x88, 0x00, 0xd1, 0x00, 0x00, 0x7b, 0x22],
    .read [0xaa, 0x55, 0x06, 0x88, 0x00, 0xd1, 0x00, 0x00, 0x7c, 0x25]]

/-- Only the first one is told. -/
theorem tables_follow_line_limited :
    ∃ c : Collector Unit Unit,
      Database.Appended [] c.stores.database.numeric.rows NumericSensors.sensorAussenTemp.key
        [(0, 123 / 10)] := by
  let last := (twoTemperatures.foldlM
    (fun (c : Collector Unit Unit) e => if True then step answered ⟨.serial, true⟩ c e else none)
    (start ⟨.serial, true⟩ Database.emptyDatabase 0 0)).get (by decide +kernel)
  have run : (system answered ⟨.serial, true⟩ Unit Unit).Run (fun _ _ => True)
      (start ⟨.serial, true⟩ Database.emptyDatabase 0 0) twoTemperatures last :=
    .ofFold (Option.some_get (by decide +kernel)).symm
  have clock : Monotone answered.databaseTime := fun _ _ order => Int.ofNat_le.mpr order
  have samples : samplesFrom answered 0 (values twoTemperatures) =
      [⟨0, .numeric .sensorAussenTemp (123 / 10), ⟨true, some 1⟩⟩,
        ⟨1, .numeric .sensorAussenTemp (124 / 10), ⟨true, some 2⟩⟩] := by decide +kernel
  have allOk : Database.AllOk 60 Database.emptyDatabase
      [⟨0, .numeric .sensorAussenTemp (123 / 10), ⟨true, some 1⟩⟩,
        ⟨1, .numeric .sensorAussenTemp (124 / 10), ⟨true, some 2⟩⟩] :=
    ⟨by decide +kernel, by decide +kernel, trivial⟩
  obtain ⟨numeric, -⟩ :=
    tables_follow_line ⟨rfl, rfl, rfl, rfl, rfl, rfl⟩ clock run (samples ▸ allOk)
  have accepted := numeric .sensorAussenTemp
  rw [samples] at accepted
  have told : Database.acceptedReadings (Database.Reading.numericOf .sensorAussenTemp)
      (Database.judged 60 Database.emptyDatabase
        [⟨0, .numeric .sensorAussenTemp (123 / 10), ⟨true, some 1⟩⟩,
          ⟨1, .numeric .sensorAussenTemp (124 / 10), ⟨true, some 2⟩⟩]) = [(0, 123 / 10)] := by
    decide +kernel
  exact ⟨last, told ▸ accepted⟩

end Collector

end EmsCollector
