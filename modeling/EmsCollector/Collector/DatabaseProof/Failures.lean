import EmsCollector.Collector.DatabaseProof.History

/-!
# The history when queries fail

`addSensorValue` changes the cache and the last insert id only behind an insertion that
succeeded, so both keep belonging to the last row of the sensor. But the next reading prolongs
that row whether or not a reading of another value was lost in between.
-/

namespace EmsCollector.Database

open RunLength (Stretch Attempt attempts Truthful Harmless)

/-- The accepted readings of a sensor with the fate of their queries. -/
def acceptedAttempts {α : Type} (of : Reading → Option α) (es : List (Sample × Bool)) :
    List (Attempt TimeT α) :=
  es.filterMap fun (sample, accepted) =>
    if accepted then (of sample.reading).map (fun value =>
      ⟨sample.now, value, sample.queries.update, sample.queries.insertId.isSome⟩) else none

theorem acceptedReadings_attempts {α : Type} (of : Reading → Option α) (es : List (Sample × Bool)) :
    acceptedReadings of es = (acceptedAttempts of es).map (fun a => (a.time, a.value)) := by
  unfold acceptedReadings acceptedAttempts
  rw [List.map_filterMap]
  congr 1
  funext ⟨sample, accepted⟩
  cases accepted <;> simp [Function.comp_def]

theorem acceptedAttempts_snoc {α : Type} (of : Reading → Option α) (es : List (Sample × Bool))
    (sample : Sample) (accepted : Bool) :
    acceptedAttempts of (es ++ [(sample, accepted)]) = acceptedAttempts of es ++
      (if accepted then (of sample.reading).map (fun value =>
        ⟨sample.now, value, sample.queries.update, sample.queries.insertId.isSome⟩)
        else none).toList := by
  unfold acceptedAttempts
  rw [List.filterMap_append]
  congr 1

theorem acceptedAttempts_other {α : Type} {of : Reading → Option α} (es : List (Sample × Bool))
    {sample : Sample} {accepted : Bool} (other : accepted = false ∨ of sample.reading = none) :
    acceptedAttempts of (es ++ [(sample, accepted)]) = acceptedAttempts of es := by
  rw [acceptedAttempts_snoc]
  rcases other with refused | other
  · simp [refused]
  · simp [other]

theorem acceptedAttempts_own {α : Type} {of : Reading → Option α} (es : List (Sample × Bool))
    {sample : Sample} {value : α} (own : of sample.reading = some value) :
    acceptedAttempts of (es ++ [(sample, true)]) = acceptedAttempts of es ++
      [⟨sample.now, value, sample.queries.update, sample.queries.insertId.isSome⟩] := by
  rw [acceptedAttempts_snoc, own]
  rfl

theorem acceptedAttempts_sorted {α : Type} (of : Reading → Option α) {es : List (Sample × Bool)}
    (clock : (es.map (·.1.now)).Pairwise (· ≤ ·)) :
    (acceptedAttempts of es).Pairwise (·.time ≤ ·.time) := by
  have sorted := acceptedReadings_sorted of clock
  rw [acceptedReadings_attempts, List.pairwise_map] at sorted
  exact sorted

/-- The invariant, by kinds of sensors: the new rows of each sensor come of its attempts. -/
def Kept {α σ : Type} [DecidableEq α] (old : List (Row α)) (series : Series α)
    (lastInsertIds : Nat → Option Nat) (key : σ → Nat) (tried : σ → List (Attempt TimeT α)) : Prop :=
  ∃ new, Grown old new series ∧
    ∀ sensor, Recorded new series lastInsertIds (key sensor) (attempts (tried sensor))

section Kept

variable {α σ : Type} [DecidableEq α] {old : List (Row α)} {series : Series α}
  {lastInsertIds lastInsertIds' : Nat → Option Nat} {key : σ → Nat} {of : σ → Reading → Option α}
  {tried : σ → List (Attempt TimeT α)} {es : List (Sample × Bool)} {sample : Sample}

theorem kept_fresh (cache : series.cache = fun _ => none) (noIds : lastInsertIds = fun _ => none)
    (key : σ → Nat) : Kept series.rows series lastInsertIds key (fun _ => []) := by
  refine ⟨[], ⟨(List.append_nil _).symm, List.nodup_nil, nofun⟩, fun sensor => ⟨rfl, ?_, ?_⟩⟩
  · rw [cache]
    rfl
  · rw [noIds]
    rfl

/-- A reading of a sensor of the kind. -/
theorem Kept.add (kept : Kept old series lastInsertIds key (fun sensor => acceptedAttempts (of sensor) es))
    (injective : ∀ {a b : σ}, key a = key b → a = b) (idOk : IdOk sample.queries series.rows)
    {sensor : σ} {value : α} (own : of sensor sample.reading = some value)
    (others : ∀ other, other ≠ sensor → of other sample.reading = none) :
    let after := series.add lastInsertIds sample.queries (key sensor) value sample.now
    Kept old after.1 after.2 key
        (fun sensor => acceptedAttempts (of sensor) (es ++ [(sample, true)])) ∧
      ∀ other, other ≠ key sensor → after.2 other = lastInsertIds other := by
  obtain ⟨new, grown, recorded⟩ := kept
  obtain ⟨new', grown', recorded', unchanged⟩ :=
    add_recorded (recorded sensor) grown idOk value sample.now
  refine ⟨⟨new', grown', fun other => ?_⟩, unchanged.ids⟩
  dsimp only
  by_cases same : other = sensor
  · subst same
    rw [acceptedAttempts_own es own, RunLength.attempts_snoc]
    exact recorded'
  · rw [acceptedAttempts_other es (.inr (others other same))]
    exact (recorded other).others unchanged (fun collides => same (injective collides))

/-- A reading of another kind, or one that was refused. -/
theorem Kept.frame (kept : Kept old series lastInsertIds key (fun sensor => acceptedAttempts (of sensor) es))
    {accepted : Bool} (ids : ∀ sensor, lastInsertIds' (key sensor) = lastInsertIds (key sensor))
    (other : ∀ sensor, accepted = false ∨ of sensor sample.reading = none) :
    Kept old series lastInsertIds' key
      (fun sensor => acceptedAttempts (of sensor) (es ++ [(sample, accepted)])) := by
  obtain ⟨new, grown, recorded⟩ := kept
  refine ⟨new, grown, fun sensor => ⟨?_, (recorded sensor).cache, ?_⟩⟩
  · dsimp only
    rw [acceptedAttempts_other es (other sensor)]
    exact (recorded sensor).told
  · rw [ids]
    exact (recorded sensor).id

/-- No row that has come since the table held `old` ends later than an accepted reading of the
    sensor after its starttime that has another value. -/
def NeverFalsified {α : Type} (old rows : List (Row α)) (sensor : Nat)
    (readings : List (TimeT × α)) : Prop :=
  ∃ new, rows = old ++ new ∧ ∀ row ∈ rowsOf sensor new, ∀ reading ∈ readings,
    row.starttime < reading.1 → reading.2 ≠ row.value → row.endtime ≤ reading.1

/-- The cached value of a sensor is that of the one row whose id is its last insert id. -/
def CacheAgrees {α : Type} (series : Series α) (lastInsertIds : Nat → Option Nat) (sensor : Nat) :
    Prop :=
  match lastInsertIds sensor with
  | none => series.cache sensor = none
  | some id => ∃ row ∈ series.rows, row.id = id ∧ row.sensor = sensor ∧
      series.cache sensor = some row.value ∧ ∀ other ∈ series.rows, other.id = id → other = row

theorem Kept.cacheAgrees (kept : Kept old series lastInsertIds key tried) (sensor : σ) :
    CacheAgrees series lastInsertIds (key sensor) := by
  obtain ⟨new, grown, recorded⟩ := kept
  obtain ⟨-, cache, id⟩ := recorded sensor
  unfold CacheAgrees
  rw [cache, id]
  cases is_last : (rowsOf (key sensor) new).getLast? with
  | none => rfl
  | some last =>
      obtain ⟨member, own⟩ := mem_rowsOf.mp (List.mem_of_getLast? is_last)
      refine ⟨last, by rw [grown.rows]; exact List.mem_append_right _ member, rfl, own, rfl, ?_⟩
      intro other listed same
      rw [grown.rows] at listed
      rcases List.mem_append.mp listed with before | recent
      · exact absurd same ((grown.apart last member).2 other before)
      · exact row_of_id grown.unique recent member same

theorem Kept.neverFalsified_iff (kept : Kept old series lastInsertIds key tried) (sensor : σ)
    (sorted : (tried sensor).Pairwise (·.time ≤ ·.time)) :
    NeverFalsified old series.rows (key sensor) ((tried sensor).map (fun a => (a.time, a.value))) ↔
      Harmless (tried sensor) := by
  obtain ⟨new, grown, recorded⟩ := kept
  rw [← RunLength.truthful_iff_harmless sorted, ← (recorded sensor).told]
  constructor
  · rintro ⟨new', rows, falsified⟩ stretch member a listed later other
    obtain rfl : new' = new := List.append_cancel_left (rows.symm.trans grown.rows)
    obtain ⟨row, row_member, rfl⟩ := List.mem_map.mp member
    exact falsified row row_member (a.time, a.value) (List.mem_map_of_mem listed) later other
  · intro truthful
    refine ⟨new, grown.rows, ?_⟩
    intro row member reading listed later other
    obtain ⟨a, tried_a, rfl⟩ := List.mem_map.mp listed
    exact truthful row.stretch (List.mem_map_of_mem member) a tried_a later other

end Kept

/-- An inserted row gets an id of its own. -/
def IdsOk (db : Database) (sample : Sample) : Prop :=
  ∀ id ∈ sample.queries.insertId, id ≠ 0 ∧ id ∉ db.ids sample.reading

instance (db : Database) (sample : Sample) : Decidable (db.IdsOk sample) :=
  inferInstanceAs (Decidable (∀ id ∈ sample.queries.insertId, _))

/-- The invariant of the runs. -/
structure FailureInv (start : Database) (es : List (Sample × Bool)) (db : Database) : Prop where
  connected : db.connected = true
  numeric : Kept start.numeric.rows db.numeric db.lastInsertIds NumericSensors.key
    (fun sensor => acceptedAttempts (Reading.numericOf sensor) es)
  boolean : Kept start.boolean.rows db.boolean db.lastInsertIds BooleanSensors.key
    (fun sensor => acceptedAttempts (Reading.booleanOf sensor) es)
  state : Kept start.state.rows db.state db.lastInsertIds StateSensors.key
    (fun sensor => acceptedAttempts (Reading.stateOf sensor) es)

section Run

variable {rateLimit : UInt32} {start db : Database} {es : List (Sample × Bool)}

theorem start_failureInv (fresh : start.Fresh) : FailureInv start [] start where
  connected := fresh.connected
  numeric := kept_fresh fresh.numeric fresh.lastInsertIds _
  boolean := kept_fresh fresh.boolean fresh.lastInsertIds _
  state := kept_fresh fresh.state fresh.lastInsertIds _

theorem failure_refused (inv : FailureInv start es db) (sample : Sample) :
    FailureInv start (es ++ [(sample, false)]) db where
  connected := inv.connected
  numeric := inv.numeric.frame (fun _ => rfl) (fun _ => .inl rfl)
  boolean := inv.boolean.frame (fun _ => rfl) (fun _ => .inl rfl)
  state := inv.state.frame (fun _ => rfl) (fun _ => .inl rfl)

theorem numeric_failure (inv : FailureInv start es db) {sample : Sample} {sensor : NumericSensors}
    {value : Rat} (reading : sample.reading = .numeric sensor value) (idsOk : db.IdsOk sample) :
    FailureInv start (es ++ [(sample, db.accepts rateLimit sample)])
      (db.addSensorValue rateLimit sample) := by
  rcases checkAndUpdateRateLimit_cases db rateLimit sensor.key sample.now with
    ⟨-, -, -, -, refused⟩ | ⟨lastWrites, accepted, -⟩
  · obtain ⟨accepts, unchanged⟩ := numeric_refused inv.connected reading refused
    rw [accepts, unchanged]
    exact failure_refused inv sample
  · obtain ⟨accepts, added⟩ := numeric_accepted inv.connected reading accepted
    rw [accepts, added]
    have idOk : IdOk sample.queries db.numeric.rows := by
      intro id inserted
      have apart := idsOk id inserted
      rwa [reading] at apart
    obtain ⟨own, others, boolean, state⟩ := Reading.of_numeric reading
    obtain ⟨kept, ids⟩ := inv.numeric.add NumericSensors.key_injective idOk own others
    refine ⟨inv.connected, kept, ?_, ?_⟩
    · exact inv.boolean.frame (fun other => ids _ (sensor.key_ne_boolean other).symm)
        (fun other => .inr (boolean other))
    · exact inv.state.frame (fun other => ids _ (sensor.key_ne_state other).symm)
        (fun other => .inr (state other))

theorem boolean_failure (inv : FailureInv start es db) {sample : Sample} {sensor : BooleanSensors}
    {value : Bool} (reading : sample.reading = .boolean sensor value) (idsOk : db.IdsOk sample) :
    FailureInv start (es ++ [(sample, db.accepts rateLimit sample)])
      (db.addSensorValue rateLimit sample) := by
  obtain ⟨accepts, added⟩ := boolean_accepted inv.connected reading
  rw [accepts, added]
  have idOk : IdOk sample.queries db.boolean.rows := by
    intro id inserted
    have apart := idsOk id inserted
    rwa [reading] at apart
  obtain ⟨own, others, numeric, state⟩ := Reading.of_boolean reading
  obtain ⟨kept, ids⟩ := inv.boolean.add BooleanSensors.key_injective idOk own others
  refine ⟨inv.connected, ?_, kept, ?_⟩
  · exact inv.numeric.frame (fun other => ids _ (other.key_ne_boolean sensor))
      (fun other => .inr (numeric other))
  · exact inv.state.frame (fun other => ids _ (sensor.key_ne_state other).symm)
      (fun other => .inr (state other))

theorem state_failure (inv : FailureInv start es db) {sample : Sample} {sensor : StateSensors}
    {value : String} (reading : sample.reading = .state sensor value) (idsOk : db.IdsOk sample) :
    FailureInv start (es ++ [(sample, db.accepts rateLimit sample)])
      (db.addSensorValue rateLimit sample) := by
  obtain ⟨accepts, added⟩ := state_accepted inv.connected reading
  rw [accepts, added]
  have idOk : IdOk sample.queries db.state.rows := by
    intro id inserted
    have apart := idsOk id inserted
    rwa [reading] at apart
  obtain ⟨own, others, numeric, boolean⟩ := Reading.of_state reading
  obtain ⟨kept, ids⟩ := inv.state.add StateSensors.key_injective idOk own others
  refine ⟨inv.connected, ?_, ?_, kept⟩
  · exact inv.numeric.frame (fun other => ids _ (other.key_ne_state sensor))
      (fun other => .inr (numeric other))
  · exact inv.boolean.frame (fun other => ids _ (other.key_ne_state sensor))
      (fun other => .inr (boolean other))

/-- Every run keeps the rows, the caches and the ids together, whatever becomes of the queries. -/
theorem run_failureInv (fresh : start.Fresh)
    (run : (system rateLimit).Run (fun db e => db.IdsOk e.1) start es db) :
    FailureInv start es db := by
  induction run with
  | nil => exact start_failureInv fresh
  | @snoc es t u e _ idsOk next inv =>
      obtain ⟨sample, rfl, rfl⟩ := step_cases next
      cases reading : sample.reading with
      | numeric sensor value => exact numeric_failure inv reading idsOk
      | boolean sensor value => exact boolean_failure inv reading idsOk
      | state sensor value => exact state_failure inv reading idsOk

end Run

/-- Failed queries have not falsified the history of any sensor. -/
structure Unfalsified (start : Database) (es : List (Sample × Bool)) (db : Database) : Prop where
  numeric : ∀ sensor : NumericSensors,
    NeverFalsified start.numeric.rows db.numeric.rows sensor.key
        (acceptedReadings (Reading.numericOf sensor) es) ∧
      CacheAgrees db.numeric db.lastInsertIds sensor.key
  boolean : ∀ sensor : BooleanSensors,
    NeverFalsified start.boolean.rows db.boolean.rows sensor.key
        (acceptedReadings (Reading.booleanOf sensor) es) ∧
      CacheAgrees db.boolean db.lastInsertIds sensor.key
  state : ∀ sensor : StateSensors,
    NeverFalsified start.state.rows db.state.rows sensor.key
        (acceptedReadings (Reading.stateOf sensor) es) ∧
      CacheAgrees db.state db.lastInsertIds sensor.key

/-- Once an accepted reading with another value than the last row of its sensor could not be
    inserted, the update for every later one fails until an insertion succeeds. -/
structure FailuresHarmless (es : List (Sample × Bool)) : Prop where
  numeric : ∀ sensor, Harmless (acceptedAttempts (Reading.numericOf sensor) es)
  boolean : ∀ sensor, Harmless (acceptedAttempts (Reading.booleanOf sensor) es)
  state : ∀ sensor, Harmless (acceptedAttempts (Reading.stateOf sensor) es)

/-- For every sequence of readings with a clock that does not go back and every pattern of
    failures, the history is unfalsified exactly if the failures are harmless. -/
theorem unfalsified_iff {rateLimit : UInt32} {start db : Database} {es : List (Sample × Bool)}
    (fresh : start.Fresh) (run : (system rateLimit).Run (fun db e => db.IdsOk e.1) start es db)
    (clock : (es.map (·.1.now)).Pairwise (· ≤ ·)) :
    Unfalsified start es db ↔ FailuresHarmless es := by
  have inv := run_failureInv fresh run
  have numeric (sensor : NumericSensors) :=
    inv.numeric.neverFalsified_iff sensor (acceptedAttempts_sorted _ clock)
  have boolean (sensor : BooleanSensors) :=
    inv.boolean.neverFalsified_iff sensor (acceptedAttempts_sorted _ clock)
  have state (sensor : StateSensors) :=
    inv.state.neverFalsified_iff sensor (acceptedAttempts_sorted _ clock)
  simp only [← acceptedReadings_attempts] at numeric boolean state
  constructor
  · rintro ⟨first, second, third⟩
    exact ⟨fun sensor => (numeric sensor).mp (first sensor).1,
      fun sensor => (boolean sensor).mp (second sensor).1,
      fun sensor => (state sensor).mp (third sensor).1⟩
  · rintro ⟨first, second, third⟩
    exact ⟨fun sensor => ⟨(numeric sensor).mpr (first sensor), inv.numeric.cacheAgrees sensor⟩,
      fun sensor => ⟨(boolean sensor).mpr (second sensor), inv.boolean.cacheAgrees sensor⟩,
      fun sensor => ⟨(state sensor).mpr (third sensor), inv.state.cacheAgrees sensor⟩⟩

/-- The update fails as well, and the history stays unfalsified. -/
def lostReading : List (Sample × Bool) :=
  [({ now := 100, reading := .state .sensorFehlerCode "200", queries := ⟨true, some 1⟩ }, true),
    ({ now := 200, reading := .state .sensorFehlerCode "201", queries := ⟨true, none⟩ }, true),
    ({ now := 300, reading := .state .sensorFehlerCode "201", queries := ⟨false, some 2⟩ }, true)]

theorem unfalsified_iff_lostReading :
    ∃ db, (system 60).Run (fun db e => db.IdsOk e.1) emptyDatabase lostReading db ∧
      db.state.rows = [⟨1, 201, "200", 100, 200⟩, ⟨2, 201, "201", 300, 300⟩] ∧
      Unfalsified emptyDatabase lostReading db := by
  let last := (lostReading.foldlM
    (fun (db : Database) e => if db.IdsOk e.1 then step 60 db e else none)
    emptyDatabase).get (by decide +kernel)
  have run : (system 60).Run (fun db e => db.IdsOk e.1) emptyDatabase lostReading last :=
    .ofFold (Option.some_get (by decide +kernel)).symm
  refine ⟨last, run, by decide +kernel, ?_⟩
  refine (unfalsified_iff ⟨rfl, rfl, rfl, rfl, rfl, rfl⟩ run (by decide)).mpr ⟨?_, ?_, ?_⟩
  · exact fun sensor => (RunLength.truthful_iff_harmless List.Pairwise.nil).mp nofun
  · exact fun sensor => (RunLength.truthful_iff_harmless List.Pairwise.nil).mp nofun
  · intro sensor
    refine (RunLength.truthful_iff_harmless (acceptedAttempts_sorted _ (by decide))).mp ?_
    unfold Truthful
    cases sensor <;> decide

/-- The insertion of the second value fails, and its repetition prolongs the row of the first. -/
def lostInsertion : List (Sample × Bool) :=
  [({ now := 100, reading := .state .sensorFehlerCode "200", queries := ⟨true, some 1⟩ }, true),
    ({ now := 200, reading := .state .sensorFehlerCode "201", queries := ⟨true, none⟩ }, true),
    ({ now := 300, reading := .state .sensorFehlerCode "201", queries := ⟨true, some 2⟩ }, true)]

theorem lostInsertion_falsifies :
    ∃ db, (system 60).Run (fun db e => db.IdsOk e.1) emptyDatabase lostInsertion db ∧
      (lostInsertion.map (·.1.now)).Pairwise (· ≤ ·) ∧
      db.state.rows = [⟨1, 201, "200", 100, 300⟩, ⟨2, 201, "201", 300, 300⟩] ∧
      ¬ Unfalsified emptyDatabase lostInsertion db := by
  let last := (lostInsertion.foldlM
    (fun (db : Database) e => if db.IdsOk e.1 then step 60 db e else none)
    emptyDatabase).get (by decide +kernel)
  have rows : last.state.rows = [⟨1, 201, "200", 100, 300⟩, ⟨2, 201, "201", 300, 300⟩] := by
    decide +kernel
  refine ⟨last, .ofFold (Option.some_get (by decide +kernel)).symm, by decide, rows, ?_⟩
  intro unfalsified
  obtain ⟨new, split, falsified⟩ := (unfalsified.state .sensorFehlerCode).1
  rw [rows] at split
  obtain rfl : _ = new := split
  have late := falsified ⟨1, 201, "200", 100, 300⟩ (by decide) (200, "201") (by decide) (by decide)
    (by decide)
  exact absurd late (by decide)

end EmsCollector.Database
