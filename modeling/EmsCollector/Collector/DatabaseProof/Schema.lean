import EmsCollector.Collector.Database.Schema

/-!
# The tables are created once

The first start of the program that executes a statement decides what tables there are. If one of
its statements fails, the start fails, but later ones take the tables for complete.
-/

namespace EmsCollector.Database

namespace Schema

/-- What the first `n` statements make. -/
def afterStatements (n : Nat) : Schema := (statements.take n).foldl execute empty

/-- All tables, and all sensors in the list. -/
def complete : Schema := { tables := [.sensors, .numericData, .booleanData, .stateData]
                           sensors := sensorRows }

theorem afterStatements_complete {n : Nat} (all : statements.length ≤ n) :
    afterStatements n = complete := by
  unfold afterStatements
  rw [List.take_of_length_le all]
  decide +kernel

theorem afterStatements_incomplete {n : Nat} (some' : n < statements.length) :
    afterStatements n ≠ complete := by
  have each : ∀ n < statements.length, afterStatements n ≠ complete := by decide +kernel
  exact each n some'

/-- The first statement makes a table. -/
theorem afterStatements_tables {n : Nat} (positive : 0 < n) : (afterStatements n).tables ≠ [] := by
  by_cases all : statements.length ≤ n
  · rw [afterStatements_complete all]
    decide
  · have each : ∀ n < statements.length, 0 < n → (afterStatements n).tables ≠ [] := by
      decide +kernel
    exact each n (Nat.not_le.mp all) positive

/-- The row that a statement inserts. -/
def Statement.row : Statement → Option SensorRow
  | .create _ => none
  | .insert row => some row

theorem sensors_foldl (schema : Schema) (done : List Statement) :
    (done.foldl execute schema).sensors = schema.sensors ++ done.filterMap Statement.row := by
  induction done generalizing schema with
  | nil => exact (List.append_nil _).symm
  | cons statement rest ih =>
      rw [List.foldl_cons, ih]
      cases statement with
      | create table =>
          have same : (schema.execute (.create table)).sensors = schema.sensors := by
            dsimp only [execute]
            split <;> rfl
          rw [same]
          rfl
      | insert row => exact List.append_assoc ..

/-- The rows are inserted in order. -/
theorem afterStatements_sensors (n : Nat) : (afterStatements n).sensors <+: sensorRows := by
  have rows : statements.filterMap Statement.row = sensorRows := by decide +kernel
  have inserted : (afterStatements n).sensors = (statements.take n).filterMap Statement.row :=
    sensors_foldl empty (statements.take n)
  rw [inserted, ← rows]
  exact (List.take_prefix n statements).filterMap Statement.row

/-- No two sensors have the same number. -/
theorem sensorRows_nodup : (sensorRows.map SensorRow.type).Nodup := by decide +kernel

end Schema

open Schema (afterStatements complete statements)

/-- The tables on the server. -/
def tablesOf (server : Option Schema) : List Table := (server.map Schema.tables).getD []

/-- A start that comes as far as the statements, and executes some. -/
structure Creates (server : Option Schema) (fate : Fate) : Prop where
  none : tablesOf server = []
  connects : fate.connects = true
  creates : server = Option.none → fate.creates = true
  selects : fate.selects = true
  lists : fate.lists = true
  executes : 0 < fate.executes

variable {fates : List Fate} {fate : Fate} {schema : Schema} {server : Option Schema}

theorem serverAfter_snoc (fates : List Fate) (fate : Fate) :
    serverAfter (fates ++ [fate]) = (connect fate (serverAfter fates)).2 := by
  unfold serverAfter
  rw [List.foldl_append]
  rfl

theorem createTables_there (there : schema.tables ≠ []) (fate : Fate) :
    createTables fate schema = (fate.lists, schema) := by
  unfold createTables
  cases fate.lists with
  | false => rfl
  | true => rw [if_neg (by decide), if_pos there]

theorem createTables_empty (fate : Fate) : createTables fate .empty =
    if fate.lists then (decide (statements.length ≤ fate.executes), afterStatements fate.executes)
    else (false, .empty) := by
  unfold createTables
  cases fate.lists <;> rfl

/-- A start that finds tables leaves them alone. -/
theorem connect_there (there : schema.tables ≠ []) (fate : Fate) :
    connect fate (some schema) = (fate.connects && fate.selects && fate.lists, some schema) := by
  have created := createTables_there there fate
  unfold connect
  cases fate.connects <;> cases fate.selects <;> simp [created]

/-- A start that finds no tables may make the database, and then comes to the tables. -/
theorem connect_none (fresh : server = none ∨ server = some .empty) (fate : Fate) :
    connect fate server =
      if fate.connects ∧ (server = none → fate.creates) then
        if fate.selects then ((createTables fate .empty).1, some (createTables fate .empty).2)
        else (false, some .empty)
      else (false, server) := by
  unfold connect
  rcases fresh with rfl | rfl
  · cases fate.connects <;> cases fate.creates <;> simp
  · cases fate.connects <;> simp

/-- It creates the tables if it comes as far as the statements. -/
theorem connect_creates (fresh : server = none ∨ server = some .empty) (creates : Creates server fate) :
    connect fate server =
      (decide (statements.length ≤ fate.executes), some (afterStatements fate.executes)) := by
  rw [connect_none fresh, if_pos ⟨creates.connects, creates.creates⟩, if_pos creates.selects,
    createTables_empty, if_pos creates.lists]

/-- Else there are still no tables, and the start fails. -/
theorem connect_stops (fresh : server = none ∨ server = some .empty) (stops : ¬ Creates server fate) :
    (connect fate server).1 = false ∧
      ((connect fate server).2 = none ∨ (connect fate server).2 = some .empty) := by
  have none' : tablesOf server = [] := by rcases fresh with rfl | rfl <;> rfl
  rw [connect_none fresh]
  by_cases reached : fate.connects ∧ (server = none → fate.creates)
  case neg =>
    rw [if_neg reached]
    exact ⟨rfl, fresh⟩
  rw [if_pos reached]
  by_cases selects : fate.selects
  case neg =>
    rw [if_neg selects]
    exact ⟨rfl, .inr rfl⟩
  rw [if_pos selects, createTables_empty]
  by_cases lists : fate.lists
  case neg =>
    rw [if_neg lists]
    exact ⟨rfl, .inr rfl⟩
  have nothing : fate.executes = 0 := by
    by_contra some'
    exact stops ⟨none', reached.1, reached.2, selects, lists, Nat.pos_of_ne_zero some'⟩
  rw [if_pos lists, nothing]
  exact ⟨by decide, .inr rfl⟩

/-- Once a start has created tables, they are the ones it has created. -/
theorem serverAfter_created {before rest : List Fate} {fate : Fate}
    (fresh : serverAfter before = none ∨ serverAfter before = some .empty)
    (creates : Creates (serverAfter before) fate) :
    serverAfter (before ++ fate :: rest) = some (afterStatements fate.executes) := by
  induction rest using List.reverseRecOn with
  | nil => rw [serverAfter_snoc, connect_creates fresh creates]
  | append_singleton rest last ih =>
      rw [← List.cons_append, ← List.append_assoc, serverAfter_snoc, ih,
        connect_there (Schema.afterStatements_tables creates.executes)]

/-- The server has no tables, or those of the start that created them. -/
theorem serverAfter_cases (fates : List Fate) :
    (serverAfter fates = none ∨ serverAfter fates = some .empty) ∨
      ∃ before fate rest, fates = before ++ fate :: rest ∧
        (serverAfter before = none ∨ serverAfter before = some .empty) ∧
        Creates (serverAfter before) fate := by
  induction fates using List.reverseRecOn with
  | nil => exact .inl (.inl rfl)
  | append_singleton fates last ih =>
      rcases ih with fresh | ⟨before, fate, rest, rfl, fresh, creates⟩
      · by_cases creates : Creates (serverAfter fates) last
        · exact .inr ⟨fates, last, [], rfl, fresh, creates⟩
        · rw [serverAfter_snoc]
          exact .inl (connect_stops fresh creates).2
      · exact .inr ⟨before, fate, rest ++ [last], by simp, fresh, creates⟩

/-- Without tables there is nothing but the database. -/
theorem fresh_of_tables (none' : tablesOf (serverAfter fates) = []) :
    serverAfter fates = none ∨ serverAfter fates = some .empty := by
  rcases serverAfter_cases fates with fresh | ⟨before, fate, rest, rfl, fresh, creates⟩
  · exact fresh
  · rw [serverAfter_created fresh creates] at none'
    exact absurd none' (Schema.afterStatements_tables creates.executes)

/-- A start that created some of the tables and failed. -/
def Interrupted (fates : List Fate) : Prop :=
  ∃ before fate rest, fates = before ++ fate :: rest ∧ Creates (serverAfter before) fate ∧
    fate.executes < statements.length

/-- The list of sensors on the server is the beginning of the one of the program. -/
theorem serverAfter_sensors (there : serverAfter fates = some schema) :
    schema.sensors <+: sensorRows := by
  rcases serverAfter_cases fates with fresh | ⟨before, fate, rest, rfl, fresh, creates⟩
  · rcases fresh with none' | empty
    · cases none'.symm.trans there
    · cases empty.symm.trans there
      exact List.nil_prefix
  · cases (serverAfter_created fresh creates).symm.trans there
    exact Schema.afterStatements_sensors fate.executes

/-- A start that succeeds has all tables and sensors exactly if no earlier one has created some of
    them and failed. -/
theorem connect_complete (fates : List Fate) (fate : Fate)
    (succeeds : (connect fate (serverAfter fates)).1 = true) :
    (connect fate (serverAfter fates)).2 = some complete ↔ ¬ Interrupted fates := by
  have broken (interrupted : Interrupted fates) :
      ∃ n < statements.length, 0 < n ∧ serverAfter fates = some (afterStatements n) := by
    obtain ⟨before, other, rest, rfl, creates, less⟩ := interrupted
    exact ⟨other.executes, less, creates.executes,
      serverAfter_created (fresh_of_tables creates.none) creates⟩
  rcases serverAfter_cases fates with fresh | ⟨before, other, rest, split, fresh, creates⟩
  · by_cases now : Creates (serverAfter fates) fate
    case neg =>
      rw [(connect_stops fresh now).1] at succeeds
      cases succeeds
    rw [connect_creates fresh now] at succeeds ⊢
    have all : afterStatements fate.executes = complete :=
      Schema.afterStatements_complete (of_decide_eq_true succeeds)
    refine iff_of_true (congrArg some all) fun interrupted => ?_
    obtain ⟨n, -, positive, tables⟩ := broken interrupted
    have none' := now.none
    rw [tables] at none'
    exact Schema.afterStatements_tables positive none'
  · have tables : serverAfter fates = some (afterStatements other.executes) :=
      split ▸ serverAfter_created fresh creates
    rw [tables, connect_there (Schema.afterStatements_tables creates.executes)]
    dsimp only
    rw [Option.some.injEq]
    constructor
    · intro all interrupted
      obtain ⟨n, less, -, tables'⟩ := broken interrupted
      have same := Option.some.inj (tables.symm.trans tables')
      exact Schema.afterStatements_incomplete less (same.symm.trans all)
    · intro whole
      refine Schema.afterStatements_complete (Nat.not_lt.mp fun less => whole ?_)
      exact ⟨before, other, rest, split, creates, less⟩

/-- Whatever becomes of the starts of the program: no sensor is written twice, and a start that
    succeeds has all tables and sensors exactly if no earlier one has created some of them and failed. -/
theorem tables_created_once (fates : List Fate) :
    (∀ schema ∈ serverAfter fates,
      schema.sensors <+: sensorRows ∧ (schema.sensors.map SensorRow.type).Nodup) ∧
    ∀ fate, (connect fate (serverAfter fates)).1 = true →
      ((connect fate (serverAfter fates)).2 = some complete ↔ ¬ Interrupted fates) := by
  refine ⟨fun schema there => ?_, connect_complete fates⟩
  have inserted : schema.sensors <+: sensorRows := serverAfter_sensors there
  exact ⟨inserted, Schema.sensorRows_nodup.sublist (inserted.sublist.map _)⟩

/-- Nothing goes wrong. -/
def goodFate : Fate :=
  { connects := true, creates := true, selects := true, lists := true, executes := 100 }

/-- The first start fails behind the list of sensors, and the second finds three tables missing. -/
theorem tables_created_once_missing :
    (connect goodFate (serverAfter [{ goodFate with executes := 56 }])).1 = true ∧
      (connect goodFate (serverAfter [{ goodFate with executes := 56 }])).2 ≠ some complete := by
  have succeeds : (connect goodFate (serverAfter [{ goodFate with executes := 56 }])).1 = true := by
    decide +kernel
  refine ⟨succeeds, fun all => ((tables_created_once _).2 _ succeeds).mp all ?_⟩
  exact ⟨[], _, [], rfl, ⟨rfl, rfl, fun _ => rfl, rfl, rfl, by decide⟩, by decide +kernel⟩

end EmsCollector.Database
