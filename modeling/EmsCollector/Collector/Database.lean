import EmsCollector.Collector.EmsValue
import EmsCollector.Misc.Run
import Mathlib

/-!
# The database

`Database` (`collector/Database.h`, `collector/Database.cpp`): readings of sensors are written to
three tables, for numeric, boolean and state sensors. A row is prolonged as long as the value of
its sensor stays the same. The tables stand beside the members of the class; what a query comes
to is given from outside.
-/

namespace EmsCollector

/-- `time_t`, in seconds. -/
abbrev TimeT : Type := Int

/-- `Database::NumericSensors` (`collector/Database.h:39-68`). -/
inductive NumericSensors where
  | sensorKesselSollTemp | sensorKesselIstTemp | sensorWarmwasserSollTemp
  | sensorWarmwasserIstTemp | sensorVorlaufHK1SollTemp | sensorVorlaufHK1IstTemp
  | sensorVorlaufHK2SollTemp | sensorVorlaufHK2IstTemp | sensorMischersteuerung
  | sensorRuecklaufTemp | sensorAussenTemp | sensorGedaempfteAussenTemp | sensorRaumSollTemp
  | sensorRaumIstTemp | sensorMomLeistung | sensorMaxLeistung | sensorFlammenstrom
  | sensorSystemdruck | sensorBetriebszeit | sensorHeizZeit | sensorBrennerstarts
  | sensorWarmwasserbereitungsZeit | sensorWarmwasserBereitungen | sensorPumpenModulation
  | sensorWaermetauscherTemp | sensorWarmwasserDurchfluss | sensorSolarSpeicherTemp
  | sensorSolarKollektorTemp
  deriving DecidableEq, Repr

/-- `Database::BooleanSensors` (`collector/Database.h:70-97`). -/
inductive BooleanSensors where
  | sensorFlamme | sensorBrenner | sensorZuendung | sensorKesselPumpe | sensor3WegeVentil
  | sensorHK1Automatik | sensorHK1Tagbetrieb | sensorHK1Pumpe | sensorHK1Ferien | sensorHK1Party
  | sensorHK2Automatik | sensorHK2Tagbetrieb | sensorHK2Pumpe | sensorHK2Ferien | sensorHK2Party
  | sensorWarmwasserBereitung | sensorWarmwasserTempOK | sensorZirkulation
  | sensorZirkulationTagbetrieb | sensorWWVorrang | sensorWWTagbetrieb | sensorSommerbetrieb
  | sensorSolarPumpe
  deriving DecidableEq, Repr

/-- `Database::StateSensors` (`collector/Database.h:99-107`). -/
inductive StateSensors where
  | sensorServiceCode | sensorFehlerCode | sensorStoerungsCode | sensorStoerungsNummer
  deriving DecidableEq, Repr

/-- The values of the enumerators: the keys of the maps and the sensors in the rows. -/
def NumericSensors.key : NumericSensors → Nat
  | sensorKesselSollTemp => 1
  | sensorKesselIstTemp => 2
  | sensorWarmwasserSollTemp => 3
  | sensorWarmwasserIstTemp => 4
  | sensorVorlaufHK1SollTemp => 5
  | sensorVorlaufHK1IstTemp => 6
  | sensorVorlaufHK2SollTemp => 7
  | sensorVorlaufHK2IstTemp => 8
  | sensorMischersteuerung => 9
  | sensorRuecklaufTemp => 10
  | sensorAussenTemp => 11
  | sensorGedaempfteAussenTemp => 12
  | sensorRaumSollTemp => 13
  | sensorRaumIstTemp => 14
  | sensorMomLeistung => 15
  | sensorMaxLeistung => 16
  | sensorFlammenstrom => 17
  | sensorSystemdruck => 18
  | sensorBetriebszeit => 19
  | sensorHeizZeit => 23
  | sensorBrennerstarts => 20
  | sensorWarmwasserbereitungsZeit => 21
  | sensorWarmwasserBereitungen => 22
  | sensorPumpenModulation => 24
  | sensorWaermetauscherTemp => 25
  | sensorWarmwasserDurchfluss => 26
  | sensorSolarSpeicherTemp => 27
  | sensorSolarKollektorTemp => 28

def BooleanSensors.key : BooleanSensors → Nat
  | sensorFlamme => 100
  | sensorBrenner => 101
  | sensorZuendung => 102
  | sensorKesselPumpe => 103
  | sensor3WegeVentil => 106
  | sensorHK1Automatik => 122
  | sensorHK1Tagbetrieb => 104
  | sensorHK1Pumpe => 116
  | sensorHK1Ferien => 118
  | sensorHK1Party => 119
  | sensorHK2Automatik => 123
  | sensorHK2Tagbetrieb => 105
  | sensorHK2Pumpe => 117
  | sensorHK2Ferien => 120
  | sensorHK2Party => 121
  | sensorWarmwasserBereitung => 110
  | sensorWarmwasserTempOK => 114
  | sensorZirkulation => 107
  | sensorZirkulationTagbetrieb => 124
  | sensorWWVorrang => 115
  | sensorWWTagbetrieb => 112
  | sensorSommerbetrieb => 113
  | sensorSolarPumpe => 125

def StateSensors.key : StateSensors → Nat
  | sensorServiceCode => 200
  | sensorFehlerCode => 201
  | sensorStoerungsCode => 202
  | sensorStoerungsNummer => 203

/-- A row of a table (`collector/Database.cpp:31-45`), with its `id`. -/
structure Row (α : Type) where
  id : Nat
  sensor : Nat
  value : α
  starttime : TimeT
  endtime : TimeT
  deriving DecidableEq, Repr

/-- `update ... set endtime = now where id = ...`. -/
def Row.setEndtime {α : Type} (id : Nat) (now : TimeT) (row : Row α) : Row α :=
  if row.id = id then { row with endtime := now } else row

/-- What becomes of the queries for a reading: whether the update succeeds, and the id of the row
    if the insertion does. -/
structure Queries where
  update : Bool
  insertId : Option Nat
  deriving DecidableEq, Repr

/-- A kind of sensor: its value cache, and its table in the order of insertion. -/
structure Series (α : Type) where
  cache : Nat → Option α
  rows : List (Row α)

/-- `map[key] = value`. -/
def setKey {α : Type} (map : Nat → Option α) (key : Nat) (value : α) : Nat → Option α :=
  fun k => if k = key then some value else map k

/-- What the three `addSensorValue` do with an accepted reading (`collector/Database.cpp:455-475`,
    `486-506` and `517-537`): the row of the last insertion is prolonged, and a row is inserted
    if the value has changed. -/
def Series.add {α : Type} [DecidableEq α] (series : Series α) (lastInsertIds : Nat → Option Nat)
    (queries : Queries) (sensor : Nat) (value : α) (timestamp : TimeT) :
    Series α × (Nat → Option Nat) :=
  let valueChanged := series.cache sensor ≠ some value
  let validId := (lastInsertIds sensor).filter (· ≠ 0)
  let series : Series α :=
    match validId with
    | some id =>
        if queries.update then
          { series with rows := series.rows.map (Row.setEndtime id timestamp) }
        else series
    | none => series
  if valueChanged ∨ validId = none then
    match queries.insertId with
    | some id =>
        let row : Row α := { id, sensor, value, starttime := timestamp, endtime := timestamp }
        ({ cache := setKey series.cache sensor value, rows := series.rows ++ [row] },
          setKey lastInsertIds sensor id)
    | none => (series, lastInsertIds)
  else (series, lastInsertIds)

/-- The members of `Database` (`collector/Database.h:137-142`) and the tables; `connected` says
    whether `m_connection` is set. -/
structure Database where
  connected : Bool
  lastWrites : Nat → Option TimeT
  lastInsertIds : Nat → Option Nat
  numeric : Series Rat
  boolean : Series Bool
  state : Series String

namespace Database

/-- `checkAndUpdateRateLimit` (`collector/Database.cpp:286-307`). The limit is an `unsigned int`
    that is assigned to an `int`. -/
def checkAndUpdateRateLimit (db : Database) (rateLimit : UInt32) (sensor : Nat) (now : TimeT) :
    Bool × Database :=
  let limit := rateLimit.toInt32.toInt
  let update := { db with lastWrites := setKey db.lastWrites sensor now }
  if limit = 0 then (true, db)
  else
    match db.lastWrites sensor with
    | some last => if now - last < limit then (false, db) else (true, update)
    | none => (true, update)

/-- `addSensorValue` of a numeric sensor (`collector/Database.cpp:447-476`). -/
def addNumericValue (db : Database) (rateLimit : UInt32) (queries : Queries)
    (sensor : NumericSensors) (value : Rat) (now : TimeT) : Database :=
  if db.connected then
    match db.checkAndUpdateRateLimit rateLimit sensor.key now with
    | (false, db) => db
    | (true, db) =>
        let (numeric, lastInsertIds) := db.numeric.add db.lastInsertIds queries sensor.key value now
        { db with numeric, lastInsertIds }
  else db

/-- `addSensorValue` of a boolean sensor (`collector/Database.cpp:478-507`). -/
def addBooleanValue (db : Database) (queries : Queries) (sensor : BooleanSensors) (value : Bool)
    (now : TimeT) : Database :=
  if db.connected then
    let (boolean, lastInsertIds) := db.boolean.add db.lastInsertIds queries sensor.key value now
    { db with boolean, lastInsertIds }
  else db

/-- `addSensorValue` of a state sensor (`collector/Database.cpp:509-538`). -/
def addStateValue (db : Database) (queries : Queries) (sensor : StateSensors) (value : String)
    (now : TimeT) : Database :=
  if db.connected then
    let (state, lastInsertIds) := db.state.add db.lastInsertIds queries sensor.key value now
    { db with state, lastInsertIds }
  else db

/-- A reading of a sensor. -/
inductive Reading where
  | numeric (sensor : NumericSensors) (value : Rat)
  | boolean (sensor : BooleanSensors) (value : Bool)
  | state (sensor : StateSensors) (value : String)
  deriving DecidableEq, Repr

/-- A reading at a time, with the fate of its queries. -/
structure Sample where
  now : TimeT
  reading : Reading
  queries : Queries
  deriving DecidableEq, Repr

/-- `addSensorValue`. -/
def addSensorValue (db : Database) (rateLimit : UInt32) (sample : Sample) : Database :=
  match sample.reading with
  | .numeric sensor value => db.addNumericValue rateLimit sample.queries sensor value sample.now
  | .boolean sensor value => db.addBooleanValue sample.queries sensor value sample.now
  | .state sensor value => db.addStateValue sample.queries sensor value sample.now

/-! The tables of `handleValue` (`collector/Database.cpp:327-405`). -/

/-- `NUMERICMAPPING`. -/
def numericMapping : List (EmsValue.ValueType × EmsValue.SubType × NumericSensors) :=
  [(.sollTemp, .kessel, .sensorKesselSollTemp), (.istTemp, .kessel, .sensorKesselIstTemp),
    (.sollTemp, .ww, .sensorWarmwasserSollTemp), (.istTemp, .ww, .sensorWarmwasserIstTemp),
    (.sollTemp, .hk1, .sensorVorlaufHK1SollTemp), (.istTemp, .hk1, .sensorVorlaufHK1IstTemp),
    (.sollTemp, .hk2, .sensorVorlaufHK2SollTemp), (.istTemp, .hk2, .sensorVorlaufHK2IstTemp),
    (.istTemp, .ruecklauf, .sensorRuecklaufTemp), (.istTemp, .aussen, .sensorAussenTemp),
    (.gedaempfteTemp, .aussen, .sensorGedaempfteAussenTemp),
    (.raumSollTemp, .hk1, .sensorRaumSollTemp), (.raumIstTemp, .hk1, .sensorRaumIstTemp),
    (.flammenstrom, .none, .sensorFlammenstrom), (.systemdruck, .none, .sensorSystemdruck),
    (.istTemp, .waermetauscher, .sensorWaermetauscherTemp),
    (.durchflussMenge, .ww, .sensorWarmwasserDurchfluss),
    (.istTemp, .solarSpeicher, .sensorSolarSpeicherTemp),
    (.istTemp, .solarKollektor, .sensorSolarKollektorTemp)]

/-- `INTEGERMAPPING`. -/
def integerMapping : List (EmsValue.ValueType × EmsValue.SubType × NumericSensors) :=
  [(.betriebsZeit, .kessel, .sensorBetriebszeit), (.heizZeit, .kessel, .sensorHeizZeit),
    (.brennerstarts, .kessel, .sensorBrennerstarts),
    (.warmwasserbereitungsZeit, .none, .sensorWarmwasserbereitungsZeit),
    (.warmwasserBereitungen, .none, .sensorWarmwasserBereitungen),
    (.mischersteuerung, .hk2, .sensorMischersteuerung),
    (.istModulation, .brenner, .sensorMomLeistung),
    (.sollModulation, .brenner, .sensorMaxLeistung),
    (.istModulation, .kesselPumpe, .sensorPumpenModulation)]

/-- `BOOLMAPPING`. -/
def boolMapping : List (EmsValue.ValueType × EmsValue.SubType × BooleanSensors) :=
  [(.flammeAktiv, .none, .sensorFlamme), (.brennerAktiv, .none, .sensorBrenner),
    (.zuendungAktiv, .none, .sensorZuendung), (.pumpeAktiv, .kessel, .sensorKesselPumpe),
    (.dreiWegeVentilAufWW, .none, .sensor3WegeVentil), (.tagbetrieb, .hk1, .sensorHK1Tagbetrieb),
    (.pumpeAktiv, .hk1, .sensorHK1Pumpe), (.ferien, .hk1, .sensorHK1Ferien),
    (.party, .hk1, .sensorHK1Party), (.tagbetrieb, .hk2, .sensorHK2Tagbetrieb),
    (.pumpeAktiv, .hk2, .sensorHK2Pumpe), (.ferien, .hk2, .sensorHK2Ferien),
    (.party, .hk2, .sensorHK2Party), (.warmwasserBereitung, .none, .sensorWarmwasserBereitung),
    (.warmwasserTempOK, .none, .sensorWarmwasserTempOK),
    (.zirkulationAktiv, .none, .sensorZirkulation),
    (.tagbetrieb, .zirkulation, .sensorZirkulationTagbetrieb),
    (.wwVorrang, .none, .sensorWWVorrang), (.tagbetrieb, .ww, .sensorWWTagbetrieb),
    (.sommerbetrieb, .none, .sensorSommerbetrieb), (.pumpeAktiv, .solar, .sensorSolarPumpe)]

/-- `STATEMAPPING`. -/
def stateMapping : List (EmsValue.ValueType × StateSensors) :=
  [(.fehlerCode, .sensorFehlerCode), (.serviceCode, .sensorServiceCode),
    (.stoerungsCode, .sensorStoerungsCode), (.stoerungsNummer, .sensorStoerungsNummer)]

/-- What `handleValue` passes to `addSensorValue`, if anything (`collector/Database.cpp:407-444`).
    The subtype `None` of a boolean sensor stands for all subtypes. An `unsigned int` becomes a
    `float`, which is exact for up to 24 bits, and no field has more than three bytes. -/
def readingOf (value : EmsValue) : Except EmsValue.BadGet (Option Reading) :=
  if !value.isValid then .ok none
  else
    match numericMapping.find? (fun row => value.type = row.1 ∧ value.subType = row.2.1) with
    | some row => value.getFloat.map (fun number => some (.numeric row.2.2 number))
    | none =>
    match integerMapping.find? (fun row => value.type = row.1 ∧ value.subType = row.2.1) with
    | some row => value.getUnsigned.map (fun number => some (.numeric row.2.2 number.toNat))
    | none =>
    match boolMapping.find? (fun row =>
      value.type = row.1 ∧ (row.2.1 = .none ∨ value.subType = row.2.1)) with
    | some row => value.getBool.map (fun flag => some (.boolean row.2.2 flag))
    | none =>
    match stateMapping.find? (fun row => value.type = row.1) with
    | some row => value.getString.map (fun text => some (.state row.2 text))
    | none =>
      if value.type = .betriebsart ∧ (value.subType = .hk1 ∨ value.subType = .hk2) then
        let sensor : BooleanSensors :=
          if value.subType = .hk2 then .sensorHK2Automatik else .sensorHK1Automatik
        value.getByte.map (fun mode => some (.boolean sensor (mode = 2)))
      else
        .ok none

/-- `handleValue` (`collector/Database.cpp:324-445`). -/
def handleValue (db : Database) (rateLimit : UInt32) (now : TimeT) (queries : Queries)
    (value : EmsValue) : Except EmsValue.BadGet Database := do
  match ← readingOf value with
  | some reading => .ok (db.addSensorValue rateLimit { now, reading, queries })
  | none => .ok db

/-- Whether a reading gets past the checks at the beginning of `addSensorValue`. -/
def accepts (db : Database) (rateLimit : UInt32) (sample : Sample) : Bool :=
  db.connected &&
    match sample.reading with
    | .numeric sensor _ => (db.checkAndUpdateRateLimit rateLimit sensor.key sample.now).1
    | .boolean _ _ | .state _ _ => true

/-- A reading, with whether it was accepted. -/
def step (rateLimit : UInt32) (db : Database) (e : Sample × Bool) : Option Database :=
  if e.2 = db.accepts rateLimit e.1 then some (db.addSensorValue rateLimit e.1) else none

/-- The database as a transition system. -/
def system (rateLimit : UInt32) : LTS Database (Sample × Bool) := .ofOption (step rateLimit)

theorem step_cases {rateLimit : UInt32} {db db' : Database} {e : Sample × Bool}
    (next : step rateLimit db e = some db') :
    ∃ sample, e = (sample, db.accepts rateLimit sample) ∧ db' = db.addSensorValue rateLimit sample := by
  obtain ⟨sample, accepted⟩ := e
  unfold step at next
  split at next
  case isFalse => cases next
  rename_i accepts
  cases next
  exact ⟨sample, Prod.ext rfl accepts, rfl⟩

end Database

end EmsCollector
