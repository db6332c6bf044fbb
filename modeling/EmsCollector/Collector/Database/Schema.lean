import EmsCollector.Collector.Database

/-!
# The tables on the server

`connect`, `createTables` and `createSensorRows` (`collector/Database.cpp:59-284`): the program
creates the database and its tables when it finds none. The tables have no transactions, so what
has been executed before a statement fails stays.
-/

namespace EmsCollector.Database

/-! The numbers in the list of sensors (`collector/Database.h:124-135`). -/

abbrev sensorTypeNumeric : Nat := 1
abbrev sensorTypeBoolean : Nat := 2
abbrev sensorTypeState : Nat := 3

abbrev readingTypeNone : Nat := 0
abbrev readingTypeTemperature : Nat := 1
abbrev readingTypePercent : Nat := 2
abbrev readingTypeCurrent : Nat := 3
abbrev readingTypePressure : Nat := 4
abbrev readingTypeTime : Nat := 5
abbrev readingTypeCount : Nat := 6
abbrev readingTypeFlowRate : Nat := 7

/-- A row of the list of sensors (`collector/Database.cpp:117-124`). -/
structure SensorRow where
  type : Nat
  valueType : Nat
  name : String
  readingType : Option Nat
  unit : Option String
  precision : Option Nat
  deriving DecidableEq, Repr

/-- The template of the insertions, with its defaults (`collector/Database.cpp:190-194`). -/
def numericRow (sensor : NumericSensors) (name : String) (readingType : Nat) (unit : String)
    (precision : Option Nat) : SensorRow :=
  { type := sensor.key, valueType := sensorTypeNumeric, name, readingType := some readingType
    unit := some unit, precision }

def booleanRow (sensor : BooleanSensors) (name : String) : SensorRow :=
  { type := sensor.key, valueType := sensorTypeBoolean, name, readingType := none, unit := none
    precision := none }

def stateRow (sensor : StateSensors) (name : String) : SensorRow :=
  { type := sensor.key, valueType := sensorTypeState, name, readingType := none, unit := none
    precision := none }

/-- What `createSensorRows` inserts (`collector/Database.cpp:197-283`). -/
def sensorRows : List SensorRow :=
  [numericRow .sensorKesselSollTemp "Kessel-Soll-Temperatur" readingTypeTemperature "°C" (some 0),
    numericRow .sensorKesselIstTemp "Kessel-Ist-Temperatur" readingTypeTemperature "°C" (some 1),
    numericRow .sensorWarmwasserSollTemp "Warmwasser-Soll-Temperatur" readingTypeTemperature "°C"
      (some 0),
    numericRow .sensorWarmwasserIstTemp "Warmwasser-Ist-Temperatur" readingTypeTemperature "°C"
      (some 1),
    numericRow .sensorVorlaufHK1SollTemp "Vorlauf HK1-Soll-Temperatur" readingTypeTemperature "°C"
      (some 0),
    numericRow .sensorVorlaufHK1IstTemp "Vorlauf HK1-Ist-Temperatur" readingTypeTemperature "°C"
      (some 1),
    numericRow .sensorVorlaufHK2SollTemp "Vorlauf HK2-Soll-Temperatur" readingTypeTemperature "°C"
      (some 0),
    numericRow .sensorVorlaufHK2IstTemp "Vorlauf HK2-Ist-Temperatur" readingTypeTemperature "°C"
      (some 1),
    numericRow .sensorMischersteuerung "Mischersteuerung" readingTypeNone "" (some 0),
    numericRow .sensorRuecklaufTemp "Rücklauftemperatur" readingTypeTemperature "°C" (some 1),
    numericRow .sensorAussenTemp "Außentemperatur" readingTypeTemperature "°C" (some 1),
    numericRow .sensorGedaempfteAussenTemp "Gedämpfte Außentemperatur" readingTypeTemperature "°C"
      (some 0),
    numericRow .sensorRaumSollTemp "Raum-Soll-Temperatur" readingTypeTemperature "°C" (some 1),
    numericRow .sensorRaumIstTemp "Raum-Ist-Temperatur" readingTypeTemperature "°C" (some 1),
    numericRow .sensorMomLeistung "Momentane Leistung" readingTypePercent "%" (some 0),
    numericRow .sensorMaxLeistung "Maximale Leistung" readingTypePercent "%" (some 0),
    numericRow .sensorFlammenstrom "Flammenstrom" readingTypeCurrent "µA" (some 1),
    numericRow .sensorSystemdruck "Systemdruck" readingTypePressure "bar" (some 1),
    numericRow .sensorBrennerstarts "Brennerstarts" readingTypeCount "" none,
    numericRow .sensorBetriebszeit "Betriebszeit" readingTypeTime "min" none,
    numericRow .sensorHeizZeit "Heizzeit" readingTypeTime "min" none,
    numericRow .sensorWarmwasserbereitungsZeit "Warmwasserbereitungszeit" readingTypeTime "min" none,
    numericRow .sensorWarmwasserBereitungen "Warmwasserbereitungen" readingTypeCount "" none,
    numericRow .sensorPumpenModulation "Kesselpumpenmodulation" readingTypePercent "%" (some 0),
    numericRow .sensorWaermetauscherTemp "Temperatur Ausgang Waermetauscher" readingTypeTemperature
      "°C" (some 1),
    numericRow .sensorWarmwasserDurchfluss "Warmwasserdurchfluss" readingTypeFlowRate "l/min"
      (some 1),
    numericRow .sensorSolarSpeicherTemp "Solarspeicher-Ist-Temperatur" readingTypeTemperature "°C"
      (some 1),
    numericRow .sensorSolarKollektorTemp "Solarkollektor-Ist-Temperatur" readingTypeTemperature "°C"
      (some 1),
    booleanRow .sensorFlamme "Flamme", booleanRow .sensorBrenner "Brenner",
    booleanRow .sensorZuendung "Zündung", booleanRow .sensorKesselPumpe "Kessel-Pumpe",
    booleanRow .sensor3WegeVentil "3-Wege-Ventil", booleanRow .sensorZirkulation "Zirkulation",
    booleanRow .sensorZirkulationTagbetrieb "Zirkulation-Tagbetrieb",
    booleanRow .sensorWarmwasserBereitung "Warmwasserbereitung",
    booleanRow .sensorWWTagbetrieb "WW-Tagbetrieb", booleanRow .sensorSommerbetrieb "Sommerbetrieb",
    booleanRow .sensorWarmwasserTempOK "Warmwassertemperatur OK",
    booleanRow .sensorWWVorrang "Warmwasservorrang",
    booleanRow .sensorHK1Tagbetrieb "HK1 Tagbetrieb",
    booleanRow .sensorHK1Automatik "HK1 Automatikbetrieb", booleanRow .sensorHK1Pumpe "HK1 Pumpe",
    booleanRow .sensorHK1Ferien "HK1 Ferien", booleanRow .sensorHK1Party "HK1 Party",
    booleanRow .sensorHK2Tagbetrieb "HK2 Tagbetrieb",
    booleanRow .sensorHK2Automatik "HK2 Automatikbetrieb", booleanRow .sensorHK2Pumpe "HK2 Pumpe",
    booleanRow .sensorHK2Ferien "HK2 Ferien", booleanRow .sensorHK2Party "HK2 Party",
    booleanRow .sensorSolarPumpe "Solar-Pumpe",
    stateRow .sensorServiceCode "Servicecode", stateRow .sensorFehlerCode "Fehlercode",
    stateRow .sensorStoerungsCode "Stoerungscode", stateRow .sensorStoerungsNummer "Stoerungsnummer"]

/-- The tables: the list of sensors, and `numericTableName`, `booleanTableName` and
    `stateTableName` (`collector/Database.cpp:27-29`). -/
inductive Table where
  | sensors | numericData | booleanData | stateData
  deriving DecidableEq, Repr

/-- The tables of the database on the server, and the rows of the list of sensors. -/
structure Schema where
  tables : List Table
  sensors : List SensorRow
  deriving DecidableEq, Repr

namespace Schema

def empty : Schema := { tables := [], sensors := [] }

/-- The statements that `createTables` executes. -/
inductive Statement where
  | create (table : Table)
  | insert (row : SensorRow)
  deriving DecidableEq, Repr

def execute (schema : Schema) : Statement → Schema
  | .create table =>
      if table ∈ schema.tables then schema else { schema with tables := schema.tables ++ [table] }
  | .insert row => { schema with sensors := schema.sensors ++ [row] }

/-- The statements, in order (`collector/Database.cpp:116-168`). -/
def statements : List Statement :=
  .create .sensors :: sensorRows.map .insert ++
    [.create .numericData, .create .booleanData, .create .stateData]

end Schema

/-- What becomes of a start of the program: whether the server can be reached, whether the database
    can be selected and, if it is not there, be created, whether the tables can be listed, and how
    many statements succeed before one fails. -/
structure Fate where
  connects : Bool
  creates : Bool
  selects : Bool
  lists : Bool
  executes : Nat
  deriving DecidableEq, Repr

/-- `createTables` (`collector/Database.cpp:102-183`): its result, and the tables afterwards. -/
def createTables (fate : Fate) (schema : Schema) : Bool × Schema :=
  if !fate.lists then (false, schema)
  else if schema.tables ≠ [] then (true, schema)
  else
    (decide (Schema.statements.length ≤ fate.executes),
      (Schema.statements.take fate.executes).foldl Schema.execute schema)

/-- `connect` (`collector/Database.cpp:59-100`). A database that is there but cannot be selected
    cannot be created either. -/
def connect (fate : Fate) (server : Option Schema) : Bool × Option Schema :=
  if !fate.connects then (false, server)
  else
    match server with
    | some schema =>
        if fate.selects then ((createTables fate schema).1, some (createTables fate schema).2)
        else (false, some schema)
    | none =>
        if !fate.creates then (false, none)
        else if fate.selects then
          ((createTables fate .empty).1, some (createTables fate .empty).2)
        else (false, some .empty)

/-- What is on the server after some starts of the program. -/
def serverAfter (fates : List Fate) : Option Schema :=
  fates.foldl (fun server fate => (connect fate server).2) none

end EmsCollector.Database
