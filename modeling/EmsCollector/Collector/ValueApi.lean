import EmsCollector.Collector.ApiCommandParser
import EmsCollector.Collector.IStream
import Mathlib

/-!
# The text of a value

`ValueApi::formatValue` (`collector/ValueApi.cpp:194-380`), with the output of a `float` by
`std::ostream`: its default precision of six digits is the `%g` of C.
-/

namespace EmsCollector

open ApiCommandParser (formatDec formatHex formatChar formatDateTime)

/-- `digits / 10^decimals` in fixed notation, without zeros at the end of the fraction. -/
def formatFixed (digits decimals : Nat) : String :=
  let fraction := (formatDec decimals (digits % 10 ^ decimals)).toList.rdropWhile (· = '0')
  toString (digits / 10 ^ decimals) ++
    (if fraction = [] then "" else "." ++ String.ofList fraction)

/-- Six digits in scientific notation. -/
def formatScientific (digits : Nat) (exponent : Int) : String :=
  formatFixed digits 5 ++ (if exponent < 0 then "e-" else "e+") ++ formatDec 2 exponent.natAbs

/-- The six digits of a positive number, and the exponent of the first one. Rounding may carry into
    a seventh digit. -/
def significantDigits (value : Rat) : Nat × Int :=
  let exponent := Int.log 10 value
  let digits := (IStream.roundHalfEven (value / (10 : Rat) ^ (exponent - 5))).toNat
  if digits = 10 ^ 6 then (10 ^ 5, exponent + 1) else (digits, exponent)

/-- `<< float`. -/
def formatFloat (value : Rat) : String :=
  if value = 0 then "0"
  else
    let (digits, exponent) := significantDigits |value|
    (if value < 0 then "-" else "") ++
      (if -4 ≤ exponent ∧ exponent < 6 then formatFixed digits (5 - exponent).toNat
       else formatScientific digits exponent)

example : formatFloat (45 / 2) = "22.5" := by decide +kernel
example : formatFloat (-1 / 30000) = "-3.33333e-05" := by decide +kernel

/-- `ApiCommandParser::buildRecordResponse` (`collector/ApiCommandParser.cpp:976-1000`); the empty
    string stands for no error. -/
def ErrorRecord.response (r : ErrorRecord) : String :=
  if r.errorAscii.1 = 0 then ""
  else
    formatDateTime r.time ++ " " ++ formatHex r.source ++ " " ++ formatChar r.errorAscii.1 ++
      formatChar r.errorAscii.2 ++ " " ++ toString r.code.toNat ++ " " ++
      toString r.durationMinutes.toNat

namespace EmsValue

/-- `isForHK` (`collector/EmsMessage.h:322-325`). -/
def isForHK (value : EmsValue) : Bool :=
  value.subType = .hk1 ∨ value.subType = .hk2 ∨ value.subType = .hk3 ∨ value.subType = .hk4

end EmsValue

namespace ValueApi

/-- The exceptions of `formatValue`: the variant holds another type, a key is not in a table. An
    element behind the end of a curve is undefined in the source. -/
inductive FormatFault where
  | badGet
  | outOfRange
  | subscript (index size : Nat)
  deriving DecidableEq, Repr

/-- A table of names for the values of an enumeration. -/
abbrev Mapping : Type := List (UInt8 × String)

/-! `collector/ValueApi.cpp:196-277`. -/

def wwSystemMapping : Mapping :=
  [(0, "none"), (1, "tankless"), (2, "small"), (3, "large"), (4, "speicherladesystem")]

def zirkSpMapping : Mapping :=
  [(0, "off"), (1, "1x"), (2, "2x"), (3, "3x"), (4, "4x"), (5, "5x"), (6, "6x"), (7, "alwayson")]

def maintenanceMessagesMapping : Mapping :=
  [(0, "off"), (1, "byhours"), (2, "bydate"), (3, "bymonths")]

def maintenanceNeededMapping : Mapping := [(0, "no"), (3, "byhours"), (8, "bydate")]

def errorTypeMapping : List (UInt16 × String) :=
  [(0x10, "L"), (0x11, "B"), (0x12, "S"), (0x13, "D")]

def opModeMapping : Mapping := [(0, "off"), (1, "on"), (2, "auto")]

def hkOpModeMapping : Mapping := [(0, "off"), (1, "manual"), (2, "auto")]

def hkSummerOpModeMapping : Mapping := [(1, "auto"), (2, "heateron")]

def hkOpStateMapping : Mapping :=
  [(0, "off"), (1, "reduced"), (2, "manual"), (3, "normal"), (6, "boost")]

def zirkOpModeMapping : Mapping := [(0, "off"), (1, "on"), (2, "followww"), (3, "auto")]

def wwOpModeMapping : Mapping :=
  [(0, "off"), (1, "eco"), (2, "comfort"), (3, "followheater"), (4, "auto")]

def dayMapping : Mapping :=
  [(0, "monday"), (1, "tuesday"), (2, "wednesday"), (3, "thursday"), (4, "friday"),
    (5, "saturday"), (6, "sunday"), (7, "everyday")]

def buildingTypeMapping : Mapping := [(1, "light"), (2, "medium"), (3, "heavy")]

def heatingTypeMapping : Mapping :=
  [(0, "none"), (1, "heater"), (2, "convection"), (3, "floorheater")]

def reductionModeMapping : Mapping :=
  [(0, "offmode"), (1, "reduced"), (2, "raumhalt"), (3, "aussenhalt")]

def frostProtectMapping : Mapping := [(0, "off"), (1, "byoutdoortemp"), (2, "byindoortemp")]

def relevantValueMapping : Mapping := [(0, "outdoor"), (1, "indoor")]

def vacationReductionMapping : Mapping := [(3, "outdoor"), (2, "indoor")]

def remoteTypeMapping : Mapping := [(0, "none"), (1, "rc20"), (2, "rc3x")]

/-- A table chosen by the subtype (`collector/ValueApi.cpp:309-324`). -/
def bySubType (value : EmsValue) (hk : Mapping) : Mapping :=
  if value.isForHK then hk
  else if value.subType = .ww then wwOpModeMapping
  else if value.subType = .zirkulation then zirkOpModeMapping
  else opModeMapping

/-- The table for an enumeration (`collector/ValueApi.cpp:301-336`), empty if there is none. -/
def enumMapping (value : EmsValue) : Mapping :=
  match value.type with
  | .wwSystemType => wwSystemMapping
  | .schaltpunkte => zirkSpMapping
  | .wartungsmeldungen => maintenanceMessagesMapping
  | .wartungFaellig => maintenanceNeededMapping
  | .sommerbetriebsart => hkSummerOpModeMapping
  | .betriebsart => bySubType value hkOpModeMapping
  | .betriebszustand => bySubType value hkOpStateMapping
  | .desinfektionTag => dayMapping
  | .gebaeudeArt => buildingTypeMapping
  | .heizSystem => heatingTypeMapping
  | .absenkModus => reductionModeMapping
  | .frostschutz => frostProtectMapping
  | .fuehrungsGroesse => relevantValueMapping
  | .fbTyp => remoteTypeMapping
  | .urlaubAbsenkungsArt => vacationReductionMapping
  | _ => []

/-- `%04d-%02d-%02d` of a year from 2000 on, a month and a day. -/
def formatDate (year month day : UInt8) : String :=
  formatDec 4 (2000 + year.toNat) ++ "-" ++ formatDec 2 month.toNat ++ "-" ++ formatDec 2 day.toNat

/-- `formatValue` (`collector/ValueApi.cpp:194-380`). -/
def formatValue (value : EmsValue) : Except FormatFault String :=
  match value.readingType, value.value with
  | .numeric, reading =>
      if !value.isValid then .ok "unavailable"
      else
        match reading with
        | .numeric number => .ok (formatFloat number)
        | _ => .error .badGet
  | .integer, reading =>
      if !value.isValid then .ok "unavailable"
      else
        match reading with
        | .integer number => .ok (toString number.toNat)
        | _ => .error .badGet
  | .boolean, .boolean flag => .ok (if flag then "on" else "off")
  | .enumeration, .enumeration number =>
      .ok (((enumMapping value).lookup number).getD (toString number.toNat))
  | .kennlinie, .kennlinie points =>
      match points with
      | low :: medium :: high :: _ =>
          .ok (toString low.toNat ++ "/" ++ toString medium.toNat ++ "/" ++ toString high.toNat)
      | _ => .error (.subscript points.length points.length)
  | .error, .error type index record =>
      let formatted := if record.response = "" then "empty" else record.response
      match errorTypeMapping.lookup type with
      | some name => .ok (name ++ formatDec 2 index ++ " " ++ formatted)
      | none => .error .outOfRange
  | .date, .date record => .ok (formatDate record.year record.month record.day)
  | .systemTime, .systemTime record =>
      .ok (formatDate record.common.year record.common.month record.common.day ++ " " ++
        formatDec 2 record.common.hour.toNat ++ ":" ++ formatDec 2 record.common.minute.toNat ++
        ":" ++ formatDec 2 record.second.toNat)
  | .formatted, .formatted text => .ok text
  | _, _ => .error .badGet

/-- `TYPEMAPPING` (`collector/ValueApi.cpp:29-150`). Of two rows for a type, the first one counts. -/
def typeMapping : List (EmsValue.ValueType × String) :=
  [(.sollTemp, "targettemperature"), (.istTemp, "currenttemperature"),
    (.setTemp, "settemperature"), (.minTemp, "mintemperature"), (.maxTemp, "maxtemperature"),
    (.komfortTemp, "comforttemperature"), (.reduzierteTemp, "reducedtemperature"),
    (.extraTemp, "extratemperature"), (.manualTemp, "manualtemperature"),
    (.temporaryTemp, "temporarytemperature"), (.boostTemp, "boosttemperature"),
    (.boostHours, "boosthours"), (.boostActive, "boostactive"), (.extraActive, "extraactive"),
    (.boostRemainingMins, "boostremainingmins"), (.extraRemainingMins, "extraremainingmins"),
    (.extra15Mins, "extra15mins"), (.zirkProStunde, "zirksperhour"), (.tagTemp, "daytemperature"),
    (.nachtTemp, "nighttemperature"), (.urlaubTemp, "vacationtemperature"),
    (.raumSollTemp, "roomtargettemperature"), (.raumIstTemp, "roomcurrenttemperature"),
    (.raumEinfluss, "maxroomeffect"), (.raumOffset, "roomtemperatureoffset"),
    (.schwelleSommerWinter, "summerwinterthreshold"),
    (.frostSchutzTemp, "frostprotecttemperature"), (.auslegungsTemp, "designtemperature"),
    (.raumUebersteuerTemp, "temperatureoverride"),
    (.absenkungsSchwellenTemp, "reducedmodethreshold"),
    (.urlaubAbsenkungsSchwellenTemp, "vacationreducedmodethreshold"),
    (.absenkungsAbbruchTemp, "cancelreducedmodethreshold"), (.gedaempfteTemp, "dampedtemperature"),
    (.desinfektionsTemp, "desinfectiontemperature"),
    (.raumTemperaturAenderung, "roomtemperaturechange"), (.mischersteuerung, "mixercontrol"),
    (.flammenstrom, "flamecurrent"), (.systemdruck, "pressure"),
    (.betriebsZeit, "operatingminutes"), (.betriebsZeit2, "operatingminutes2"),
    (.minModulation, "minmodulation"), (.maxModulation, "maxmodulation"),
    (.sollModulation, "targetmodulation"), (.istModulation, "currentmodulation"),
    (.sollLeistung, "requestedpower"), (.einschaltHysterese, "onhysteresis"),
    (.ausschaltHysterese, "offhysteresis"), (.durchflussMenge, "flowrate"),
    (.heizZeit, "heatingminutes"), (.warmwasserbereitungsZeit, "warmwaterminutes"),
    (.brennerstarts, "heaterstarts"), (.warmwasserBereitungen, "warmwaterpreparations"),
    (.einschaltoptimierungsZeit, "onoptimizationminutes"),
    (.ausschaltoptimierungsZeit, "offoptimizationminutes"), (.antipendelZeit, "antipendelminutes"),
    (.nachlaufZeit, "followupminutes"), (.desinfektionStunde, "desinfectionhour"),
    (.hektoStundenVorWartung, "maintenanceintervalin100hours"),
    (.monateVorWartung, "maintenanceintervalinmonthsuptime"), (.pausenZeit, "pausehours"),
    (.partyZeit, "partyhours"), (.flammeAktiv, "flameactive"), (.brennerAktiv, "heateractive"),
    (.zuendungAktiv, "ignitionactive"), (.pumpeAktiv, "pumpactive"),
    (.zirkulationAktiv, "zirkpumpactive"), (.dreiWegeVentilAufWW, "3wayonww"),
    (.einmalLadungAktiv, "onetimeload"), (.desinfektionAktiv, "desinfectionactive"),
    (.desinfektion, "desinfection"), (.nachladungAktiv, "boostcharge"),
    (.warmwasserBereitung, "warmwaterpreparationactive"), (.warmwasserTempOK, "warmwatertempok"),
    (.tagbetrieb, "daymode"), (.sommerbetrieb, "summermode"), (.sommerbetriebsart, "summeropmode"),
    (.ausschaltoptimierung, "offoptimization"), (.einschaltoptimierung, "onoptimization"),
    (.estrichtrocknung, "floordrying"), (.wwVorrang, "wwoverride"), (.urlaub, "vacationmode"),
    (.ferien, "holidaymode"), (.party, "partymode"), (.pause, "pausemode"),
    (.frostschutzbetrieb, "frostprotectmodeactive"), (.schaltuhrEin, "switchpointactive"),
    (.kesselSchalter, "masterswitch"), (.eigenesProgrammAktiv, "customschedule"),
    (.einmalLadungsLED, "onetimeloadindicator"), (.atDaempfung, "outdoortempdamping"),
    (.schaltzeitOptimierung, "scheduleoptimizer"), (.fuehler1Defekt, "sensor1failure"),
    (.fuehler2Defekt, "sensor2failure"), (.stoerung, "failure"),
    (.stoerungDesinfektion, "desinfectionfailure"), (.ladevorgang, "loading"),
    (.wwSystemType, "warmwatersystemtype"), (.schaltpunkte, "switchpoints"),
    (.wartungsmeldungen, "maintenancereminder"), (.wartungFaellig, "maintenancedue"),
    (.betriebsart, "opmode"), (.betriebszustand, "opstate"), (.desinfektionTag, "desinfectionday"),
    (.gebaeudeArt, "buildingtype"), (.absenkModus, "reductionmode"),
    (.heizSystem, "heatingsystem"), (.fuehrungsGroesse, "relevantparameter"),
    (.frostschutz, "frostprotectmode"), (.urlaubAbsenkungsArt, "vacationreductionmode"),
    (.fbTyp, "remotecontroltype"), (.hkKennlinie, "characteristic"), (.fehler, "error"),
    (.stoerung, "fault"), (.systemZeit, "systemtime"), (.wartungstermin, "maintenancedate"),
    (.serviceCode, "servicecode"), (.fehlerCode, "errorcode")]

/-- `getTypeName` (`collector/ValueApi.cpp:26-159`). -/
def getTypeName (type : EmsValue.ValueType) : String := (typeMapping.lookup type).getD ""

/-- `SUBTYPEMAPPING` (`collector/ValueApi.cpp:164-184`). -/
def subTypeMapping : List (EmsValue.SubType × String) :=
  [(.hk1, "hk1"), (.hk2, "hk2"), (.hk3, "hk3"), (.hk4, "hk4"), (.rc, "rc"), (.kessel, "heater"),
    (.kesselPumpe, "heaterpump"), (.brenner, "burner"), (.ruecklauf, "returnflow"),
    (.waermetauscher, "heatexchanger"), (.ww, "ww"), (.zirkulation, "zirkpump"),
    (.aussen, "outdoor"), (.abgas, "exhaust"), (.ansaugluft, "intake"), (.solar, "solar"),
    (.solarPumpe, "solarpump"), (.solarSpeicher, "solartank"), (.solarKollektor, "solarcollector")]

/-- `getSubTypeName` (`collector/ValueApi.cpp:161-192`). -/
def getSubTypeName (subtype : EmsValue.SubType) : String := (subTypeMapping.lookup subtype).getD ""

end ValueApi

end EmsCollector
