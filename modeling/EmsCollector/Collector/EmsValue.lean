import Mathlib

/-!
# Values

`EmsValue` (`collector/EmsMessage.h:110-333`): what a telegram parser hands to the value
handler. A numeric reading is a `float` quotient of a field of at most 16 bits by 1, 2 or 10;
it is kept as the exact quotient. A `std::string` is the string of the characters with its
bytes as codes.
-/

namespace EmsCollector

/-- `EmsProto::DateTimeRecord` (`collector/EmsMessage.h:41-48`). -/
structure DateTimeRecord where
  year : UInt8
  valid : Bool
  month : UInt8
  hour : UInt8
  day : UInt8
  minute : UInt8
  deriving DecidableEq, Repr

/-- `EmsProto::DateRecord` (`collector/EmsMessage.h:50-54`). -/
structure DateRecord where
  day : UInt8
  month : UInt8
  year : UInt8
  deriving DecidableEq, Repr

/-- `EmsProto::SystemTimeRecord` (`collector/EmsMessage.h:56-65`); `flags` is the byte of the
    bit fields behind `dayOfWeek`. -/
structure SystemTimeRecord where
  common : DateTimeRecord
  second : UInt8
  dayOfWeek : UInt8
  flags : UInt8
  deriving DecidableEq, Repr

/-- `EmsProto::ErrorRecord` (`collector/EmsMessage.h:67-73`). -/
structure ErrorRecord where
  errorAscii : UInt8 × UInt8
  code : UInt16
  time : DateTimeRecord
  durationMinutes : UInt16
  source : UInt8
  deriving DecidableEq, Repr

/-- The packed layout of `DateTimeRecord`: the year in the low seven bits of its byte. -/
def DateTimeRecord.ofBytes (yearByte month hour day minute : UInt8) : DateTimeRecord :=
  { year := yearByte &&& 0x7f, valid := yearByte &&& 0x80 ≠ 0, month, hour, day, minute }

/-- A `DateRecord` read through a pointer to its three bytes. -/
def DateRecord.read : List UInt8 → Option DateRecord
  | [day, month, year] => some { day, month, year }
  | _ => none

/-- A `SystemTimeRecord` read through a pointer to its eight bytes. -/
def SystemTimeRecord.read : List UInt8 → Option SystemTimeRecord
  | [yearByte, month, hour, day, minute, second, dayOfWeek, flags] =>
      some { common := .ofBytes yearByte month hour day minute, second, dayOfWeek, flags }
  | _ => none

namespace EmsValue

/-- `EmsValue::Type` (`collector/EmsMessage.h:112-240`), in the order of the source. -/
inductive ValueType where
  | sollTemp | istTemp | setTemp | minTemp | maxTemp | manualTemp | temporaryTemp | boostTemp
  | boostHours | boostActive | boostRemainingMins | komfortTemp | reduzierteTemp | extraActive
  | extraTemp | extra15Mins | extraRemainingMins | zirkProStunde | tagTemp | nachtTemp
  | urlaubTemp | raumSollTemp | raumIstTemp | raumEinfluss | raumOffset | gedaempfteTemp
  | desinfektionsTemp | raumTemperaturAenderung | mischersteuerung | flammenstrom | systemdruck
  | istModulation | minModulation | maxModulation | sollModulation | sollLeistung
  | einschaltHysterese | ausschaltHysterese | schwelleSommerWinter | frostSchutzTemp
  | auslegungsTemp | raumUebersteuerTemp | absenkungsSchwellenTemp
  | urlaubAbsenkungsSchwellenTemp | absenkungsAbbruchTemp | durchflussMenge | betriebsZeit
  | betriebsZeit2 | heizZeit | warmwasserbereitungsZeit | brennerstarts | warmwasserBereitungen
  | desinfektionStunde | hektoStundenVorWartung | monateVorWartung | einschaltoptimierungsZeit
  | ausschaltoptimierungsZeit | antipendelZeit | nachlaufZeit | partyZeit | pausenZeit
  | flammeAktiv | brennerAktiv | zuendungAktiv | pumpeAktiv | zirkulationAktiv
  | dreiWegeVentilAufWW | einmalLadungAktiv | desinfektionAktiv | nachladungAktiv
  | warmwasserBereitung | warmwasserTempOK | tagbetrieb | sommerbetrieb | sommerbetriebsart
  | ausschaltoptimierung | einschaltoptimierung | estrichtrocknung | wwVorrang | ferien | urlaub
  | party | pause | frostschutzbetrieb | schaltuhrEin | kesselSchalter | eigenesProgrammAktiv
  | desinfektion | einmalLadungsLED | atDaempfung | schaltzeitOptimierung | fuehler1Defekt
  | fuehler2Defekt | stoerung | stoerungDesinfektion | ladevorgang | wwSystemType | schaltpunkte
  | wartungsmeldungen | wartungFaellig | betriebsart | betriebszustand | desinfektionTag
  | gebaeudeArt | absenkModus | heizSystem | fuehrungsGroesse | urlaubAbsenkungsArt | frostschutz
  | fbTyp | hkKennlinie | fehler | systemZeit | wartungstermin | serviceCode | fehlerCode
  | stoerungsCode | stoerungsNummer
  deriving DecidableEq, Repr

/-- `EmsValue::SubType` (`collector/EmsMessage.h:242-263`). -/
inductive SubType where
  | none | hk1 | hk2 | hk3 | hk4 | brenner | kessel | kesselPumpe | rc | ruecklauf
  | waermetauscher | ww | zirkulation | aussen | abgas | ansaugluft | solar | solarPumpe
  | solarSpeicher | solarKollektor
  deriving DecidableEq, Repr

/-- `EmsValue::ReadingType` (`collector/EmsMessage.h:265-275`). -/
inductive ReadingType where
  | numeric | integer | boolean | enumeration | kennlinie | error | date | systemTime | formatted
  deriving DecidableEq, Repr

/-- `EmsValue::Reading` (`collector/EmsMessage.h:283-293`): the variant, one case for each of
    its types. -/
inductive Reading where
  | numeric (value : Rat)
  | integer (value : UInt32)
  | boolean (value : Bool)
  | enumeration (value : UInt8)
  | kennlinie (points : List UInt8)
  | error (type : UInt16) (index : Nat) (record : ErrorRecord)
  | date (record : DateRecord)
  | systemTime (record : SystemTimeRecord)
  | formatted (text : String)
  deriving DecidableEq, Repr

end EmsValue

/-- `EmsValue` (`collector/EmsMessage.h:327-332`). -/
structure EmsValue where
  type : EmsValue.ValueType
  subType : EmsValue.SubType
  readingType : EmsValue.ReadingType
  value : EmsValue.Reading
  isValid : Bool
  deriving DecidableEq, Repr

namespace EmsValue

/-- The big-endian number in a field. -/
def bigEndian (data : List UInt8) : Nat := data.foldl (fun value b => value * 256 + b.toNat) 0

/-- The sign handling of the numeric constructor (`collector/EmsMessage.cpp:42-62`): the value
    and its validity. Fields have at most two bytes, so no `int` overflows. -/
def decodeInt (data : List UInt8) (isSigned : Bool) : Int × Bool :=
  let value := bigEndian data
  if isSigned then
    let highestbit := 2 ^ (8 * data.length - 1)
    if value &&& highestbit ≠ 0 then
      let rest := value - highestbit
      ((rest : Int) - highestbit, rest ≠ 0)
    else
      (value, true)
  else
    (value, value ≠ 2 ^ (8 * data.length) - 1)

/-- The numeric constructor (`collector/EmsMessage.cpp:34-79`); `memcmp` compares as many bytes
    as the field has. -/
def ofField (type : ValueType) (subType : SubType) (data : List UInt8) (divider : Nat)
    (isSigned : Bool) (invalidValues : List (List UInt8)) : EmsValue :=
  let (value, valid) := decodeInt data isSigned
  let isValid := valid && invalidValues.all (fun invalid => invalid.take data.length ≠ data)
  if divider = 0 then
    { type, subType, readingType := .integer, value := .integer (UInt32.ofInt value), isValid }
  else
    { type, subType, readingType := .numeric, value := .numeric (value / divider), isValid }

/-- The boolean constructor (`collector/EmsMessage.cpp:81-88`). -/
def ofBit (type : ValueType) (subType : SubType) (value bit : UInt8) : EmsValue :=
  { type, subType, readingType := .boolean, value := .boolean (value &&& (1 <<< bit) ≠ 0),
    isValid := true }

/-- The enumeration constructor (`collector/EmsMessage.cpp:99-106`). -/
def ofEnum (type : ValueType) (subType : SubType) (value : UInt8) : EmsValue :=
  { type, subType, readingType := .enumeration, value := .enumeration value, isValid := true }

/-- The date constructor (`collector/EmsMessage.cpp:117-124`). -/
def ofDate (type : ValueType) (subType : SubType) (record : DateRecord) : EmsValue :=
  { type, subType, readingType := .date, value := .date record, isValid := true }

/-- The system time constructor (`collector/EmsMessage.cpp:126-133`). -/
def ofSystemTime (type : ValueType) (subType : SubType) (record : SystemTimeRecord) : EmsValue :=
  { type, subType, readingType := .systemTime, value := .systemTime record, isValid := true }

/-- The string constructor (`collector/EmsMessage.cpp:135-142`). -/
def ofString (type : ValueType) (subType : SubType) (text : String) : EmsValue :=
  { type, subType, readingType := .formatted, value := .formatted text, isValid := true }

/-- `boost::bad_get`: the variant holds another type. -/
inductive BadGet where
  | badGet
  deriving DecidableEq, Repr

/-! `getValue` (`collector/EmsMessage.h:318-320`) of the types that the database asks for. -/

def getFloat (value : EmsValue) : Except BadGet Rat :=
  match value.value with
  | .numeric number => .ok number
  | _ => .error .badGet

def getUnsigned (value : EmsValue) : Except BadGet UInt32 :=
  match value.value with
  | .integer number => .ok number
  | _ => .error .badGet

def getBool (value : EmsValue) : Except BadGet Bool :=
  match value.value with
  | .boolean flag => .ok flag
  | _ => .error .badGet

def getByte (value : EmsValue) : Except BadGet UInt8 :=
  match value.value with
  | .enumeration number => .ok number
  | _ => .error .badGet

def getString (value : EmsValue) : Except BadGet String :=
  match value.value with
  | .formatted text => .ok text
  | _ => .error .badGet

end EmsValue

end EmsCollector
