import EmsCollector.Collector.ApiCommandParserProof.Commands

/-!
# The documented commands

The help texts of the parser list its commands with their arguments. A `Domain` says which
arguments a command is documented for, and which others the parser takes nevertheless. Arguments
are words: the characters up to the next white space.
-/

namespace EmsCollector.ApiCommandParser

/-- The word is a decimal number. -/
def Decimal (word : String) (v : Rat) : Prop :=
  ∃ st, Scan.run IStream.floatStep IStream.floatStart word.toList = (st, []) ∧
    st.wellFormed = true ∧ v = st.value

/-- The word is a hexadecimal integer in the notation of C, behind an optional sign. -/
def Hexadecimal (word : String) (n : Int) : Prop :=
  ∃ st, Scan.run (IStream.intStep true) IStream.intStart word.toList = (st, []) ∧
    st.wellFormed = true ∧ st.base = 16 ∧ n = if st.negative then -(st.result : Int) else st.result

/-- The word is a number. A leading zero makes no octal number of it. -/
def Numeral (word : String) (v : Rat) : Prop :=
  Decimal word v ∨ ∃ n : Int, Hexadecimal word n ∧ v = n

def DecimalIn (min max : Int) (word : String) : Prop := ∃ v, Decimal word v ∧ min ≤ v ∧ v ≤ max

def NumeralIn (max : Nat) (word : String) : Prop := ∃ v, Numeral word v ∧ 0 ≤ v ∧ v ≤ max

def Flag (word : String) : Prop := ∃ v, Decimal word v ∧ (v = 0 ∨ v = 1)

/-- Nothing but white space follows. -/
def Blank (request : IStream) : Prop := request.rest.all isSpace = true

/-- The words of a request, each with its condition, and no further word. -/
def Words : List (String → Prop) → IStream → Prop
  | [], request => Blank request
  | condition :: rest, request =>
      condition (nextWord request).1 ∧ Words rest (nextWord request).2

/-- Integers of a request, each with its greatest value, wherever one ends and the next begins. -/
def Extracted (anyBase : Bool) : List UInt32 → IStream → Prop
  | [], _ => True
  | max :: rest, request =>
      (∃ n ∈ (request.readUnsigned anyBase).1, n ≤ max) ∧
        Extracted anyBase rest (request.readUnsigned anyBase).2

def leapYear (year : Nat) : Prop := year % 4 = 0 ∧ (year % 100 ≠ 0 ∨ year % 400 = 0)

instance (year : Nat) : Decidable (leapYear year) := inferInstanceAs (Decidable (_ ∧ _))

def daysInMonth (year month : Nat) : Nat :=
  if month = 2 then (if leapYear year then 29 else 28)
  else if month = 4 ∨ month = 6 ∨ month = 9 ∨ month = 11 then 30
  else 31

/-- Digits, with an optional plus sign. -/
def Natural (chars : List Char) (n : Nat) : Prop :=
  ∃ digits, (chars = digits ∨ chars = '+' :: digits) ∧ digits ≠ [] ∧
    digits.all (fun c => '0' ≤ c ∧ c ≤ '9') = true ∧
    n = digits.foldl (fun value c => value * 10 + (c.toNat - '0'.toNat)) 0

/-- The word is a date of the calendar. -/
def ExistingDate (word : String) : Prop :=
  ∃ year month day y m d, splitDate word.toList = some (year, month, day) ∧
    Natural year y ∧ Natural month m ∧ Natural day d ∧
    1 ≤ m ∧ m ≤ 12 ∧ 1 ≤ d ∧ d ≤ daysInMonth y m

/-- The word passes for a date, but its day is negative or behind the end of its month. -/
def FalseDate (word : String) : Prop :=
  ∃ date ∈ parseHolidayEntry word,
    daysInMonth (2000 + date.year.toNat) date.month.toNat < date.day.toNat ∨
      ∃ year month day, splitDate word.toList = some (year, month, '-' :: day)

/-- A number without its fraction. -/
def truncate (q : Rat) : Int := if q < 0 then -(-q).floor else q.floor

/-- The scaled number lies within the scaled bounds when it is rounded to a `float` and truncated. -/
def TruncatedIn (multiplier min max : Int) (v : Rat) : Prop :=
  ∃ value ∈ IStream.roundToFloat v, ∃ product ∈ IStream.roundToFloat (multiplier * value),
    min * multiplier ≤ truncate product ∧ truncate product ≤ max * multiplier

/-- The word begins with a number that passes for one between the bounds. -/
def PassesNumber (multiplier min max : Int) (word : String) : Prop :=
  let st := (Scan.run IStream.floatStep IStream.floatStart word.toList).1
  st.wellFormed = true ∧ TruncatedIn multiplier min max st.value

/-- The number that the word begins with is followed by other characters, or it does not lie between
    the bounds. -/
def FalseNumber (min max : Int) (word : String) : Prop :=
  let (st, others) := Scan.run IStream.floatStep IStream.floatStart word.toList
  others ≠ [] ∨ st.value < min ∨ max < st.value

/-- The word begins with an integer that passes for one between the bounds. -/
def PassesInteger (anyBase : Bool) (min max : Nat) (word : String) : Prop :=
  ∃ n ∈ IStream.finishUnsigned (Scan.run (IStream.intStep anyBase) IStream.intStart word.toList).1,
    min ≤ n.toNat ∧ n.toNat ≤ max

/-- The integer that the word begins with is followed by other characters, negative or octal, and the
    word is no decimal number between the bounds. -/
def FalseInteger (anyBase : Bool) (min max : Nat) (word : String) : Prop :=
  let (st, others) := Scan.run (IStream.intStep anyBase) IStream.intStart word.toList
  (others ≠ [] ∨ (st.negative = true ∧ 0 < st.result) ∨ st.base = 8) ∧ ¬ DecimalIn min max word

/-- The arguments of a command: those that are documented, and others that the parser takes. -/
structure Domain where
  Admits : IStream → Prop
  Slips : IStream → Prop

namespace Domain

/-- Any text. -/
def anything : Domain := ⟨fun _ => True, fun _ => False⟩

/-- The arguments of a command that takes all there are. -/
def unchecked (admits : IStream → Prop) : Domain := ⟨admits, fun request => ¬ admits request⟩

/-- No arguments, which no command checks. -/
def nothing : Domain := unchecked Blank

/-- One word. What passes for it is taken, also if it is mistaken or other words follow. -/
def single (admits passes mistaken : String → Prop) : Domain where
  Admits := Words [admits]
  Slips request := passes (nextWord request).1 ∧
    (mistaken (nextWord request).1 ∨ ¬ Blank (nextWord request).2)

/-- One of several words. -/
def keyword (words : List String) : Domain := single (· ∈ words) (· ∈ words) (fun _ => False)

/-- A number that is stored multiplied in one byte. -/
def number (multiplier min max : Int) : Domain :=
  single (DecimalIn min max) (PassesNumber multiplier min max) (FalseNumber min max)

/-- An integer from 0 on. -/
def integer (max : Nat) : Domain :=
  single (NumeralIn max) (PassesInteger true 0 max) (FalseInteger true 0 max)

/-- Several integers from 0 on. -/
def integers (maxima : List UInt32) : Domain where
  Admits := Words (maxima.map fun max => NumeralIn max.toNat)
  Slips request := Extracted true maxima request ∧
    ¬ Words (maxima.map fun max => NumeralIn max.toNat) request

def date : Domain := single ExistingDate (fun word => (parseHolidayEntry word).isSome = true) FalseDate

/-- The number of a line, and any text. -/
def contact : Domain where
  Admits request := DecimalIn 1 3 (nextWord request).1
  Slips request := PassesInteger false 1 3 (nextWord request).1 ∧
    FalseInteger false 1 3 (nextWord request).1

/-- A date and time; the special values are no times. -/
def time (env : Env) : Domain where
  Admits request := (∃ year month day hours minutes seconds,
    (env.readPtime request).1 = some (.time year month day hours minutes seconds)) ∧
      Blank (env.readPtime request).2
  Slips request := (env.readPtime request).1 = some .special ∨
    (env.readPtime request).1.isSome = true ∧ ¬ Blank (env.readPtime request).2

/-- A temperature between 5 and 30, or `off`. -/
def temporaryTemp : Domain := unchecked (Words [fun word => DecimalIn 5 30 word ∨ word = "off"])

/-- Percentages of the burner, the fan and the pump, the position of the three-way valve, and
    flags for the circulation pump, the ignition and the ionisator. -/
def testState : Domain :=
  unchecked (Words [DecimalIn 0 100, DecimalIn 0 100, DecimalIn 0 100, DecimalIn 0 2, Flag, Flag,
    Flag])

/-- A subcommand with its arguments. -/
def choice (domains : List (String × Domain)) : Domain where
  Admits request := ∃ domain ∈ domains.lookup (nextWord request).1, domain.Admits (nextWord request).2
  Slips request := ∃ domain ∈ domains.lookup (nextWord request).1, domain.Slips (nextWord request).2

/-- The help text of `hk`. -/
def hk : Domain :=
  choice [("help", nothing), ("requestdata", nothing), ("summerwinterthreshold", number 1 10 30),
    ("roomtemperatureoffset", number 1 (-5) 5), ("designtemperature", number 1 30 90),
    ("summeropmode", keyword ["auto", "heateron"]), ("mode", keyword ["off", "manual", "auto"]),
    ("manualtemp", number 2 5 30), ("daytemperature", number 2 5 30),
    ("nighttemperature", number 2 5 30), ("temporarytemp", temporaryTemp),
    ("activateboost", keyword ["off", "on"]), ("boosttemp", number 2 5 30),
    ("boosthours", number 1 1 8)]

/-- The help text of `ww`. -/
def ww : Domain :=
  choice [("help", nothing), ("mode", keyword ["off", "eco", "comfort", "followheater", "auto"]),
    ("zirkmode", keyword ["off", "on", "followww", "auto"]), ("requestdata", nothing),
    ("comforttemp", number 1 30 80), ("reducedtemp", number 1 30 80), ("extratemp", number 1 30 80),
    ("extra15mins", number 1 0 16), ("zirksperhour", number 1 0 6), ("extra", keyword ["off", "on"])]

/-- The help text of `rc`. -/
def rc (env : Env) : Domain :=
  choice [("help", nothing), ("requestdata", nothing), ("activeerrors", nothing),
    ("geterrors", nothing), ("mintemperature", number 1 (-30) 0),
    ("buildingtype", keyword ["light", "medium", "heavy"]),
    ("outdoortempdamping", keyword ["on", "off"]), ("settime", time env),
    ("getcontactinfo", nothing), ("setcontactinfo", contact)]

/-- What `uba schedulemaintenance` takes. -/
def scheduleMaintenance : Domain :=
  choice [("bydate", date), ("byhours", integer 60), ("bymonths", integer 12), ("off", nothing)]

/-- The help text of `uba`. -/
def uba : Domain :=
  choice [("help", nothing), ("activeerrors", nothing), ("geterrors", nothing),
    ("schedulemaintenance", scheduleMaintenance), ("checkmaintenanceneeded", nothing),
    ("resetmaintenanceindicator", nothing), ("unlockfault", nothing),
    ("testmode", keyword ["on", "off"]), ("teststate", testState)]

/-- The help text of `raw`. -/
def raw : Domain :=
  choice [("help", nothing), ("read", integers [255, 65535, 255, 255]),
    ("write", integers [255, 65535, 255, 255])]

/-- The help text of `cache`; without a cache there is none. -/
def cache (env : Env) : Domain :=
  choice (if env.cache.isSome then [("help", nothing), ("fetch", anything)] else [])

/-- All documented lines. -/
def documented (env : Env) : Domain :=
  choice [("help", nothing), ("hk1", hk), ("hk2", hk), ("hk3", hk), ("hk4", hk), ("ww", ww),
    ("rc", rc env), ("uba", uba), ("raw", raw), ("cache", cache env), ("getversion", nothing)]

end Domain

end EmsCollector.ApiCommandParser
