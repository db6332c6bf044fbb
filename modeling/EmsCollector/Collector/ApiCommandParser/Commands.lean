import EmsCollector.Collector.ApiCommandParser
import EmsCollector.Collector.IStream

/-!
# The command parser: commands

`ApiCommandParser::parse` (`collector/ApiCommandParser.cpp:59-766`), built with the raw
commands. A command reads its words and numbers from the stream over the receive buffer of the
connection, whatever else the buffer holds.
-/

namespace EmsCollector

/-- A `boost::posix_time::ptime`: a time of the calendar, or a special value. -/
inductive Ptime where
  | special
  | time (year month day hours minutes seconds : Nat)
  deriving DecidableEq, Repr

/-- What a command uses from outside: the text of the value cache for a selector, if there is a
    cache, the extraction of a `ptime` with the format `%Y-%m-%d %H:%M:%S`, and the clock. -/
structure Env where
  cache : Option (List String → String)
  readPtime : IStream → Option Ptime × IStream
  now : Time

/-- What a command works on. -/
structure Session where
  parser : ApiCommandParser
  request : IStream

/-- A command: it may end in an exception, and what it has done until then stays done. -/
abbrev RequestM := EStateM Abort Session

namespace ApiCommandParser

/-- An extraction from the request. -/
def read {α : Type} (extraction : IStream → Option α × IStream) : RequestM (Option α) := fun s =>
  let (value, request) := extraction s.request
  .ok value { s with request }

/-- A word of the request; the empty string if there is none. -/
def readWord : RequestM String := do
  let word ← read IStream.readString
  pure (word.getD "")

/-- A change of the parser. -/
def update (f : ApiCommandParser → ApiCommandParser) : RequestM Unit := fun s =>
  .ok () { s with parser := f s.parser }

/-- `while (request) { request >> token; ... }`: the tokens, the last of which is the empty string
    of the extraction that fails. Every turn but the last takes a character. -/
def tokenLoop : Nat → IStream → List String × IStream
  | 0, s => ([], s)
  | fuel + 1, s =>
      if s.failbit then ([], s)
      else
        let (token, s) := s.readString
        let (tokens, s) := tokenLoop fuel s
        (token.getD "" :: tokens, s)

def readTokens : RequestM (List String) := fun s =>
  let (tokens, request) := tokenLoop (s.request.rest.length + 2) s.request
  .ok tokens { s with request }

/-- The subcommand that a word names. -/
def select (cmd : String) (commands : List (String × RequestM CommandResult)) :
    RequestM CommandResult :=
  (commands.lookup cmd).getD (pure .invalidCmd)

/-- A subcommand that prints its help. -/
def help (text : String) : RequestM CommandResult := do
  update (·.output text)
  pure .ok

/-- `startRequest` for each of several ranges, then `Ok`. -/
def request (ranges : List (UInt8 × UInt16 × Nat × Nat)) (raw : Bool := false) :
    RequestM CommandResult := do
  update (fun p => ranges.foldl
    (fun p (dest, type, offset, length) => p.startRequest dest type offset length true raw) p)
  pure .ok

/-- A command whose argument is one of a few words, each standing for a byte. -/
def handleKeyword (dest : UInt8) (type : UInt16) (offset : UInt8) (words : List (String × UInt8)) :
    RequestM CommandResult := do
  let mode ← readWord
  match words.lookup mode with
  | some data => do
      update (·.sendCommand dest type offset [data])
      pure .ok
  | none => pure .invalidArgs

/-- The byte of a value: `boost::numeric_cast<int>` of the product, which must lie between the
    bounds. -/
def singleByteOf (value : Rat) (multiplier min max : Int) : Option UInt8 :=
  match IStream.roundToFloat (multiplier * value) with
  | some product =>
      let valueInt : Int := if product < 0 then -(-product).floor else product.floor
      if valueInt < min * multiplier ∨ valueInt > max * multiplier then none
      else some (UInt8.ofNat (valueInt % 256).toNat)
  | none => none

/-- `handleSingleByteValue` (`collector/ApiCommandParser.cpp:655-680`). -/
def handleSingleByteValue (dest : UInt8) (type : UInt16) (offset : UInt8)
    (multiplier min max : Int) : RequestM CommandResult := do
  let value ← read IStream.readFloat
  match value.bind (singleByteOf · multiplier min max) with
  | some valueByte => do
      update (·.sendCommand dest type offset [valueByte])
      pure .ok
  | none => pure .invalidArgs

/-- `parseIntParameter` (`collector/ApiCommandParser.cpp:1237-1251`). -/
def parseIntParameter (max : UInt32) : RequestM (Option UInt32) := do
  let value ← read (IStream.readUnsigned true)
  pure (value.filter (· ≤ max))

/-- Two positions of `-` in a string, as `std::string::find` finds them. -/
def splitDate (text : List Char) : Option (List Char × List Char × List Char) :=
  match text.span (· ≠ '-') with
  | (year, _ :: rest) =>
      match rest.span (· ≠ '-') with
      | (month, _ :: day) => some (year, month, day)
      | (_, []) => none
  | (_, []) => none

/-- `parseHolidayEntry` (`collector/ApiCommandParser.cpp:1141-1170`): day, month and year. -/
def parseHolidayEntry (text : String) : Option DateRecord := do
  let (year, month, day) ← splitDate text.toList
  let year ← IStream.lexicalCast year
  let month ← IStream.lexicalCast month
  let day ← IStream.lexicalCast day
  if year < 2000 ∨ year > 2100 ∨ month < 1 ∨ month > 12 ∨ day < 1 ∨ day > 31 then none
  else some { day := day.toUInt8, month := month.toUInt8, year := (year - 2000).toUInt8 }

/-- `date::day_of_week`, with 0 for Sunday. -/
def dayOfWeek (year month day : Nat) : Nat :=
  let a := (14 - month) / 12
  let y := year - a
  let m := month + 12 * a - 2
  (day + y + y / 4 - y / 100 + y / 400 + 31 * m / 12) % 7

/-- The record of `rc settime`: the year is stored in seven bits. -/
def systemTimeBytes (year month day hours minutes seconds : Nat) : List UInt8 :=
  [UInt8.ofNat ((((year : Int) - 2000) % 128).toNat), UInt8.ofNat month, UInt8.ofNat hours,
    UInt8.ofNat day, UInt8.ofNat minutes, UInt8.ofNat seconds,
    UInt8.ofNat ((dayOfWeek year month day + 6) % 7), 0]

/-- `rc settime` (`collector/ApiCommandParser.cpp:176-211`). -/
def handleSetTime (env : Env) : RequestM CommandResult := do
  let time ← read env.readPtime
  match time with
  | some (.time year month day hours minutes seconds) => do
      update (·.sendCommand EmsProto.addressUI800 0x06 0
        (systemTimeBytes year month day hours minutes seconds))
      pure .ok
  | some .special => throw .outOfRange
  | none => pure .invalidArgs

/-- A continuation byte of UTF-8. -/
def isContinuation (b : Nat) : Bool := 0x80 ≤ b ∧ b < 0xc0

/-- A code point in UTF-16. -/
def utf16Units (c : Nat) : List Nat :=
  if c < 0x10000 then [c] else [0xd800 + (c - 0x10000) / 0x400, 0xdc00 + (c - 0x10000) % 0x400]

/-- `from_bytes` of the converter: UTF-8 to UTF-16 code units. No text that is converted ends within
    a character, as blanks are put behind it. -/
def fromBytes : List Nat → Except Abort (List Nat)
  | [] => .ok []
  | b0 :: rest =>
      if b0 < 0x80 then do
        let units ← fromBytes rest
        .ok (b0 :: units)
      else if 0xc2 ≤ b0 ∧ b0 < 0xe0 then
        match rest with
        | b1 :: rest =>
            if isContinuation b1 then do
              let units ← fromBytes rest
              .ok (utf16Units ((b0 - 0xc0) * 0x40 + (b1 - 0x80)) ++ units)
            else .error .rangeError
        | _ => .error .rangeError
      else if 0xe0 ≤ b0 ∧ b0 < 0xf0 then
        match rest with
        | b1 :: b2 :: rest =>
            let c := (b0 - 0xe0) * 0x1000 + (b1 - 0x80) * 0x40 + (b2 - 0x80)
            if isContinuation b1 ∧ isContinuation b2 ∧ 0x800 ≤ c ∧ ¬ (0xd800 ≤ c ∧ c < 0xe000) then do
              let units ← fromBytes rest
              .ok (utf16Units c ++ units)
            else .error .rangeError
        | _ => .error .rangeError
      else if 0xf0 ≤ b0 ∧ b0 < 0xf5 then
        match rest with
        | b1 :: b2 :: b3 :: rest =>
            let c := (b0 - 0xf0) * 0x40000 + (b1 - 0x80) * 0x1000 + (b2 - 0x80) * 0x40 + (b3 - 0x80)
            if isContinuation b1 ∧ isContinuation b2 ∧ isContinuation b3 ∧ 0x10000 ≤ c ∧
                c < 0x110000 then do
              let units ← fromBytes rest
              .ok (utf16Units c ++ units)
            else .error .rangeError
        | _ => .error .rangeError
      else .error .rangeError

/-- The text of `rc setcontactinfo`: every token with a blank behind it, and padding. -/
def contactText (tokens : List String) : List Nat :=
  ((tokens.flatMap (fun token => token.toList ++ [' '])) ++
    "                     ".toList).map Char.toNat

/-- The ten characters of a chunk of contact information, big endian. -/
def contactChunk (units : List Nat) (chunk : Nat) : List UInt8 :=
  ((units.drop (chunk * 10)).take 10).flatMap
    (fun unit => [UInt8.ofNat (unit / 256), UInt8.ofNat (unit % 256)])

/-- `rc setcontactinfo` (`collector/ApiCommandParser.cpp:215-255`). -/
def handleSetContactInfo : RequestM CommandResult := do
  let line ← read (IStream.readUnsigned false)
  match line.filter (fun line => 1 ≤ line ∧ line ≤ 3) with
  | some line => do
      let tokens ← readTokens
      match fromBytes (contactText tokens) with
      | .ok units => do
          let offset (chunk : Nat) : UInt8 := UInt8.ofNat (chunk * 20 + (line.toNat - 1) * 40)
          update (fun p => (p.sendCommand EmsProto.addressUI800 0x0137 (offset 0)
            (contactChunk units 0)).sendCommand EmsProto.addressUI800 0x0137 (offset 1)
            (contactChunk units 1))
          update (·.output "\nOK")
          pure .ok
      | .error abort => throw abort
  | none => pure .invalidArgs

/-- The subcommands of `rc`. -/
def rcCommands (env : Env) : List (String × RequestM CommandResult) :=
  [("help", help ("Available subcommands:\n" ++
      "requestdata\n" ++
      "geterrors\n" ++
      "mintemperature <temp>\n" ++
      "buildingtype [light|medium|heavy]\n" ++
      "outdoortempdamping [on|off]\n" ++
      "getcontactinfo\n" ++
      "setcontactinfo 1|2|3 <text>\n" ++
      "settime YYYY-MM-DD HH:MM:SS\n" ++
      "OK")),
    ("requestdata", do
      update (fun p => ((p.startRequest EmsProto.addressUI800 0x0140 0 46 true true).startRequest
        EmsProto.addressUI800 0x00bf 0 20 true).startRequest EmsProto.addressUBA2 0x00bf 0 20 true)
      pure .ok),
    ("activeerrors", request [(EmsProto.addressUI800, 0x00bf, 0, 20)]),
    ("geterrors", request [(EmsProto.addressUI800, 0x00c0, 0, 10 * errorRecord2.size)]),
    ("mintemperature", handleSingleByteValue EmsProto.addressUI800 0x0140 10 1 (-30) 0),
    ("buildingtype", handleKeyword EmsProto.addressUI800 0x0140 9
      [("light", 1), ("medium", 2), ("heavy", 3)]),
    ("outdoortempdamping", handleKeyword EmsProto.addressUI800 0x0140 8
      [("on", 0xff), ("off", 0x00)]),
    ("settime", handleSetTime env),
    ("getcontactinfo", request [(EmsProto.addressUI800, 0x0137, 0, 120)]),
    ("setcontactinfo", handleSetContactInfo)]

/-- `handleRcCommand` (`collector/ApiCommandParser.cpp:111-258`). -/
def handleRcCommand (env : Env) : RequestM CommandResult := do
  let cmd ← readWord
  select cmd (rcCommands env)

/-- `uba schedulemaintenance` (`collector/ApiCommandParser.cpp:307-348`). -/
def handleScheduleMaintenance : RequestM CommandResult := do
  let kind ← readWord
  let schedule (data : Option (List UInt8)) : RequestM CommandResult :=
    match data with
    | some data => do
        update (·.sendCommand EmsProto.addressUBA2 0x15 0 data)
        pure .ok
    | none => pure .invalidArgs
  if kind = "bydate" then do
    let due ← read IStream.readString
    schedule ((due.bind parseHolidayEntry).map
      (fun date => [2, 60, date.day, date.month, date.year, 12]))
  else if kind = "byhours" then do
    let hours ← parseIntParameter 60
    schedule (hours.map (fun hours => [1, hours.toUInt8, 1, 1, 50, 12]))
  else if kind = "bymonths" then do
    let months ← parseIntParameter 12
    schedule (months.map (fun months => [3, 60, 1, 1, 50, months.toUInt8]))
  else if kind = "off" then
    schedule (some [0, 60, 1, 1, 50, 12])
  else
    pure .invalidArgs

/-- `uba testmode` (`collector/ApiCommandParser.cpp:374-408`). -/
def handleTestMode (now : Time) : RequestM CommandResult := do
  let mode ← readWord
  if mode = "on" then do
    update (fun p => { p with testModeRepeater :=
      p.testModeRepeater.cancel.asyncWait (now + milliseconds 1000) .start }.output "OK")
    pure .ok
  else if mode = "off" then do
    update (fun p => ({ p with testModeRepeater := p.testModeRepeater.cancel }.sendCommand
      EmsProto.addressUBA2 0x1d 0 [0x00]).output "OK")
    pure .ok
  else
    pure .invalidArgs

/-- A number of `uba teststate`, 0 if it is missing or too large. -/
def readUpTo (max : UInt32) : RequestM UInt32 := do
  let value ← read (IStream.readUnsigned false)
  pure ((value.filter (· ≤ max)).getD 0)

/-- A flag of `uba teststate`, 0 if it is missing. -/
def readFlag : RequestM UInt8 := do
  let value ← read IStream.readBool
  pure (if value.getD false then 1 else 0)

/-- `uba teststate` (`collector/ApiCommandParser.cpp:411-466`). -/
def handleTestState : RequestM CommandResult := do
  let brennerPercent ← readUpTo 100
  let fanPercent ← readUpTo 100
  let pumpePercent ← readUpTo 100
  let threeWayMode ← readUpTo 2
  let zirkPumpOn ← readFlag
  let ignitionOn ← readFlag
  let ionisatorOn ← readFlag
  update (·.sendCommand EmsProto.addressUBA2 0x2d 0
    [brennerPercent.toUInt8, 0, pumpePercent.toUInt8, threeWayMode.toUInt8, zirkPumpOn, 0, 0,
      ignitionOn, 0, fanPercent.toUInt8, 0, 0, ionisatorOn])
  pure .ok

/-- The subcommands of `uba`. -/
def ubaCommands (env : Env) : List (String × RequestM CommandResult) :=
  [("help", help ("Available subcommands:\n" ++
      "geterrors\n" ++
      "schedulemaintenance off | byhours <burnerhours / 100> | bydate YYYY-MM-DD | bymonths <uptime>\n" ++
      "checkmaintenanceneeded\n" ++
      "resetmaintenanceindicator\n" ++
      "unlockfault\n" ++
      "testmode <on|off>\n" ++
      "teststate <burnerpct> <fanpct> <pumppct> <3way012> <zirkpump01> <ignition01> <ionisator01>\n" ++
      "OK")),
    ("activeerrors", request [(EmsProto.addressUBA2, 0x00bf, 0, 20)]),
    ("geterrors", request [(EmsProto.addressUBA2, 0x00c2, 0, 10 * errorRecord2.size)]),
    ("schedulemaintenance", handleScheduleMaintenance),
    ("checkmaintenanceneeded", request [(EmsProto.addressUBA2, 0x15, 0, 10)]),
    ("resetmaintenanceindicator", do
      update (fun p => (p.sendCommand EmsProto.addressUBA2 0x05 8 [0xff]).output "OK")
      pure .ok),
    ("unlockfault", do
      update (fun p => ((p.sendCommand EmsProto.addressUBA2 0x05 0 [0x5a]).sendCommand
        EmsProto.addressUI800 0x05 0 [0x5a]).output "OK")
      pure .ok),
    ("testmode", handleTestMode env.now),
    ("teststate", handleTestState)]

/-- `handleUbaCommand` (`collector/ApiCommandParser.cpp:279-469`). -/
def handleUbaCommand (env : Env) : RequestM CommandResult := do
  let cmd ← readWord
  select cmd (ubaCommands env)

/-- The four parameters of a raw command; the first one that is not well formed ends it. -/
def readRawParameters : RequestM (Option (UInt8 × UInt16 × UInt8 × UInt8)) := do
  match ← parseIntParameter 255 with
  | none => pure none
  | some target =>
    match ← parseIntParameter 65535 with
    | none => pure none
    | some type =>
      match ← parseIntParameter 255 with
      | none => pure none
      | some offset =>
        match ← parseIntParameter 255 with
        | none => pure none
        | some last =>
          pure (some (target.toUInt8, type.toUInt16, offset.toUInt8, last.toUInt8))

def rawParameters (command : UInt8 → UInt16 → UInt8 → UInt8 → ApiCommandParser → ApiCommandParser) :
    RequestM CommandResult := do
  match ← readRawParameters with
  | some (target, type, offset, last) => do
      update (command target type offset last)
      pure .ok
  | none => pure .invalidArgs

/-- The subcommands of `raw`. -/
def rawCommands : List (String × RequestM CommandResult) :=
  [("help", help ("Available subcommands:\n" ++
      "read <target> <type> <offset> <len>\n" ++
      "write <target> <type> <offset> <data>\n" ++
      "OK")),
    ("read", rawParameters (fun target type offset len p =>
      p.startRequest target type offset.toNat len.toNat true true)),
    ("write", rawParameters (fun target type offset value p =>
      p.sendCommand target type offset [value]))]

/-- `handleRawCommand` (`collector/ApiCommandParser.cpp:472-511`). -/
def handleRawCommand : RequestM CommandResult := do
  let cmd ← readWord
  select cmd rawCommands

/-- `cache fetch` (`collector/ApiCommandParser.cpp:526-542`). -/
def handleFetch (outputValues : List String → String) : RequestM CommandResult := do
  let tokens ← readTokens
  update (fun p => (p.output (outputValues (tokens.filter (· ≠ "")))).output "OK")
  pure .ok

/-- `handleCacheCommand` (`collector/ApiCommandParser.cpp:514-546`). -/
def handleCacheCommand (env : Env) : RequestM CommandResult := do
  let cmd ← readWord
  match env.cache with
  | some outputValues =>
      select cmd [
        ("help", help ("Available subcommands:\n" ++
          "fetch <key>\n" ++
          "OK")),
        ("fetch", handleFetch outputValues)]
  | none => pure .invalidCmd

/-- `hk temporarytemp`: anything but a temperature switches it off. -/
def handleTemporaryTemp : RequestM CommandResult := do
  let result ← handleSingleByteValue EmsProto.addressUI800 0x01b9 8 2 5 30
  if result = .ok then pure .ok
  else do
    update (·.sendCommand EmsProto.addressUI800 0x01b9 8 [0xff])
    pure .ok

/-- The subcommands of `hk`. -/
def hkCommands : List (String × RequestM CommandResult) :=
  [("help", help ("Available subcommands:\n" ++
      "mode off|manual|auto\n" ++
      "manualtemp <temp>\n" ++
      "daytemperature <temp>\n" ++
      "nighttemperature <temp\n" ++
      "temporarytemp <temp>|off\n" ++
      "summerwinterthreshold <temp>\n" ++
      "summeropmode auto|heateron\n" ++
      "designtemperature <temp>\n" ++
      "roomtemperatureoffset <temp>\n" ++
      "activateboost on|off\n" ++
      "boosthours <hours>\n" ++
      "boosttemp <temp>\n" ++
      "requestdata\n" ++
      "OK")),
    ("requestdata", request [(EmsProto.addressUI800, 0x01b9, 0, 32),
      (EmsProto.addressUI800, 0x01a5, 0, 46), (EmsProto.addressUI800, 0x01af, 0, 46)] true),
    ("summerwinterthreshold", handleSingleByteValue EmsProto.addressUI800 0x01af 6 1 10 30),
    ("roomtemperatureoffset", handleSingleByteValue EmsProto.addressUI800 0x01af 2 1 (-5) 5),
    ("designtemperature", handleSingleByteValue EmsProto.addressUI800 0x01af 5 1 30 90),
    ("summeropmode", handleKeyword EmsProto.addressUI800 0x01af 7
      [("auto", 0x01), ("heateron", 0x02)]),
    ("mode", handleKeyword EmsProto.addressUI800 0x01b9 21
      [("off", 0x00), ("manual", 0x01), ("auto", 0x02)]),
    ("manualtemp", handleSingleByteValue EmsProto.addressUI800 0x01b9 22 2 5 30),
    ("daytemperature", handleSingleByteValue EmsProto.addressUI800 0x01b9 2 2 5 30),
    ("nighttemperature", handleSingleByteValue EmsProto.addressUI800 0x01b9 4 2 5 30),
    ("temporarytemp", handleTemporaryTemp),
    ("activateboost", handleKeyword EmsProto.addressUI800 0x01b9 23
      [("off", 0x00), ("on", 0xff)]),
    ("boosttemp", handleSingleByteValue EmsProto.addressUI800 0x01b9 25 2 5 30),
    ("boosthours", handleSingleByteValue EmsProto.addressUI800 0x01b9 24 1 1 8)]

/-- `handleHkCommand` (`collector/ApiCommandParser.cpp:548-653`); the number of the heating
    circuit is not used. -/
def handleHkCommand (_ : UInt16) : RequestM CommandResult := do
  let cmd ← readWord
  select cmd hkCommands

/-- The subcommands of `ww`. -/
def wwCommands : List (String × RequestM CommandResult) :=
  [("help", help ("Available subcommands:\n" ++
      "mode off|eco|comfort|followheater|auto \n" ++
      "zirkmode off|on|followww|auto \n" ++
      "zirksperhour <number> \n" ++
      "comforttemp <temp> \n" ++
      "reducedtemp <temp> \n" ++
      "extratemp <temp> \n" ++
      "extra15mins <extra duration quarterly hours> \n" ++
      "extra on|off \n" ++
      "requestdata \n" ++
      "OK")),
    ("mode", handleKeyword EmsProto.addressUI800 0x01f5 2
      [("off", 0x00), ("eco", 0x01), ("comfort", 0x02), ("followheater", 0x03), ("auto", 0x04)]),
    ("zirkmode", handleKeyword EmsProto.addressUI800 0x01f5 3
      [("off", 0x00), ("on", 0x01), ("followww", 0x02), ("auto", 0x03)]),
    ("requestdata", request [(EmsProto.addressUBA2, 0xea, 0, 25),
      (EmsProto.addressUI800, 0x01f5, 0, 21)] true),
    ("comforttemp", handleSingleByteValue EmsProto.addressUBA2 0xea 6 1 30 80),
    ("reducedtemp", handleSingleByteValue EmsProto.addressUBA2 0xea 18 1 30 80),
    ("extratemp", handleSingleByteValue EmsProto.addressUBA2 0xea 16 1 30 80),
    ("extra15mins", handleSingleByteValue EmsProto.addressUI800 0x01f5 10 1 0 16),
    ("zirksperhour", handleSingleByteValue EmsProto.addressUBA2 0xea 11 1 0 6),
    ("extra", handleKeyword EmsProto.addressUI800 0x01f5 11 [("off", 0x00), ("on", 0xff)])]

/-- `handleWwCommand` (`collector/ApiCommandParser.cpp:682-766`). -/
def handleWwCommand : RequestM CommandResult := do
  let cmd ← readWord
  select cmd wwCommands

/-- `API_VERSION` (`collector/ApiCommandParser.cpp:28`). -/
def apiVersion : String := "2023070601"

/-- The commands. -/
def commands (env : Env) : List (String × RequestM CommandResult) :=
  [("help", help ("Available commands (help with '<command> help'):\n" ++
      "hk[1|2|3|4]\n" ++
      "ww\n" ++
      "uba\n" ++
      "rc\n" ++
      "raw\n" ++
      "cache\n" ++
      "getversion\n" ++
      "OK")),
    ("hk1", handleHkCommand 61),
    ("hk2", handleHkCommand 71),
    ("hk3", handleHkCommand 81),
    ("hk4", handleHkCommand 91),
    ("ww", handleWwCommand),
    ("rc", handleRcCommand env),
    ("uba", handleUbaCommand env),
    ("raw", handleRawCommand),
    ("cache", handleCacheCommand env),
    ("getversion", do
      update (fun p => (p.output ("collector version: " ++ apiVersion)).startRequest
        EmsProto.addressUBA2 0x02 0 3)
      pure .ok)]

/-- The commands of `parse`, once the parser is known to be free. -/
def parseCommand (env : Env) : RequestM CommandResult := do
  let category ← readWord
  select category (commands env)

/-- `parse` (`collector/ApiCommandParser.cpp:59-109`). -/
def parse (env : Env) : RequestM CommandResult := fun s =>
  if s.parser.activeRequest.isSome then .ok .busy s else parseCommand env s

end ApiCommandParser

end EmsCollector
