import EmsCollector.Collector.EmsMessage
import EmsCollector.Misc.DeadlineTimer

/-!
# The command parser: requests and responses

`ApiCommandParser` (`collector/ApiCommandParser.h`, `collector/ApiCommandParser.cpp`): the state
of a client's request, what sends its telegrams, and what becomes of the answers. The calls of
`m_outputCb` and of `m_sender.sendMessage` do not return anything, so they are collected in the
order in which they are made (`effects`); the connection carries them out.
-/

namespace EmsCollector

/-- `ApiCommandParser::CommandResult` (`collector/ApiCommandParser.h:32-37`). -/
inductive CommandResult where
  | ok | busy | invalidCmd | invalidArgs
  deriving DecidableEq, Repr

/-- A call of `m_outputCb` or of `m_sender.sendMessage` with the client of the parser. -/
inductive Effect where
  | output (line : String)
  | send (message : EmsMessage)
  deriving DecidableEq, Repr

/-- The two handlers that wait for `testModeRepeater`: the one set by `uba testmode on`, which
    ignores the error code, and the one set by `refreshTestMode`, which looks at it. -/
inductive TestModeWait where
  | start | again
  deriving DecidableEq, Repr

/-- The ways in which a function of the parser does not return normally: an access outside a
    vector, a use of a byte of a local buffer that was never written, the exception of
    `std::wstring_convert` on malformed input, and that of the date of a special time value. -/
inductive Abort where
  | fault (f : Fault)
  | uninitialised (index : Nat)
  | rangeError
  | outOfRange
  deriving DecidableEq, Repr

/-- The members of `ApiCommandParser` (`collector/ApiCommandParser.h:100-114`). -/
structure ApiCommandParser where
  responseCounter : UInt32
  retriesLeft : UInt32
  activeRequest : Option EmsMessage
  requestResponse : List UInt8
  requestOffset : Nat
  requestLength : Nat
  requestDestination : UInt8
  requestType : UInt16
  parsePosition : Nat
  outputRawData : Bool
  testModeRepeater : DeadlineTimer TestModeWait
  effects : List Effect
  deriving DecidableEq, Repr

namespace ApiCommandParser

/-- The constructor (`collector/ApiCommandParser.cpp:30-45`) leaves the other members
    uninitialised. -/
structure Fresh (p : ApiCommandParser) : Prop where
  responseCounter : p.responseCounter = 0
  activeRequest : p.activeRequest = none
  requestResponse : p.requestResponse = []
  parsePosition : p.parsePosition = 0
  outputRawData : p.outputRawData = false
  testModeRepeater : p.testModeRepeater = .idle
  effects : p.effects = []

instance : Inhabited { p : ApiCommandParser // p.Fresh } :=
  ⟨⟨{ responseCounter := 0, retriesLeft := 0, activeRequest := none, requestResponse := []
      requestOffset := 0, requestLength := 0, requestDestination := 0, requestType := 0
      parsePosition := 0, outputRawData := false, testModeRepeater := .idle, effects := [] },
    ⟨rfl, rfl, rfl, rfl, rfl, rfl, rfl⟩⟩⟩

/-- `collector/ApiCommandParser.h:98`. -/
def maxRequestRetries : UInt32 := 5

/-- `collector/ApiCommandParser.h:91-95`. -/
def output (p : ApiCommandParser) (line : String) : ApiCommandParser :=
  { p with effects := p.effects ++ [.output line] }

/-- `collector/ApiCommandParser.cpp:1253-1257`. -/
def sendActiveRequest (p : ApiCommandParser) : ApiCommandParser :=
  { p with effects := p.effects ++ p.activeRequest.toList.map .send }

/-- `collector/ApiCommandParser.cpp:1215-1235`. -/
def sendCommand (p : ApiCommandParser) (dest : UInt8) (type : UInt16) (offset : UInt8)
    (data : List UInt8) (expectResponse : Bool := false) : ApiCommandParser :=
  { p with retriesLeft := maxRequestRetries
           activeRequest := some (.send dest type offset data expectResponse) }.sendActiveRequest

/-- `collector/ApiCommandParser.cpp:1198-1213`. -/
def continueRequest (p : ApiCommandParser) : Bool × ApiCommandParser :=
  let alreadyReceived := p.requestResponse.length
  if alreadyReceived ≥ p.requestLength then
    (false, p)
  else
    let offset := UInt8.ofNat (p.requestOffset + alreadyReceived)
    let remaining := UInt8.ofNat (p.requestLength - alreadyReceived)
    (true, p.sendCommand p.requestDestination p.requestType offset [remaining] true)

/-- `collector/ApiCommandParser.cpp:1172-1196`. -/
def startRequest (p : ApiCommandParser) (dest : UInt8) (type : UInt16) (offset length : Nat)
    (newRequest : Bool := true) (raw : Bool := false) : ApiCommandParser :=
  let p := { p with
    requestOffset := offset, requestLength := length, requestDestination := dest,
    requestType := type, requestResponse := [], parsePosition := 0, outputRawData := raw,
    responseCounter := if newRequest then 0 else p.responseCounter }
  p.continueRequest.2

/-- `%0<width>d` of `boost::format`. -/
def formatDec (width : Nat) (n : Nat) : String :=
  let digits := toString n
  String.ofList (List.replicate (width - digits.length) '0') ++ digits

/-- `%02x` of `boost::format`. -/
def formatHex (b : UInt8) : String :=
  String.ofList [Nat.digitChar (b.toNat / 16), Nat.digitChar (b.toNat % 16)]

/-- `%c` of `boost::format`. -/
def formatChar (b : UInt8) : String := String.ofList [Char.ofNat b.toNat]

/-- A date and time in a record listing. -/
def formatDateTime (time : DateTimeRecord) : String :=
  if time.valid then
    formatDec 4 (2000 + time.year.toNat) ++ "-" ++ formatDec 2 time.month.toNat ++ "-" ++
      formatDec 2 time.day.toNat ++ " " ++ formatDec 2 time.hour.toNat ++ ":" ++
      formatDec 2 time.minute.toNat
  else
    "xxxx-xx-xx xx:xx"

/-- `EmsProto::ErrorRecord2` (`collector/EmsMessage.h:75-82`). -/
structure ErrorRecord2 where
  source : UInt8
  errorAscii : UInt8 × UInt8 × UInt8
  code : UInt16
  start : DateTimeRecord
  stop : DateTimeRecord
  deriving DecidableEq, Repr

/-- `EmsProto::ErrorRecordShort` (`collector/EmsMessage.h:84-88`). -/
structure ErrorRecordShort where
  errorAscii : UInt8 × UInt8 × UInt8
  code : UInt16
  deriving DecidableEq, Repr

/-- A big-endian 16-bit number. -/
def be16 (high low : UInt8) : UInt16 := (high.toUInt16 <<< 8) ||| low.toUInt16

/-- The packed layout of an `ErrorRecord2`. -/
def ErrorRecord2.read : List UInt8 → Option ErrorRecord2
  | [source, _, _, _, _, a0, a1, a2, high, low, y0, mo0, h0, d0, mi0, y1, mo1, h1, d1, mi1] =>
      some { source, errorAscii := (a0, a1, a2), code := be16 high low
             start := .ofBytes y0 mo0 h0 d0 mi0, stop := .ofBytes y1 mo1 h1 d1 mi1 }
  | _ => none

/-- The packed layout of an `ErrorRecordShort`. -/
def ErrorRecordShort.read : List UInt8 → Option ErrorRecordShort
  | [_, _, a0, a1, a2, high, low] => some { errorAscii := (a0, a1, a2), code := be16 high low }
  | _ => none

/-- `collector/ApiCommandParser.cpp:1002-1036`; the empty string stands for no error. -/
def ErrorRecord2.response (r : ErrorRecord2) : String :=
  if r.errorAscii.1 = 0 then ""
  else
    formatDateTime r.start ++ " - " ++ formatDateTime r.stop ++ " " ++ formatHex r.source ++ " " ++
      formatChar r.errorAscii.1 ++ formatChar r.errorAscii.2.1 ++ formatChar r.errorAscii.2.2 ++
      " " ++ toString r.code.toNat ++ " "

/-- `collector/ApiCommandParser.cpp:1038-1052`. -/
def ErrorRecordShort.response (r : ErrorRecordShort) : String :=
  if r.errorAscii.1 = 0 then ""
  else
    formatChar r.errorAscii.1 ++ formatChar r.errorAscii.2.1 ++ formatChar r.errorAscii.2.2 ++
      " " ++ toString r.code.toNat ++ " "

/-- A kind of record in a listing: its size and the text of a record. -/
structure RecordKind where
  size : Nat
  buildRecordResponse : List UInt8 → String

def errorRecord2 : RecordKind where
  size := 20
  buildRecordResponse bytes := ((ErrorRecord2.read bytes).map ErrorRecord2.response).getD ""

def errorRecordShort : RecordKind where
  size := 7
  buildRecordResponse bytes :=
    ((ErrorRecordShort.read bytes).map ErrorRecordShort.response).getD ""

/-- The end of `loopOverResponse`: more is requested if the response is not complete. -/
def finishLoop (p : ApiCommandParser) : Option Bool × ApiCommandParser :=
  match p.continueRequest with
  | (false, p) => (some true, p)
  | (true, p) => (none, p)

/-- `loopOverResponse` (`collector/ApiCommandParser.cpp:932-957`). Every turn moves the parse
    position on, so as many turns as the response has bytes are enough. -/
def recordLoop (kind : RecordKind) (mark : String) :
    Nat → ApiCommandParser → Option Bool × ApiCommandParser
  | 0, p => p.finishLoop
  | fuel + 1, p =>
      if p.parsePosition + kind.size ≤ p.requestResponse.length then
        let response := kind.buildRecordResponse
          ((p.requestResponse.drop p.parsePosition).take kind.size)
        let p := { p with parsePosition := p.parsePosition + kind.size
                          responseCounter := p.responseCounter + 1 }
        if response = "" then (some true, p)
        else
          recordLoop kind mark fuel
            (p.output (mark ++ formatDec 2 p.responseCounter.toNat ++ " " ++ response))
      else
        p.finishLoop

def loopOverResponse (p : ApiCommandParser) (kind : RecordKind) (mark : String) :
    Option Bool × ApiCommandParser :=
  recordLoop kind mark p.requestResponse.length p

/-- `SOURCES` (`collector/ApiCommandParser.cpp:832-840`). -/
def versionSources : List (UInt8 × String) :=
  [(EmsProto.addressUBA2, "UBA2"), (EmsProto.addressUI800, "UI800"),
    (EmsProto.addressRH800, "RH800")]

/-- The index of a source among `versionSources`, their number if it is not there. -/
def versionIndex (source : UInt8) : Nat := versionSources.findIdx (fun entry => source = entry.1)

/-- The answer to a version request (`collector/ApiCommandParser.cpp:831-860`). -/
def handleVersion (p : ApiCommandParser) : Except Abort (Option Bool × ApiCommandParser) :=
  match p.requestResponse[1]?, p.requestResponse[2]? with
  | some major, some minor =>
      let index := versionIndex p.requestDestination
      let p :=
        match versionSources[index]? with
        | some (_, name) =>
            p.output (name ++ " version: " ++ toString major.toNat ++ "." ++ formatDec 2 minor.toNat)
        | none => p
      match versionSources[index + 1]? with
      | some (next, _) => .ok (none, p.startRequest next 0x02 0 3)
      | none => .ok (some true, p)
  | none, _ => .error (.fault (.subscript 1 p.requestResponse.length))
  | _, none => .error (.fault (.subscript 2 p.requestResponse.length))

/-- The UTF-8 bytes of a code point. -/
def utf8Bytes (c : Nat) : List Nat :=
  if c < 0x80 then [c]
  else if c < 0x800 then [0xc0 + c / 0x40, 0x80 + c % 0x40]
  else if c < 0x10000 then [0xe0 + c / 0x1000, 0x80 + c / 0x40 % 0x40, 0x80 + c % 0x40]
  else [0xf0 + c / 0x40000, 0x80 + c / 0x1000 % 0x40, 0x80 + c / 0x40 % 0x40, 0x80 + c % 0x40]

/-- `to_bytes` of the converter: UTF-16 code units to UTF-8. libstdc++, with which the `Makefile`
    builds, drops half a surrogate pair at the end of a text and throws on every other one. -/
def toBytes : List Nat → Except Abort (List Nat)
  | [] => .ok []
  | unit :: rest =>
      if 0xd800 ≤ unit ∧ unit < 0xdc00 then
        match rest with
        | low :: rest =>
            if 0xdc00 ≤ low ∧ low < 0xe000 then do
              let bytes ← toBytes rest
              .ok (utf8Bytes (0x10000 + (unit - 0xd800) * 0x400 + (low - 0xdc00)) ++ bytes)
            else .error .rangeError
        | [] => .ok []
      else if 0xdc00 ≤ unit ∧ unit < 0xe000 then .error .rangeError
      else do
        let bytes ← toBytes rest
        .ok (utf8Bytes unit ++ bytes)

/-- The 16-bit characters of a line of contact information, from the first bytes of a buffer of
    40; the bytes of the buffer behind them are not initialised. -/
def contactUnits (chunk : List UInt8) : Except Abort (List Nat) :=
  (List.range 20).mapM fun i =>
    match chunk[2 * i]?, chunk[2 * i + 1]? with
    | some high, some low => .ok (high.toNat * 256 + low.toNat)
    | none, _ => .error (.uninitialised (2 * i))
    | _, none => .error (.uninitialised (2 * i + 1))

def contactLine (chunk : List UInt8) : Except Abort String := do
  let units ← contactUnits chunk
  let bytes ← toBytes units
  .ok (String.ofList (bytes.map Char.ofNat))

/-- The answer to a request for contact information (`collector/ApiCommandParser.cpp:862-885`). -/
def handleContactInfo (p : ApiCommandParser) : Except Abort (Option Bool × ApiCommandParser) :=
  match p.continueRequest with
  | (true, p) => .ok (none, p)
  | (false, p) => do
      let lines ← (List.range ((p.requestResponse.length + 39) / 40)).mapM fun i =>
        contactLine ((p.requestResponse.drop (40 * i)).take 40)
      .ok (some true, lines.foldl output p)

/-- `handleResponse` (`collector/ApiCommandParser.cpp:827-930`). -/
def handleResponse (p : ApiCommandParser) : Except Abort (Option Bool × ApiCommandParser) :=
  match p.requestType.toNat with
  | 0x02 => p.handleVersion
  | 0x0137 => p.handleContactInfo
  | 0xbf => .ok ({ p with parsePosition := 3 }.loopOverResponse errorRecordShort " ")
  | 0xc0 => .ok (p.loopOverResponse errorRecord2 "R")
  | 0xc2 => .ok (p.loopOverResponse errorRecord2 "U")
  | 0x15 | 0x0140 | 0x01a5 | 0x01af | 0x01b9 | 0x01f5 | 0xea => .ok (some true, p)
  | _ => .ok (some false, p)

/-- The raw output of a response. -/
def rawOutput (response : List UInt8) : String :=
  String.join (response.map (fun b => "0x" ++ formatHex b ++ " "))

/-- A raw request: more is requested until the response is complete. -/
def handleRawResponse (p : ApiCommandParser) : Option Bool × ApiCommandParser :=
  match p.continueRequest with
  | (false, p) => (some true, p.output (rawOutput p.requestResponse))
  | (true, p) => (none, p)

/-- The data of an answer is added to the response; an answer without data ends the response. -/
def take (p : ApiCommandParser) (message : EmsMessage) : ApiCommandParser :=
  if message.data = [] then { p with requestLength := p.requestResponse.length }
  else { p with requestResponse := p.requestResponse ++ message.data }

def respond (p : ApiCommandParser) : Except Abort (Option Bool × ApiCommandParser) :=
  if p.outputRawData then .ok p.handleRawResponse else p.handleResponse

/-- `onIncomingMessage` (`collector/ApiCommandParser.cpp:769-825`); `none` is indeterminate. -/
def onIncomingMessage (p : ApiCommandParser) (message : EmsMessage) :
    Except Abort (Option Bool × ApiCommandParser) :=
  if p.activeRequest.isNone then
    .ok (none, p)
  else if message.getType = 0xff then
    .ok (some (message.offset ≠ 0x04), { p with activeRequest := none })
  else if message.source ≠ p.requestDestination ∨ message.getType ≠ p.requestType ∨
      message.offset.toNat ≠ p.requestResponse.length + p.requestOffset then
    .ok (none, p)
  else
    match (p.take message).respond with
    | .ok (result, p) =>
        .ok (result, if result = some true then { p with activeRequest := none } else p)
    | .error abort => .error abort

/-- `onTimeout` (`collector/ApiCommandParser.cpp:959-973`). -/
def onTimeout (p : ApiCommandParser) : Bool × ApiCommandParser :=
  if p.activeRequest.isNone then
    (false, p)
  else
    let p := { p with retriesLeft := p.retriesLeft - 1 }
    if p.retriesLeft = 0 then
      (true, { p with activeRequest := none })
    else
      (false, p.sendActiveRequest)

/-- `refreshTestMode` (`collector/ApiCommandParser.cpp:261-276`). -/
def refreshTestMode (p : ApiCommandParser) (now : Time) : ApiCommandParser :=
  let p := p.sendCommand EmsProto.addressUBA2 0x1d 0 [0x5a]
  { p with testModeRepeater := p.testModeRepeater.asyncWait (now + milliseconds 5000) .again }

end ApiCommandParser

end EmsCollector
