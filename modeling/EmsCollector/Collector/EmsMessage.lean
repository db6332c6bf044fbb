import EmsCollector.Collector.EmsValue

/-!
# Telegrams

`EmsMessage` (`collector/EmsMessage.h:335-434`, `collector/EmsMessage.cpp:144-592`): the
constructor that takes a payload apart, and the parsers that hand the values of a telegram to
the value handler. An access that leaves `m_data` ends in a `Fault`; what it would read is
undefined in the source, except for `at()`, which throws.
-/

namespace EmsCollector

namespace EmsProto

/-- `collector/EmsMessage.h:32-36`. -/
abbrev addressUBA2 : UInt8 := 0x88
abbrev addressPC : UInt8 := 0x8b
abbrev addressUI800 : UInt8 := 0x90
abbrev addressRH800 : UInt8 := 0xb8

end EmsProto

/-- An access outside `m_data`: by `operator[]`, by `at()`, by a read of several bytes behind
    `at()`, by `erase`. -/
inductive Fault where
  | subscript (index size : Nat)
  | at (index size : Nat)
  | read (index count size : Nat)
  | erase (index count size : Nat)
  deriving DecidableEq, Repr

/-- `vec[index]`. -/
def subscript (vec : List UInt8) (index : Nat) : Except Fault UInt8 :=
  match vec[index]? with
  | some b => .ok b
  | none => .error (.subscript index vec.length)

/-- `count` bytes read through `&vec.at(index)`. -/
def bytesAt (vec : List UInt8) (index count : Nat) : Except Fault (List UInt8) :=
  if index < vec.length then
    if index + count ≤ vec.length then
      .ok ((vec.drop index).take count)
    else
      .error (.read index count vec.length)
  else
    .error (.at index vec.length)

/-- `vec.erase(vec.begin() + index, vec.begin() + index + count)`. -/
def eraseRange (vec : List UInt8) (index count : Nat) : Except Fault (List UInt8) :=
  if index + count ≤ vec.length then
    .ok (vec.take index ++ vec.drop (index + count))
  else
    .error (.erase index count vec.length)

/-- The members of `EmsMessage` (`collector/EmsMessage.h:423-433`); `valueHandler` says whether
    `m_valueHandler` is set. -/
structure EmsMessage where
  valueHandler : Bool
  data : List UInt8
  source : UInt8
  dest : UInt8
  type : UInt8
  extType : UInt16
  offset : UInt8
  deriving DecidableEq, Repr

namespace EmsMessage

/-- `getType` (`collector/EmsMessage.h:354-357`). -/
def getType (m : EmsMessage) : UInt16 := if m.extType ≠ 0 then m.extType else m.type.toUInt16

/-- The receive constructor (`collector/EmsMessage.cpp:144-175`). -/
def receive (data : List UInt8) : Except Fault EmsMessage :=
  match data with
  | source :: dest :: type :: offset :: rest =>
      let isRead : Bool := dest &&& 0x80 = 0
      let isPlus : Bool := type ≥ 0xf0 ∧ data.length ≥ (if isRead then 7 else 6)
      if isPlus then do
        let start := if isRead then 0 else 1
        let high ← subscript rest start
        let low ← subscript rest (start + 1)
        let rest ← eraseRange rest start 2
        .ok { valueHandler := true, data := rest, source, dest, type,
              extType := (high.toUInt16 <<< 8) ||| low.toUInt16, offset }
      else
        .ok { valueHandler := true, data := rest, source, dest, type, extType := 0, offset }
  | _ =>
      .ok { valueHandler := true, data, source := 0, dest := 0, type := 0, extType := 0,
            offset := 0 }

/-- The send constructor (`collector/EmsMessage.cpp:177-191`). -/
def send (dest : UInt8) (type : UInt16) (offset : UInt8) (data : List UInt8)
    (expectResponse : Bool) : EmsMessage :=
  { valueHandler := false, data, source := EmsProto.addressPC
    dest := if expectResponse then dest ||| 0x80 else dest &&& 0x7f
    type := if type < 0xf0 then type.toUInt8 else 0xff
    extType := if type ≥ 0xf0 then type else 0
    offset }

theorem direction_read (dest : UInt8) : (dest ||| 0x80) &&& 0x80 = 0x80 := by
  apply UInt8.eq_of_toBitVec_eq
  ext i bound
  simp only [UInt8.toBitVec_and, UInt8.toBitVec_or, BitVec.getElem_and, BitVec.getElem_or]
  cases dest.toBitVec[i] <;> simp

theorem direction_write (dest : UInt8) : (dest &&& 0x7f) &&& 0x80 = 0 := by
  rw [UInt8.and_assoc, show (0x7f : UInt8) &&& 0x80 = 0 from rfl, UInt8.and_zero]

/-- Bit 7 of the destination: the telegram is a read and expects an answer. -/
def Read (m : EmsMessage) : Prop := m.dest &&& 0x80 ≠ 0

instance (m : EmsMessage) : Decidable m.Read := inferInstanceAs (Decidable (_ ≠ _))

theorem send_read (dest : UInt8) (type : UInt16) (offset : UInt8) (data : List UInt8) :
    (send dest type offset data true).Read := by
  show (dest ||| 0x80) &&& 0x80 ≠ 0
  rw [direction_read]
  decide

theorem send_not_read (dest : UInt8) (type : UInt16) (offset : UInt8) (data : List UInt8) :
    ¬ (send dest type offset data false).Read := fun read => read (direction_write dest)

/-- `getSendData` (`collector/EmsMessage.cpp:193-248`). -/
def getSendData (m : EmsMessage) (omitSenderAddress : Bool) : Except Fault (List UInt8) :=
  let header := (if omitSenderAddress then [] else [EmsProto.addressPC]) ++
    [m.dest, m.type, m.offset]
  let isRead : Bool := m.dest &&& 0x80 > 0
  let extType := [(m.extType >>> 8).toUInt8, (m.extType &&& 0xff).toUInt8]
  if m.type ≥ 0xf0 then
    if isRead then do
      let length ← subscript m.data 0
      .ok (header ++ [length] ++ extType)
    else
      .ok (header ++ extType ++ m.data)
  else
    .ok (header ++ m.data)

/-- The parsers run with the values handed out so far as their state. -/
abbrev ParseM := StateT (List EmsValue) (Except Fault)

/-- A call of `m_valueHandler`. -/
def handOut (value : EmsValue) : ParseM Unit := fun values => .ok ((), values ++ [value])

/-- `canAccess` (`collector/EmsMessage.h:407-409`). -/
def canAccess (m : EmsMessage) (offset size : Nat) : Bool :=
  offset ≥ m.offset.toNat ∧ offset + size ≤ m.offset.toNat + m.data.length

/-- `INVALID_TEMPERATURE_VALUES` (`collector/EmsMessage.cpp:28-32`). -/
def invalidTemperatureValues : List (List UInt8) := [[0x7d, 0x00], [0x83, 0x00]]

/-- `parseEnum` (`collector/EmsMessage.cpp:336-343`). -/
def parseEnum (m : EmsMessage) (offset : Nat) (type : EmsValue.ValueType)
    (subtype : EmsValue.SubType) : ParseM Unit :=
  if m.canAccess offset 1 then do
    let b ← subscript m.data (offset - m.offset.toNat)
    handOut (.ofEnum type subtype b)
  else
    pure ()

/-- `parseNumeric` (`collector/EmsMessage.cpp:345-355`), with the default arguments of its
    declaration. -/
def parseNumeric (m : EmsMessage) (offset size divider : Nat) (type : EmsValue.ValueType)
    (subtype : EmsValue.SubType) (isSigned : Bool := true)
    (invalidValues : List (List UInt8) := []) : ParseM Unit :=
  if m.canAccess offset size then do
    let field ← bytesAt m.data (offset - m.offset.toNat) size
    handOut (.ofField type subtype field divider isSigned invalidValues)
  else
    pure ()

/-- `parseInteger` (`collector/EmsMessage.h:395-398`). -/
def parseInteger (m : EmsMessage) (offset size : Nat) (type : EmsValue.ValueType)
    (subtype : EmsValue.SubType) : ParseM Unit :=
  m.parseNumeric offset size 0 type subtype false

/-- `parseTemperature` (`collector/EmsMessage.h:399-401`). -/
def parseTemperature (m : EmsMessage) (offset : Nat) (type : EmsValue.ValueType)
    (subtype : EmsValue.SubType) : ParseM Unit :=
  m.parseNumeric offset 2 10 type subtype true invalidTemperatureValues

/-- `parseBool` (`collector/EmsMessage.cpp:357-365`). -/
def parseBool (m : EmsMessage) (offset : Nat) (bit : UInt8) (type : EmsValue.ValueType)
    (subtype : EmsValue.SubType) : ParseM Unit :=
  if m.canAccess offset 1 then do
    let field ← bytesAt m.data (offset - m.offset.toNat) 1
    handOut (.ofBit type subtype (field.headD 0) bit)
  else
    pure ()

/-- `collector/EmsMessage.cpp:368-375`. -/
def parseUI800SystemParameterMessage (m : EmsMessage) : ParseM Unit := do
  m.parseNumeric 10 1 1 .minTemp .rc
  m.parseEnum 9 .gebaeudeArt .rc
  m.parseBool 8 1 .atDaempfung .rc

/-- `collector/EmsMessage.cpp:378-386`. -/
def parseUI800HKParameterMessage (m : EmsMessage) : ParseM Unit := do
  m.parseNumeric 2 1 1 .raumOffset .hk1
  m.parseNumeric 5 1 1 .auslegungsTemp .hk1
  m.parseNumeric 6 1 1 .schwelleSommerWinter .hk1
  m.parseEnum 7 .sommerbetriebsart .hk1

/-- The date record at offset 2 (`collector/EmsMessage.cpp:395-398`). -/
def parseWartungstermin (m : EmsMessage) : ParseM Unit :=
  if m.canAccess 2 3 then do
    let field ← bytesAt m.data (2 - m.offset.toNat) 3
    match DateRecord.read field with
    | some record => handOut (.ofDate .wartungstermin .kessel record)
    | none => pure ()
  else
    pure ()

/-- `collector/EmsMessage.cpp:389-399`. -/
def parseUBA2MaintenanceSettingsMessage (m : EmsMessage) : ParseM Unit := do
  m.parseEnum 0 .wartungsmeldungen .kessel
  m.parseInteger 1 1 .hektoStundenVorWartung .kessel
  m.parseInteger 5 1 .monateVorWartung .kessel
  m.parseWartungstermin

/-- `collector/EmsMessage.cpp:411-419`. -/
def parseUI800WWConfiguration (m : EmsMessage) : ParseM Unit := do
  m.parseEnum 2 .betriebsart .ww
  m.parseEnum 3 .betriebsart .zirkulation
  m.parseNumeric 10 1 1 .extra15Mins .ww
  m.parseBool 11 0 .extraActive .ww

/-- `collector/EmsMessage.cpp:421-427`. -/
def parseUI800WWStatusData (m : EmsMessage) : ParseM Unit := do
  m.parseNumeric 4 2 1 .extraRemainingMins .ww
  m.parseEnum 8 .betriebszustand .ww

/-- `collector/EmsMessage.cpp:429-434`. -/
def parseUI800ZPStatusData (m : EmsMessage) : ParseM Unit :=
  m.parseEnum 0 .betriebszustand .zirkulation

/-- `collector/EmsMessage.cpp:437-456`. -/
def parseUI800HKConfiguration (m : EmsMessage) : ParseM Unit := do
  m.parseEnum 21 .betriebsart .hk1
  m.parseNumeric 8 1 2 .temporaryTemp .hk1 false invalidTemperatureValues
  m.parseNumeric 22 1 2 .manualTemp .hk1
  m.parseBool 23 0 .boostActive .hk1
  m.parseNumeric 24 1 1 .boostHours .hk1
  m.parseNumeric 25 1 2 .boostTemp .hk1
  m.parseNumeric 4 1 2 .nachtTemp .hk1
  m.parseNumeric 2 1 2 .tagTemp .hk1

/-- `collector/EmsMessage.cpp:458-465`. -/
def parseUI800HKStatusData (m : EmsMessage) : ParseM Unit := do
  m.parseNumeric 41 2 1 .boostRemainingMins .hk1
  m.parseEnum 10 .betriebszustand .hk1
  m.parseBool 2 4 .sommerbetrieb .hk1

/-- The characters written by `ss << byte << ...`. -/
def streamChars (bytes : List UInt8) : String :=
  String.ofList (bytes.map (fun b => Char.ofNat b.toNat))

/-- The decimal number written by `ss << std::dec << (high << 8 | low)`. -/
def streamWord (high low : UInt8) : String := toString (high.toNat * 256 + low.toNat)

/-- The code of the `i`-th error (`collector/EmsMessage.cpp:479-486`). The test uses the offset
    in the telegram, the reads use it as an index into `m_data`. -/
def parseErrorCode (m : EmsMessage) (i : Nat) : ParseM Bool :=
  if m.canAccess (5 + i * 7) 3 then do
    let c0 ← subscript m.data (5 + i * 7)
    let c1 ← subscript m.data (6 + i * 7)
    let c2 ← subscript m.data (7 + i * 7)
    if c0 ||| c1 ||| c2 > 0 then do
      handOut (.ofString .stoerungsCode .none (streamChars [c0, c1, c2]))
      pure true
    else
      pure false
  else
    pure false

/-- The number of the `i`-th error (`collector/EmsMessage.cpp:488-495`). -/
def parseErrorNumber (m : EmsMessage) (i : Nat) : ParseM Bool :=
  if m.canAccess (8 + i * 7) 2 then do
    let high ← subscript m.data (8 + i * 7)
    let low ← subscript m.data (9 + i * 7)
    if high ||| low > 0 then do
      handOut (.ofString .stoerungsNummer .none (streamWord high low))
      pure true
    else
      pure false
  else
    pure false

/-- One turn of the loop over the three errors. -/
def parseErrorEntry (m : EmsMessage) (i : Nat) : ParseM Bool := do
  let code ← m.parseErrorCode i
  let number ← m.parseErrorNumber i
  pure (code || number)

/-- The fault flag of one of the two devices (`collector/EmsMessage.cpp:471-472`). -/
def parseStoerung (m : EmsMessage) (device : UInt8) (subtype : EmsValue.SubType) :
    ParseM Unit := do
  let first ← subscript m.data 0
  if first = device then
    m.parseBool 7 4 .stoerung subtype
  else
    pure ()

/-- `collector/EmsMessage.cpp:467-506`. -/
def parseUI800ErrorMessage (m : EmsMessage) : ParseM Unit := do
  m.parseStoerung 0x08 .kessel
  m.parseStoerung 0x10 .rc
  let first ← m.parseErrorEntry 0
  let second ← m.parseErrorEntry 1
  let third ← m.parseErrorEntry 2
  if first || second || third then
    pure ()
  else do
    handOut (.ofString .stoerungsCode .none "OK")
    handOut (.ofString .stoerungsNummer .none "0")

/-- `collector/EmsMessage.cpp:403-409`. -/
def parseUBA2ErrorMessage (m : EmsMessage) : ParseM Unit := m.parseUI800ErrorMessage

/-- The error code at offset 4 (`collector/EmsMessage.cpp:525-531`), again read at the offset
    in the telegram. -/
def parseFehlerCode (m : EmsMessage) : ParseM Unit :=
  if m.canAccess 4 2 then do
    let high ← subscript m.data 4
    let low ← subscript m.data 5
    handOut (.ofString .fehlerCode .none (streamWord high low))
    handOut (.ofString .serviceCode .none "--")
  else
    pure ()

/-- The flame flag (`collector/EmsMessage.cpp:533-538`). -/
def parseFlammeAktiv (m : EmsMessage) : ParseM Unit :=
  if m.canAccess 19 2 then do
    let high ← subscript m.data 19
    let low ← subscript m.data 20
    let bakt : UInt8 := if high.toNat * 256 + low.toNat > 5 then 1 else 0
    handOut (.ofBit .flammeAktiv .none bakt 0)
  else
    pure ()

/-- `collector/EmsMessage.cpp:510-539`. -/
def parseUBA2MonitorMessage (m : EmsMessage) : ParseM Unit := do
  m.parseNumeric 6 1 1 .sollTemp .kessel
  m.parseTemperature 7 .istTemp .kessel
  m.parseTemperature 13 .istTemp .waermetauscher
  m.parseTemperature 17 .istTemp .ruecklauf
  m.parseNumeric 19 2 10 .flammenstrom .none
  m.parseNumeric 21 1 10 .systemdruck .none false
  m.parseInteger 40 1 .istModulation .brenner
  m.parseInteger 41 1 .sollModulation .brenner
  m.parseFehlerCode
  m.parseFlammeAktiv

/-- `collector/EmsMessage.cpp:541-549`. -/
def parseUBA2MonitorMessage2 (m : EmsMessage) : ParseM Unit := do
  m.parseInteger 25 1 .istModulation .kesselPumpe
  m.parseBool 26 5 .dreiWegeVentilAufWW .none
  m.parseBool 2 7 .zirkulationAktiv .none

/-- `collector/EmsMessage.cpp:551-555`. -/
def parseUBA2OutdoorMessage (m : EmsMessage) : ParseM Unit :=
  m.parseTemperature 0 .istTemp .aussen

/-- `collector/EmsMessage.cpp:558-564`. -/
def parseUBA2WWMonitorMessage (m : EmsMessage) : ParseM Unit := do
  m.parseNumeric 0 1 1 .sollTemp .ww
  m.parseTemperature 1 .istTemp .ww

/-- `collector/EmsMessage.cpp:566-569`. -/
def parseUBA2WWMonitorMessage2 (_ : EmsMessage) : ParseM Unit := pure ()

/-- `collector/EmsMessage.cpp:571-580`. -/
def parseUBA2WWParameterMessage (m : EmsMessage) : ParseM Unit := do
  m.parseNumeric 6 1 1 .komfortTemp .ww
  m.parseNumeric 11 1 1 .zirkProStunde .zirkulation
  m.parseNumeric 16 1 1 .extraTemp .ww
  m.parseNumeric 18 1 1 .reduzierteTemp .ww

/-- `collector/EmsMessage.cpp:584-592`. -/
def parseRCTimeMessage (m : EmsMessage) : ParseM Unit :=
  if m.canAccess 0 8 then do
    let field ← bytesAt m.data 0 8
    match SystemTimeRecord.read field with
    | some record => handOut (.ofSystemTime .systemZeit .none record)
    | none => pure ()
  else
    pure ()

/-- The dispatch of `handle` on source and type (`collector/EmsMessage.cpp:292-323`). -/
def dispatch (m : EmsMessage) : ParseM Unit :=
  if m.source = EmsProto.addressUBA2 then
    match m.getType.toNat with
    | 0x15 => m.parseUBA2MaintenanceSettingsMessage
    | 0xd1 => m.parseUBA2OutdoorMessage
    | 0xe4 => m.parseUBA2MonitorMessage
    | 0xe5 => m.parseUBA2MonitorMessage2
    | 0xe9 => m.parseUBA2WWMonitorMessage
    | 0xea => m.parseUBA2WWParameterMessage
    | 0x2d => m.parseUBA2WWMonitorMessage2
    | 0xbf => m.parseUBA2ErrorMessage
    | _ => pure ()
  else if m.source = EmsProto.addressUI800 then
    match m.getType.toNat with
    | 0x06 => m.parseRCTimeMessage
    | 0xbf => m.parseUI800ErrorMessage
    | 0x01f5 => m.parseUI800WWConfiguration
    | 0x021d => m.parseUI800WWStatusData
    | 0x00e7 => m.parseUI800ZPStatusData
    | 0x0140 => m.parseUI800SystemParameterMessage
    | 0x01b9 => m.parseUI800HKConfiguration
    | 0x01a5 => m.parseUI800HKStatusData
    | 0x01af => m.parseUI800HKParameterMessage
    | _ => pure ()
  else
    pure ()

/-- `handle` (`collector/EmsMessage.cpp:250-334`): the values handed out, in order. -/
def handle (m : EmsMessage) : Except Fault (List EmsValue) :=
  if !m.valueHandler then
    .ok []
  else if m.source = 0 ∧ m.dest = 0 ∧ m.type = 0 then
    .ok []
  else
    (m.dispatch []).map Prod.snd

end EmsMessage

end EmsCollector
