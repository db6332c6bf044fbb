import EmsCollector.Collector.ApiCommandParserProof.RawRead
import EmsCollector.Collector.CommandHandler

/-!
# The end of the data of an EMS-plus type

A device that has no more data answers a read with a header and no payload. For an EMS-plus type
the receive constructor wants seven bytes of such a telegram before it takes the type from it,
and six are all there are: the telegram keeps the type 0xff, and the parser takes it for the
acknowledgement of a write.
-/

namespace EmsCollector

namespace EmsMessage

/-- The answer to a read of an EMS-plus type behind the end of the data. -/
def headerOnly (target : UInt8) (type : UInt16) (offset : UInt8) : List UInt8 :=
  [target, 0x0b, 0xff, offset, (type >>> 8).toUInt8, (type &&& 0xff).toUInt8]

/-- The receive constructor leaves the type in the data. -/
theorem receive_headerOnly (target : UInt8) (type : UInt16) (offset : UInt8) :
    receive (headerOnly target type offset) =
      .ok { valueHandler := true, data := [(type >>> 8).toUInt8, (type &&& 0xff).toUInt8]
            source := target, dest := 0x0b, type := 0xff, extType := 0, offset } := by
  have answer : (0x0b : UInt8) &&& 0x80 = 0 := by decide
  simp [receive, headerOnly, answer]

end EmsMessage

namespace ApiCommandParser

open EmsMessage (headerOnly receive_headerOnly)

/-- The parser reads a range of an EMS-plus type, by `raw read` or `rc getcontactinfo`, and part of
    the range is missing. -/
structure PlusRead (p : ApiCommandParser) : Prop where
  active : p.activeRequest.isSome = true
  plus : p.requestType ≥ 0xf0
  other : p.requestType ≠ 0xff
  missing : p.requestResponse.length < p.requestLength
  prints : p.outputRawData = true ∨ p.requestType = 0x0137

/-- What the request prints if nothing follows the bytes received so far. -/
def closingLines (p : ApiCommandParser) : Except Abort (List String) :=
  if p.outputRawData then .ok [rawOutput p.requestResponse]
  else (List.range ((p.requestResponse.length + 39) / 40)).mapM fun i =>
    contactLine ((p.requestResponse.drop (40 * i)).take 40)

/-- The answer that the device gives behind the end of its data. -/
def endTelegram (p : ApiCommandParser) : List UInt8 :=
  headerOnly p.requestDestination p.requestType
    (UInt8.ofNat (p.requestOffset + p.requestResponse.length))

/-- The telegram without payload ends the request: it has the requested type and no data, what has
    been received so far is printed, and the command ends with `OK`. -/
def EndRecognised (p : ApiCommandParser) : Prop :=
  ∃ message lines q, EmsMessage.receive p.endTelegram = .ok message ∧
    message.getType = p.requestType ∧ message.data = [] ∧ p.closingLines = .ok lines ∧
    p.onIncomingMessage message = .ok (some true, q) ∧
    q.effects = p.effects ++ lines.map Effect.output

variable {p q : ApiCommandParser}

/-- A request for a range that is not empty begins such a read. -/
theorem startRequest_plusRead (p : ApiCommandParser) (dest : UInt8) {type : UInt16} (offset : Nat)
    {length : Nat} {raw : Bool} (plus : type ≥ 0xf0) (other : type ≠ 0xff) (some_bytes : 1 ≤ length)
    (prints : raw = true ∨ type = 0x0137) : (p.startRequest dest type offset length true raw).PlusRead := by
  let fresh : ApiCommandParser := { p with
    requestOffset := offset, requestLength := length, requestDestination := dest
    requestType := type, requestResponse := [], parsePosition := 0, outputRawData := raw
    responseCounter := 0 }
  have missing : fresh.requestResponse.length < fresh.requestLength := some_bytes
  have started : p.startRequest dest type offset length true raw = fresh.continueRequest.2 := rfl
  rw [started, RawRead.continueRequest_missing missing]
  exact ⟨rfl, plus, other, missing, prints⟩

/-- The telegram behind the end of the data has the type of an acknowledgement, and the type of the
    request is left in its data. -/
theorem receive_endTelegram (p : ApiCommandParser) :
    ∃ message, EmsMessage.receive p.endTelegram = .ok message ∧ message.getType = 0xff ∧
      message.data.length = 2 :=
  ⟨_, receive_headerOnly _ _ _, rfl, rfl⟩

theorem not_endRecognised (p : ApiCommandParser) : ¬ p.EndRecognised := by
  rintro ⟨message, lines, q, received, -, no_data, -⟩
  obtain ⟨message', received', -, two⟩ := receive_endTelegram p
  cases received.symm.trans received'
  rw [no_data] at two
  cases two

/-- The end of the data is never recognised: at every number of bytes received so far, of every
    EMS-plus type, the telegram is taken for an acknowledgement and ends the request without anything
    printed. -/
theorem end_of_data_never (reading : p.PlusRead) :
    ¬ p.EndRecognised ∧ ∃ message, EmsMessage.receive p.endTelegram = .ok message ∧
      message.getType = 0xff ∧ p.onIncomingMessage message =
        .ok (some (message.offset ≠ 0x04), { p with activeRequest := none }) := by
  obtain ⟨message, received, acknowledges, -⟩ := receive_endTelegram p
  exact ⟨not_endRecognised p, message, received, acknowledges,
    onIncomingMessage_acknowledged reading.active acknowledges⟩

/-- A read of three bytes from 5 on. -/
def plusRead : ApiCommandParser :=
  (default : { p : ApiCommandParser // p.Fresh }).1.startRequest 0x10 0x01b9 5 3 true true

theorem end_of_data_never_plusRead : plusRead.PlusRead ∧ ¬ plusRead.EndRecognised :=
  have reading := startRequest_plusRead _ 0x10 5 (by decide) (by decide) (by decide) (.inl rfl)
  ⟨reading, (end_of_data_never reading).1⟩

/-- Two of the three bytes have arrived and there are no more: they are not printed. -/
theorem received_bytes_discarded :
    ∃ conn conn' : CommandConnection, conn.parser.PlusRead ∧ conn.parser.requestResponse = [0x21, 0x22] ∧
      [.segment "raw read 16 441 5 3\n".toList, .request ⟨none, fun s => (none, s), 0⟩,
        .incoming { valueHandler := true, data := [0x21, 0x22], source := 0x10, dest := 0x0b
                    type := 0xff, extType := 0x01b9, offset := 5 }].foldlM
          (fun conn e => (conn.step e).map Prod.fst) (CommandConnection.new default) = some conn ∧
      ¬ conn.parser.EndRecognised ∧
      (∃ message sent, EmsMessage.receive conn.parser.endTelegram = .ok message ∧
        conn.step (.incoming message) = some (conn', sent)) ∧
      conn'.replies = ["OK"] := by
  let conn := ([.segment "raw read 16 441 5 3\n".toList, .request ⟨none, fun s => (none, s), 0⟩,
        .incoming { valueHandler := true, data := [0x21, 0x22], source := 0x10, dest := 0x0b
                    type := 0xff, extType := 0x01b9, offset := 5 }].foldlM
          (fun conn e => (CommandConnection.step conn e).map Prod.fst)
          (CommandConnection.new default)).get (by decide +kernel)
  let message : EmsMessage :=
    { valueHandler := true, data := [0x01, 0xb9], source := 0x10, dest := 0x0b, type := 0xff
      extType := 0, offset := 7 }
  let conn' := (conn.step (.incoming message)).get (by decide +kernel)
  have reading : conn.parser.PlusRead := by
    constructor <;> decide +kernel
  have stepped : conn.step (.incoming message) = some conn' := (Option.some_get _).symm
  exact ⟨conn, conn'.1, reading, by decide +kernel, (Option.some_get _).symm, not_endRecognised _,
    ⟨message, conn'.2, by decide +kernel, stepped⟩, by decide +kernel⟩

end ApiCommandParser

end EmsCollector
