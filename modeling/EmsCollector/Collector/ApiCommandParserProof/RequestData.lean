import EmsCollector.Collector.ApiCommandParserProof.Listing
import EmsCollector.Collector.ApiCommandParserProof.Outcome

/-!
# Commands that start several requests

`rc requestdata`, `hk requestdata` and `ww requestdata` enqueue the reads of all their ranges at
once. The parser keeps the last one only: answers to the others are ignored, and what is asked for
again, after a timeout or for a missing part, is the last range.
-/

namespace EmsCollector

/-- A range that is asked for from its first byte on. The response is printed raw, or it is a list
    of active errors. -/
structure ReadRange where
  dest : UInt8
  type : UInt16
  length : Nat
  raw : Bool
  device : dest ||| 0x80 = dest := by decide
  positive : 0 < length := by decide
  small : length < 256 := by decide
  other : type ≠ 0xff := by decide
  shown : raw = true ∨ type = Listing.ubaActiveErrors.type := by decide
  deriving DecidableEq

namespace ReadRange

/-- The telegram that asks for what is missing behind the first `got` bytes. -/
def part (r : ReadRange) (got : Nat) : EmsMessage :=
  .send r.dest r.type (UInt8.ofNat got) [UInt8.ofNat (r.length - got)] true

def range (r : ReadRange) : ApiCommandParser.Range := (r.dest, r.type, 0, r.length, r.raw)

/-- A telegram with bytes of the range from the address `got` on. -/
structure Holds (r : ReadRange) (got : Nat) (message : EmsMessage) : Prop where
  source : message.source = r.dest
  type : message.getType = r.type
  offset : message.offset.toNat = got
  within : got + message.data.length ≤ r.length

/-- The request of the parser is the one for the range, of which `response` has arrived. -/
structure Asked (r : ReadRange) (response : List UInt8) (p : ApiCommandParser) : Prop where
  response : p.requestResponse = response
  destination : p.requestDestination = r.dest
  type : p.requestType = r.type
  offset : p.requestOffset = 0
  length : p.requestLength = r.length
  raw : p.outputRawData = r.raw

/-- The parser waits for the part behind `response`, which has been asked for in vain `losses`
    times. -/
structure Reading (r : ReadRange) (response : List UInt8) (losses : Nat) (p : ApiCommandParser) :
    Prop where
  asked : r.Asked response p
  active : p.activeRequest = some (r.part response.length)
  retries : p.retriesLeft.toNat + losses = 5
  few : losses ≤ 4
  missing : response.length < r.length

/-- No record of a list that is not complete stands for no error. -/
def Unbroken (r : ReadRange) (response : List UInt8) : Prop :=
  r.raw = true ∨ ∀ record ∈ Listing.ubaActiveErrors.held response, ¬ Listing.ubaActiveErrors.Empty record

instance (r : ReadRange) (response : List UInt8) : Decidable (r.Unbroken response) :=
  inferInstanceAs (Decidable (_ ∨ _))

variable {r : ReadRange} {response : List UInt8} {losses : Nat} {p : ApiCommandParser}

theorem Asked.withEffects (asked : r.Asked response p) (effects : List Effect) :
    r.Asked response { p with effects } := { asked with }

theorem Reading.withEffects (reading : r.Reading response losses p) (effects : List Effect) :
    r.Reading response losses { p with effects } :=
  { reading with asked := reading.asked.withEffects effects }

/-- The next part is asked for. -/
theorem Asked.sendCommand (asked : r.Asked response p) (missing : response.length < r.length) :
    let q := p.sendCommand p.requestDestination p.requestType
      (UInt8.ofNat (p.requestOffset + p.requestResponse.length))
      [UInt8.ofNat (p.requestLength - p.requestResponse.length)] true
    r.Reading response 0 q ∧ q.effects = p.effects ++ [.send (r.part response.length)] := by
  intro q
  obtain ⟨got, destination, type, offset, length, raw⟩ := asked
  have telegram : EmsMessage.send p.requestDestination p.requestType
      (UInt8.ofNat (p.requestOffset + p.requestResponse.length))
      [UInt8.ofNat (p.requestLength - p.requestResponse.length)] true = r.part response.length := by
    rw [got, destination, type, offset, length, Nat.zero_add]
    rfl
  refine ⟨⟨⟨got, destination, type, offset, length, raw⟩, ?_, rfl, Nat.zero_le 4, missing⟩, ?_⟩
  · exact congrArg some telegram
  · show p.effects ++ [Effect.send _] = _
    rw [telegram]

/-- A range is asked for. -/
theorem startRequest_reading (r : ReadRange) (p : ApiCommandParser) :
    let q := p.startRequest r.dest r.type 0 r.length true r.raw
    r.Reading [] 0 q ∧ q.effects = p.effects ++ [.send (r.part 0)] := by
  intro q
  let fresh : ApiCommandParser := { p with
    requestOffset := 0, requestLength := r.length, requestDestination := r.dest
    requestType := r.type, requestResponse := [], parsePosition := 0, outputRawData := r.raw
    responseCounter := 0 }
  have started : q = fresh.continueRequest.2 := rfl
  have asked : r.Asked [] fresh := ⟨rfl, rfl, rfl, rfl, rfl, rfl⟩
  rw [started, RawRead.continueRequest_missing (p := fresh) r.positive]
  exact asked.sendCommand r.positive

/-- The reads of all ranges are enqueued; the last one is active. -/
theorem startAll_reading (earlier : List ReadRange) (last : ReadRange) (p : ApiCommandParser) :
    let q := p.startAll ((earlier ++ [last]).map range)
    last.Reading [] 0 q ∧
      q.effects = p.effects ++ (earlier ++ [last]).map (fun r => Effect.send (r.part 0)) := by
  induction earlier generalizing p with
  | nil => exact startRequest_reading last p
  | cons first rest ih =>
      obtain ⟨-, effects⟩ := startRequest_reading first p
      obtain ⟨reading, effects'⟩ := ih (p.startRequest first.dest first.type 0 first.length true first.raw)
      refine ⟨reading, effects'.trans ?_⟩
      rw [effects, List.append_assoc]
      rfl

/-- A loss that is not the last one: the part is asked for again. -/
theorem Reading.timeout_again (reading : r.Reading response losses p) (few : losses < 4) :
    ∃ q, p.onTimeout = (false, q) ∧ r.Reading response (losses + 1) q ∧
      q.effects = p.effects ++ [.send (r.part response.length)] := by
  have retries := reading.retries
  have count : (p.retriesLeft - 1).toNat = p.retriesLeft.toNat - 1 :=
    ApiCommandParser.retriesLeft_pred (by omega)
  refine ⟨_, ApiCommandParser.onTimeout_again reading.active (by omega), ?_, rfl⟩
  refine { reading with asked := { reading.asked with }, retries := ?_, few := few }
  show (p.retriesLeft - 1).toNat + (losses + 1) = 5
  omega

/-- The last loss is reported. -/
theorem Reading.timeout_last (reading : r.Reading response losses p) (last : losses = 4) :
    ∃ q, p.onTimeout = (true, q) ∧ q.activeRequest = none ∧ q.effects = p.effects := by
  have retries := reading.retries
  exact ⟨_, ApiCommandParser.onTimeout_last reading.active (by omega), rfl, rfl⟩

/-- What is shown of a response, and what is asked for next. -/
theorem Asked.respond (asked : r.Asked response p) (within : response.length ≤ r.length)
    (unbroken : response.length = r.length ∨ r.Unbroken response) :
    ∃ (result : Option Bool) (q : ApiCommandParser) (lines : List String), p.respond = .ok (result, q) ∧
      (response.length < r.length ∧ result = none ∧ r.Reading response 0 q ∧
          q.effects = p.effects ++ lines.map Effect.output ++ [.send (r.part response.length)] ∨
        response.length = r.length ∧ result = some true ∧
          q.effects = p.effects ++ lines.map Effect.output) := by
  have shown := r.shown
  obtain ⟨got, destination, type, offset, length, raw⟩ := asked
  cases kind : r.raw with
  | true =>
      have printed : p.respond = .ok p.handleRawResponse := if_pos (raw.trans kind)
      rcases Nat.lt_or_eq_of_le within with missing | complete
      · have more : p.requestResponse.length < p.requestLength := by
          rw [got, length]
          exact missing
        obtain ⟨reading, effects⟩ := (Asked.mk got destination type offset length raw).sendCommand missing
        refine ⟨_, _, [], ?_, .inl ⟨missing, rfl, reading, ?_⟩⟩
        · rw [printed, ApiCommandParser.handleRawResponse, RawRead.continueRequest_missing more]
        · rw [List.map_nil, List.append_nil]
          exact effects
      · have done : p.requestLength ≤ p.requestResponse.length := by
          rw [got, length, complete]
        let line := ApiCommandParser.rawOutput p.requestResponse
        refine ⟨_, p.output line, [line], ?_, .inr ⟨complete, rfl, rfl⟩⟩
        rw [printed, ApiCommandParser.handleRawResponse, RawRead.continueRequest_complete done]
  | false =>
      have errors : r.type = Listing.ubaActiveErrors.type := by
        rcases shown with raw' | errors
        · cases kind.symm.trans raw'
        · exact errors
      let l := Listing.ubaActiveErrors
      let t := p.resumed l
      have listed : p.respond = .ok (t.loopOverResponse l.kind l.mark) := by
        unfold ApiCommandParser.respond
        rw [raw, kind, if_neg Bool.false_ne_true]
        exact ApiCommandParser.handleResponse_listing (l := l) (type.trans errors)
      have todo : records l.kind.size (t.requestResponse.drop t.parsePosition) = l.held response := by
        rw [← got]
        rfl
      have enough : (l.held response).length ≤ t.requestResponse.length := by
        rw [← todo, length_records, List.length_drop]
        exact (Nat.div_le_self _ _).trans (Nat.sub_le _ _)
      have counted : t.responseCounter = p.responseCounter := rfl
      rcases ApiCommandParser.recordLoop_lines l _ (p := t) todo enough with
        ⟨full, looped⟩ | ⟨empty, q, looped, effects⟩
      · let u := t.listed l (l.held response)
        have again : r.Asked response u := ⟨got, destination, type, offset, length, raw⟩
        have same : u.effects =
            p.effects ++ (l.lines p.responseCounter (l.held response)).map Effect.output := rfl
        rcases Nat.lt_or_eq_of_le within with missing | complete
        · have more : u.requestResponse.length < u.requestLength := by
            rw [again.response, again.length]
            exact missing
          obtain ⟨reading, effects⟩ := again.sendCommand missing
          rw [same] at effects
          refine ⟨_, _, _, ?_, .inl ⟨missing, rfl, reading, effects⟩⟩
          rw [listed, ApiCommandParser.loopOverResponse, looped, ApiCommandParser.finishLoop_missing more]
        · have done : u.requestLength ≤ u.requestResponse.length := by
            rw [again.response, again.length, complete]
          refine ⟨_, _, _, ?_, .inr ⟨complete, rfl, same⟩⟩
          rw [listed, ApiCommandParser.loopOverResponse, looped, ApiCommandParser.finishLoop_complete done]
      · have complete : response.length = r.length := by
          rcases unbroken with complete | raw' | full
          · exact complete
          · cases kind.symm.trans raw'
          · obtain ⟨record, member, nothing⟩ := empty
            exact absurd nothing (full record member)
        refine ⟨_, _, _, ?_, .inr ⟨complete, rfl, effects⟩⟩
        rw [listed, ApiCommandParser.loopOverResponse, looped]

/-- An answer with bytes of the range: what is still missing is asked for, or the request is done. -/
theorem Reading.answer (reading : r.Reading response losses p) {message : EmsMessage}
    (holds : r.Holds response.length message) (some_data : message.data ≠ [])
    (unbroken : (response ++ message.data).length = r.length ∨ r.Unbroken (response ++ message.data)) :
    ∃ (result : Option Bool) (q : ApiCommandParser) (lines : List String),
      p.onIncomingMessage message = .ok (result, q) ∧
      ((response ++ message.data).length < r.length ∧ result = none ∧
          r.Reading (response ++ message.data) 0 q ∧ q.effects = p.effects ++ lines.map Effect.output ++
            [.send (r.part (response ++ message.data).length)] ∨
        (response ++ message.data).length = r.length ∧ result = some true ∧ q.activeRequest = none ∧
          q.effects = p.effects ++ lines.map Effect.output) := by
  obtain ⟨source, type, offset, within⟩ := holds
  obtain ⟨asked, active, -, -, -⟩ := reading
  have busy : p.activeRequest.isSome = true := by
    rw [active]
    rfl
  have answer : message.getType ≠ 0xff := by
    rw [type]
    exact r.other
  have continues : p.Continues message := by
    refine ⟨source.trans asked.destination.symm, type.trans asked.type.symm, ?_⟩
    rw [asked.response, asked.offset, offset, Nat.add_zero]
  have taken : r.Asked (response ++ message.data) (p.take message) := by
    rw [ApiCommandParser.take_some some_data]
    exact { asked with response := congrArg (· ++ message.data) asked.response }
  have effects : (p.take message).effects = p.effects := by
    rw [ApiCommandParser.take_some some_data]
  have bound : (response ++ message.data).length ≤ r.length := by
    rw [List.length_append]
    exact within
  obtain ⟨result, q, lines, responded, outcome⟩ := taken.respond bound unbroken
  rw [effects] at outcome
  have answered := ApiCommandParser.onIncomingMessage_answered busy answer continues responded
  rcases outcome with ⟨missing, rfl, next, sent⟩ | ⟨complete, rfl, printed⟩
  · exact ⟨_, _, lines, answered, .inl ⟨missing, rfl, next, sent⟩⟩
  · exact ⟨_, _, lines, answered, .inr ⟨complete, rfl, rfl, printed⟩⟩

/-- An answer to the read of another range is ignored. -/
theorem Reading.ignores (reading : r.Reading response losses p) {other : ReadRange} {got : Nat}
    {message : EmsMessage} (holds : other.Holds got message)
    (different : other.dest ≠ r.dest ∨ other.type ≠ r.type) :
    p.onIncomingMessage message = .ok (none, p) := by
  have answer : message.getType ≠ 0xff := by
    rw [holds.type]
    exact other.other
  refine ApiCommandParser.onIncomingMessage_ignored answer ?_
  rintro ⟨source, type, -⟩
  rw [holds.source, reading.asked.destination] at source
  rw [holds.type, reading.asked.type] at type
  rcases different with dest | kind
  · exact dest source
  · exact kind type

end ReadRange

/-- The commands that start several requests. -/
inductive Refresh where
  | rc | hk1 | hk2 | hk3 | hk4 | ww
  deriving DecidableEq, Repr

namespace Refresh

def word : Refresh → String
  | rc => "rc"
  | hk1 => "hk1"
  | hk2 => "hk2"
  | hk3 => "hk3"
  | hk4 => "hk4"
  | ww => "ww"

/-- The ranges that are started before the last one. -/
def earlier : Refresh → List ReadRange
  | rc =>
      [{ dest := EmsProto.addressUI800, type := 0x0140, length := 46, raw := true },
        { dest := EmsProto.addressUI800, type := 0x00bf, length := 20, raw := false }]
  | hk1 | hk2 | hk3 | hk4 =>
      [{ dest := EmsProto.addressUI800, type := 0x01b9, length := 32, raw := true },
        { dest := EmsProto.addressUI800, type := 0x01a5, length := 46, raw := true }]
  | ww => [{ dest := EmsProto.addressUBA2, type := 0xea, length := 25, raw := true }]

def last : Refresh → ReadRange
  | rc => { dest := EmsProto.addressUBA2, type := 0x00bf, length := 20, raw := false }
  | hk1 | hk2 | hk3 | hk4 => { dest := EmsProto.addressUI800, type := 0x01af, length := 46, raw := true }
  | ww => { dest := EmsProto.addressUI800, type := 0x01f5, length := 21, raw := true }

/-- The ranges that the command starts. -/
def ranges (c : Refresh) : List ReadRange := c.earlier ++ [c.last]

/-- The buffer begins with the command. -/
def Typed (c : Refresh) (s : Session) : Prop :=
  ∃ first second, ApiCommandParser.nextWord s.request = (c.word, first) ∧
    ApiCommandParser.nextWord first = ("requestdata", second)

variable {c : Refresh}

/-- No answer can be taken for one to the last read. -/
theorem earlier_other (c : Refresh) {r : ReadRange} (member : r ∈ c.earlier) :
    r.dest ≠ c.last.dest ∨ r.type ≠ c.last.type := by
  revert r
  cases c <;> decide

/-- An idle parser enqueues the reads of all ranges. -/
theorem parse_refresh {s : Session} (typed : c.Typed s) (idle : s.parser.activeRequest = none)
    (env : Env) : ∃ t, ApiCommandParser.parse env s = .ok .ok t ∧
      t.parser = s.parser.startAll (c.ranges.map ReadRange.range) := by
  obtain ⟨first, second, category, cmd⟩ := typed
  refine ⟨⟨s.parser.startAll (c.ranges.map ReadRange.range), second⟩, ?_, rfl⟩
  rw [ApiCommandParser.parse_word idle category]
  cases c with
  | rc =>
      show ApiCommandParser.handleRcCommand env ⟨s.parser, first⟩ = _
      unfold ApiCommandParser.handleRcCommand
      rw [ApiCommandParser.readWord_bind, cmd]
      rfl
  | hk1 =>
      show ApiCommandParser.handleHkCommand 61 ⟨s.parser, first⟩ = _
      unfold ApiCommandParser.handleHkCommand
      rw [ApiCommandParser.readWord_bind, cmd]
      rfl
  | hk2 =>
      show ApiCommandParser.handleHkCommand 71 ⟨s.parser, first⟩ = _
      unfold ApiCommandParser.handleHkCommand
      rw [ApiCommandParser.readWord_bind, cmd]
      rfl
  | hk3 =>
      show ApiCommandParser.handleHkCommand 81 ⟨s.parser, first⟩ = _
      unfold ApiCommandParser.handleHkCommand
      rw [ApiCommandParser.readWord_bind, cmd]
      rfl
  | hk4 =>
      show ApiCommandParser.handleHkCommand 91 ⟨s.parser, first⟩ = _
      unfold ApiCommandParser.handleHkCommand
      rw [ApiCommandParser.readWord_bind, cmd]
      rfl
  | ww =>
      show ApiCommandParser.handleWwCommand ⟨s.parser, first⟩ = _
      unfold ApiCommandParser.handleWwCommand
      rw [ApiCommandParser.readWord_bind, cmd]
      rfl

end Refresh

end EmsCollector
