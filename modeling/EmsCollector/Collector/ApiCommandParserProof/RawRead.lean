import EmsCollector.Collector.ApiCommandParserProof.Outcome
import EmsCollector.Collector.ApiCommandParserProof.Responses
import EmsCollector.Collector.IStreamProof.Forward
import EmsCollector.Collector.SendingSerialHandler

/-!
# A read in parts

`raw read` asks a device for a range of its memory. The device may answer with less than it was
asked for; the parser then asks for what is missing, and counts the retries of each part afresh.
-/

namespace EmsCollector

/-- The bytes of a memory from an address on. -/
def slice (memory : Nat → UInt8) (start count : Nat) : List UInt8 :=
  (List.range count).map fun i => memory (start + i)

@[simp] theorem length_slice (memory : Nat → UInt8) (start count : Nat) :
    (slice memory start count).length = count := by simp [slice]

theorem slice_add (memory : Nat → UInt8) (start count more : Nat) :
    slice memory start (count + more) =
      slice memory start count ++ slice memory (start + count) more := by
  simp [slice, List.range_add, Nat.add_assoc]

theorem slice_prefix (memory : Nat → UInt8) (start : Nat) {count total : Nat} (le : count ≤ total) :
    slice memory start count <+: slice memory start total := by
  obtain ⟨more, rfl⟩ := Nat.exists_eq_add_of_le le
  exact ⟨_, (slice_add memory start count more).symm⟩

/-- The parameters of a `raw read`: a range within the addresses of a device, and not of the type
    of the acknowledgements. -/
structure RawRead where
  target : UInt8
  type : UInt16
  offset : UInt8
  len : UInt8
  positive : 1 ≤ len.toNat
  fits : offset.toNat + len.toNat ≤ 256
  other : type ≠ 0xff

namespace RawRead

/-- The telegram that asks for what is missing behind the first `got` bytes. -/
def part (r : RawRead) (got : Nat) : EmsMessage :=
  .send r.target r.type (UInt8.ofNat (r.offset.toNat + got)) [UInt8.ofNat (r.len.toNat - got)] true

/-- The whole range. -/
def range (r : RawRead) (memory : Nat → UInt8) : List UInt8 :=
  slice memory r.offset.toNat r.len.toNat

/-- The payload of an answer to a read at `offset`: a device answers to the PC without bit 7, in
    the layout of the type. -/
def answer (r : RawRead) (offset : UInt8) (bytes : List UInt8) : List UInt8 :=
  if r.type < 0xf0 then
    r.target :: 0x0b :: r.type.toUInt8 :: offset :: bytes
  else
    r.target :: 0x0b :: 0xff :: offset :: (r.type >>> 8).toUInt8 :: (r.type &&& 0xff).toUInt8 :: bytes

/-- The receive constructor takes the answer for what it is. -/
theorem receive_answer (r : RawRead) (offset : UInt8) {bytes : List UInt8} (some_bytes : bytes ≠ []) :
    ∃ message, EmsMessage.receive (r.answer offset bytes) = .ok message ∧
      message.source = r.target ∧ message.getType = r.type ∧ message.offset = offset ∧
      message.data = bytes := by
  unfold answer
  by_cases classic : r.type < 0xf0
  · have small : r.type.toNat < 240 := UInt16.lt_iff_toNat_lt.mp classic
    have byte : ¬ r.type.toUInt8 ≥ 0xf0 := by
      rw [ge_iff_le, UInt8.le_iff_toNat_le, UInt16.toNat_toUInt8]
      show ¬ 240 ≤ r.type.toNat % 2 ^ 8
      omega
    rw [if_pos classic, EmsMessage.receive_classic byte]
    refine ⟨_, rfl, rfl, ?_, rfl, rfl⟩
    apply UInt16.toNat_inj.mp
    show r.type.toUInt8.toUInt16.toNat = r.type.toNat
    rw [UInt8.toNat_toUInt16, UInt16.toNat_toUInt8]
    omega
  · have positive : r.type ≠ 0 := by
      intro zero
      rw [zero] at classic
      exact classic (by decide)
    rw [if_neg classic, EmsMessage.receive_plus_write (by decide) (by decide) _ _ _ some_bytes,
      EmsMessage.join_bytes]
    exact ⟨_, rfl, rfl, if_pos positive, rfl, rfl⟩

/-- The parser has got the first `got` bytes and waits for the next ones, which have been asked
    for in vain `losses` times. -/
structure Reading (r : RawRead) (memory : Nat → UInt8) (got losses : Nat) (p : ApiCommandParser) :
    Prop where
  active : p.activeRequest = some (r.part got)
  retries : p.retriesLeft.toNat + losses = 5
  response : p.requestResponse = slice memory r.offset.toNat got
  missing : got < r.len.toNat
  destination : p.requestDestination = r.target
  type : p.requestType = r.type
  offset : p.requestOffset = r.offset.toNat
  length : p.requestLength = r.len.toNat
  raw : p.outputRawData = true

/-- The parser has got all there was to read. -/
structure Complete (r : RawRead) (memory : Nat → UInt8) (p : ApiCommandParser) : Prop where
  idle : p.activeRequest = none
  response : p.requestResponse = r.range memory

variable {r : RawRead} {memory : Nat → UInt8} {got losses : Nat} {p : ApiCommandParser}

/-- The calls that a parser has made are not part of the state of its request. -/
theorem Reading.withEffects (reading : r.Reading memory got losses p) (effects : List Effect) :
    r.Reading memory got losses { p with effects } :=
  { reading with }

theorem continueRequest_complete (complete : p.requestLength ≤ p.requestResponse.length) :
    p.continueRequest = (false, p) := if_pos complete

theorem continueRequest_missing (missing : p.requestResponse.length < p.requestLength) :
    p.continueRequest = (true, p.sendCommand p.requestDestination p.requestType
      (UInt8.ofNat (p.requestOffset + p.requestResponse.length))
      [UInt8.ofNat (p.requestLength - p.requestResponse.length)] true) :=
  if_neg (Nat.not_le_of_lt missing)

/-- The request is started. -/
theorem start_reading (r : RawRead) (memory : Nat → UInt8) (p : ApiCommandParser) :
    let q := p.startRequest r.target r.type r.offset.toNat r.len.toNat true true
    r.Reading memory 0 0 q ∧ q.effects = p.effects ++ [.send (r.part 0)] := by
  intro q
  have missing : 0 < r.len.toNat := r.positive
  let fresh : ApiCommandParser := { p with
    requestOffset := r.offset.toNat, requestLength := r.len.toNat, requestDestination := r.target,
    requestType := r.type, requestResponse := [], parsePosition := 0, outputRawData := true,
    responseCounter := 0 }
  have continued : fresh.continueRequest = (true, fresh.sendCommand r.target r.type
      (UInt8.ofNat (r.offset.toNat + 0)) [UInt8.ofNat (r.len.toNat - 0)] true) :=
    continueRequest_missing (p := fresh) missing
  have started : q = fresh.continueRequest.2 := rfl
  rw [started, continued]
  exact ⟨⟨rfl, rfl, rfl, missing, rfl, rfl, rfl, rfl, rfl⟩, rfl⟩

/-- A loss that is not the last one: the part is asked for again. -/
theorem timeout_reading (reading : r.Reading memory got losses p) (few : losses < 4) :
    ∃ q, p.onTimeout = (false, q) ∧ r.Reading memory got (losses + 1) q ∧
      q.effects = p.effects ++ [.send (r.part got)] := by
  have retries := reading.retries
  have count : (p.retriesLeft - 1).toNat = p.retriesLeft.toNat - 1 :=
    ApiCommandParser.retriesLeft_pred (by omega)
  refine ⟨_, ApiCommandParser.onTimeout_again reading.active (by omega), ?_, rfl⟩
  refine { reading with retries := ?_ }
  show (p.retriesLeft - 1).toNat + (losses + 1) = 5
  omega

/-- An answer continues the request. -/
theorem incoming_reading (reading : r.Reading memory got losses p) {message : EmsMessage}
    (source : message.source = r.target) (type : message.getType = r.type)
    (offset : message.offset.toNat = r.offset.toNat + got) (some_data : message.data ≠ []) :
    p.onIncomingMessage message =
      let next := ApiCommandParser.handleRawResponse
        { p with requestResponse := p.requestResponse ++ message.data }
      .ok (next.1, if next.1 = some true then { next.2 with activeRequest := none } else next.2) := by
  have active : p.activeRequest.isSome = true := by
    rw [reading.active]
    rfl
  have answer : message.getType ≠ 0xff := by
    rw [type]
    exact r.other
  have continues : p.Continues message := by
    refine ⟨source.trans reading.destination.symm, type.trans reading.type.symm, ?_⟩
    rw [reading.response, length_slice, reading.offset, offset, Nat.add_comm]
  let q : ApiCommandParser := { p with requestResponse := p.requestResponse ++ message.data }
  have responded : (p.take message).respond =
      .ok (q.handleRawResponse.1, q.handleRawResponse.2) := by
    rw [ApiCommandParser.take_some some_data]
    exact if_pos reading.raw
  exact ApiCommandParser.onIncomingMessage_answered active answer continues responded

/-- An answer with the next `count` bytes: what is still missing is asked for, or all is printed. -/
theorem answer_reading (reading : r.Reading memory got losses p) {message : EmsMessage} {count : Nat}
    (source : message.source = r.target) (type : message.getType = r.type)
    (offset : message.offset.toNat = r.offset.toNat + got)
    (data : message.data = slice memory (r.offset.toNat + got) count) (positive : 1 ≤ count)
    (within : got + count ≤ r.len.toNat) :
    ∃ result q, p.onIncomingMessage message = .ok (result, q) ∧
      (got + count < r.len.toNat ∧ result = none ∧ r.Reading memory (got + count) 0 q ∧
          q.effects = p.effects ++ [.send (r.part (got + count))] ∨
        result = some true ∧ r.Complete memory q ∧
          q.effects = p.effects ++ [.output (ApiCommandParser.rawOutput (r.range memory))]) := by
  have some_data : message.data ≠ [] := by
    rw [← List.length_pos_iff, data, length_slice]
    exact positive
  have joined : p.requestResponse ++ message.data = slice memory r.offset.toNat (got + count) := by
    rw [reading.response, data, slice_add]
  have next := incoming_reading reading source type offset some_data
  rw [joined] at next
  have length := length_slice memory r.offset.toNat (got + count)
  refine ⟨_, _, next, ?_⟩
  let q : ApiCommandParser := { p with requestResponse := slice memory r.offset.toNat (got + count) }
  have lengths : q.requestLength = r.len.toNat := reading.length
  by_cases missing : got + count < r.len.toNat
  · left
    have continued : q.handleRawResponse = (none, q.sendCommand r.target r.type
        (UInt8.ofNat (r.offset.toNat + (got + count))) [UInt8.ofNat (r.len.toNat - (got + count))] true) := by
      unfold ApiCommandParser.handleRawResponse
      rw [continueRequest_missing (p := q) (by rw [lengths]; exact length ▸ missing)]
      show (none, q.sendCommand p.requestDestination p.requestType
        (UInt8.ofNat (p.requestOffset + q.requestResponse.length))
        [UInt8.ofNat (p.requestLength - q.requestResponse.length)] true) = _
      rw [length, reading.destination, reading.type, reading.offset, reading.length]
    rw [show ApiCommandParser.handleRawResponse _ = _ from continued]
    refine ⟨missing, rfl, ⟨rfl, rfl, rfl, missing, reading.destination, reading.type, reading.offset,
      reading.length, reading.raw⟩, rfl⟩
  · right
    have all : got + count = r.len.toNat := Nat.le_antisymm within (Nat.le_of_not_lt missing)
    have printed : q.handleRawResponse =
        (some true, q.output (ApiCommandParser.rawOutput q.requestResponse)) := by
      unfold ApiCommandParser.handleRawResponse
      rw [continueRequest_complete (p := q) (by rw [lengths, ← all]; exact Nat.le_of_eq length.symm)]
    rw [show ApiCommandParser.handleRawResponse _ = _ from printed]
    have range : q.requestResponse = r.range memory := by
      show slice memory r.offset.toNat (got + count) = _
      rw [all]
      rfl
    refine ⟨rfl, ⟨rfl, range⟩, ?_⟩
    show p.effects ++ [.output (ApiCommandParser.rawOutput q.requestResponse)] = _
    rw [range]

/-- The buffer begins with the line `raw read <target> <type> <offset> <len>`. -/
def Typed (r : RawRead) (s : Session) : Prop :=
  ∃ first second t, ApiCommandParser.nextWord s.request = ("raw", first) ∧
    ApiCommandParser.nextWord first = ("read", second) ∧
    ApiCommandParser.readRawParameters { s with request := second } =
      .ok (some (r.target, r.type, r.offset, r.len)) t

/-- The characters of a word were in the buffer. -/
theorem scan_length (chars input : List Char) : (Scan.run IStream.wordStep chars input).1.length ≤
    chars.length + input.length := by
  induction input generalizing chars with
  | nil => exact Nat.le_refl _
  | cons c rest ih =>
      unfold Scan.run IStream.wordStep
      by_cases space : isSpace c = true
      · rw [if_pos space]
        exact Nat.le_add_right _ _
      · rw [if_neg space]
        refine (ih _).trans ?_
        simp
        omega

theorem nextWord_length {s after : IStream} {word : String}
    (taken : ApiCommandParser.nextWord s = (word, after)) : word.length ≤ s.rest.length := by
  have same : (s.readString.1.getD "") = word := congrArg Prod.fst taken
  rw [← same]
  unfold IStream.readString
  cases good : s.good with
  | false =>
      rw [IStream.extract_bad _ _ _ good]
      exact Nat.zero_le _
  | true =>
      by_cases blank : (Scan.run IStream.skipStep () s.rest).2 = []
      · rw [IStream.extract_end _ _ _ good blank]
        exact Nat.zero_le _
      · rw [IStream.extract_readFrom _ _ _ good blank]
        show (String.ofList _).length ≤ _
        rw [String.length_ofList]
        have chars := scan_length [] (Scan.run IStream.skipStep () s.rest).2
        rw [List.length_nil, Nat.zero_add] at chars
        exact chars.trans (Scan.run_suffix IStream.skipStep () s.rest).length_le

/-- The buffer begins with the line `raw read` and these parameters. -/
def TypedRead (s : Session) (target : UInt8) (type : UInt16) (offset len : UInt8) : Prop :=
  ∃ first second t, ApiCommandParser.nextWord s.request = ("raw", first) ∧
    ApiCommandParser.nextWord first = ("read", second) ∧
    ApiCommandParser.readRawParameters { s with request := second } =
      .ok (some (target, type, offset, len)) t

/-- An idle parser starts the read, whatever the parameters are. -/
theorem parse_typedRead {s : Session} {target : UInt8} {type : UInt16} {offset len : UInt8}
    (typed : TypedRead s target type offset len) (idle : s.parser.activeRequest = none) (env : Env) :
    ∃ t, ApiCommandParser.parse env s = .ok .ok t ∧
      t.parser = s.parser.startRequest target type offset.toNat len.toNat true true := by
  obtain ⟨first, second, t, category, cmd, parameters⟩ := typed
  have same : t.parser = s.parser :=
    ApiCommandParser.readRawParameters_silent { s with request := second } _ t parameters
  have raw : ApiCommandParser.select "raw" (ApiCommandParser.commands env) =
      ApiCommandParser.handleRawCommand := by
    simp [ApiCommandParser.select, ApiCommandParser.commands, List.lookup]
  have read : ApiCommandParser.select "read" ApiCommandParser.rawCommands =
      ApiCommandParser.rawParameters (fun target type offset len p =>
        p.startRequest target type offset.toNat len.toNat true true) := by
    simp [ApiCommandParser.select, ApiCommandParser.rawCommands, List.lookup]
  refine ⟨{ t with parser := t.parser.startRequest target type offset.toNat len.toNat true true },
    ?_, by rw [same]⟩
  rw [ApiCommandParser.parse_word idle category, raw]
  unfold ApiCommandParser.handleRawCommand
  rw [ApiCommandParser.readWord_bind, cmd, read]
  show EStateM.bind _ _ _ = _
  unfold EStateM.bind
  rw [parameters]
  rfl

theorem parse_typed {r : RawRead} {s : Session} (typed : r.Typed s)
    (idle : s.parser.activeRequest = none) (env : Env) :
    ∃ t, ApiCommandParser.parse env s = .ok .ok t ∧
      t.parser = s.parser.startRequest r.target r.type r.offset.toNat r.len.toNat true true :=
  parse_typedRead typed idle env

end RawRead

end EmsCollector
