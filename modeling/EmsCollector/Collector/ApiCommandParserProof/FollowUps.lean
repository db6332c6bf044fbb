import EmsCollector.Collector.ApiCommandParserProof.RawRead

/-!
# The range of the follow-up reads

The offset of a follow-up read is narrowed to 8 bits when it is sent, and compared without the
narrowing when its answer comes. The two agree as long as the range that `raw read` was given ends
within the 256 addresses of a device.
-/

namespace EmsCollector.ApiCommandParser

/-- What comes for a request: a telegram, or the end of the wait for one. -/
inductive Reply where
  | answer (message : EmsMessage)
  | timeout
  deriving DecidableEq, Repr

def reply (p : ApiCommandParser) : Reply → Option ApiCommandParser
  | .answer message =>
      match p.onIncomingMessage message with
      | .ok (_, q) => some q
      | .error _ => none
  | .timeout => some p.onTimeout.2

/-- Any sequence of telegrams and timeouts. -/
def replies : LTS ApiCommandParser Reply := .ofOption reply

/-- The calls made from `p` to `q`. -/
def callsSince (p q : ApiCommandParser) : List Effect := q.effects.drop p.effects.length

/-- A read telegram asks for all that is missing of the range behind the bytes received so far,
    and an answer at its offset passes the offset test. -/
structure InRange (offset len : UInt8) (p : ApiCommandParser) (message : EmsMessage) : Prop where
  behind : message.offset.toNat = offset.toNat + p.requestResponse.length
  rest : ∃ n : UInt8, message.data = [n] ∧ 1 ≤ n.toNat ∧
    message.offset.toNat + n.toNat = offset.toNat + len.toNat
  accepted : ∀ answer : EmsMessage, answer.offset = message.offset →
    answer.offset.toNat = p.requestResponse.length + p.requestOffset

/-- All telegrams that are sent are in range, at the start of the request and for whatever comes
    for it. -/
def StaysInRange (offset len : UInt8) (before p : ApiCommandParser) : Prop :=
  (∀ message, .send message ∈ callsSince before p → InRange offset len p message) ∧
    ∀ es q, replies.Run (fun _ _ => True) p es q → ∀ e u, q.reply e = some u →
      ∀ message, .send message ∈ callsSince q u → InRange offset len u message

/-- The parameters of a `raw read` whose follow-up reads do not leave the addresses of a device.
    Answers of the type 0xff are taken for acknowledgements, so there is no second part. -/
def Fits (type : UInt16) (offset len : UInt8) : Prop :=
  offset.toNat + len.toNat ≤ 256 ∨ type = 0xff

/-- The state of a parser from the start of a `raw read`. -/
structure Underway (target : UInt8) (type : UInt16) (offset len : UInt8) (p : ApiCommandParser) :
    Prop where
  requestDestination : p.requestDestination = target
  requestType : p.requestType = type
  requestOffset : p.requestOffset = offset.toNat
  raw : p.outputRawData = true
  active : ∀ message, p.activeRequest = some message →
    p.requestResponse.length < len.toNat ∧ p.requestLength = len.toNat ∧
      message = .send target type (UInt8.ofNat (offset.toNat + p.requestResponse.length))
        [UInt8.ofNat (len.toNat - p.requestResponse.length)] true
  single : type = 0xff → p.requestResponse = []

variable {target : UInt8} {type : UInt16} {offset len : UInt8} {p q : ApiCommandParser}

/-- The telegram of an active request is in range if the range fits. -/
theorem Underway.inRange (underway : Underway target type offset len p) (fits : Fits type offset len)
    {message : EmsMessage} (active : p.activeRequest = some message) :
    InRange offset len p message := by
  obtain ⟨missing, -, rfl⟩ := underway.active message active
  have small := len.toNat_lt
  have first := offset.toNat_lt
  have inside : offset.toNat + p.requestResponse.length < 256 := by
    rcases fits with short | acknowledgement
    · omega
    · rw [underway.single acknowledgement]
      simpa using first
  have its_offset : (UInt8.ofNat (offset.toNat + p.requestResponse.length)).toNat =
      offset.toNat + p.requestResponse.length := by
    rw [UInt8.toNat_ofNat', Nat.mod_eq_of_lt inside]
  have count : (UInt8.ofNat (len.toNat - p.requestResponse.length)).toNat =
      len.toNat - p.requestResponse.length := by
    rw [UInt8.toNat_ofNat', Nat.mod_eq_of_lt (by omega)]
  refine ⟨its_offset, ⟨_, rfl, ?_, ?_⟩, ?_⟩
  · rw [count]
    omega
  · show (UInt8.ofNat (offset.toNat + p.requestResponse.length)).toNat + _ = _
    rw [its_offset, count]
    omega
  · intro answer same
    rw [same, underway.requestOffset, Nat.add_comm p.requestResponse.length]
    exact its_offset

/-- What is sent from `p` to `q` is the telegram of the active request. -/
def SendsActive (p q : ApiCommandParser) : Prop :=
  ∀ message, .send message ∈ callsSince p q → q.activeRequest = some message

theorem sendsActive_of_append {more : List Effect} (effects : q.effects = p.effects ++ more)
    (active : ∀ message, .send message ∈ more → q.activeRequest = some message) :
    SendsActive p q := by
  intro message sent
  unfold callsSince at sent
  rw [effects, List.drop_left] at sent
  exact active message sent

theorem sendsActive_same (effects : q.effects = p.effects) : SendsActive p q :=
  @sendsActive_of_append p q [] (by rw [effects, List.append_nil]) nofun

/-- The next part is asked for, or the response is printed. -/
theorem continueRequest_underway (destination : p.requestDestination = target)
    (its_type : p.requestType = type) (its_offset : p.requestOffset = offset.toNat)
    (raw : p.outputRawData = true) (length : p.requestLength = len.toNat)
    (single : type = 0xff → p.requestResponse = []) (missing : p.requestResponse.length < len.toNat) :
    Underway target type offset len p.continueRequest.2 ∧ SendsActive p p.continueRequest.2 := by
  have continued := RawRead.continueRequest_missing (length.symm ▸ missing)
  rw [continued, destination, its_type, its_offset, length]
  refine ⟨⟨destination, its_type, its_offset, raw, ?_, single⟩, ?_⟩
  · rintro message ⟨⟩
    exact ⟨missing, length, rfl⟩
  · refine sendsActive_of_append rfl ?_
    intro message sent
    cases List.mem_singleton.mp sent
    rfl

theorem start_underway (idle : p.activeRequest = none) (target : UInt8) (type : UInt16)
    (offset len : UInt8) :
    Underway target type offset len
        (p.startRequest target type offset.toNat len.toNat true true) ∧
      SendsActive p (p.startRequest target type offset.toNat len.toNat true true) := by
  let fresh : ApiCommandParser := { p with
    requestOffset := offset.toNat, requestLength := len.toNat, requestDestination := target,
    requestType := type, requestResponse := [], parsePosition := 0, outputRawData := true,
    responseCounter := 0 }
  have started : p.startRequest target type offset.toNat len.toNat true true =
      fresh.continueRequest.2 := rfl
  rw [started]
  by_cases missing : 0 < len.toNat
  · exact @continueRequest_underway _ _ _ _ fresh rfl rfl rfl rfl rfl (fun _ => rfl) missing
  · have complete : fresh.continueRequest = (false, fresh) :=
      RawRead.continueRequest_complete (Nat.le_of_not_lt missing)
    rw [complete]
    refine ⟨⟨rfl, rfl, rfl, rfl, ?_, fun _ => rfl⟩, sendsActive_same rfl⟩
    intro message active
    rw [show fresh.activeRequest = none from idle] at active
    cases active

/-- The wait ends. -/
theorem timeout_underway (underway : Underway target type offset len p) :
    Underway target type offset len p.onTimeout.2 ∧ SendsActive p p.onTimeout.2 := by
  cases active : p.activeRequest with
  | none =>
      rw [onTimeout_idle active]
      exact ⟨underway, sendsActive_same rfl⟩
  | some message =>
      rw [onTimeout_active active]
      by_cases last : p.retriesLeft - 1 = 0
      · rw [if_pos last]
        exact ⟨⟨underway.requestDestination, underway.requestType, underway.requestOffset,
          underway.raw, nofun, underway.single⟩, sendsActive_same rfl⟩
      · rw [if_neg last]
        refine ⟨⟨underway.requestDestination, underway.requestType, underway.requestOffset,
          underway.raw, underway.active, underway.single⟩, sendsActive_of_append rfl ?_⟩
        intro other sent
        cases List.mem_singleton.mp sent
        exact active

/-- An answer that continues the request. -/
theorem continues_underway (underway : Underway target type offset len p)
    (active : p.activeRequest.isSome = true) {message : EmsMessage} (answer : message.getType ≠ 0xff)
    (continues : p.Continues message) :
    ∃ result q, p.onIncomingMessage message = .ok (result, q) ∧
      Underway target type offset len q ∧ SendsActive p q := by
  obtain ⟨request, is_active⟩ := Option.isSome_iff_exists.mp active
  obtain ⟨-, length, -⟩ := underway.active request is_active
  have raw : (p.take message).outputRawData = true := by
    rw [(take_kept p message).1]
    exact underway.raw
  have responded : (p.take message).respond =
      .ok ((p.take message).handleRawResponse.1, (p.take message).handleRawResponse.2) := if_pos raw
  rw [onIncomingMessage_answered active answer continues responded]
  refine ⟨_, _, rfl, ?_⟩
  by_cases missing : (p.take message).requestResponse.length < (p.take message).requestLength
  · have some_data : message.data ≠ [] := by
      intro none
      rw [take, if_pos none] at missing
      exact absurd missing (Nat.lt_irrefl _)
    have single : type ≠ 0xff := by
      rw [← underway.requestType, ← continues.2.1]
      exact answer
    rw [take_some some_data] at missing ⊢
    obtain ⟨underway', sent⟩ := @continueRequest_underway target type offset len
      { p with requestResponse := p.requestResponse ++ message.data } underway.requestDestination
      underway.requestType underway.requestOffset underway.raw length (fun same => absurd same single)
      (length ▸ missing)
    unfold handleRawResponse
    rw [RawRead.continueRequest_missing missing] at underway' sent ⊢
    exact ⟨underway', sent⟩
  · have printed : (p.take message).handleRawResponse =
        (some true, (p.take message).output (rawOutput (p.take message).requestResponse)) := by
      unfold handleRawResponse
      rw [RawRead.continueRequest_complete (Nat.le_of_not_lt missing)]
    have fields : ∃ length response, p.take message =
        { p with requestLength := length, requestResponse := response } := by
      unfold take
      split
      · exact ⟨_, _, rfl⟩
      · exact ⟨_, _, rfl⟩
    obtain ⟨length', response, same⟩ := fields
    rw [printed, if_pos rfl, same]
    refine ⟨⟨underway.requestDestination, underway.requestType, underway.requestOffset,
      underway.raw, nofun, ?_⟩, ?_⟩
    · intro acknowledgement
      rw [← underway.requestType, ← continues.2.1] at acknowledgement
      exact absurd acknowledgement answer
    · refine @sendsActive_of_append p _ [.output _] rfl ?_
      intro other sent
      cases List.mem_singleton.mp sent

/-- One reply: the request stays underway, and what is sent is its next part or a repetition. -/
theorem reply_underway (underway : Underway target type offset len p) {e : Reply}
    (next : p.reply e = some q) : Underway target type offset len q ∧ SendsActive p q := by
  cases e with
  | timeout =>
      cases next
      exact timeout_underway underway
  | answer message =>
      have ignored : p.onIncomingMessage message = .ok (none, p) →
          Underway target type offset len q ∧ SendsActive p q := by
        intro same
        rw [reply, same] at next
        cases next
        exact ⟨underway, sendsActive_same rfl⟩
      cases active : p.activeRequest with
      | none => exact ignored (onIncomingMessage_idle active message)
      | some request =>
          have busy : p.activeRequest.isSome = true := by rw [active]; rfl
          by_cases acknowledges : message.getType = 0xff
          · rw [reply, onIncomingMessage_acknowledged busy acknowledges] at next
            cases next
            exact ⟨⟨underway.requestDestination, underway.requestType, underway.requestOffset,
              underway.raw, nofun, underway.single⟩, sendsActive_same rfl⟩
          · by_cases continues : p.Continues message
            · obtain ⟨result, q', answered, underway', sent⟩ :=
                continues_underway underway busy acknowledges continues
              rw [reply, answered] at next
              cases next
              exact ⟨underway', sent⟩
            · exact ignored (onIncomingMessage_ignored acknowledges continues)

theorem run_underway (underway : Underway target type offset len p) {es : List Reply}
    (run : replies.Run (fun _ _ => True) p es q) : Underway target type offset len q :=
  run.invariant underway fun _ _ _ kept _ next => (reply_underway kept next).1

/-- A range that fits is never left. -/
theorem staysInRange_of_fits (idle : p.activeRequest = none) (fits : Fits type offset len) :
    StaysInRange offset len p (p.startRequest target type offset.toNat len.toNat true true) := by
  obtain ⟨underway, first⟩ := start_underway idle target type offset len
  refine ⟨fun message sent => underway.inRange fits (first message sent), ?_⟩
  intro es q run e u next message sent
  obtain ⟨underway', sends⟩ := reply_underway (run_underway underway run) next
  exact underway'.inRange fits (sends message sent)

/-- An answer to the first part, with so much data that more is missing. -/
theorem first_answer (idle : p.activeRequest = none) (other : type ≠ 0xff) {message : EmsMessage}
    (source : message.source = target) (its_type : message.getType = type)
    (its_offset : message.offset = offset) (some_data : message.data ≠ [])
    (missing : message.data.length < len.toNat) :
    let start := p.startRequest target type offset.toNat len.toNat true true
    ∃ u, start.reply (.answer message) = some u ∧ u.requestResponse = message.data ∧
      .send (EmsMessage.send target type (UInt8.ofNat (offset.toNat + message.data.length))
        [UInt8.ofNat (len.toNat - message.data.length)] true) ∈ callsSince start u := by
  intro start
  have whole : 0 < len.toNat := Nat.lt_of_le_of_lt (Nat.zero_le _) missing
  obtain ⟨underway, -⟩ := start_underway idle target type offset len
  let fresh : ApiCommandParser := { p with
    requestOffset := offset.toNat, requestLength := len.toNat, requestDestination := target,
    requestType := type, requestResponse := [], parsePosition := 0, outputRawData := true,
    responseCounter := 0 }
  have started : start = fresh.sendCommand target type (UInt8.ofNat (offset.toNat + 0))
      [UInt8.ofNat (len.toNat - 0)] true :=
    congrArg Prod.snd (@RawRead.continueRequest_missing fresh whole)
  have active : start.activeRequest.isSome = true := by
    rw [started]
    rfl
  have response : start.requestResponse = [] := by
    rw [started]
    rfl
  have length : start.requestLength = len.toNat := by
    rw [started]
    rfl
  have continues : start.Continues message := by
    refine ⟨source.trans underway.requestDestination.symm,
      its_type.trans underway.requestType.symm, ?_⟩
    rw [its_offset, underway.requestOffset, response, List.length_nil, Nat.zero_add]
  let q : ApiCommandParser := { start with requestResponse := message.data }
  let again : ApiCommandParser := q.sendCommand target type
    (UInt8.ofNat (offset.toNat + message.data.length))
    [UInt8.ofNat (len.toNat - message.data.length)] true
  have continued : q.handleRawResponse = (none, again) := by
    unfold handleRawResponse
    rw [@RawRead.continueRequest_missing q (by rw [show q.requestLength = _ from length]; exact missing)]
    show (none, q.sendCommand start.requestDestination start.requestType
      (UInt8.ofNat (start.requestOffset + message.data.length))
      [UInt8.ofNat (start.requestLength - message.data.length)] true) = _
    rw [underway.requestDestination, underway.requestType, underway.requestOffset, length]
  have responded : (start.take message).respond = .ok (none, again) := by
    rw [take_some some_data, response, List.nil_append]
    exact (if_pos underway.raw).trans (congrArg Except.ok continued)
  have answer : message.getType ≠ 0xff := by
    rw [its_type]
    exact other
  have taken : start.reply (.answer message) = some again := by
    rw [reply, onIncomingMessage_answered active answer continues responded]
    rfl
  refine ⟨again, taken, rfl, ?_⟩
  show _ ∈ List.drop start.effects.length (start.effects ++ [_])
  rw [List.drop_left]
  exact List.mem_singleton_self _

/-- A range that does not fit is left when the device has answered up to its last address. -/
theorem fits_of_staysInRange (idle : p.activeRequest = none)
    (stays : StaysInRange offset len p
      (p.startRequest target type offset.toNat len.toNat true true)) : Fits type offset len := by
  by_contra beyond
  obtain ⟨long, other⟩ := not_or.mp beyond
  have first := offset.toNat_lt
  have small := len.toNat_lt
  let asked : RawRead := ⟨target, type, 0, 1, by decide, by decide, other⟩
  let data := List.replicate (256 - offset.toNat) (0 : UInt8)
  have length : data.length = 256 - offset.toNat := List.length_replicate
  have some_data : data ≠ [] := by
    rw [← List.length_pos_iff, length]
    omega
  obtain ⟨message, -, source, its_type, its_offset, its_data⟩ := asked.receive_answer offset some_data
  have missing : message.data.length < len.toNat := by
    rw [its_data, length]
    omega
  obtain ⟨u, next, response, sent⟩ := first_answer idle other source its_type its_offset
    (by rw [its_data]; exact some_data) missing
  have inRange := (stays.2 [] _ .nil (.answer message) u next _ sent).behind
  have bound := (UInt8.ofNat (offset.toNat + message.data.length)).toNat_lt
  rw [response, its_data, length] at inRange
  rw [its_data, length] at bound
  have beginning : (UInt8.ofNat (offset.toNat + (256 - offset.toNat))).toNat =
    offset.toNat + (256 - offset.toNat) := inRange
  omega

/-- For every `raw read` that is accepted: its telegrams stay in range, whatever answers and
    timeouts come, exactly if the range ends within the addresses of a device. -/
theorem follow_ups_in_range_iff {s : Session} (typed : RawRead.TypedRead s target type offset len)
    (idle : s.parser.activeRequest = none) (env : Env) :
    ∃ t, parse env s = .ok .ok t ∧
      (StaysInRange offset len s.parser t.parser ↔ Fits type offset len) := by
  obtain ⟨t, parsed, started⟩ := RawRead.parse_typedRead typed idle env
  refine ⟨t, parsed, ?_⟩
  rw [started]
  exact ⟨fits_of_staysInRange idle, staysInRange_of_fits idle⟩

/-- The last ten addresses of a device. -/
theorem follow_ups_in_range_last :
    ∃ t, parse ⟨none, fun s => (none, s), 0⟩
        ⟨(default : { p : ApiCommandParser // p.Fresh }).1,
          .ofChars "raw read 16 441 246 10\n".toList⟩ = .ok .ok t ∧
      StaysInRange 246 10 (default : { p : ApiCommandParser // p.Fresh }).1 t.parser := by
  obtain ⟨t, parsed, inRange⟩ := @follow_ups_in_range_iff 16 441 246 10
    ⟨(default : { p : ApiCommandParser // p.Fresh }).1, .ofChars "raw read 16 441 246 10\n".toList⟩
    ⟨_, _, _, rfl, rfl, rfl⟩ rfl ⟨none, fun s => (none, s), 0⟩
  exact ⟨t, parsed, inRange.mpr (.inl (by decide))⟩

/-- Twenty addresses from 246 on: the device answers with the ten that it has, and the next ten
    are asked for at its first address. -/
theorem follow_up_wraps :
    ∃ t, parse ⟨none, fun s => (none, s), 0⟩
        ⟨(default : { p : ApiCommandParser // p.Fresh }).1,
          .ofChars "raw read 16 441 246 20\n".toList⟩ = .ok .ok t ∧
      ¬ StaysInRange 246 20 (default : { p : ApiCommandParser // p.Fresh }).1 t.parser := by
  obtain ⟨t, parsed, started⟩ := @RawRead.parse_typedRead
    ⟨(default : { p : ApiCommandParser // p.Fresh }).1, .ofChars "raw read 16 441 246 20\n".toList⟩
    16 441 246 20 ⟨_, _, _, rfl, rfl, rfl⟩ rfl ⟨none, fun s => (none, s), 0⟩
  refine ⟨t, parsed, ?_⟩
  intro stays
  rw [started] at stays
  let message : EmsMessage :=
    { valueHandler := true, data := List.replicate 10 7, source := 16, dest := 11, type := 0xff,
      extType := 441, offset := 246 }
  obtain ⟨u, next, response, sent⟩ := @first_answer 16 441 246 20
    (default : { p : ApiCommandParser // p.Fresh }).1 rfl (by decide) message rfl (by decide) rfl
    (by decide) (by decide)
  have behind := (stays.2 [] _ .nil (.answer message) u next _ sent).behind
  rw [response] at behind
  exact absurd behind (by decide)

end EmsCollector.ApiCommandParser
