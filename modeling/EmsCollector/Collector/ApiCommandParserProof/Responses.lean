import EmsCollector.Collector.ApiCommandParserProof.Commands

/-!
# What becomes of an answer

The parser ignores a telegram that does not continue its active request. One that does either
ends the request or makes the parser send the next part, unless `handleResponse` does not know
the type of the request.
-/

namespace EmsCollector.ApiCommandParser

/-- The types of request that `handleResponse` has a branch for. -/
def handledTypes : List UInt16 :=
  [0x02, 0x0137, 0xbf, 0xc0, 0xc2, 0x15, 0x0140, 0x01a5, 0x01af, 0x01b9, 0x01f5, 0xea]

/-- A telegram with the device, the type and the offset that the active request waits for. -/
def Continues (p : ApiCommandParser) (message : EmsMessage) : Prop :=
  message.source = p.requestDestination ∧ message.getType = p.requestType ∧
    message.offset.toNat = p.requestResponse.length + p.requestOffset

instance (p : ApiCommandParser) (message : EmsMessage) : Decidable (p.Continues message) :=
  inferInstanceAs (Decidable (_ ∧ _ ∧ _))

/-- The telegrams that an active request takes: an acknowledgement, or an answer that continues
    the request and that there is a branch for. -/
def Accepts (p : ApiCommandParser) (message : EmsMessage) : Prop :=
  message.getType = 0xff ∨
    p.Continues message ∧ (p.outputRawData = true ∨ p.requestType ∈ handledTypes)

instance (p : ApiCommandParser) (message : EmsMessage) : Decidable (p.Accepts message) :=
  inferInstanceAs (Decidable (_ ∨ _))

/-- Either the request is finished, or a telegram has been sent for it. -/
def Settled (r : Option Bool × ApiCommandParser) : Prop :=
  r.1 = some true ∨ ∃ message, .send message ∈ r.2.effects

theorem take_kept (p : ApiCommandParser) (message : EmsMessage) :
    (p.take message).outputRawData = p.outputRawData ∧
      (p.take message).requestType = p.requestType := by
  unfold take
  split
  · exact ⟨rfl, rfl⟩
  · exact ⟨rfl, rfl⟩

theorem take_some {p : ApiCommandParser} {message : EmsMessage} (some_data : message.data ≠ []) :
    p.take message = { p with requestResponse := p.requestResponse ++ message.data } :=
  if_neg some_data

/-- A telegram without an active request. -/
theorem onIncomingMessage_idle {p : ApiCommandParser} (idle : p.activeRequest = none)
    (message : EmsMessage) : p.onIncomingMessage message = .ok (none, p) := by
  unfold onIncomingMessage
  rw [idle]
  rfl

/-- An acknowledgement ends any request. -/
theorem onIncomingMessage_acknowledged {p : ApiCommandParser} (active : p.activeRequest.isSome = true)
    {message : EmsMessage} (acknowledges : message.getType = 0xff) :
    p.onIncomingMessage message =
      .ok (some (message.offset ≠ 0x04), { p with activeRequest := none }) := by
  have busy : p.activeRequest.isNone = false := by
    rw [← Option.not_isSome, active]
    rfl
  unfold onIncomingMessage
  rw [busy, if_neg Bool.false_ne_true, if_pos acknowledges]

/-- A telegram that does not continue the active request is ignored. -/
theorem onIncomingMessage_ignored {p : ApiCommandParser} {message : EmsMessage}
    (answer : message.getType ≠ 0xff) (unrelated : ¬ p.Continues message) :
    p.onIncomingMessage message = .ok (none, p) := by
  have mismatch : message.source ≠ p.requestDestination ∨ message.getType ≠ p.requestType ∨
      message.offset.toNat ≠ p.requestResponse.length + p.requestOffset := by
    unfold Continues at unrelated
    tauto
  unfold onIncomingMessage
  by_cases idle : p.activeRequest.isNone = true
  · rw [if_pos idle]
  · rw [if_neg idle, if_neg answer, if_pos mismatch]

/-- A telegram that continues the request is added to the response, which is then looked at. -/
theorem onIncomingMessage_continues {p : ApiCommandParser} (active : p.activeRequest.isSome = true)
    {message : EmsMessage} (answer : message.getType ≠ 0xff) (continues : p.Continues message) :
    p.onIncomingMessage message = (p.take message).respond.map (fun r =>
      (r.1, if r.1 = some true then { r.2 with activeRequest := none } else r.2)) := by
  have busy : p.activeRequest.isNone = false := by
    rw [← Option.not_isSome, active]
    rfl
  obtain ⟨source, type, offset⟩ := continues
  have fits : ¬ (message.source ≠ p.requestDestination ∨ message.getType ≠ p.requestType ∨
      message.offset.toNat ≠ p.requestResponse.length + p.requestOffset) := by
    simp [source, type, offset]
  unfold onIncomingMessage
  rw [busy, if_neg Bool.false_ne_true, if_neg answer, if_neg fits]
  cases (p.take message).respond with
  | error abort => rfl
  | ok r => rfl

/-- What becomes of an answer that continues the active request. -/
theorem onIncomingMessage_answered {p q : ApiCommandParser} (active : p.activeRequest.isSome = true)
    {message : EmsMessage} (answer : message.getType ≠ 0xff) (continues : p.Continues message)
    {result : Option Bool} (responded : (p.take message).respond = .ok (result, q)) :
    p.onIncomingMessage message =
      .ok (result, if result = some true then { q with activeRequest := none } else q) := by
  rw [onIncomingMessage_continues active answer continues, responded]
  rfl

/-- A timeout without an active request. -/
theorem onTimeout_idle {p : ApiCommandParser} (idle : p.activeRequest = none) :
    p.onTimeout = (false, p) := by
  unfold onTimeout
  rw [idle]
  rfl

/-- A timeout of an active request. -/
theorem onTimeout_active {p : ApiCommandParser} {request : EmsMessage}
    (active : p.activeRequest = some request) :
    p.onTimeout =
      if p.retriesLeft - 1 = 0 then
        (true, { p with retriesLeft := p.retriesLeft - 1, activeRequest := none })
      else
        (false, { p with
          retriesLeft := p.retriesLeft - 1, effects := p.effects ++ [.send request] }) := by
  unfold onTimeout sendActiveRequest
  simp [active]

/-- The last retry was in vain. -/
theorem onTimeout_last {p : ApiCommandParser} {request : EmsMessage}
    (active : p.activeRequest = some request) (last : p.retriesLeft.toNat = 1) :
    p.onTimeout = (true, { p with retriesLeft := 0, activeRequest := none }) := by
  have one : p.retriesLeft = 1 := UInt32.toNat_inj.mp last
  rw [onTimeout_active active, one]
  rfl

theorem retriesLeft_pred {retries : UInt32} (positive : 1 ≤ retries.toNat) :
    (retries - 1).toNat = retries.toNat - 1 :=
  UInt32.toNat_sub_of_le _ _ (UInt32.le_iff_toNat_le.mpr positive)

/-- The request is sent again. -/
theorem onTimeout_again {p : ApiCommandParser} {request : EmsMessage}
    (active : p.activeRequest = some request) (more : 2 ≤ p.retriesLeft.toNat) :
    p.onTimeout = (false, { p with
      retriesLeft := p.retriesLeft - 1, effects := p.effects ++ [.send request] }) := by
  have left : p.retriesLeft - 1 ≠ 0 := by
    intro zero
    have count := retriesLeft_pred (Nat.le_of_succ_le more)
    rw [zero] at count
    have none : 0 = p.retriesLeft.toNat - 1 := count
    omega
  rw [onTimeout_active active, if_neg left]

section Handlers

variable {telegram : EmsMessage → Prop} {timer : Prop}

/-- What is asked for next: what is missing of the response. -/
def NextPart (telegram : EmsMessage → Prop) (p : ApiCommandParser) : Prop :=
  p.requestResponse.length < p.requestLength → ∀ offset, telegram (.send p.requestDestination
    p.requestType offset [UInt8.ofNat (p.requestLength - p.requestResponse.length)] true)

theorem continueRequest_acts {p : ApiCommandParser} (permitted : NextPart telegram p) :
    Acts telegram timer p p.continueRequest.2 := by
  unfold continueRequest
  dsimp only
  split
  · exact .nil
  · exact .sendCommand .nil (permitted (Nat.lt_of_not_le (by assumption)) _)

theorem continueRequest_sends {p : ApiCommandParser} (more : p.continueRequest.1 = true) :
    ∃ message, .send message ∈ p.continueRequest.2.effects := by
  unfold continueRequest at more ⊢
  dsimp only at more ⊢
  split
  · rename_i complete
    rw [if_pos complete] at more
    cases more
  · exact ⟨_, List.mem_append_right _ (List.mem_singleton_self _)⟩

theorem finishLoop_eq (p : ApiCommandParser) :
    p.finishLoop = (if p.continueRequest.1 then none else some true, p.continueRequest.2) := by
  unfold finishLoop
  rcases p.continueRequest with ⟨_ | _, q⟩ <;> rfl

theorem finishLoop_acts {p : ApiCommandParser} (permitted : NextPart telegram p) :
    Acts telegram timer p p.finishLoop.2 := by
  rw [finishLoop_eq]
  exact continueRequest_acts permitted

theorem finishLoop_settled (p : ApiCommandParser) : Settled p.finishLoop := by
  rw [finishLoop_eq]
  cases more : p.continueRequest.1 with
  | false => exact .inl rfl
  | true => exact .inr (continueRequest_sends more)

theorem recordLoop_acts {p : ApiCommandParser} (kind : RecordKind) (mark : String) (fuel : Nat)
    (permitted : NextPart telegram p) : Acts telegram timer p (recordLoop kind mark fuel p).2 := by
  induction fuel generalizing p with
  | zero => exact finishLoop_acts permitted
  | succ fuel ih =>
      have counted : Acts telegram timer p { p with
          parsePosition := p.parsePosition + kind.size, responseCounter := p.responseCounter + 1 } :=
        .fields .nil rfl rfl rfl
      unfold recordLoop
      split
      · dsimp only
        split
        · exact counted
        · exact (counted.output _).trans (ih permitted)
      · exact finishLoop_acts permitted

theorem recordLoop_settled (kind : RecordKind) (mark : String) (fuel : Nat)
    (p : ApiCommandParser) : Settled (recordLoop kind mark fuel p) := by
  induction fuel generalizing p with
  | zero => exact finishLoop_settled p
  | succ fuel ih =>
      unfold recordLoop
      split
      · dsimp only
        split
        · exact .inl rfl
        · exact ih _
      · exact finishLoop_settled p

theorem versionLine_acts (p : ApiCommandParser) (entry : Option (UInt8 × String))
    (text : String → String) : Acts telegram timer p
      (match entry with
      | some (_, name) => p.output (text name)
      | none => p) := by
  cases entry with
  | none => exact .nil
  | some entry => exact .output .nil _

theorem handleVersion_acts {p : ApiCommandParser} {r : Option Bool × ApiCommandParser}
    (permitted : ∀ dest offset length, telegram (.send dest 0x02 offset [length] true))
    (ok : p.handleVersion = .ok r) : Acts telegram timer p r.2 ∧ Settled r := by
  unfold handleVersion at ok
  split at ok
  · dsimp only at ok
    split at ok
    · cases ok
      exact ⟨(versionLine_acts p _ _).startRequest (permitted _ · _) _ _ _,
        .inr ⟨_, List.mem_append_right _ (List.mem_singleton_self _)⟩⟩
    · cases ok
      exact ⟨versionLine_acts p _ _, .inl rfl⟩
  · cases ok
  · cases ok

theorem outputs_acts (lines : List String) (p : ApiCommandParser) :
    Acts telegram timer p (lines.foldl output p) := by
  induction lines generalizing p with
  | nil => exact .nil
  | cons line rest ih => exact (Acts.output .nil line).trans (ih _)

theorem handleContactInfo_acts {p : ApiCommandParser} {r : Option Bool × ApiCommandParser}
    (permitted : NextPart telegram p) (ok : p.handleContactInfo = .ok r) :
    Acts telegram timer p r.2 ∧ Settled r := by
  have acts : Acts telegram timer p p.continueRequest.2 := continueRequest_acts permitted
  have sends := continueRequest_sends (p := p)
  unfold handleContactInfo at ok
  split at ok
  · rename_i q more
    cases ok
    rw [more] at acts sends
    exact ⟨acts, .inr (sends rfl)⟩
  · rename_i q complete
    rw [complete] at acts
    cases read : (List.range ((q.requestResponse.length + 39) / 40)).mapM fun i =>
        contactLine ((q.requestResponse.drop (40 * i)).take 40) with
    | error abort =>
        rw [read] at ok
        cases ok
    | ok lines =>
        rw [read] at ok
        cases ok
        exact ⟨acts.trans (outputs_acts lines q), .inl rfl⟩

theorem handleRawResponse_acts {p : ApiCommandParser} (permitted : NextPart telegram p) :
    Acts telegram timer p p.handleRawResponse.2 := by
  have acts : Acts telegram timer p p.continueRequest.2 := continueRequest_acts permitted
  unfold handleRawResponse
  split
  · rename_i q complete
    rw [complete] at acts
    exact acts.output _
  · rename_i q more
    rw [more] at acts
    exact acts

theorem handleRawResponse_settled (p : ApiCommandParser) : Settled p.handleRawResponse := by
  have sends := continueRequest_sends (p := p)
  unfold handleRawResponse
  split
  · exact .inl rfl
  · rename_i q more
    rw [more] at sends
    exact .inr (sends rfl)

theorem take_acts (p : ApiCommandParser) (message : EmsMessage) :
    Acts telegram timer p (p.take message) := by
  unfold take
  split
  · exact .fields .nil rfl rfl rfl
  · exact .fields .nil rfl rfl rfl

/-- A timeout sends the active request again, or ends it. -/
theorem onTimeout_acts {p : ApiCommandParser} (permitted : ∀ request ∈ p.activeRequest, telegram request) :
    Acts telegram timer p p.onTimeout.2 ∧
      (p.onTimeout.2.activeRequest = none ∨ ∃ request, .send request ∈ p.onTimeout.2.effects) := by
  unfold onTimeout
  have counted : Acts telegram timer p { p with retriesLeft := p.retriesLeft - 1 } :=
    .fields .nil rfl rfl rfl
  split
  · rename_i idle
    exact ⟨.nil, .inl (Option.isNone_iff_eq_none.mp idle)⟩
  · rename_i active
    dsimp only
    split
    · exact ⟨.finish counted, .inl rfl⟩
    · refine ⟨.resend counted permitted, .inr ?_⟩
      cases request : p.activeRequest with
      | none => simp [request] at active
      | some request' =>
          refine ⟨request', List.mem_append_right _ ?_⟩
          simp

variable (reads : ∀ dest type offset length, type ≠ 0x1d →
  telegram (.send dest type offset [length] true))

include reads

/-- What a known type of request asks for next is not of the type of the test mode. -/
theorem nextPart_permitted {p : ApiCommandParser} (other : p.requestType ≠ 0x1d) :
    NextPart telegram p :=
  fun _ _ => reads _ _ _ _ other

theorem handleResponse_acts {p : ApiCommandParser} {r : Option Bool × ApiCommandParser}
    (ok : p.handleResponse = .ok r) :
    Acts telegram timer p r.2 ∧ (p.requestType ∈ handledTypes → Settled r) := by
  have other (type : UInt16) (same : p.requestType.toNat = type.toNat) (known : type ≠ 0x1d) :
      NextPart telegram p := by
    apply nextPart_permitted reads
    rw [UInt16.toNat_inj.mp same]
    exact known
  unfold handleResponse at ok
  split at ok
  case _ =>
    obtain ⟨acts, settled⟩ : Acts telegram timer p r.2 ∧ Settled r := handleVersion_acts
      (fun _ _ _ => reads _ _ _ _ (by decide)) ok
    exact ⟨acts, fun _ => settled⟩
  case _ same =>
    obtain ⟨acts, settled⟩ : Acts telegram timer p r.2 ∧ Settled r := handleContactInfo_acts
      (other 0x0137 same (by decide)) ok
    exact ⟨acts, fun _ => settled⟩
  case _ same =>
    cases ok
    have skipped : Acts telegram timer p { p with parsePosition := 3 } := .fields .nil rfl rfl rfl
    exact ⟨skipped.trans (recordLoop_acts _ _ _ (other 0xbf same (by decide))),
      fun _ => recordLoop_settled _ _ _ _⟩
  case _ same =>
    cases ok
    exact ⟨recordLoop_acts _ _ _ (other 0xc0 same (by decide)),
      fun _ => recordLoop_settled _ _ _ _⟩
  case _ same =>
    cases ok
    exact ⟨recordLoop_acts _ _ _ (other 0xc2 same (by decide)),
      fun _ => recordLoop_settled _ _ _ _⟩
  any_goals
    cases ok
    exact ⟨.nil, fun _ => .inl rfl⟩
  -- The branch for all other types.
  cases ok
  refine ⟨.nil, fun known => ?_⟩
  simp only [handledTypes, List.mem_cons, List.not_mem_nil, or_false] at known
  rcases known with same | same | same | same | same | same | same | same | same | same | same | same
    <;> simp_all

/-- An answer that continues the request, raw or not. -/
theorem respond_acts {p : ApiCommandParser} {r : Option Bool × ApiCommandParser}
    (permitted : p.outputRawData = true → NextPart telegram p)
    (ok : p.respond = .ok r) :
    Acts telegram timer p r.2 ∧
      (p.outputRawData = true ∨ p.requestType ∈ handledTypes → Settled r) := by
  unfold respond at ok
  cases raw : p.outputRawData with
  | true =>
      rw [raw, if_pos rfl] at ok
      cases ok
      exact ⟨handleRawResponse_acts (permitted raw), fun _ => handleRawResponse_settled p⟩
  | false =>
      rw [raw, if_neg Bool.false_ne_true] at ok
      obtain ⟨acts, settled⟩ : Acts telegram timer p r.2 ∧ (p.requestType ∈ handledTypes → Settled r) :=
        handleResponse_acts reads ok
      exact ⟨acts, fun known => settled (known.resolve_left Bool.false_ne_true)⟩

/-- What a telegram does to the parser. -/
theorem onIncomingMessage_acts {p q : ApiCommandParser} {message : EmsMessage} {result : Option Bool}
    (permitted : p.activeRequest.isSome = true → message.getType ≠ 0xff → p.outputRawData = true →
      p.Continues message → NextPart telegram (p.take message))
    (ok : p.onIncomingMessage message = .ok (result, q)) :
    Acts telegram timer p q ∧ (p.activeRequest.isSome = true → p.Accepts message →
      q.activeRequest = none ∨ ∃ request, .send request ∈ q.effects) := by
  unfold onIncomingMessage at ok
  split at ok
  · rename_i idle
    cases ok
    refine ⟨.nil, fun active => ?_⟩
    rw [Option.isNone_iff_eq_none] at idle
    rw [idle] at active
    cases active
  rename_i busy
  have active : p.activeRequest.isSome = true := by
    rw [Option.isNone_iff_eq_none] at busy
    exact Option.isSome_iff_ne_none.mpr busy
  split at ok
  · cases ok
    exact ⟨.finish .nil, fun _ _ => .inl rfl⟩
  rename_i other
  split at ok
  · rename_i mismatch
    cases ok
    refine ⟨.nil, fun _ accepts => ?_⟩
    rcases accepts with ack | ⟨⟨source, type, offset⟩, -⟩
    · exact absurd ack other
    · simp [source, type, offset] at mismatch
  rename_i mismatch
  have continues : p.Continues message := by
    simp only [not_or, Decidable.not_not] at mismatch
    exact mismatch
  have taken : Acts telegram timer p (p.take message) := take_acts p message
  obtain ⟨rawOutput, requestType⟩ := take_kept p message
  split at ok
  · rename_i result q answered
    obtain ⟨acts, settled⟩ : Acts telegram timer (p.take message) q ∧ _ :=
      respond_acts reads (fun raw => permitted active other (rawOutput ▸ raw) continues) answered
    rw [rawOutput, requestType] at settled
    cases ok
    split
    · exact ⟨.finish (taken.trans acts), fun _ _ => .inl rfl⟩
    · rename_i unfinished
      refine ⟨taken.trans acts, fun _ accepts => .inr ?_⟩
      rcases accepts with ack | ⟨-, known⟩
      · exact absurd ack other
      · exact (settled known).resolve_left unfinished
  · cases ok

end Handlers

end EmsCollector.ApiCommandParser
