import EmsCollector.Collector.ApiCommandParserProof.Outcome
import EmsCollector.Collector.ApiCommandParserProof.Responses

/-!
# The timer of the test mode

Nothing that becomes of a request depends on `m_testModeRepeater`: what the parser does with another
timer is what it does, with the other timer.
-/

namespace EmsCollector.ApiCommandParser

/-- The parser with another timer. -/
def withRepeater (t : DeadlineTimer TestModeWait) (p : ApiCommandParser) : ApiCommandParser :=
  { p with testModeRepeater := t }

/-- A result with another timer. -/
def rearm {α : Type} (t : DeadlineTimer TestModeWait) (r : α × ApiCommandParser) : α × ApiCommandParser :=
  (r.1, r.2.withRepeater t)

variable {t : DeadlineTimer TestModeWait} {p : ApiCommandParser}

theorem withRepeater_output (line : String) :
    (p.withRepeater t).output line = (p.output line).withRepeater t := rfl

theorem withRepeater_continueRequest :
    (p.withRepeater t).continueRequest = rearm t p.continueRequest := by
  unfold continueRequest
  dsimp only
  by_cases complete : p.requestLength ≤ p.requestResponse.length
  · rw [if_pos complete]
    exact if_pos complete
  · rw [if_neg complete]
    exact if_neg complete

theorem withRepeater_startRequest (dest : UInt8) (type : UInt16) (offset length : Nat)
    (newRequest raw : Bool) : (p.withRepeater t).startRequest dest type offset length newRequest raw =
      (p.startRequest dest type offset length newRequest raw).withRepeater t := by
  let fresh : ApiCommandParser := { p with
    requestOffset := offset, requestLength := length, requestDestination := dest, requestType := type
    requestResponse := [], parsePosition := 0, outputRawData := raw
    responseCounter := if newRequest then 0 else p.responseCounter }
  exact congrArg Prod.snd (withRepeater_continueRequest (p := fresh))

theorem withRepeater_outputs (lines : List String) :
    lines.foldl output (p.withRepeater t) = (lines.foldl output p).withRepeater t := by
  induction lines generalizing p with
  | nil => rfl
  | cons line rest ih =>
      rw [List.foldl_cons, List.foldl_cons, withRepeater_output, ih]

theorem withRepeater_finishLoop : (p.withRepeater t).finishLoop = rearm t p.finishLoop := by
  rw [finishLoop_eq, finishLoop_eq, withRepeater_continueRequest]
  rfl

theorem withRepeater_recordLoop (kind : RecordKind) (mark : String) (fuel : Nat) :
    recordLoop kind mark fuel (p.withRepeater t) = rearm t (recordLoop kind mark fuel p) := by
  induction fuel generalizing p with
  | zero => exact withRepeater_finishLoop
  | succ fuel ih =>
      by_cases more : p.parsePosition + kind.size ≤ p.requestResponse.length
      · let q : ApiCommandParser := { p with
          parsePosition := p.parsePosition + kind.size, responseCounter := p.responseCounter + 1 }
        let response := kind.buildRecordResponse ((p.requestResponse.drop p.parsePosition).take kind.size)
        have turn (u : DeadlineTimer TestModeWait) : recordLoop kind mark (fuel + 1) (p.withRepeater u) =
            if response = "" then (some true, q.withRepeater u)
            else recordLoop kind mark fuel ((q.output (mark ++ formatDec 2 q.responseCounter.toNat ++ " " ++
              response)).withRepeater u) := if_pos more
        have same : p.withRepeater p.testModeRepeater = p := rfl
        have turn_p := turn p.testModeRepeater
        rw [same] at turn_p
        rw [turn, turn_p]
        by_cases empty : response = ""
        · rw [if_pos empty, if_pos empty]
          rfl
        · rw [if_neg empty, if_neg empty, ih]
          rfl
      · have last (u : DeadlineTimer TestModeWait) : recordLoop kind mark (fuel + 1) (p.withRepeater u) =
            (p.withRepeater u).finishLoop := if_neg more
        have last_p : recordLoop kind mark (fuel + 1) p = p.finishLoop := if_neg more
        rw [last, last_p, withRepeater_finishLoop]

theorem withRepeater_handleVersion :
    (p.withRepeater t).handleVersion = p.handleVersion.map (rearm t) := by
  unfold handleVersion
  dsimp only [withRepeater]
  cases p.requestResponse[1]? with
  | none => rfl
  | some major =>
      cases p.requestResponse[2]? with
      | none => rfl
      | some minor =>
          cases versionSources[versionIndex p.requestDestination]? with
          | none =>
              cases versionSources[versionIndex p.requestDestination + 1]? with
              | none => rfl
              | some next => exact congrArg (fun q => Except.ok (none, q)) (withRepeater_startRequest ..)
          | some entry =>
              cases versionSources[versionIndex p.requestDestination + 1]? with
              | none => rfl
              | some next =>
                  exact congrArg (fun q => Except.ok (none, q))
                    (withRepeater_startRequest (p := p.output _) ..)

theorem withRepeater_handleContactInfo :
    (p.withRepeater t).handleContactInfo = p.handleContactInfo.map (rearm t) := by
  unfold handleContactInfo
  rw [withRepeater_continueRequest]
  rcases p.continueRequest with ⟨_ | _, q⟩
  · let lines := (List.range ((q.requestResponse.length + 39) / 40)).mapM fun i =>
      contactLine ((q.requestResponse.drop (40 * i)).take 40)
    have decoded (u : ApiCommandParser) : (do
        let lines ← lines
        Except.ok (some true, lines.foldl output u)) =
          (lines.map fun lines => (some true, lines.foldl output u)) := by
      cases lines with
      | error abort => rfl
      | ok lines => rfl
    show (do
      let lines ← lines
      Except.ok (some true, lines.foldl output (q.withRepeater t))) = Except.map (rearm t) (do
        let lines ← lines
        Except.ok (some true, lines.foldl output q))
    rw [decoded, decoded]
    cases lines with
    | error abort => rfl
    | ok lines => exact congrArg (fun q => Except.ok (some true, q)) (withRepeater_outputs lines)
  · rfl

theorem withRepeater_handleRawResponse :
    (p.withRepeater t).handleRawResponse = rearm t p.handleRawResponse := by
  unfold handleRawResponse
  rw [withRepeater_continueRequest]
  rcases p.continueRequest with ⟨_ | _, q⟩ <;> rfl

theorem withRepeater_handleResponse :
    (p.withRepeater t).handleResponse = p.handleResponse.map (rearm t) := by
  unfold handleResponse
  dsimp only [withRepeater]
  split
  · exact withRepeater_handleVersion
  · exact withRepeater_handleContactInfo
  · exact congrArg Except.ok (withRepeater_recordLoop (p := { p with parsePosition := 3 }) ..)
  · exact congrArg Except.ok (withRepeater_recordLoop ..)
  · exact congrArg Except.ok (withRepeater_recordLoop ..)
  all_goals rfl

theorem withRepeater_take (message : EmsMessage) :
    (p.withRepeater t).take message = (p.take message).withRepeater t := by
  unfold take
  split
  · rfl
  · rfl

theorem withRepeater_respond :
    (p.withRepeater t).respond = p.respond.map (rearm t) := by
  unfold respond
  by_cases raw : p.outputRawData = true
  · rw [if_pos raw, withRepeater_handleRawResponse]
    exact if_pos raw
  · rw [if_neg raw, withRepeater_handleResponse]
    exact if_neg raw

/-- What a telegram does. -/
theorem withRepeater_onIncomingMessage (message : EmsMessage) :
    (p.withRepeater t).onIncomingMessage message = (p.onIncomingMessage message).map (rearm t) := by
  by_cases idle : p.activeRequest = none
  · rw [onIncomingMessage_idle idle, onIncomingMessage_idle (p := p.withRepeater t) idle]
    rfl
  have active : p.activeRequest.isSome = true := Option.isSome_iff_ne_none.mpr idle
  by_cases acknowledges : message.getType = 0xff
  · rw [onIncomingMessage_acknowledged active acknowledges,
      onIncomingMessage_acknowledged (p := p.withRepeater t) active acknowledges]
    rfl
  by_cases continues : p.Continues message
  · rw [onIncomingMessage_continues active acknowledges continues,
      onIncomingMessage_continues (p := p.withRepeater t) active acknowledges continues,
      withRepeater_take, withRepeater_respond]
    cases (p.take message).respond with
    | error abort => rfl
    | ok r =>
        obtain ⟨result, q⟩ := r
        by_cases finished : result = some true
        · subst finished
          rfl
        · simp [Except.map, rearm, finished]
  · rw [onIncomingMessage_ignored acknowledges continues,
      onIncomingMessage_ignored (p := p.withRepeater t) acknowledges continues]
    rfl

/-- What a timeout does. -/
theorem withRepeater_onTimeout : (p.withRepeater t).onTimeout = rearm t p.onTimeout := by
  cases active : p.activeRequest with
  | none =>
      rw [onTimeout_idle active, onTimeout_idle (p := p.withRepeater t) active]
      rfl
  | some request =>
      rw [onTimeout_active active, onTimeout_active (p := p.withRepeater t) active]
      by_cases last : p.retriesLeft - 1 = 0
      · rw [if_pos last]
        exact if_pos last
      · rw [if_neg last]
        exact if_neg last

/-- The parsers differ in the timer of the test mode at most. -/
def SameRequest (p q : ApiCommandParser) : Prop := p.withRepeater .idle = q.withRepeater .idle

variable {q p' : ApiCommandParser}

theorem SameRequest.eq (same : SameRequest p q) : p.withRepeater .idle = q.withRepeater .idle := same

theorem SameRequest.effects (same : SameRequest p q) : p.effects = q.effects := by
  have effects := congrArg ApiCommandParser.effects same.eq
  exact effects

theorem SameRequest.withEffects (same : SameRequest p q) (effects : List Effect) :
    SameRequest { p with effects } { q with effects } := by
  have after := congrArg (fun p : ApiCommandParser => { p with effects := effects }) same.eq
  exact after

/-- Such parsers answer alike. -/
theorem SameRequest.onIncomingMessage (same : SameRequest p q) {message : EmsMessage} {result : Option Bool}
    (answered : p.onIncomingMessage message = .ok (result, p')) :
    ∃ q', q.onIncomingMessage message = .ok (result, q') ∧ SameRequest p' q' := by
  have first := withRepeater_onIncomingMessage (t := .idle) (p := p) message
  have second := withRepeater_onIncomingMessage (t := .idle) (p := q) message
  rw [same.eq, second, answered] at first
  cases answer : q.onIncomingMessage message with
  | error abort =>
      rw [answer] at first
      cases first
  | ok r =>
      obtain ⟨result', q'⟩ := r
      rw [answer] at first
      obtain ⟨rfl, after⟩ := Prod.mk.inj (Except.ok.inj first)
      exact ⟨q', rfl, after.symm⟩

theorem SameRequest.onTimeout (same : SameRequest p q) :
    p.onTimeout.1 = q.onTimeout.1 ∧ SameRequest p.onTimeout.2 q.onTimeout.2 := by
  have first := withRepeater_onTimeout (t := .idle) (p := p)
  have second := withRepeater_onTimeout (t := .idle) (p := q)
  rw [same.eq, second] at first
  obtain ⟨result, after⟩ := Prod.mk.inj first
  exact ⟨result.symm, after.symm⟩

end EmsCollector.ApiCommandParser
