import EmsCollector.Collector.ApiCommandParserProof.DataLines
import EmsCollector.Collector.ApiCommandParserProof.Responses
import EmsCollector.Collector.CommandHandler

/-!
# Replies and debts

A parser with an active request owes a terminal line. What a command says itself and what it
leaves owed is one terminal line together, a few commands apart; an answer, an acknowledgement and
a timeout say what they settle.
-/

namespace EmsCollector.ApiCommandParser

/-- The terminal lines among the calls that the parser has made. -/
def spoken (p : ApiCommandParser) : List String :=
  (p.effects.filterMap Effect.line?).flatMap terminalLines

/-- The terminal line that an active request owes. -/
def owed (p : ApiCommandParser) : Nat := if p.activeRequest.isSome then 1 else 0

/-- What the parser has said and what it owes. -/
def tally (p : ApiCommandParser) : Nat := p.spoken.length + p.owed

theorem owed_active {p : ApiCommandParser} (active : p.activeRequest.isSome = true) : p.owed = 1 :=
  if_pos active

theorem owed_idle {p : ApiCommandParser} (idle : p.activeRequest = none) : p.owed = 0 := by
  unfold owed
  rw [idle]
  rfl

theorem spoken_output (p : ApiCommandParser) (line : String) :
    (p.output line).spoken = p.spoken ++ terminalLines line := by
  simp [spoken, output, Effect.line?]

theorem spoken_sendActiveRequest (p : ApiCommandParser) : p.sendActiveRequest.spoken = p.spoken := by
  cases request : p.activeRequest with
  | none => simp [spoken, sendActiveRequest, request]
  | some message => simp [spoken, sendActiveRequest, request, Effect.line?]

theorem spoken_sendCommand (p : ApiCommandParser) (dest : UInt8) (type : UInt16) (offset : UInt8)
    (data : List UInt8) (expectResponse : Bool) :
    (p.sendCommand dest type offset data expectResponse).spoken = p.spoken := by
  unfold sendCommand
  rw [spoken_sendActiveRequest]
  rfl

/-- The parser goes on with its request: it has said nothing, and a request is active. -/
structure Asking (p q : ApiCommandParser) : Prop where
  spoken : q.spoken = p.spoken
  active : q.activeRequest.isSome = true

theorem sendCommand_asking (p : ApiCommandParser) (dest : UInt8) (type : UInt16) (offset : UInt8)
    (data : List UInt8) (expectResponse : Bool) :
    p.Asking (p.sendCommand dest type offset data expectResponse) :=
  ⟨spoken_sendCommand p dest type offset data expectResponse, rfl⟩

theorem continueRequest_asking {p : ApiCommandParser} (more : p.continueRequest.1 = true) :
    p.Asking p.continueRequest.2 := by
  unfold continueRequest at more ⊢
  dsimp only at more ⊢
  split
  · rename_i complete
    rw [if_pos complete] at more
    cases more
  · exact sendCommand_asking p _ _ _ _ _

theorem continueRequest_done {p : ApiCommandParser} (done : p.continueRequest.1 = false) :
    p.continueRequest.2 = p := by
  unfold continueRequest at done ⊢
  dsimp only at done ⊢
  split
  · rfl
  · rename_i more
    rw [if_neg more] at done
    cases done

theorem spoken_continueRequest (p : ApiCommandParser) : p.continueRequest.2.spoken = p.spoken := by
  cases more : p.continueRequest.1 with
  | false => rw [continueRequest_done more]
  | true => exact (continueRequest_asking more).spoken

theorem spoken_startRequest (p : ApiCommandParser) (dest : UInt8) (type : UInt16)
    (offset length : Nat) (new raw : Bool) :
    (p.startRequest dest type offset length new raw).spoken = p.spoken := by
  unfold startRequest
  exact spoken_continueRequest _

/-- A read of no bytes asks nobody; the request that was active stays so. -/
theorem startRequest_active (p : ApiCommandParser) (dest : UInt8) (type : UInt16)
    (offset length : Nat) (new raw : Bool)
    (some_bytes : 0 < length ∨ p.activeRequest.isSome = true) :
    (p.startRequest dest type offset length new raw).activeRequest.isSome = true := by
  unfold startRequest continueRequest
  dsimp only
  split
  · rename_i complete
    exact some_bytes.resolve_left (Nat.not_lt_of_le complete)
  · rfl

theorem startAll_spoken (ranges : List Range) (p : ApiCommandParser) :
    (p.startAll ranges).spoken = p.spoken := by
  induction ranges generalizing p with
  | nil => rfl
  | cons range rest ih =>
      obtain ⟨dest, type, offset, length, raw⟩ := range
      exact (ih _).trans (spoken_startRequest p dest type offset length true raw)

theorem startAll_active (ranges : List Range) (p : ApiCommandParser)
    (asks : p.activeRequest.isSome = true ∨ ∃ range ∈ ranges, 0 < range.2.2.2.1) :
    (p.startAll ranges).activeRequest.isSome = true := by
  induction ranges generalizing p with
  | nil =>
      rcases asks with active | ⟨range, member, -⟩
      · exact active
      · cases member
  | cons range rest ih =>
      obtain ⟨dest, type, offset, length, raw⟩ := range
      refine ih (p.startRequest dest type offset length true raw) ?_
      rcases asks with active | ⟨range, member, some_bytes⟩
      · exact .inl (startRequest_active p dest type offset length true raw (.inr active))
      · rcases List.mem_cons.mp member with rfl | later
        · exact .inl (startRequest_active p dest type offset length true raw (.inl some_bytes))
        · exact .inr ⟨range, later, some_bytes⟩

/-- What a handler of answers comes to: the request is done, or goes on. It has said nothing
    terminal. -/
structure Handled (p : ApiCommandParser) (r : Option Bool × ApiCommandParser) : Prop where
  spoken : r.2.spoken = p.spoken
  result : r.1 = some true ∨ r.1 = none ∧ r.2.activeRequest.isSome = true

theorem Asking.handled {p q : ApiCommandParser} (asking : p.Asking q) : p.Handled (none, q) :=
  ⟨asking.spoken, .inr ⟨rfl, asking.active⟩⟩

theorem finishLoop_handled (p : ApiCommandParser) : p.Handled p.finishLoop := by
  rw [finishLoop_eq]
  cases more : p.continueRequest.1 with
  | false =>
      rw [continueRequest_done more]
      exact ⟨rfl, .inl rfl⟩
  | true => exact (continueRequest_asking more).handled

theorem recordLoop_handled {kind : RecordKind} {mark : String} (quiet : QuietListing kind mark)
    (fuel : Nat) (p : ApiCommandParser) : p.Handled (recordLoop kind mark fuel p) := by
  induction fuel generalizing p with
  | zero => exact finishLoop_handled p
  | succ fuel ih =>
      unfold recordLoop
      split
      · dsimp only
        split
        · exact ⟨rfl, .inl rfl⟩
        · obtain ⟨spoken, result⟩ := ih _
          refine ⟨spoken.trans ?_, result⟩
          rw [spoken_output, quiet, List.append_nil]
          rfl
      · exact finishLoop_handled p

theorem versionLine_spoken (p : ApiCommandParser) (index : Nat) (major minor : UInt8) :
    (match versionSources[index]? with
    | some (_, name) =>
        p.output (name ++ " version: " ++ toString major.toNat ++ "." ++ formatDec 2 minor.toNat)
    | none => p).spoken = p.spoken := by
  cases known : versionSources[index]? with
  | none => rfl
  | some entry =>
      obtain ⟨source, name⟩ := entry
      show (p.output _).spoken = p.spoken
      rw [spoken_output, version_quiet (List.mem_of_getElem? known), List.append_nil]

theorem handleVersion_handled {p : ApiCommandParser} {r : Option Bool × ApiCommandParser}
    (ok : p.handleVersion = .ok r) : p.Handled r := by
  unfold handleVersion at ok
  split at ok
  · dsimp only at ok
    split at ok
    · cases ok
      refine ⟨?_, .inr ⟨rfl, startRequest_active _ _ _ _ _ _ _ (.inl (by decide))⟩⟩
      rw [spoken_startRequest]
      exact versionLine_spoken _ _ _ _
    · cases ok
      exact ⟨versionLine_spoken _ _ _ _, .inl rfl⟩
  · cases ok
  · cases ok

/-- No line of contact information holds a terminal word of its own. -/
def QuietContact (response : List UInt8) : Prop :=
  ∀ i ∈ List.range ((response.length + 39) / 40),
    ∀ line ∈ (contactLine ((response.drop (40 * i)).take 40)).toOption, terminalLines line = []

instance (response : List UInt8) : Decidable (QuietContact response) :=
  inferInstanceAs (Decidable (∀ i ∈ List.range _, _))

theorem mapM_members {α β : Type} {f : α → Except Abort β} {l : List α} {values : List β}
    (ok : l.mapM f = .ok values) : ∀ value ∈ values, ∃ x ∈ l, f x = .ok value := by
  induction l generalizing values with
  | nil =>
      cases ok
      exact nofun
  | cons x rest ih =>
      rw [List.mapM_cons] at ok
      cases first : f x with
      | error abort =>
          rw [first] at ok
          cases ok
      | ok value =>
          cases remaining : rest.mapM f with
          | error abort =>
              rw [first, remaining] at ok
              cases ok
          | ok values' =>
              rw [first, remaining] at ok
              cases ok
              intro value' member
              rcases List.mem_cons.mp member with rfl | later
              · exact ⟨x, List.mem_cons_self, first⟩
              · obtain ⟨y, known, same⟩ := ih remaining value' later
                exact ⟨y, List.mem_cons_of_mem _ known, same⟩

theorem outputs_spoken {lines : List String} (quiet : ∀ line ∈ lines, terminalLines line = [])
    (p : ApiCommandParser) : (lines.foldl output p).spoken = p.spoken := by
  induction lines generalizing p with
  | nil => rfl
  | cons line rest ih =>
      rw [List.forall_mem_cons] at quiet
      refine (ih quiet.2 (p.output line)).trans ?_
      rw [spoken_output, quiet.1, List.append_nil]

theorem handleContactInfo_handled {p : ApiCommandParser} {r : Option Bool × ApiCommandParser}
    (quiet : QuietContact p.requestResponse) (ok : p.handleContactInfo = .ok r) : p.Handled r := by
  have asking := continueRequest_asking (p := p)
  have done := continueRequest_done (p := p)
  unfold handleContactInfo at ok
  split at ok
  · rename_i q more
    rw [more] at asking
    cases ok
    exact (asking rfl).handled
  · rename_i q complete
    rw [complete] at done
    have same : q = p := done rfl
    rw [same] at ok
    cases read : (List.range ((p.requestResponse.length + 39) / 40)).mapM fun i =>
        contactLine ((p.requestResponse.drop (40 * i)).take 40) with
    | error abort =>
        rw [read] at ok
        cases ok
    | ok lines =>
        rw [read] at ok
        cases ok
        refine ⟨outputs_spoken (fun line member => ?_) p, .inl rfl⟩
        obtain ⟨i, bound, decoded⟩ := mapM_members read line member
        exact quiet i bound line (by rw [decoded]; rfl)

theorem handleRawResponse_handled (p : ApiCommandParser) : p.Handled p.handleRawResponse := by
  have asking := continueRequest_asking (p := p)
  have done := continueRequest_done (p := p)
  unfold handleRawResponse
  split
  · rename_i q complete
    rw [complete] at done
    have same : q = p := done rfl
    refine ⟨?_, .inl rfl⟩
    rw [spoken_output, rawOutput_quiet, List.append_nil, same]
  · rename_i q more
    rw [more] at asking
    exact (asking rfl).handled

theorem handleResponse_handled {p : ApiCommandParser} {r : Option Bool × ApiCommandParser}
    (known : p.requestType ∈ handledTypes)
    (quiet : p.requestType = 0x0137 → QuietContact p.requestResponse)
    (ok : p.handleResponse = .ok r) : p.Handled r := by
  have blank : Plain " " := by decide
  have history : Plain "R" := by decide
  have history' : Plain "U" := by decide
  unfold handleResponse at ok
  split at ok
  case _ => exact handleVersion_handled ok
  case _ same => exact handleContactInfo_handled (quiet (UInt16.toNat_inj.mp same)) ok
  case _ =>
    cases ok
    obtain ⟨spoken, result⟩ := recordLoop_handled (errorRecordShort_quiet blank)
      p.requestResponse.length { p with parsePosition := 3 }
    exact ⟨spoken, result⟩
  case _ =>
    cases ok
    exact recordLoop_handled (errorRecord2_quiet history) _ _
  case _ =>
    cases ok
    exact recordLoop_handled (errorRecord2_quiet history') _ _
  any_goals
    cases ok
    exact ⟨rfl, .inl rfl⟩
  simp only [handledTypes, List.mem_cons, List.not_mem_nil, or_false] at known
  rcases known with same | same | same | same | same | same | same | same | same | same | same | same
    <;> simp_all

/-- The parser knows what to do with an answer that it takes, and the answer brings no terminal
    lines of its own. -/
def Answerable (p : ApiCommandParser) (message : EmsMessage) : Prop :=
  p.activeRequest.isSome = true → message.getType ≠ 0xff → p.Continues message →
    p.outputRawData = true ∨ p.requestType ∈ handledTypes ∧
      (p.requestType = 0x0137 → QuietContact (p.requestResponse ++ message.data))

instance (p : ApiCommandParser) (message : EmsMessage) : Decidable (p.Answerable message) :=
  inferInstanceAs (Decidable (_ → _ → _ → _))

theorem take_response (p : ApiCommandParser) (message : EmsMessage) :
    (p.take message).requestResponse = p.requestResponse ++ message.data ∧
      (p.take message).spoken = p.spoken := by
  unfold take
  split
  · rename_i empty
    rw [empty, List.append_nil]
    exact ⟨rfl, rfl⟩
  · exact ⟨rfl, rfl⟩

theorem fail_terminal : terminalLines "FAIL" = ["FAIL"] := terminalLines_ofList rfl

theorem incomingReply_some (accepted : Bool) :
    ((CommandConnection.incomingReply (some accepted)).flatMap terminalLines).length = 1 := by
  cases accepted with
  | false =>
      show (terminalLines "FAIL" ++ []).length = 1
      rw [fail_terminal]
      rfl
  | true =>
      show (terminalLines "OK" ++ []).length = 1
      rw [ok_terminal]
      rfl

theorem respond_handled {p : ApiCommandParser} {message : EmsMessage}
    {r : Option Bool × ApiCommandParser}
    (known : p.outputRawData = true ∨ p.requestType ∈ handledTypes ∧
      (p.requestType = 0x0137 → QuietContact (p.requestResponse ++ message.data)))
    (ok : (p.take message).respond = .ok r) : (p.take message).Handled r := by
  obtain ⟨raw, type⟩ := take_kept p message
  obtain ⟨response, -⟩ := take_response p message
  rw [← raw, ← type, ← response] at known
  unfold respond at ok
  by_cases raw : (p.take message).outputRawData = true
  · rw [if_pos raw] at ok
    cases ok
    exact handleRawResponse_handled _
  · rw [if_neg raw] at ok
    obtain ⟨handled, quiet⟩ := known.resolve_left raw
    exact handleResponse_handled handled quiet ok

/-- A telegram settles what it says. -/
theorem onIncomingMessage_tally {p q : ApiCommandParser} {message : EmsMessage} {result : Option Bool}
    (answerable : p.Answerable message) (ok : p.onIncomingMessage message = .ok (result, q)) :
    q.tally + ((CommandConnection.incomingReply result).flatMap terminalLines).length = p.tally := by
  unfold onIncomingMessage at ok
  split at ok
  · cases ok
    rfl
  rename_i busy
  have active : p.activeRequest.isSome = true := by
    rw [Option.isNone_iff_eq_none] at busy
    exact Option.isSome_iff_ne_none.mpr busy
  have debt : p.tally = p.spoken.length + 1 := by
    unfold tally
    rw [owed_active active]
  split at ok
  · cases ok
    rw [debt, incomingReply_some]
    rfl
  rename_i other
  split at ok
  · cases ok
    rfl
  rename_i mismatch
  have continues : p.Continues message := by
    simp only [not_or, Decidable.not_not] at mismatch
    exact mismatch
  split at ok
  · rename_i result' q' answered
    obtain ⟨said, settled⟩ : (p.take message).Handled (result', q') :=
      respond_handled (answerable active other continues) answered
    have spoken : q'.spoken = p.spoken := said.trans (take_response p message).2
    cases ok
    rcases settled with done | ⟨going, active'⟩
    · have finished : result = some true := done
      rw [finished, if_pos rfl, debt, incomingReply_some, ← spoken]
      rfl
    · have going : result = none := going
      have active' : q'.activeRequest.isSome = true := active'
      rw [going, if_neg nofun, debt, ← spoken]
      unfold tally
      rw [owed_active active']
      rfl
  · cases ok

theorem sendActiveRequest_tally (p : ApiCommandParser) : p.sendActiveRequest.tally = p.tally := by
  unfold tally
  rw [spoken_sendActiveRequest]
  rfl

/-- So does a timeout. -/
theorem onTimeout_tally (p : ApiCommandParser) :
    p.onTimeout.2.tally + (if p.onTimeout.1 then 1 else 0) = p.tally := by
  unfold onTimeout
  split
  · rfl
  · rename_i busy
    have active : p.activeRequest.isSome = true := by
      rw [Option.isNone_iff_eq_none] at busy
      exact Option.isSome_iff_ne_none.mpr busy
    have debt : p.tally = p.spoken.length + 1 := by
      unfold tally
      rw [owed_active active]
    rw [debt]
    dsimp only
    split
    · rfl
    · exact (sendActiveRequest_tally _).trans debt

/-- A refresh of the test mode owes nothing new if a request is active. -/
theorem refreshTestMode_tally {p : ApiCommandParser} (active : p.activeRequest.isSome = true)
    (now : Time) : (p.refreshTestMode now).tally = p.tally := by
  have spoken : (p.refreshTestMode now).spoken = p.spoken :=
    spoken_sendCommand p EmsProto.addressUBA2 0x1d 0 [0x5a] false
  unfold tally
  rw [spoken, owed_active active]
  rfl

/-- The line is one of the commands that say `OK` themselves and send telegrams that are
    acknowledged, too. -/
def Doubles (request : IStream) : Prop :=
  let (category, request) := nextWord request
  let (cmd, request) := nextWord request
  category = "uba" ∧ (cmd = "resetmaintenanceindicator" ∨ cmd = "unlockfault" ∨
      cmd = "testmode" ∧ (nextWord request).1 = "off") ∨
    category = "rc" ∧ cmd = "setcontactinfo" ∧ ∃ n ∈ (request.readUnsigned false).1, 1 ≤ n ∧ n ≤ 3

instance (request : IStream) : Decidable (Doubles request) := inferInstanceAs (Decidable (_ ∨ _))

/-- The line is `raw read` for no bytes. -/
def ReadsNothing (request : IStream) : Prop :=
  let (category, request) := nextWord request
  let (cmd, request) := nextWord request
  let offset := ((request.readUnsigned true).2.readUnsigned true).2
  category = "raw" ∧ cmd = "read" ∧ ((offset.readUnsigned true).2.readUnsigned true).1 = some 0

instance (request : IStream) : Decidable (ReadsNothing request) :=
  inferInstanceAs (Decidable (_ ∧ _))

/-- The values in the cache are no terminal lines. -/
def QuietCache (env : Env) : Prop :=
  ∀ outputValues ∈ env.cache, ∀ selector, terminalLines (outputValues selector) = []

/-- The terminal lines of the immediate reply. -/
def immediate (result : CommandResult) : List String :=
  (CommandConnection.resultReply result).flatMap terminalLines

/-- Given to a free parser, the command brings one terminal line, said or owed. -/
def Single (m : RequestM CommandResult) (s : Session) : Prop :=
  s.parser.activeRequest = none → ∀ result t, m s = .ok result t →
    t.parser.tally + (immediate result).length = s.parser.tally + 1

section Commands

variable {s : Session} {env : Env}

theorem immediate_refused {result : CommandResult} (failed : result ≠ .ok) :
    (immediate result).length = 1 := by
  have busy : terminalLines "ERRBUSY" = ["ERRBUSY"] := terminalLines_ofList rfl
  have cmd : terminalLines "ERRCMD" = ["ERRCMD"] := terminalLines_ofList rfl
  have args : terminalLines "ERRARGS" = ["ERRARGS"] := terminalLines_ofList rfl
  cases result with
  | ok => exact absurd rfl failed
  | busy => simp [immediate, CommandConnection.resultReply, busy]
  | invalidCmd => simp [immediate, CommandConnection.resultReply, cmd]
  | invalidArgs => simp [immediate, CommandConnection.resultReply, args]

theorem refused_single {result : CommandResult} (failed : result ≠ .ok) : Single (pure result) s := by
  rintro - _ t ⟨⟩
  rw [immediate_refused failed]

theorem throw_single (abort : Abort) : Single (throw abort) s := by
  rintro - result t ⟨⟩

theorem done_single {change : ApiCommandParser → ApiCommandParser}
    (one : ∀ p : ApiCommandParser, p.activeRequest = none → (change p).tally = p.tally + 1) :
    Single (do update change; pure .ok) s := by
  rintro idle _ t ⟨⟩
  exact one s.parser idle

/-- A request that has been sent is owed its acknowledgement or answer. -/
theorem Asking.tally {p q : ApiCommandParser} (asking : p.Asking q) (idle : p.activeRequest = none) :
    q.tally = p.tally + 1 := by
  unfold ApiCommandParser.tally
  rw [asking.spoken, owed_active asking.active, owed_idle idle]

/-- A reply that says `OK` at once. -/
theorem output_tally {text : String} (single : (terminalLines text).length = 1) (p : ApiCommandParser) :
    (p.output text).tally = p.tally + 1 := by
  have debt : (p.output text).owed = p.owed := rfl
  unfold tally
  rw [spoken_output, List.length_append, single, debt]
  omega

theorem sendCommand_single (dest : UInt8) (type : UInt16) (offset : UInt8) (data : List UInt8) :
    Single (do
      update (·.sendCommand dest type offset data)
      pure CommandResult.ok) s :=
  done_single (fun p idle => (sendCommand_asking p dest type offset data false).tally idle)

theorem read_single {α : Type} (extraction : IStream → Option α × IStream)
    (next : Option α → RequestM CommandResult) (s : Session) : Single (read extraction >>= next) s ↔
      Single (next (extraction s.request).1) ⟨s.parser, (extraction s.request).2⟩ := Iff.rfl

theorem readWord_single (next : String → RequestM CommandResult) (s : Session) :
    Single (readWord >>= next) s ↔
      Single (next (nextWord s.request).1) ⟨s.parser, (nextWord s.request).2⟩ := Iff.rfl

theorem bind_single {α : Type} {m : RequestM α} {next : α → RequestM CommandResult} (first : Silent m)
    (rest : ∀ value request, Single (next value) ⟨s.parser, request⟩) : Single (m >>= next) s := by
  intro idle result t ran
  obtain ⟨value, u, before, after⟩ := bind_ok ran
  have same := first s value u before
  have next := rest value u.request
  rw [← same] at next idle ⊢
  exact next idle result t after

theorem select_single {cmd : String} {commands : List (String × RequestM CommandResult)}
    (all : ∀ entry ∈ commands, entry.1 = cmd → Single entry.2 s) :
    Single (ApiCommandParser.select cmd commands) s :=
  lookup_getD (P := fun command => Single command s) all (refused_single nofun)

theorem help_single {text : String} (lines : HelpLines text) : Single (help (text ++ "OK")) s := by
  refine done_single (fun p _ => output_tally ?_ p)
  rw [terminalLines_append lines.ended, lines.quiet, ok_terminal]
  rfl

theorem request_single {ranges : List (UInt8 × UInt16 × Nat × Nat)} {raw : Bool}
    (some_bytes : ∃ range ∈ ranges, 0 < range.2.2.2) : Single (request ranges raw) s := by
  refine done_single (fun p idle => ?_)
  rw [foldl_startRequest]
  obtain ⟨range, member, positive⟩ := some_bytes
  exact Asking.tally ⟨startAll_spoken _ p,
    startAll_active _ p (.inr ⟨_, List.mem_map_of_mem member, positive⟩)⟩ idle

theorem handleKeyword_single (dest : UInt8) (type : UInt16) (offset : UInt8)
    (words : List (String × UInt8)) : Single (handleKeyword dest type offset words) s := by
  refine bind_single readWord_silent (fun mode request => ?_)
  cases words.lookup mode with
  | none => exact refused_single nofun
  | some data => exact sendCommand_single _ _ _ _

theorem handleSingleByteValue_single (dest : UInt8) (type : UInt16) (offset : UInt8)
    (multiplier min max : Int) :
    Single (handleSingleByteValue dest type offset multiplier min max) s := by
  refine bind_single (read_silent _) (fun value request => ?_)
  cases value.bind (singleByteOf · multiplier min max) with
  | none => exact refused_single nofun
  | some data => exact sendCommand_single _ _ _ _

theorem handleSetTime_single : Single (handleSetTime env) s := by
  refine bind_single (read_silent _) (fun time request => ?_)
  rcases time with _ | special | ⟨year, month, day, hours, minutes, seconds⟩
  · exact refused_single nofun
  · exact throw_single _
  · exact sendCommand_single _ _ _ _

/-- `rc setcontactinfo` for a line that does not exist. -/
theorem handleSetContactInfo_single
    (refused : ¬ ∃ n ∈ (s.request.readUnsigned false).1, 1 ≤ n ∧ n ≤ 3) :
    Single handleSetContactInfo s := by
  have missing : (s.request.readUnsigned false).1.filter (fun line => 1 ≤ line ∧ line ≤ 3) = none := by
    rw [Option.filter_eq_none_iff]
    intro n member bounds
    exact refused ⟨n, member, of_decide_eq_true bounds⟩
  unfold handleSetContactInfo
  rw [read_single, missing]
  exact refused_single nofun

theorem schedule_single (data : Option (List UInt8)) (s : Session) : Single
    (match data with
      | some data => do
          ApiCommandParser.update (fun p => p.sendCommand EmsProto.addressUBA2 0x15 0 data)
          Pure.pure CommandResult.ok
      | none => Pure.pure CommandResult.invalidArgs) s := by
  cases data with
  | none => exact refused_single nofun
  | some data => exact sendCommand_single _ _ _ _

theorem handleScheduleMaintenance_single : Single handleScheduleMaintenance s := by
  refine bind_single readWord_silent (fun kind request => ?_)
  dsimp only
  split
  · exact bind_single (read_silent _) (fun due _ => schedule_single _ _)
  · split
    · exact bind_single (parseIntParameter_silent _) (fun hours _ => schedule_single _ _)
    · split
      · exact bind_single (parseIntParameter_silent _) (fun months _ => schedule_single _ _)
      · split
        · exact schedule_single (some _) _
        · exact refused_single nofun

/-- `uba testmode`, unless it is switched off. -/
theorem handleTestMode_single (now : Time) (stays : (nextWord s.request).1 ≠ "off") :
    Single (handleTestMode now) s := by
  unfold handleTestMode
  rw [readWord_single]
  split
  · refine done_single (fun p _ => ?_)
    exact output_tally (by rw [ok_terminal]; rfl) { p with testModeRepeater := _ }
  · exact refused_single nofun

theorem handleTestState_single : Single handleTestState s := by
  have readUpTo (max : UInt32) : Silent (readUpTo max) :=
    bind_silent (read_silent _) (fun _ => pure_silent _)
  have readFlag : Silent readFlag := bind_silent (read_silent _) (fun _ => pure_silent _)
  exact bind_single (readUpTo _) (fun _ _ => bind_single (readUpTo _) (fun _ _ =>
    bind_single (readUpTo _) (fun _ _ => bind_single (readUpTo _) (fun _ _ =>
    bind_single readFlag (fun _ _ => bind_single readFlag (fun _ _ => bind_single readFlag
    (fun _ _ => sendCommand_single _ _ _ _)))))))

theorem handleTemporaryTemp_single : Single handleTemporaryTemp s := by
  intro idle result t ran
  obtain ⟨first, u, tried, rest⟩ := bind_ok ran
  have one := handleSingleByteValue_single EmsProto.addressUI800 0x01b9 8 2 5 30 idle first u tried
  have same : first ≠ .ok → u.parser = s.parser := fun failed =>
    (@handleSingleByteValue_outcome ⟨none, fun s => (none, s), 0⟩ _ _ _ _ _ _ s first u
      tried).unchanged failed
  split at rest
  · rename_i ok
    cases rest
    rw [ok] at one
    exact one
  · rename_i failed
    have free : u.parser.activeRequest = none := by
      rw [same failed]
      exact idle
    have next := sendCommand_single EmsProto.addressUI800 0x01b9 8 [0xff] free result t rest
    rw [same failed] at next
    exact next

theorem parseIntParameter_ok {max : UInt32} {value : Option UInt32} {t : Session}
    (ran : parseIntParameter max s = .ok value t) :
    value = (s.request.readUnsigned true).1.filter (· ≤ max) ∧
      t = ⟨s.parser, (s.request.readUnsigned true).2⟩ := by
  cases ran
  exact ⟨rfl, rfl⟩

/-- The last parameter of a raw command, when all four are well-formed. -/
theorem readRawParameters_last {values : UInt8 × UInt16 × UInt8 × UInt8} {t : Session}
    (ran : readRawParameters s = .ok (some values) t) :
    ∃ n, (((s.request.readUnsigned true).2.readUnsigned true).2.readUnsigned true).2.readUnsigned true =
      (some n, t.request) ∧ n ≤ 255 ∧ values.2.2.2 = n.toUInt8 := by
  unfold readRawParameters at ran
  obtain ⟨target, s₁, read₁, ran⟩ := bind_ok ran
  obtain ⟨-, rfl⟩ := parseIntParameter_ok read₁
  rcases target with _ | target
  · cases ran
  obtain ⟨type, s₂, read₂, ran⟩ := bind_ok ran
  obtain ⟨-, rfl⟩ := parseIntParameter_ok read₂
  rcases type with _ | type
  · cases ran
  obtain ⟨offset, s₃, read₃, ran⟩ := bind_ok ran
  obtain ⟨-, rfl⟩ := parseIntParameter_ok read₃
  rcases offset with _ | offset
  · cases ran
  obtain ⟨last, s₄, read₄, ran⟩ := bind_ok ran
  obtain ⟨found, rfl⟩ := parseIntParameter_ok read₄
  rcases last with _ | last
  · cases ran
  obtain ⟨value, bound⟩ := Option.filter_eq_some_iff.mp found.symm
  cases ran
  exact ⟨last, Prod.ext value rfl, of_decide_eq_true bound, rfl⟩

/-- `raw read` for some bytes. -/
theorem rawRead_single
    (some_bytes : ((((s.request.readUnsigned true).2.readUnsigned true).2.readUnsigned
      true).2.readUnsigned true).1 ≠ some 0) :
    Single (rawParameters (fun target type offset len p =>
      p.startRequest target type offset.toNat len.toNat true true)) s := by
  intro idle result t ran
  obtain ⟨values, u, before, after⟩ := bind_ok ran
  have same : u.parser = s.parser := readRawParameters_silent s values u before
  rcases values with _ | ⟨target, type, offset, len⟩
  · cases after
    rw [immediate_refused (by decide), same]
  · obtain ⟨n, last, bound, value⟩ := readRawParameters_last before
    have positive : 0 < len.toNat := by
      rw [last] at some_bytes
      have byte : n.toNat ≤ 255 := bound
      have same : len.toNat = n.toNat := by
        rw [show len = n.toUInt8 from value, UInt32.toNat_toUInt8]
        omega
      rw [same]
      refine Nat.pos_of_ne_zero (fun zero => some_bytes ?_)
      rw [show n = 0 from UInt32.toNat_inj.mp zero]
    cases after
    have asking : s.parser.Asking (s.parser.startRequest target type offset.toNat len.toNat true true) :=
      ⟨spoken_startRequest .., startRequest_active _ _ _ _ _ _ _ (.inl positive)⟩
    rw [same]
    exact asking.tally idle

theorem rawWrite_single :
    Single (rawParameters (fun target type offset value p => p.sendCommand target type offset [value])) s := by
  refine bind_single readRawParameters_silent (fun values request => ?_)
  rcases values with _ | ⟨target, type, offset, value⟩
  · exact refused_single nofun
  · exact sendCommand_single _ _ _ _

theorem handleRcCommand_single (other : ¬ ((nextWord s.request).1 = "setcontactinfo" ∧
    ∃ n ∈ ((nextWord s.request).2.readUnsigned false).1, 1 ≤ n ∧ n ≤ 3)) :
    Single (handleRcCommand env) s := by
  unfold handleRcCommand
  rw [readWord_single]
  refine select_single ?_
  unfold rcCommands
  simp only [List.forall_mem_cons]
  have one : (0 : Nat) < 20 := by decide
  refine ⟨fun _ => help_single (by (repeat' apply HelpLines.append) <;> exact .line rfl rfl rfl),
    fun _ => done_single (fun p idle => ?_), fun _ => request_single ⟨_, List.mem_singleton_self _, one⟩,
    fun _ => request_single ⟨_, List.mem_singleton_self _, by decide⟩,
    fun _ => handleSingleByteValue_single _ _ _ _ _ _, fun _ => handleKeyword_single _ _ _ _,
    fun _ => handleKeyword_single _ _ _ _, fun _ => handleSetTime_single,
    fun _ => request_single ⟨_, List.mem_singleton_self _, by decide⟩,
    fun named => handleSetContactInfo_single (fun existing => other ⟨named.symm, existing⟩), nofun⟩
  exact Asking.tally ⟨startAll_spoken [(EmsProto.addressUI800, 0x0140, 0, 46, true),
    (EmsProto.addressUI800, 0x00bf, 0, 20, false), (EmsProto.addressUBA2, 0x00bf, 0, 20, false)] p, rfl⟩ idle

theorem handleUbaCommand_single
    (other : ¬ ((nextWord s.request).1 = "resetmaintenanceindicator" ∨
      (nextWord s.request).1 = "unlockfault" ∨ (nextWord s.request).1 = "testmode" ∧
        (nextWord (nextWord s.request).2).1 = "off")) : Single (handleUbaCommand env) s := by
  simp only [not_or, not_and] at other
  unfold handleUbaCommand
  rw [readWord_single]
  refine select_single ?_
  unfold ubaCommands
  simp only [List.forall_mem_cons]
  exact ⟨fun _ => help_single (by (repeat' apply HelpLines.append) <;> exact .line rfl rfl rfl),
    fun _ => request_single ⟨_, List.mem_singleton_self _, by decide⟩,
    fun _ => request_single ⟨_, List.mem_singleton_self _, by decide⟩,
    fun _ => handleScheduleMaintenance_single,
    fun _ => request_single ⟨_, List.mem_singleton_self _, by decide⟩,
    fun named => absurd named.symm other.1, fun named => absurd named.symm other.2.1,
    fun named => handleTestMode_single env.now (other.2.2 named.symm), fun _ => handleTestState_single, nofun⟩

theorem handleHkCommand_single (number : UInt16) : Single (handleHkCommand number) s := by
  unfold handleHkCommand
  rw [readWord_single]
  refine select_single ?_
  unfold hkCommands
  simp only [List.forall_mem_cons]
  exact ⟨fun _ => help_single (by (repeat' apply HelpLines.append) <;> exact .line rfl rfl rfl),
    fun _ => request_single ⟨_, List.mem_cons_self, by decide⟩,
    fun _ => handleSingleByteValue_single _ _ _ _ _ _, fun _ => handleSingleByteValue_single _ _ _ _ _ _,
    fun _ => handleSingleByteValue_single _ _ _ _ _ _, fun _ => handleKeyword_single _ _ _ _,
    fun _ => handleKeyword_single _ _ _ _, fun _ => handleSingleByteValue_single _ _ _ _ _ _,
    fun _ => handleSingleByteValue_single _ _ _ _ _ _, fun _ => handleSingleByteValue_single _ _ _ _ _ _,
    fun _ => handleTemporaryTemp_single, fun _ => handleKeyword_single _ _ _ _,
    fun _ => handleSingleByteValue_single _ _ _ _ _ _, fun _ => handleSingleByteValue_single _ _ _ _ _ _,
    nofun⟩

theorem handleWwCommand_single : Single handleWwCommand s := by
  unfold handleWwCommand
  rw [readWord_single]
  refine select_single ?_
  unfold wwCommands
  simp only [List.forall_mem_cons]
  exact ⟨fun _ => help_single (by (repeat' apply HelpLines.append) <;> exact .line rfl rfl rfl),
    fun _ => handleKeyword_single _ _ _ _, fun _ => handleKeyword_single _ _ _ _,
    fun _ => request_single ⟨_, List.mem_cons_self, by decide⟩,
    fun _ => handleSingleByteValue_single _ _ _ _ _ _, fun _ => handleSingleByteValue_single _ _ _ _ _ _,
    fun _ => handleSingleByteValue_single _ _ _ _ _ _, fun _ => handleSingleByteValue_single _ _ _ _ _ _,
    fun _ => handleSingleByteValue_single _ _ _ _ _ _, fun _ => handleKeyword_single _ _ _ _, nofun⟩

theorem handleRawCommand_single
    (some_bytes : (nextWord s.request).1 = "read" → ((((((nextWord s.request).2.readUnsigned
      true).2.readUnsigned true).2.readUnsigned true).2.readUnsigned true).1 ≠ some 0)) :
    Single handleRawCommand s := by
  unfold handleRawCommand
  rw [readWord_single]
  refine select_single ?_
  unfold rawCommands
  simp only [List.forall_mem_cons]
  exact ⟨fun _ => help_single (by (repeat' apply HelpLines.append) <;> exact .line rfl rfl rfl),
    fun named => rawRead_single (some_bytes named.symm), fun _ => rawWrite_single, nofun⟩

theorem handleCacheCommand_single (quiet : QuietCache env) : Single (handleCacheCommand env) s := by
  unfold handleCacheCommand
  rw [readWord_single]
  cases cache : env.cache with
  | none => exact refused_single nofun
  | some outputValues =>
      refine select_single ?_
      simp only [List.forall_mem_cons]
      refine ⟨fun _ => help_single (by (repeat' apply HelpLines.append) <;> exact .line rfl rfl rfl),
        fun _ => bind_single readTokens_silent (fun tokens _ => done_single (fun p _ => ?_)), nofun⟩
      have said : (p.output (outputValues (tokens.filter (· ≠ "")))).tally = p.tally := by
        unfold tally
        rw [spoken_output, quiet outputValues cache, List.append_nil]
        rfl
      have ok : (terminalLines "OK").length = 1 := by rw [ok_terminal]; rfl
      rw [output_tally ok, said]

/-- A line for a free parser brings one terminal line, unless it doubles its reply or reads
    nothing. -/
theorem parseCommand_single (quiet : QuietCache env) (single : ¬ Doubles s.request)
    (some_bytes : ¬ ReadsNothing s.request) : Single (parseCommand env) s := by
  unfold Doubles at single
  unfold ReadsNothing at some_bytes
  dsimp only at single some_bytes
  unfold parseCommand
  rw [readWord_single]
  refine select_single ?_
  unfold commands
  simp only [List.forall_mem_cons]
  refine ⟨fun _ => help_single (by (repeat' apply HelpLines.append) <;> exact .line rfl rfl rfl),
    fun _ => handleHkCommand_single _, fun _ => handleHkCommand_single _, fun _ => handleHkCommand_single _,
    fun _ => handleHkCommand_single _, fun _ => handleWwCommand_single,
    fun named => handleRcCommand_single (fun doubles => single (.inr ⟨named.symm, doubles⟩)),
    fun named => handleUbaCommand_single (fun doubles => single (.inl ⟨named.symm, doubles⟩)),
    fun named => handleRawCommand_single (fun read nothing => some_bytes ⟨named.symm, read, nothing⟩),
    fun _ => handleCacheCommand_single quiet, fun _ => done_single (fun p idle => ?_), nofun⟩
  have said : (p.output ("collector version: " ++ apiVersion)).tally = p.tally := by
    unfold tally
    rw [spoken_output, version_terminal, List.append_nil]
    rfl
  rw [← said]
  exact Asking.tally ⟨spoken_startRequest .., startRequest_active _ _ _ _ _ _ _ (.inl (by decide))⟩ idle

/-- A line brings one terminal line: a parser that is not free refuses it. -/
theorem parse_tally {result : CommandResult} {t : Session} (quiet : QuietCache env)
    (single : s.parser.activeRequest.isSome = true ∨ ¬ Doubles s.request ∧ ¬ ReadsNothing s.request)
    (parsed : parse env s = .ok result t) :
    t.parser.tally + (immediate result).length = s.parser.tally + 1 := by
  unfold parse at parsed
  split at parsed
  · cases parsed
    rw [immediate_refused (by decide)]
  · rename_i free
    obtain ⟨single, some_bytes⟩ := single.resolve_left free
    rw [Bool.not_eq_true, Option.isSome_eq_false_iff, Option.isNone_iff_eq_none] at free
    exact parseCommand_single quiet single some_bytes free result t parsed

end Commands

end EmsCollector.ApiCommandParser
