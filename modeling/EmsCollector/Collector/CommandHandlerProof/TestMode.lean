import EmsCollector.Collector.CommandHandlerProof.Connection

/-!
# The end of the test mode

A monitor beside a connection notes when `uba testmode off` and `uba testmode on` are accepted,
and whether a telegram that switches the test mode on is enqueued in between. The handler that
`uba testmode on` sets runs also when its wait is aborted; if `uba testmode off` comes before that
handler has run, the handler switches the test mode on again, and keeps it on.
-/

namespace EmsCollector

/-- A telegram with the type of the test mode and the data that switches it on. -/
def IsTestModeOn (message : EmsMessage) : Prop :=
  message.getType = 0x1d ∧ message.data = [0x5a]

instance (message : EmsMessage) : Decidable (IsTestModeOn message) :=
  inferInstanceAs (Decidable (_ ∧ _))

namespace ApiCommandParser

/-- The argument of a request that begins with `uba testmode`. -/
def testModeArgument (s : IStream) : Option String :=
  let (category, s) := nextWord s
  let (cmd, s) := nextWord s
  if category = "uba" ∧ cmd = "testmode" then some (nextWord s).1 else none

/-- The type and the last parameter of a raw command, if it is well formed. -/
def rawArguments (s : Session) : Option (UInt16 × UInt8) :=
  let (category, request) := nextWord s.request
  let (cmd, request) := nextWord request
  if category = "raw" ∧ (cmd = "read" ∨ cmd = "write") then
    match readRawParameters { s with request } with
    | .ok (some (_, type, _, last)) _ => some (type, last)
    | _ => none
  else none

/-- What the parser does but for telegrams that switch the test mode on. -/
abbrev Ends (p q : ApiCommandParser) : Prop := Acts (fun message => ¬ IsTestModeOn message) False p q

theorem not_on_of_other {type : UInt16} (other : type ≠ 0x1d) (dest offset : UInt8)
    (data : List UInt8) (expectResponse : Bool) :
    ¬ IsTestModeOn (.send dest type offset data expectResponse) := by
  rintro ⟨same, -⟩
  rw [EmsMessage.getType_send] at same
  exact other same

theorem not_on_of_last {dest : UInt8} {type : UInt16} {offset last : UInt8} {expectResponse : Bool}
    (other : (type, last) ≠ (0x1d, 0x5a)) :
    ¬ IsTestModeOn (.send dest type offset [last] expectResponse) := by
  rintro ⟨same, data⟩
  rw [EmsMessage.getType_send] at same
  cases same
  cases data
  exact other rfl

/-- A raw command, with the values that it reads. -/
theorem rawParameters_ends (env : Env)
    {command : UInt8 → UInt16 → UInt8 → UInt8 → ApiCommandParser → ApiCommandParser} (s : Session)
    (acts : ∀ target type offset last t, readRawParameters s = .ok (some (target, type, offset, last)) t →
      Ends t.parser (command target type offset last t.parser)) :
    Ends s.parser (final (rawParameters command s)).parser := by
  have built : Built env (fun message => ¬ IsTestModeOn message) False readRawParameters :=
    readRawParameters_built
  have before : Ends s.parser (final (readRawParameters s)).parser := built.acts s
  show Ends s.parser (final (EStateM.bind readRawParameters _ s)).parser
  unfold EStateM.bind
  cases values : readRawParameters s with
  | error abort t =>
      rw [values] at before
      exact before
  | ok value t =>
      rw [values] at before
      rcases value with _ | ⟨target, type, offset, last⟩
      · exact before
      · exact before.trans (acts _ _ _ _ t values)

/-- A request that begins with `uba testmode` is handled by its handler. -/
theorem parseCommand_testMode {s : Session} {mode : String}
    (argument : testModeArgument s.request = some mode) (env : Env) :
    ∃ request, (nextWord request).1 = mode ∧
      parseCommand env s = handleTestMode env.now ⟨s.parser, request⟩ := by
  unfold testModeArgument at argument
  dsimp only at argument
  split at argument
  · rename_i words
    obtain ⟨category, cmd⟩ := words
    refine ⟨_, Option.some.inj argument, ?_⟩
    unfold parseCommand
    rw [readWord_bind, category]
    show handleUbaCommand env _ = _
    unfold handleUbaCommand
    rw [readWord_bind, cmd]
    rfl
  · cases argument

/-- The raw commands but those that spell a telegram which switches the test mode on. -/
theorem handleRawCommand_ends {s : Session} (env : Env)
    (other : ∀ values t, (nextWord s.request).1 = "read" ∨ (nextWord s.request).1 = "write" →
      readRawParameters ⟨s.parser, (nextWord s.request).2⟩ = .ok (some values) t →
        (values.2.1, values.2.2.2) ≠ (0x1d, 0x5a)) :
    Ends s.parser (final (handleRawCommand s)).parser := by
  unfold handleRawCommand
  rw [readWord_bind]
  by_cases read : (nextWord s.request).1 = "read"
  · have chosen : select "read" rawCommands = rawParameters (fun target type offset len p =>
        p.startRequest target type offset.toNat len.toNat true true) := rfl
    rw [read, chosen]
    apply rawParameters_ends env ⟨s.parser, (nextWord s.request).2⟩
    intro target type offset last t values
    apply Acts.startRequest .nil
    intro offset
    apply not_on_of_last
    rw [UInt8.ofNat_toNat]
    exact other _ t (.inl read) values
  · by_cases write : (nextWord s.request).1 = "write"
    · have chosen : select "write" rawCommands = rawParameters (fun target type offset value p =>
          p.sendCommand target type offset [value]) := rfl
      rw [write, chosen]
      apply rawParameters_ends env ⟨s.parser, (nextWord s.request).2⟩
      intro target type offset last t values
      apply Acts.sendCommand .nil
      apply not_on_of_last
      exact other _ t (.inr write) values
    · have built : Built env (fun message => ¬ IsTestModeOn message) False
          (select (nextWord s.request).1 rawCommands) := by
        apply select_built
        unfold rawCommands
        simp only [List.forall_mem_cons]
        exact ⟨fun _ => help_built _, fun same => absurd same read, fun same => absurd same write,
          nofun⟩
      exact built.acts ⟨s.parser, (nextWord s.request).2⟩

/-- Any other request enqueues no telegram that switches the test mode on, and does not touch
    its timer. -/
theorem parseCommand_ends {s : Session} (argument : testModeArgument s.request = none) (env : Env)
    (raw : rawArguments s ≠ some (0x1d, 0x5a)) :
    Ends s.parser (final (parseCommand env s)).parser := by
  have others (dest : UInt8) (type : UInt16) (offset : UInt8) (data : List UInt8)
      (expectResponse : Bool) (other : type ≠ 0x1d) (_ : Carried data expectResponse) :
      ¬ IsTestModeOn (.send dest type offset data expectResponse) :=
    not_on_of_other other _ _ _ _
  unfold parseCommand
  rw [readWord_bind]
  by_cases uba : (nextWord s.request).1 = "uba"
  · have different : (nextWord (nextWord s.request).2).1 ≠ "testmode" := by
      intro same
      simp [testModeArgument, uba, same] at argument
    rw [uba]
    show Ends _ (final (handleUbaCommand env _)).parser
    unfold handleUbaCommand
    rw [readWord_bind]
    exact (select_built (ubaCommands_built others (fun same => absurd same different))).acts
      ⟨s.parser, (nextWord (nextWord s.request).2).2⟩
  · by_cases rawCategory : (nextWord s.request).1 = "raw"
    · rw [rawCategory]
      apply handleRawCommand_ends (s := ⟨s.parser, (nextWord s.request).2⟩) env
      intro values t command read same
      apply raw
      unfold rawArguments
      dsimp only
      rw [if_pos ⟨rawCategory, command⟩, read]
      exact congrArg some same
    · exact (select_built (commands_built others (fun same => absurd same uba)
        (fun same => absurd same rawCategory))).acts ⟨s.parser, (nextWord s.request).2⟩

/-- The timer as `uba testmode on` sets it. -/
def started (timer : DeadlineTimer TestModeWait) (now : Time) : DeadlineTimer TestModeWait :=
  timer.cancel.asyncWait (now + milliseconds 1000) .start

/-- `uba testmode` with its argument. -/
theorem handleTestMode_on {s : Session} (on : (nextWord s.request).1 = "on") (now : Time) :
    handleTestMode now s = .ok .ok
      ⟨{ s.parser with testModeRepeater := started s.parser.testModeRepeater now }.output "OK",
        (nextWord s.request).2⟩ := by
  unfold handleTestMode
  rw [readWord_bind, on]
  rfl

theorem handleTestMode_off {s : Session} (off : (nextWord s.request).1 = "off") (now : Time) :
    handleTestMode now s = .ok .ok
      ⟨({ s.parser with testModeRepeater := s.parser.testModeRepeater.cancel }.sendCommand
        EmsProto.addressUBA2 0x1d 0 [0x00]).output "OK", (nextWord s.request).2⟩ := by
  unfold handleTestMode
  rw [readWord_bind, off]
  rfl

theorem handleTestMode_other {s : Session} (on : (nextWord s.request).1 ≠ "on")
    (off : (nextWord s.request).1 ≠ "off") (now : Time) :
    handleTestMode now s = .ok .invalidArgs ⟨s.parser, (nextWord s.request).2⟩ := by
  unfold handleTestMode
  rw [readWord_bind, if_neg on, if_neg off]
  rfl

end ApiCommandParser

/-- A connection with the monitor: whether the test mode was ended and not started again, and
    whether a telegram that switches it on was enqueued while that was so. -/
structure TestModeMonitor where
  conn : CommandConnection
  ended : Bool
  violated : Bool

namespace CommandConnection

/-- The parser will look at the request. -/
def Parses (conn : CommandConnection) : Prop :=
  conn.request.length > 2 ∧ conn.parser.activeRequest = none

instance (conn : CommandConnection) : Decidable conn.Parses := inferInstanceAs (Decidable (_ ∧ _))

/-- The stream that the parser gets. -/
def session (conn : CommandConnection) : Session := ⟨conn.parser, .ofChars conn.request⟩

theorem parseRequest_busy {conn : CommandConnection} (busy : ¬ conn.Parses) (env : Env) :
    ∃ result, conn.parseRequest env = .ok result conn.session ∧ result ≠ .ok := by
  unfold parseRequest
  dsimp only
  split
  · rename_i long
    refine ⟨.busy, ?_, nofun⟩
    unfold ApiCommandParser.parse
    rw [if_pos]
    · rfl
    · cases active : conn.parser.activeRequest with
      | none => exact absurd ⟨long, active⟩ busy
      | some request => rfl
  · exact ⟨.invalidCmd, rfl, nofun⟩

theorem parseRequest_parses {conn : CommandConnection} (parses : conn.Parses) (env : Env) :
    conn.parseRequest env = ApiCommandParser.parseCommand env conn.session := by
  unfold parseRequest ApiCommandParser.parse
  dsimp only
  rw [if_pos parses.1, parses.2]
  rfl

/-- The argument of an accepted `uba testmode`. -/
def acceptedMode (conn : CommandConnection) (env : Env) : Option String :=
  match conn.parseRequest env with
  | .ok .ok _ => ApiCommandParser.testModeArgument (.ofChars conn.request)
  | _ => none

end CommandConnection

namespace TestModeMonitor

open ApiCommandParser (Ends Acts final testModeArgument rawArguments nextWord started)

/-- The monitor when `uba testmode` is accepted with an argument. -/
def endedAfter (ended : Bool) : Option String → Bool
  | some "on" => false
  | some "off" => true
  | _ => ended

def endedBy (m : TestModeMonitor) : CommandConnection.Event → Bool
  | .request env => endedAfter m.ended (m.conn.acceptedMode env)
  | _ => m.ended

def step (m : TestModeMonitor) (e : CommandConnection.Event) : Option TestModeMonitor :=
  (m.conn.step e).map fun (conn, sent) =>
    { conn, ended := m.endedBy e
      violated := m.violated || (m.ended && sent.any (fun message => IsTestModeOn message)) }

/-- The connection of a new client, with the monitor. -/
def init (parser : { p : ApiCommandParser // p.Fresh }) : TestModeMonitor :=
  { conn := .new parser, ended := false, violated := false }

/-- No handler of a wait set by `uba testmode on` is still to run. -/
def NoStart (timer : DeadlineTimer TestModeWait) : Prop :=
  (∀ wait ∈ timer.wait, wait.2 ≠ .start) ∧ .start ∉ timer.aborted

/-- What a raw request asks for next when it has taken a telegram: its type and the number of
    bytes still missing. -/
def rawNext (p : ApiCommandParser) (message : EmsMessage) : Option (UInt16 × UInt8) :=
  if p.outputRawData = true ∧ p.Continues message ∧
      (p.take message).requestResponse.length < (p.take message).requestLength then
    some (p.requestType,
      UInt8.ofNat ((p.take message).requestLength - (p.take message).requestResponse.length))
  else none

/-- The steps after which the test mode stays ended. `uba testmode off` comes when the handler
    set by `uba testmode on` has run; no raw command spells the telegram that switches the test
    mode on, in its parameters or with a number of missing bytes. -/
def StepOk (m : TestModeMonitor) : CommandConnection.Event → Prop
  | .request _ =>
      (m.conn.Parses → testModeArgument (.ofChars m.conn.request) = some "off" →
        NoStart m.conn.parser.testModeRepeater) ∧
      (m.conn.Parses → m.ended = true → rawArguments m.conn.session ≠ some (0x1d, 0x5a))
  | .incoming message =>
      m.ended = true → m.conn.parser.activeRequest.isSome = true → message.getType ≠ 0xff →
        rawNext m.conn.parser message ≠ some (0x1d, 0x5a)
  | _ => True

instance (timer : DeadlineTimer TestModeWait) : Decidable (NoStart timer) :=
  inferInstanceAs (Decidable ((∀ wait ∈ timer.wait, _) ∧ _))

instance (m : TestModeMonitor) (e : CommandConnection.Event) : Decidable (m.StepOk e) :=
  match e with
  | .request _ => inferInstanceAs (Decidable ((m.conn.Parses → _ → NoStart _) ∧ (_ → _ → ¬ _ = _)))
  | .incoming _ => inferInstanceAs (Decidable (_ → _ → _ → ¬ _ = _))
  | .segment _ | .timeout | .testModeExpired _ | .testModeAborted _ =>
      inferInstanceAs (Decidable True)

/-- The test mode cannot come back: no wait of its timer is pending, no handler of
    `uba testmode on` is still to run, and the active request does not switch it on. -/
structure Ended (p : ApiCommandParser) : Prop where
  wait : p.testModeRepeater.wait = none
  aborted : .start ∉ p.testModeRepeater.aborted
  active : ∀ request ∈ p.activeRequest, ¬ IsTestModeOn request

structure Inv (m : TestModeMonitor) : Prop where
  holds : m.violated = false
  ended : m.ended = true → Ended m.conn.parser

theorem Ended.ends {p q : ApiCommandParser} (ended : Ended p) (ends : Ends p q) : Ended q := by
  have repeater := ends.repeater not_false
  refine ⟨?_, ?_, ?_⟩
  · rw [repeater]
    exact ended.wait
  · rw [repeater]
    exact ended.aborted
  · intro request active
    rcases ends.active active with before | ⟨other, -⟩
    · exact ended.active request before
    · exact other

theorem Ended.performed {q : ApiCommandParser} {conn : CommandConnection} {sent : List EmsMessage}
    (ended : Ended q) (performed : conn.Performed q sent) : Ended conn.parser := by
  rw [performed.parser]
  exact ⟨ended.wait, ended.aborted, ended.active⟩

variable {m m' : TestModeMonitor} {e : CommandConnection.Event}

/-- What is enqueued by permitted calls does not switch the test mode on. -/
theorem sent_other {conn conn' : CommandConnection} {q : ApiCommandParser} {timer : Prop}
    {sent : List EmsMessage}
    (acts : Acts (fun message => ¬ IsTestModeOn message) timer conn.parser q)
    (performed : conn'.Performed q sent) :
    sent.any (fun message => IsTestModeOn message) = false := by
  rw [List.any_eq_false]
  intro message member
  rw [decide_eq_true_eq]
  rcases acts.sent (performed.mem_sent.mp member) with before | other
  · rw [conn.quiet] at before
    cases before
  · exact other

/-- Cancelling the timer leaves no handler of `uba testmode on` if there was none. -/
theorem cancel_noStart {timer : DeadlineTimer TestModeWait} (noStart : NoStart timer) :
    .start ∉ timer.cancel.aborted := by
  intro member
  rcases List.mem_append.mp member with old | new
  · exact noStart.2 old
  · obtain ⟨wait, running, handler⟩ := Option.map_eq_some_iff.mp (Option.mem_toList.mp new)
    exact noStart.1 wait running handler

/-- A step in which nothing is accepted, and in which the parser does only what is permitted
    while the test mode is ended. -/
theorem inv_of_ends (inv : Inv m) {q : ApiCommandParser} {conn : CommandConnection}
    {sent : List EmsMessage} (performed : conn.Performed q sent)
    (ends : m.ended = true → Ends m.conn.parser q) :
    Inv ⟨conn, m.ended, m.violated || (m.ended && sent.any (fun message => IsTestModeOn message))⟩ := by
  constructor
  · cases ended : m.ended with
    | false => simp [inv.holds]
    | true => simp only [inv.holds, sent_other (ends ended) performed, Bool.and_false, Bool.or_false]
  · intro ended
    exact ((inv.ended ended).ends (ends ended)).performed performed

/-- The steps of a request. -/
theorem request_inv (inv : Inv m) {env : Env} (ok : m.StepOk (.request env))
    {conn : CommandConnection} {sent : List EmsMessage}
    (performed : conn.Performed (final (m.conn.parseRequest env)).parser sent) :
    Inv ⟨conn, m.endedBy (.request env),
      m.violated || (m.ended && sent.any (fun message => IsTestModeOn message))⟩ := by
  obtain ⟨noStart, raw⟩ := ok
  by_cases parses : m.conn.Parses
  · cases argument : testModeArgument m.conn.session.request with
    | none =>
        have kept : m.endedBy (.request env) = m.ended := by
          have none : m.conn.acceptedMode env = none := by
            unfold CommandConnection.acceptedMode
            split
            · exact argument
            · rfl
          simp [endedBy, none, endedAfter]
        rw [kept]
        rw [CommandConnection.parseRequest_parses parses] at performed
        exact inv_of_ends inv performed
          (fun ended => ApiCommandParser.parseCommand_ends argument env (raw parses ended))
    | some mode =>
        obtain ⟨request, word, handled⟩ := ApiCommandParser.parseCommand_testMode argument env
        have parsed := (CommandConnection.parseRequest_parses parses env).trans handled
        by_cases on : mode = "on"
        · subst on
          have onDone := ApiCommandParser.handleTestMode_on (s := ⟨m.conn.session.parser, request⟩)
            word env.now
          rw [parsed, onDone] at performed
          have accepted : m.conn.acceptedMode env = some "on" := by
            unfold CommandConnection.acceptedMode
            rw [parsed, onDone]
            exact argument
          have acts : Acts (fun message => ¬ IsTestModeOn message) True m.conn.parser
              ({ m.conn.parser with
                testModeRepeater := started m.conn.parser.testModeRepeater env.now }.output "OK") :=
            .output (.testMode .nil trivial _) _
          refine ⟨?_, fun ended => ?_⟩
          · simp only [inv.holds, sent_other acts performed, Bool.and_false, Bool.or_false]
          · simp [endedBy, accepted, endedAfter] at ended
        · by_cases off : mode = "off"
          · subst off
            have offDone := ApiCommandParser.handleTestMode_off (s := ⟨m.conn.session.parser, request⟩)
              word env.now
            rw [parsed, offDone] at performed
            have other : ¬ IsTestModeOn (.send EmsProto.addressUBA2 0x1d 0 [0x00] false) := by decide
            have acts : Acts (fun message => ¬ IsTestModeOn message) True m.conn.parser
                (({ m.conn.parser with
                  testModeRepeater := m.conn.parser.testModeRepeater.cancel }.sendCommand
                    EmsProto.addressUBA2 0x1d 0 [0x00]).output "OK") :=
              .output (.sendCommand (.testMode .nil trivial _) other) _
            refine ⟨?_, fun _ => Ended.performed ⟨rfl, ?_, ?_⟩ performed⟩
            · simp only [inv.holds, sent_other acts performed, Bool.and_false, Bool.or_false]
            · exact cancel_noStart (noStart parses argument)
            · intro active same
              cases same
              exact other
          · have invalid := ApiCommandParser.handleTestMode_other
              (s := ⟨m.conn.session.parser, request⟩) (word.trans_ne on) (word.trans_ne off) env.now
            rw [parsed, invalid] at performed
            have kept : m.endedBy (.request env) = m.ended := by
              have none : m.conn.acceptedMode env = none := by
                unfold CommandConnection.acceptedMode
                rw [parsed, invalid]
              simp [endedBy, none, endedAfter]
            rw [kept]
            exact inv_of_ends inv performed (fun _ => .nil)
  · obtain ⟨result, busy, notOk⟩ := CommandConnection.parseRequest_busy parses env
    have kept : m.endedBy (.request env) = m.ended := by
      have none : m.conn.acceptedMode env = none := by
        unfold CommandConnection.acceptedMode
        rw [busy]
        cases result with
        | ok => exact absurd rfl notOk
        | _ => rfl
      simp [endedBy, none, endedAfter]
    rw [kept]
    rw [busy] at performed
    exact inv_of_ends inv performed (fun _ => .nil)

theorem incoming_ends {p q : ApiCommandParser} {message : EmsMessage} {result : Option Bool}
    (ok : p.activeRequest.isSome = true → message.getType ≠ 0xff →
      rawNext p message ≠ some (0x1d, 0x5a))
    (answered : p.onIncomingMessage message = .ok (result, q)) : Ends p q := by
  have reads (dest : UInt8) (type : UInt16) (offset length : UInt8) (other : type ≠ 0x1d) :
      ¬ IsTestModeOn (.send dest type offset [length] true) :=
    ApiCommandParser.not_on_of_other other _ _ _ _
  refine (ApiCommandParser.onIncomingMessage_acts reads ?_ answered).1
  intro active other raw continues missing offset
  apply ApiCommandParser.not_on_of_last
  intro same
  apply ok active other
  unfold rawNext
  rw [if_pos ⟨raw, continues, missing⟩]
  rw [(ApiCommandParser.take_kept p message).2] at same
  exact congrArg some same

/-- Every allowed step keeps the invariant. -/
theorem step_inv (inv : Inv m) (ok : m.StepOk e) (next : m.step e = some m') : Inv m' := by
  obtain ⟨⟨conn, sent⟩, stepped, rfl⟩ := Option.map_eq_some_iff.mp next
  obtain ⟨q, yields, performed⟩ := CommandConnection.step_yields stepped
  cases e with
  | segment chars =>
      cases yields
      exact inv_of_ends inv performed (fun _ => .nil)
  | request env =>
      cases yields
      exact request_inv inv ok performed
  | incoming message =>
      obtain ⟨result, answered⟩ := yields
      exact inv_of_ends inv performed (fun ended => incoming_ends (ok ended) answered)
  | timeout =>
      cases yields
      exact inv_of_ends inv performed
        (fun ended => (ApiCommandParser.onTimeout_acts (inv.ended ended).active).1)
  | testModeExpired now =>
      obtain ⟨running, -⟩ := yields
      have free (ended : m.ended = true) : False := by
        rw [(inv.ended ended).wait] at running
        cases running
      refine ⟨?_, fun ended => absurd ended free⟩
      cases ended : m.ended with
      | false => simp [inv.holds]
      | true => exact absurd ended free
  | testModeAborted now =>
      obtain ⟨wait, first, rfl⟩ := yields
      have again (ended : m.ended = true) : wait = .again := by
        cases wait with
        | again => rfl
        | start => exact absurd (List.mem_of_head? first) (inv.ended ended).aborted
      constructor
      · cases ended : m.ended with
        | false => simp [inv.holds]
        | true =>
            have acts : Acts (fun message => ¬ IsTestModeOn message) True m.conn.parser _ :=
              Acts.testMode .nil trivial m.conn.parser.testModeRepeater.dropAborted
            rw [again ended] at performed
            simp only [inv.holds, sent_other acts performed, Bool.and_false, Bool.or_false]
      · intro ended
        rw [again ended] at performed
        have before := inv.ended ended
        have dropped : Ended { m.conn.parser with
            testModeRepeater := m.conn.parser.testModeRepeater.dropAborted } :=
          ⟨before.wait, fun member => before.aborted (List.mem_of_mem_tail member), before.active⟩
        exact dropped.performed performed

/-- The connection with the monitor as a transition system. -/
def system : LTS TestModeMonitor CommandConnection.Event := .ofOption step

/-- In a run of allowed steps, in any order, no telegram that switches the test mode on is
    enqueued from an accepted `uba testmode off` to the next accepted `uba testmode on`. -/
theorem run_testMode_ends {parser : { p : ApiCommandParser // p.Fresh }}
    {es : List CommandConnection.Event} (run : system.Run StepOk (init parser) es m) :
    m.violated = false := by
  have start : Inv (init parser) := ⟨rfl, nofun⟩
  exact (run.invariant start (fun _ _ _ inv ok next => step_inv inv ok next)).holds

/-- The test mode is started, kept on once, acknowledged, and ended. -/
theorem run_testMode_ends_later :
    ∃ m, system.Run StepOk (init default)
        [.segment "uba testmode on\n".toList, .request ⟨none, fun s => (none, s), 0⟩,
          .testModeExpired 1000000, .incoming EmsCommandSender.fakeMessage,
          .segment "uba testmode off\n".toList, .request ⟨none, fun s => (none, s), 2000000⟩,
          .testModeAborted 2000001, .incoming EmsCommandSender.fakeMessage] m ∧
      m.violated = false :=
  have run := .ofFold rfl
  ⟨_, run, run_testMode_ends run⟩

/-- The test mode is ended within a second of its start: the aborted handler starts it again. -/
theorem testMode_restarts :
    ¬ ∀ (parser : { p : ApiCommandParser // p.Fresh }) (es : List CommandConnection.Event)
      (m : TestModeMonitor), system.Run (fun _ _ => True) (init parser) es m →
        m.violated = false := by
  intro ends
  have run := ends default
    [.segment "uba testmode on\n".toList, .request ⟨none, fun s => (none, s), 0⟩,
      .segment "uba testmode off\n".toList, .request ⟨none, fun s => (none, s), 500000⟩,
      .testModeAborted 500001] _ (.ofFold rfl)
  exact absurd run (by decide)

end TestModeMonitor

end EmsCollector
