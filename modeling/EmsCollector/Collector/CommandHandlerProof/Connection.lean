import EmsCollector.Collector.ApiCommandParserProof.Responses
import EmsCollector.Collector.CommandHandler
import EmsCollector.Collector.CommandSchedulerProof.Held

/-!
# The steps of a connection

What a step of a connection comes to: the parser with the calls that it has made, which are then
carried out.
-/

namespace EmsCollector

open ApiCommandParser (Acts final)

theorem mem_messages {effects : List Effect} {message : EmsMessage} :
    message ∈ effects.filterMap Effect.message? ↔ .send message ∈ effects := by
  rw [List.mem_filterMap]
  constructor
  · rintro ⟨effect, member, same⟩
    cases effect with
    | output line => cases same
    | send other =>
        cases same
        exact member
  · intro member
    exact ⟨_, member, rfl⟩

namespace CommandConnection

/-- The parser at the end of a step, before its calls are carried out. -/
def Yields (conn : CommandConnection) : Event → ApiCommandParser → Prop
  | .segment _, q => q = conn.parser
  | .request env, q => q = (final (conn.parseRequest env)).parser
  | .incoming message, q => ∃ result, conn.parser.onIncomingMessage message = .ok (result, q)
  | .timeout, q => q = conn.parser.onTimeout.2
  | .testModeExpired now, q => conn.parser.testModeRepeater.wait.isSome = true ∧
      q = ApiCommandParser.refreshTestMode
        { conn.parser with testModeRepeater := conn.parser.testModeRepeater.expired } now
  | .testModeAborted now, q => ∃ wait, conn.parser.testModeRepeater.aborted.head? = some wait ∧
      q = testModeAborted
        { conn.parser with testModeRepeater := conn.parser.testModeRepeater.dropAborted } now wait

/-- The calls of the parser `q` have been carried out. -/
structure Performed (q : ApiCommandParser) (conn : CommandConnection) (sent : List EmsMessage) :
    Prop where
  parser : conn.parser = { q with effects := [] }
  sent : sent = q.effects.filterMap Effect.message?

theorem Performed.active {q : ApiCommandParser} {conn : CommandConnection} {sent : List EmsMessage}
    (performed : Performed q conn sent) : conn.parser.activeRequest = q.activeRequest := by
  rw [performed.parser]

theorem Performed.mem_sent {q : ApiCommandParser} {conn : CommandConnection}
    {sent : List EmsMessage} (performed : Performed q conn sent) {message : EmsMessage} :
    message ∈ sent ↔ .send message ∈ q.effects := by
  rw [performed.sent]
  exact mem_messages

theorem handleRequest_performed (conn : CommandConnection) (env : Env) :
    Performed (final (conn.parseRequest env)).parser (conn.handleRequest env).2.1
      (conn.handleRequest env).2.2 := by
  unfold handleRequest finish
  cases conn.parseRequest env with
  | ok result s => exact ⟨rfl, rfl⟩
  | error abort s => exact ⟨rfl, rfl⟩

variable {conn conn' : CommandConnection} {e : Event} {sent : List EmsMessage}

/-- The step of a connection is the end of its parser, carried out. -/
theorem step_yields (next : conn.step e = some (conn', sent)) :
    ∃ q, conn.Yields e q ∧ Performed q conn' sent := by
  cases e with
  | segment chars =>
      simp only [step] at next
      split at next
      · cases next
      · cases next
        refine ⟨conn.parser, rfl, ?_, ?_⟩
        · rw [← conn.quiet]
        · rw [conn.quiet]
          rfl
  | request env =>
      have performed := handleRequest_performed conn env
      simp only [step] at next
      split at next
      · split at next
        · rename_i handled
          rw [handled] at performed
          cases next
          exact ⟨_, rfl, performed⟩
        · cases next
      · cases next
  | incoming message =>
      simp only [step, onIncomingMessage] at next
      split at next
      · rename_i result q answered
        cases next
        exact ⟨q, ⟨result, answered⟩, rfl, rfl⟩
      · cases next
  | timeout =>
      cases next
      exact ⟨_, rfl, rfl, rfl⟩
  | testModeExpired now =>
      obtain ⟨wait, running, performed⟩ := Option.map_eq_some_iff.mp next
      cases performed
      exact ⟨_, ⟨Option.isSome_iff_exists.mpr ⟨wait, running⟩, rfl⟩, rfl, rfl⟩
  | testModeAborted now =>
      obtain ⟨wait, first, performed⟩ := Option.map_eq_some_iff.mp next
      cases performed
      exact ⟨_, ⟨wait, first, rfl⟩, rfl, rfl⟩

theorem parseRequest_acts (conn : CommandConnection) (env : Env) :
    Acts (fun _ => True) True conn.parser (final (conn.parseRequest env)).parser := by
  unfold parseRequest
  dsimp only
  split
  · exact ApiCommandParser.parse_acts env ⟨conn.parser, .ofChars conn.request⟩
  · exact .nil

theorem refreshTestMode_acts {telegram : EmsMessage → Prop} {timer : Prop} {p q : ApiCommandParser}
    (acts : Acts telegram timer p q) (now : Time) (permitted : timer)
    (on : telegram (.send EmsProto.addressUBA2 0x1d 0 [0x5a] false)) :
    Acts telegram timer p (q.refreshTestMode now) :=
  (acts.sendCommand on).testMode permitted _

/-- In any step the parser acts by its calls. -/
theorem Yields.acts {q : ApiCommandParser} (yields : conn.Yields e q) :
    Acts (fun _ => True) True conn.parser q := by
  cases e with
  | segment chars =>
      rw [yields]
      exact .nil
  | request env =>
      rw [yields]
      exact parseRequest_acts conn env
  | incoming message =>
      obtain ⟨result, answered⟩ := yields
      exact (ApiCommandParser.onIncomingMessage_acts (fun _ _ _ _ _ => trivial)
        (fun _ _ _ _ _ _ => trivial) answered).1
  | timeout =>
      rw [yields]
      exact (ApiCommandParser.onTimeout_acts (fun _ _ => trivial)).1
  | testModeExpired now =>
      rw [yields.2]
      exact refreshTestMode_acts (.testMode .nil trivial _) now trivial trivial
  | testModeAborted now =>
      obtain ⟨wait, -, rfl⟩ := yields
      cases wait with
      | start => exact refreshTestMode_acts (.testMode .nil trivial _) now trivial trivial
      | again => exact .testMode .nil trivial _

end CommandConnection

namespace System

variable {κ : Type} [DecidableEq κ] {s t : System κ}

@[simp] theorem setConnection_self (s : System κ) (client : κ) (conn : CommandConnection) :
    (s.setConnection client conn).connections client = some conn := if_pos rfl

theorem setConnection_other (s : System κ) {client other : κ} (different : other ≠ client)
    (conn : CommandConnection) :
    (s.setConnection client conn).connections other = s.connections other := if_neg different

@[simp] theorem setConnection_sender (s : System κ) (client : κ) (conn : CommandConnection) :
    (s.setConnection client conn).sender = s.sender := rfl

omit [DecidableEq κ] in
@[simp] theorem setSender_sender (s : System κ) (sender : EmsCommandSender κ) :
    (s.setSender sender).sender = sender := rfl

/-- A connection takes its step, and what it enqueues goes to the scheduler. -/
theorem connectionStep_cases {now : Time} {client : κ} {e : CommandConnection.Event}
    (next : s.connectionStep now client e = some t) :
    ∃ conn conn' sent, s.connections client = some conn ∧ conn.step e = some (conn', sent) ∧
      t = (s.setConnection client conn').setSender (s.sender.sendAll now client sent) := by
  unfold connectionStep at next
  obtain ⟨conn, present, next⟩ := Option.bind_eq_some_iff.mp next
  obtain ⟨⟨conn', sent⟩, stepped, next⟩ := Option.bind_eq_some_iff.mp next
  cases next
  exact ⟨conn, conn', sent, present, stepped, rfl⟩

/-- A callback reaches the current client, if there is one. -/
theorem callback_cases {e : CommandConnection.Event} {reaction : List EmsMessage}
    (next : s.callback e = some (t, reaction)) :
    (s.sender.currentClient = none ∧ t = s ∧ reaction = []) ∨
      ∃ client conn conn', s.sender.currentClient = some client ∧
        s.connections client = some conn ∧ conn.step e = some (conn', reaction) ∧
        t = s.setConnection client conn' := by
  unfold callback at next
  split at next
  · rename_i client current
    obtain ⟨conn, present, next⟩ := Option.bind_eq_some_iff.mp next
    obtain ⟨⟨conn', sent⟩, stepped, next⟩ := Option.bind_eq_some_iff.mp next
    cases next
    exact .inr ⟨client, conn, conn', current, present, stepped, rfl⟩
  · rename_i idle
    cases next
    exact .inl ⟨idle, rfl, rfl⟩

/-- A callback while a client is served. -/
theorem callback_current {client : κ} {conn : CommandConnection} {e : CommandConnection.Event}
    {reaction : List EmsMessage} (current : s.sender.currentClient = some client)
    (present : s.connections client = some conn) (called : s.callback e = some (t, reaction)) :
    ∃ conn', conn.step e = some (conn', reaction) ∧ t = s.setConnection client conn' := by
  rcases callback_cases called with ⟨idle, -⟩ | ⟨client', conn₁, conn', serving, present', stepped, rfl⟩
  · cases idle.symm.trans current
  · cases current.symm.trans serving
    cases present.symm.trans present'
    exact ⟨conn', stepped, rfl⟩

/-- The scheduler is not called back by a callback. -/
theorem callback_sender {e : CommandConnection.Event} {reaction : List EmsMessage}
    (next : s.callback e = some (t, reaction)) : t.sender = s.sender := by
  rcases callback_cases next with ⟨-, rfl, -⟩ | ⟨client, conn, conn', -, -, -, rfl⟩
  · rfl
  · rfl

theorem telegram_cases {now : Time} {message : EmsMessage}
    (next : s.step (.telegram now message) = some t) :
    ∃ u reaction, s.callback (.incoming message) = some (u, reaction) ∧
      t = u.setSender (EmsCommandSender.handlePcMessage
        (s.sender.record now (.received message s.sender.currentClient)) now message reaction) := by
  obtain ⟨⟨u, reaction⟩, called, continued⟩ := Option.bind_eq_some_iff.mp next
  have same := callback_sender called
  cases continued
  rw [same]
  exact ⟨u, reaction, called, rfl⟩

theorem responseExpired_cases {now : Time} (next : s.step (.responseExpired now) = some t) :
    ∃ expiry wait u reaction, s.sender.responseTimeout.wait = some (expiry, wait) ∧
      s.callback (responseEvent wait) = some (u, reaction) ∧
      t = u.setSender (EmsCommandSender.handleResponseTimeout
        { s.sender with responseTimeout := s.sender.responseTimeout.expired } now wait reaction) := by
  obtain ⟨⟨expiry, wait⟩, running, next⟩ := Option.bind_eq_some_iff.mp next
  obtain ⟨⟨u, reaction⟩, called, continued⟩ := Option.bind_eq_some_iff.mp next
  have same := callback_sender called
  dsimp only at continued
  unfold senderStep EmsCommandSender.step at continued
  rw [same, running] at continued
  cases continued
  exact ⟨expiry, wait, u, reaction, running, called, rfl⟩

omit [DecidableEq κ] in
/-- The other completions of the scheduler's timers do not call a client. -/
theorem senderStep_cases {e : EmsCommandSender.Event κ} (next : s.senderStep e = some t) :
    ∃ sender, s.sender.step e = some sender ∧ t = s.setSender sender := by
  obtain ⟨sender, stepped, next⟩ := Option.bind_eq_some_iff.mp next
  cases next
  exact ⟨sender, stepped, rfl⟩

end System

end EmsCollector
