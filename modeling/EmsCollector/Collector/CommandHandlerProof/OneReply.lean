import EmsCollector.Collector.ApiCommandParserProof.Reply
import EmsCollector.Collector.CommandHandlerProof.Orphan
import EmsCollector.Collector.CommandHandlerProof.SilentBus

/-!
# One reply for each command

Every command line is followed by one terminal line, said at once or owed by an active request.
That fails for the commands that say `OK` before their telegrams are acknowledged, for a raw read
of no bytes, and for the telegrams that refresh the test mode, whose acknowledgements are reported
as well; where none of these happens and nobody is orphaned, the replies keep up with the commands.
-/

namespace EmsCollector

namespace CommandConnection

open ApiCommandParser (Doubles ReadsNothing QuietCache immediate)

/-- The terminal lines of a connection, written or owed. -/
def tally (conn : CommandConnection) : Nat := conn.terminals.length + conn.parser.owed

/-- The line brings one terminal line. -/
def RepliesOnce (conn : CommandConnection) (env : Env) : Prop :=
  QuietCache env ∧ (conn.parser.activeRequest.isSome = true ∨
    ¬ Doubles (.ofChars conn.request) ∧ ¬ ReadsNothing (.ofChars conn.request))

/-- The test mode is refreshed while a request is active. -/
def RefreshOk (conn : CommandConnection) : Prop := conn.parser.activeRequest.isSome = true

variable {conn conn' : CommandConnection} {sent : List EmsMessage}

theorem terminals_perform (conn : CommandConnection) (q : ApiCommandParser) :
    (conn.perform q).1.terminals = conn.terminals ++ q.spoken := by
  unfold terminals perform
  rw [List.flatMap_append]
  rfl

theorem terminals_respond (conn : CommandConnection) (lines : List String) :
    (conn.respond lines).terminals = conn.terminals ++ lines.flatMap terminalLines := by
  unfold terminals respond
  rw [List.flatMap_append]

/-- What the parser has said is written, and what it owes the connection owes. -/
theorem perform_tally (conn : CommandConnection) (q : ApiCommandParser) :
    (conn.perform q).1.tally = conn.terminals.length + q.tally := by
  have debt : (conn.perform q).1.parser.owed = q.owed := rfl
  unfold tally ApiCommandParser.tally
  rw [terminals_perform, debt, List.length_append, Nat.add_assoc]

theorem respond_tally (conn : CommandConnection) (lines : List String) :
    (conn.respond lines).tally = conn.tally + (lines.flatMap terminalLines).length := by
  have debt : (conn.respond lines).parser.owed = conn.parser.owed := rfl
  unfold tally
  rw [terminals_respond, debt, List.length_append]
  omega

/-- Between its steps a connection has written all that its parser has said. -/
theorem parser_tally (conn : CommandConnection) : conn.parser.tally = conn.parser.owed := by
  unfold ApiCommandParser.tally ApiCommandParser.spoken
  rw [conn.quiet]
  exact Nat.zero_add _

theorem segment_tally {chars : List Char} (next : conn.step (.segment chars) = some (conn', sent)) :
    conn'.tally = conn.tally := by
  simp only [step] at next
  split at next
  · cases next
  · cases next
    rfl

/-- A command line. -/
theorem request_tally {env : Env} (ok : conn.RepliesOnce env)
    (next : conn.step (.request env) = some (conn', sent)) : conn'.tally = conn.tally + 1 := by
  obtain ⟨quiet, single⟩ := ok
  have one {result : CommandResult} {t : Session}
      (parsed : conn.parseRequest env = .ok result t) :
      t.parser.tally + (immediate result).length = conn.parser.tally + 1 := by
    unfold parseRequest at parsed
    dsimp only at parsed
    split at parsed
    · exact ApiCommandParser.parse_tally quiet single parsed
    · cases parsed
      rw [ApiCommandParser.immediate_refused (by decide)]
  simp only [step, handleRequest] at next
  split at next
  · cases parsed : conn.parseRequest env with
    | ok result t =>
        rw [parsed] at next
        cases next
        have balance := one parsed
        rw [parser_tally] at balance
        show (({ conn with request := _ }.perform t.parser).1.respond (resultReply result)).tally = _
        rw [respond_tally, perform_tally]
        unfold tally
        have same : ({ conn with request := IStream.dropLine t.request.rest } : CommandConnection).terminals =
          conn.terminals := rfl
        rw [same]
        unfold immediate at balance
        omega
    | error abort t =>
        rw [parsed] at next
        cases next
  · cases next

/-- A telegram. -/
theorem incoming_tally {message : EmsMessage} (ok : conn.parser.Answerable message)
    (next : conn.step (.incoming message) = some (conn', sent)) : conn'.tally = conn.tally := by
  simp only [step, onIncomingMessage] at next
  split at next
  · rename_i result q answered
    have balance := ApiCommandParser.onIncomingMessage_tally ok answered
    rw [parser_tally] at balance
    cases next
    rw [respond_tally, perform_tally]
    unfold tally
    omega
  · cases next

theorem timeout_tally (next : conn.step .timeout = some (conn', sent)) : conn'.tally = conn.tally := by
  have balance := conn.parser.onTimeout_tally
  rw [parser_tally] at balance
  cases next
  show ((conn.perform conn.parser.onTimeout.2).1.respond
    (if conn.parser.onTimeout.1 then ["ERRTIMEOUT"] else [])).tally = conn.tally
  rw [respond_tally, perform_tally]
  unfold tally
  cases late : conn.parser.onTimeout.1 with
  | false =>
      rw [late, if_neg Bool.false_ne_true] at balance
      rw [if_neg Bool.false_ne_true, List.flatMap_nil, List.length_nil]
      omega
  | true =>
      rw [late, if_pos rfl] at balance
      rw [if_pos rfl, List.flatMap_cons, timeout_terminal, List.flatMap_nil, List.append_nil,
        List.length_singleton]
      omega

/-- A refresh of the test mode, while a request is active. -/
theorem refresh_tally {repeater : DeadlineTimer TestModeWait} (now : Time) (ok : conn.RefreshOk) :
    (conn.perform (ApiCommandParser.refreshTestMode
      { conn.parser with testModeRepeater := repeater } now)).1.tally = conn.tally := by
  have balance := ApiCommandParser.refreshTestMode_tally
    (p := { conn.parser with testModeRepeater := repeater }) ok now
  have same : ({ conn.parser with testModeRepeater := repeater } : ApiCommandParser).tally =
    conn.parser.tally := rfl
  rw [perform_tally, balance, same, parser_tally]
  rfl

theorem testModeExpired_tally {now : Time} (ok : conn.RefreshOk)
    (next : conn.step (.testModeExpired now) = some (conn', sent)) : conn'.tally = conn.tally := by
  obtain ⟨wait, -, performed⟩ := Option.map_eq_some_iff.mp next
  cases performed
  exact refresh_tally now ok

theorem testModeAborted_tally {now : Time}
    (ok : conn.parser.testModeRepeater.aborted.head? = some .start → conn.RefreshOk)
    (next : conn.step (.testModeAborted now) = some (conn', sent)) : conn'.tally = conn.tally := by
  obtain ⟨wait, first, performed⟩ := Option.map_eq_some_iff.mp next
  cases wait with
  | start =>
      cases performed
      exact refresh_tally now (ok first)
  | again =>
      cases performed
      have same : ({ conn.parser with testModeRepeater := conn.parser.testModeRepeater.dropAborted } :
        ApiCommandParser).tally = conn.parser.tally := rfl
      show (conn.perform
        { conn.parser with testModeRepeater := conn.parser.testModeRepeater.dropAborted }).1.tally = _
      rw [perform_tally, same, parser_tally]
      rfl

end CommandConnection

namespace System

variable {κ : Type} [DecidableEq κ]

/-- The terminal lines that a client has been sent. -/
def terminals (s : System κ) (client : κ) : List String :=
  ((s.connections client).map CommandConnection.terminals).getD []

/-- With those that it is owed. -/
def tally (s : System κ) (client : κ) : Nat :=
  ((s.connections client).map CommandConnection.tally).getD 0

/-- A command line of the client is handled. -/
def IsCommand (client : κ) : Event κ → Prop
  | .request other _ => other = client
  | _ => False

instance (client : κ) (e : Event κ) : Decidable (IsCommand client e) :=
  match e with
  | .request other _ => inferInstanceAs (Decidable (other = client))
  | .connect .. | .disconnect _ | .segment .. | .testModeExpired .. | .testModeAborted ..
  | .telegram .. | .responseExpired _ | .responseAborted | .sendExpired _ | .sendAborted _ =>
      inferInstanceAs (Decidable False)

/-- The number of command lines of the client in a run. -/
def commands (client : κ) (es : List (Event κ)) : Nat := es.countP (IsCommand client ·)

/-- The steps that orphan nobody and keep the replies even with the commands: no line that doubles
    its reply or reads nothing, no refresh of the test mode without an active request, and no
    answer that the parser fails on or that holds a terminal line. -/
def ReplyOk (s : System κ) (e : Event κ) : Prop :=
  s.StepOk e ∧
    match e with
    | .request client env => ∀ conn ∈ s.connections client, conn.RepliesOnce env
    | .testModeExpired client _ => ∀ conn ∈ s.connections client, conn.RefreshOk
    | .testModeAborted client _ => ∀ conn ∈ s.connections client,
        conn.parser.testModeRepeater.aborted.head? = some .start → conn.RefreshOk
    | .telegram _ message => ∀ client ∈ s.sender.currentClient, ∀ conn ∈ s.connections client,
        conn.parser.Answerable message
    | _ => True

variable {s t : System κ}

theorem tally_setConnection {client : κ} {conn conn' : CommandConnection}
    (present : s.connections client = some conn) {more : Nat} (balance : conn'.tally = conn.tally + more)
    (other : κ) : (s.setConnection client conn').tally other =
      s.tally other + if client = other then more else 0 := by
  unfold tally
  by_cases same : client = other
  · subst same
    rw [setConnection_self, present, if_pos rfl]
    exact balance
  · rw [setConnection_other s (Ne.symm same), if_neg same]
    rfl

theorem connectionStep_tally {now : Time} {client : κ} {e : CommandConnection.Event} {more : Nat}
    (balance : ∀ conn conn' sent, s.connections client = some conn →
      conn.step e = some (conn', sent) → conn'.tally = conn.tally + more)
    (next : s.connectionStep now client e = some t) (other : κ) :
    t.tally other = s.tally other + if client = other then more else 0 := by
  obtain ⟨conn, conn', sent, present, stepped, rfl⟩ := connectionStep_cases next
  exact tally_setConnection present (balance conn conn' sent present stepped) other

theorem connectionStep_kept {now : Time} {client : κ} {e : CommandConnection.Event}
    (kept : ∀ conn conn' sent, s.connections client = some conn →
      conn.step e = some (conn', sent) → conn'.tally = conn.tally)
    (next : s.connectionStep now client e = some t) (other : κ) : t.tally other = s.tally other := by
  have balance : t.tally other = s.tally other + if client = other then 0 else 0 :=
    connectionStep_tally kept next other
  rw [ite_self] at balance
  exact balance

theorem callback_tally {e : CommandConnection.Event} {reaction : List EmsMessage}
    (balance : ∀ client conn conn', s.sender.currentClient = some client →
      s.connections client = some conn → conn.step e = some (conn', reaction) →
      conn'.tally = conn.tally)
    (next : s.callback e = some (t, reaction)) (other : κ) : t.tally other = s.tally other := by
  rcases callback_cases next with ⟨-, rfl, -⟩ | ⟨client, conn, conn', current, present, stepped, rfl⟩
  · rfl
  · have same : conn'.tally = conn.tally + 0 := balance client conn conn' current present stepped
    have kept := tally_setConnection present same other
    rw [ite_self] at kept
    exact kept

/-- Each step keeps the balance of every client: a command adds one terminal line, said or owed. -/
theorem step_tally {e : Event κ} (ok : s.ReplyOk e) (next : s.step e = some t) (client : κ) :
    t.tally client = s.tally client + if IsCommand client e then 1 else 0 := by
  obtain ⟨-, ok⟩ := ok
  cases e with
  | connect other parser =>
      simp only [step] at next
      split at next
      · rename_i new
        cases next
        rw [Option.isNone_iff_eq_none] at new
        show (s.setConnection other (.new parser)).tally client = s.tally client
        unfold tally
        by_cases same : client = other
        · subst same
          rw [setConnection_self, new]
          show (CommandConnection.new parser).tally = 0
          unfold CommandConnection.tally
          rw [ApiCommandParser.owed_idle (show (CommandConnection.new parser).parser.activeRequest = none
            from parser.2.activeRequest)]
          rfl
        · rw [setConnection_other s same]
      · cases next
  | disconnect other =>
      simp only [step] at next
      split at next
      · cases next
        rfl
      · cases next
  | segment other chars =>
      simp only [step] at next
      split at next
      · exact connectionStep_kept (fun _ _ _ _ stepped => CommandConnection.segment_tally stepped) next client
      · cases next
  | request other env =>
      simp only [step] at next
      split at next
      · exact connectionStep_tally
          (fun conn _ _ present stepped => CommandConnection.request_tally (ok conn present) stepped) next client
      · cases next
  | testModeExpired other now =>
      exact connectionStep_kept
        (fun conn _ _ present stepped => CommandConnection.testModeExpired_tally (ok conn present) stepped)
        next client
  | testModeAborted other now =>
      exact connectionStep_kept
        (fun conn _ _ present stepped => CommandConnection.testModeAborted_tally (ok conn present) stepped)
        next client
  | telegram now message =>
      obtain ⟨u, reaction, called, rfl⟩ := telegram_cases next
      exact callback_tally (fun other conn _ current present stepped =>
        CommandConnection.incoming_tally (ok other current conn present) stepped) called client
  | responseExpired now =>
      obtain ⟨expiry, wait, u, reaction, -, called, rfl⟩ := responseExpired_cases next
      refine callback_tally (fun other conn conn' _ _ stepped => ?_) called client
      cases fake : wait.fakeAnswer with
      | false =>
          rw [responseEvent_real fake] at stepped
          exact CommandConnection.timeout_tally stepped
      | true =>
          rw [responseEvent_fake fake] at stepped
          have ack : EmsCommandSender.fakeMessage.getType = 0xff := by decide
          exact CommandConnection.incoming_tally (fun _ other => absurd ack other) stepped
  | responseAborted | sendExpired now | sendAborted now =>
      obtain ⟨sender, -, rfl⟩ := senderStep_cases next
      rfl

/-- In a run of allowed steps every command of a client has been answered or is owed its answer. -/
theorem run_tally {es : List (Event κ)} (run : (system κ).Run ReplyOk init es s) (client : κ) :
    s.tally client = commands client es := by
  induction run with
  | nil => rfl
  | snoc _ ok next ih =>
      rw [step_tally ok next client, ih]
      unfold commands
      rw [List.countP_append, List.countP_singleton]
      simp

omit [DecidableEq κ] in
theorem tally_eq (s : System κ) (client : κ) :
    s.tally client = (s.terminals client).length + if s.Active client then 1 else 0 := by
  by_cases active : s.Active client
  · rw [if_pos active]
    obtain ⟨conn, present, request⟩ := active
    unfold tally terminals
    rw [Option.mem_def.mp present]
    show conn.terminals.length + conn.parser.owed = conn.terminals.length + 1
    rw [ApiCommandParser.owed_active request]
  · rw [if_neg active]
    unfold tally terminals
    cases present : s.connections client with
    | none => rfl
    | some conn =>
        have idle : conn.parser.activeRequest = none := by
          by_contra request
          exact active ⟨conn, present, Option.isSome_iff_ne_none.mpr request⟩
        show conn.terminals.length + conn.parser.owed = conn.terminals.length + 0
        rw [ApiCommandParser.owed_idle idle]

/-- In a run of allowed steps, with any number of clients and in any order, each command of a client
    has brought one terminal line, or is the one whose request is still active. So there are never
    more terminal lines than commands, and when the scheduler serves nobody, or has nothing queued
    and no timer armed, there are as many. -/
theorem one_reply {es : List (Event κ)} (run : (system κ).Run ReplyOk init es s) (client : κ) :
    (s.terminals client).length + (if s.Active client then 1 else 0) = commands client es ∧
      (s.terminals client).length ≤ commands client es ∧
      (s.sender.currentClient = none ∨ s.sender.pending = [] ∧ ¬ s.sender.Armed →
        (s.terminals client).length = commands client es) := by
  have balance := run_tally run client
  rw [tally_eq] at balance
  refine ⟨balance, by omega, fun idle => ?_⟩
  have served := run_served (run.weaken (fun _ _ ok => ok.1))
  have free : ¬ s.Active client := by
    intro active
    rcases served.noOrphan client active with ⟨request, member, -⟩ | ⟨current, armed⟩
    · rcases idle with nobody | ⟨empty, -⟩
      · rw [served.consistent.idle nobody] at member
        cases member
      · rw [empty] at member
        cases member
    · rcases idle with nobody | ⟨-, disarmed⟩
      · cases nobody.symm.trans current
      · exact disarmed armed
  rw [if_neg free] at balance
  exact balance

/-- A read and its answer. -/
theorem one_reply_answered :
    ∃ es s, (system Nat).Run ReplyOk init es s ∧ commands 0 es = 1 ∧ (s.terminals 0).length = 1 := by
  let line := "uba checkmaintenanceneeded\n".toList
  let env : Env := ⟨none, fun s => (none, s), 0⟩
  let answer : EmsMessage := ⟨true, [0, 60, 1, 1, 50, 12, 0, 0, 0, 0], 0x88, 0x0b, 0x15, 0, 0⟩
  let s₁ := ((init : System Nat).step (.connect 0 default)).get (by decide +kernel)
  let s₂ := (s₁.step (.segment 0 line)).get (by decide +kernel)
  let s₃ := (s₂.step (.request 0 env)).get (by decide +kernel)
  let s₄ := (s₃.step (.telegram 20000 answer)).get (by decide +kernel)
  have read : ∀ conn ∈ s₂.connections 0, ¬ ApiCommandParser.Doubles (.ofChars conn.request) ∧
      ¬ ApiCommandParser.ReadsNothing (.ofChars conn.request) := by decide +kernel
  have taken : s₃.TelegramOk answer := by decide +kernel
  have answerable : ∀ client ∈ s₃.sender.currentClient, ∀ conn ∈ s₃.connections client,
      conn.parser.Answerable answer := by decide +kernel
  have idle : s₄.sender.currentClient = none := by decide +kernel
  have run : (system Nat).Run ReplyOk init [.connect 0 default, .segment 0 line, .request 0 env,
      .telegram 20000 answer] s₄ :=
    .snoc (.snoc (.snoc (.snoc .nil ⟨trivial, trivial⟩ (Option.some_get _).symm)
      ⟨trivial, trivial⟩ (Option.some_get _).symm)
      ⟨trivial, fun conn present => ⟨nofun, .inr (read conn present)⟩⟩ (Option.some_get _).symm)
      ⟨taken, answerable⟩ (Option.some_get _).symm
  exact ⟨_, s₄, run, rfl, (one_reply run 0).2.2 (.inl idle)⟩

/-- `uba unlockfault` says `OK`, and so does the acknowledgement of its telegram. -/
theorem unlockfault_two_replies :
    ¬ ∀ (es : List (Event Nat)) (s : System Nat), (system Nat).Run (fun _ _ => True) init es s →
      (s.terminals 0).length ≤ commands 0 es := by
  intro bound
  have run := bound
    [.connect 0 default, .segment 0 "uba unlockfault\n".toList,
      .request 0 ⟨none, fun s => (none, s), 0⟩,
      .telegram 20000 ⟨true, [], 0x88, 0x0b, 0xff, 0, 1⟩] _ (.ofFold rfl)
  revert run
  decide +kernel

end System

end EmsCollector
