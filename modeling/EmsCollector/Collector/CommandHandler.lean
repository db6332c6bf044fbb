import EmsCollector.Collector.ApiCommandParser.Commands
import EmsCollector.Collector.CommandScheduler

/-!
# The command port

`CommandConnection` and `CommandHandler` (`collector/CommandHandler.h`,
`collector/CommandHandler.cpp`): a connection owns a receive buffer and a command parser, and
gives the scheduler a client that leads back to it. The system is the scheduler with the
connections; its steps are the completions that the event loop can run, in any order.
-/

namespace EmsCollector

def Effect.line? : Effect → Option String
  | .output line => some line
  | .send _ => none

def Effect.message? : Effect → Option EmsMessage
  | .output _ => none
  | .send message => some message

/-- A connection (`collector/CommandHandler.h:87-92`); `replies` are the lines written to its
    socket so far. The calls of the parser have been carried out. -/
structure CommandConnection where
  request : List Char
  parser : ApiCommandParser
  replies : List String
  quiet : parser.effects = []
  deriving DecidableEq

namespace CommandConnection

/-- The connection of a new client. -/
def new (parser : { p : ApiCommandParser // p.Fresh }) : CommandConnection :=
  ⟨[], parser, [], parser.2.effects⟩

/-- The calls that the parser has made: lines for the socket, telegrams for the scheduler. -/
def perform (conn : CommandConnection) (p : ApiCommandParser) :
    CommandConnection × List EmsMessage :=
  ({ conn with parser := { p with effects := [] }
               replies := conn.replies ++ p.effects.filterMap Effect.line?
               quiet := rfl },
    p.effects.filterMap Effect.message?)

def respond (conn : CommandConnection) (lines : List String) : CommandConnection :=
  { conn with replies := conn.replies ++ lines }

/-- The immediate reply to a command (`collector/CommandHandler.cpp:108-120`). -/
def resultReply : CommandResult → List String
  | .ok => []
  | .busy => ["ERRBUSY"]
  | .invalidCmd => ["ERRCMD"]
  | .invalidArgs => ["ERRARGS"]

/-- The parser is called with a stream over the whole buffer, if it holds more than two bytes. -/
def parseRequest (conn : CommandConnection) (env : Env) :
    EStateM.Result Abort Session CommandResult :=
  let session : Session := { parser := conn.parser, request := .ofChars conn.request }
  if conn.request.length > 2 then ApiCommandParser.parse env session else .ok .invalidCmd session

/-- The reply to the result of `parse`, and the rest of the line dropped from the buffer. An
    exception leaves the event loop. -/
def finish (conn : CommandConnection) :
    EStateM.Result Abort Session CommandResult →
      Except Abort CommandResult × CommandConnection × List EmsMessage
  | .ok result s =>
      let (conn, sent) := { conn with request := IStream.dropLine s.request.rest }.perform s.parser
      (.ok result, conn.respond (resultReply result), sent)
  | .error abort s =>
      let (conn, sent) := { conn with request := s.request.rest }.perform s.parser
      (.error abort, conn, sent)

/-- `handleRequest` (`collector/CommandHandler.cpp:94-128`) without an error: the result, the
    connection afterwards and the telegrams enqueued. -/
def handleRequest (conn : CommandConnection) (env : Env) :
    Except Abort CommandResult × CommandConnection × List EmsMessage :=
  conn.finish (conn.parseRequest env)

/-- The reply to a telegram (`collector/CommandHandler.cpp:138-147`). -/
def incomingReply : Option Bool → List String
  | some true => ["OK"]
  | some false => ["FAIL"]
  | none => []

/-- What can happen to a connection: bytes arrive, a line is complete, the scheduler calls its
    client, its test mode timer expires or the handler of an aborted wait runs. -/
inductive Event where
  | segment (chars : List Char)
  | request (env : Env)
  | incoming (message : EmsMessage)
  | timeout
  | testModeExpired (now : Time)
  | testModeAborted (now : Time)

/-- `onIncomingMessage` (`collector/CommandHandler.cpp:138-147`). -/
def onIncomingMessage (conn : CommandConnection) (message : EmsMessage) :
    Option (CommandConnection × List EmsMessage) :=
  match conn.parser.onIncomingMessage message with
  | .ok (result, p) =>
      let (conn, sent) := conn.perform p
      some (conn.respond (incomingReply result), sent)
  | .error _ => none

/-- `onTimeout` (`collector/CommandHandler.cpp:150-156`). -/
def onTimeout (conn : CommandConnection) : CommandConnection × List EmsMessage :=
  let (result, p) := conn.parser.onTimeout
  let (conn, sent) := conn.perform p
  (conn.respond (if result then ["ERRTIMEOUT"] else []), sent)

/-- The handler of an aborted wait of the test mode timer: the one set by `uba testmode on` does
    not look at the error code (`collector/ApiCommandParser.cpp:383-386`), the one set by
    `refreshTestMode` does (lines 270-273). -/
def testModeAborted (p : ApiCommandParser) (now : Time) : TestModeWait → ApiCommandParser
  | .start => p.refreshTestMode now
  | .again => p

/-- A step of a connection, with the telegrams it enqueues. A line is handled when the buffer
    holds one; only then nothing more is read into it. -/
def step (conn : CommandConnection) : Event → Option (CommandConnection × List EmsMessage)
  | .segment chars =>
      if '\n' ∈ conn.request then none else some ({ conn with request := conn.request ++ chars }, [])
  | .request env =>
      if '\n' ∈ conn.request then
        match conn.handleRequest env with
        | (.ok _, conn, sent) => some (conn, sent)
        | (.error _, _) => none
      else none
  | .incoming message => conn.onIncomingMessage message
  | .timeout => some conn.onTimeout
  | .testModeExpired now =>
      conn.parser.testModeRepeater.wait.map fun _ =>
        let p := { conn.parser with testModeRepeater := conn.parser.testModeRepeater.expired }
        conn.perform (p.refreshTestMode now)
  | .testModeAborted now =>
      conn.parser.testModeRepeater.aborted.head?.map fun wait =>
        let p := { conn.parser with testModeRepeater := conn.parser.testModeRepeater.dropAborted }
        conn.perform (testModeAborted p now wait)

theorem step_incoming {conn : CommandConnection} {message : EmsMessage} {result : Option Bool}
    {q : ApiCommandParser} (answered : conn.parser.onIncomingMessage message = .ok (result, q)) :
    conn.step (.incoming message) =
      some ((conn.perform q).1.respond (incomingReply result), (conn.perform q).2) := by
  show conn.onIncomingMessage message = _
  unfold onIncomingMessage
  rw [answered]

theorem step_timeout {conn : CommandConnection} {result : Bool} {q : ApiCommandParser}
    (timeout : conn.parser.onTimeout = (result, q)) :
    conn.step .timeout =
      some ((conn.perform q).1.respond (if result then ["ERRTIMEOUT"] else []), (conn.perform q).2) := by
  show some conn.onTimeout = _
  unfold onTimeout
  rw [timeout]

end CommandConnection

/-- The scheduler and the connections by client; `registered` are the connections in
    `m_connections`. The scheduler keeps the client of a connection that was stopped, and the
    client keeps pointing at the connection; if the connection is gone by then, a call of it is
    undefined, else it works on the connection as it was left. -/
structure System (κ : Type) where
  sender : EmsCommandSender κ
  connections : κ → Option CommandConnection
  registered : κ → Bool

namespace System

variable {κ : Type} [DecidableEq κ]

def init : System κ :=
  { sender := .init, connections := fun _ => none, registered := fun _ => false }

/-- What the event loop can run: a connection is accepted, stopped by a read error, or takes a
    step of its own; a telegram for the PC arrives; a timer of the scheduler completes. -/
inductive Event (κ : Type) where
  | connect (client : κ) (parser : { p : ApiCommandParser // p.Fresh })
  | disconnect (client : κ)
  | segment (client : κ) (chars : List Char)
  | request (client : κ) (env : Env)
  | testModeExpired (client : κ) (now : Time)
  | testModeAborted (client : κ) (now : Time)
  | telegram (now : Time) (message : EmsMessage)
  | responseExpired (now : Time)
  | responseAborted
  | sendExpired (now : Time)
  | sendAborted (now : Time)

def setConnection (s : System κ) (client : κ) (conn : CommandConnection) : System κ :=
  { s with connections := fun c => if c = client then some conn else s.connections c }

def setRegistered (s : System κ) (client : κ) (value : Bool) : System κ :=
  { s with registered := fun c => if c = client then value else s.registered c }

def setSender (s : System κ) (sender : EmsCommandSender κ) : System κ := { s with sender }

/-- A step that a connection takes by itself; what it enqueues goes to the scheduler. -/
def connectionStep (s : System κ) (now : Time) (client : κ) (e : CommandConnection.Event) :
    Option (System κ) := do
  let conn ← s.connections client
  let (conn, sent) ← conn.step e
  some ((s.setConnection client conn).setSender (s.sender.sendAll now client sent))

/-- A call of the current client, with what it enqueues. -/
def callback (s : System κ) (e : CommandConnection.Event) : Option (System κ × List EmsMessage) :=
  match s.sender.currentClient with
  | some client => do
      let conn ← s.connections client
      let (conn, sent) ← conn.step e
      some (s.setConnection client conn, sent)
  | none => some (s, [])

/-- The call that the handler of a response wait makes. -/
def responseEvent (wait : ResponseWait κ) : CommandConnection.Event :=
  if wait.fakeAnswer then .incoming EmsCommandSender.fakeMessage else .timeout

omit [DecidableEq κ] in
theorem responseEvent_real {wait : ResponseWait κ} (real : wait.fakeAnswer = false) :
    responseEvent wait = .timeout := by
  unfold responseEvent
  rw [real, if_neg Bool.false_ne_true]

omit [DecidableEq κ] in
theorem responseEvent_fake {wait : ResponseWait κ} (fake : wait.fakeAnswer = true) :
    responseEvent wait = .incoming EmsCommandSender.fakeMessage := by
  unfold responseEvent
  rw [fake, if_pos rfl]

/-- A step of the scheduler, in which the current client enqueues `reaction`. -/
def senderStep (s : System κ) (e : EmsCommandSender.Event κ) : Option (System κ) := do
  let sender ← s.sender.step e
  some (s.setSender sender)

def step (s : System κ) : Event κ → Option (System κ)
  | .connect client parser =>
      if (s.connections client).isNone then
        some ((s.setConnection client (.new parser)).setRegistered client true)
      else none
  | .disconnect client => if s.registered client then some (s.setRegistered client false) else none
  | .segment client chars =>
      if s.registered client then s.connectionStep 0 client (.segment chars) else none
  | .request client env =>
      if s.registered client then s.connectionStep env.now client (.request env) else none
  | .testModeExpired client now => s.connectionStep now client (.testModeExpired now)
  | .testModeAborted client now => s.connectionStep now client (.testModeAborted now)
  | .telegram now message => do
      let (s, reaction) ← s.callback (.incoming message)
      s.senderStep (.telegram now message reaction)
  | .responseExpired now => do
      let (_, wait) ← s.sender.responseTimeout.wait
      let (s, reaction) ← s.callback (responseEvent wait)
      s.senderStep (.responseExpired now reaction)
  | .responseAborted => s.senderStep .responseAborted
  | .sendExpired now => s.senderStep (.sendExpired now)
  | .sendAborted now => s.senderStep (.sendAborted now)

/-- The system as a transition system. -/
def system (κ : Type) [DecidableEq κ] : LTS (System κ) (Event κ) := .ofOption step

end System

end EmsCollector
