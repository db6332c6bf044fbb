import EmsCollector.Collector.CommandHandlerProof.Connection
import EmsCollector.Collector.CommandSchedulerProof.Accounting
import EmsCollector.Collector.SendingSerialHandler

/-!
# What is sent can be sent

Whatever the clients ask for and whatever the bus answers, every telegram that the scheduler has
taken has data that fits into a frame, and a single byte of it if it is a read: so laying it out
never fails, and the other end can tell what it was.
-/

namespace EmsCollector

open ApiCommandParser (Acts final)

/-- A telegram that the other end can take apart. -/
def Sendable (message : EmsMessage) : Prop := ∃ o : Outgoing, o.message = message

theorem Carried.sendable {data : List UInt8} {expectResponse : Bool}
    (carried : Carried data expectResponse) (dest : UInt8) (type : UInt16) (offset : UInt8) :
    Sendable (.send dest type offset data expectResponse) :=
  ⟨⟨dest, type, offset, data, expectResponse, carried.nonempty, carried.short, carried.length⟩, rfl⟩

namespace EmsCommandSender

variable {κ : Type}

/-- The telegrams handed to `sendMessageImpl`, in order. -/
def sent (s : EmsCommandSender κ) : List EmsMessage :=
  s.history.filterMap fun entry => (Action.request? entry.2).map Request.message

/-- Every telegram that the scheduler has taken is sendable. -/
def AllSendable (s : EmsCommandSender κ) : Prop := ∀ request ∈ s.accounted, Sendable request.message

variable {s t : EmsCommandSender κ}

theorem AllSendable.sent (all : s.AllSendable) : ∀ message ∈ s.sent, Sendable message := by
  intro message member
  obtain ⟨entry, occurs, transmitted⟩ := List.mem_filterMap.mp member
  obtain ⟨request, action, rfl⟩ := Option.map_eq_some_iff.mp transmitted
  apply all
  refine Multiset.mem_add.mpr (.inl (Multiset.mem_add.mpr (.inl ?_)))
  exact List.mem_filterMap.mpr ⟨entry, occurs, action⟩

theorem AllSendable.step {e : Event κ} (all : s.AllSendable) (next : s.step e = some t)
    (enqueued : ∀ request ∈ s.enqueues e, Sendable request.message) : t.AllSendable := by
  intro request member
  rw [step_accounted next] at member
  rcases Multiset.mem_add.mp member with old | new
  · exact all request old
  · exact enqueued request (Multiset.mem_coe.mp new)

theorem AllSendable.sendAll (all : s.AllSendable) (now : Time) (client : κ)
    {messages : List EmsMessage} (sendable : ∀ message ∈ messages, Sendable message) :
    (s.sendAll now client messages).AllSendable := by
  induction messages generalizing s with
  | nil => exact all
  | cons message rest ih =>
      obtain ⟨first, rest'⟩ := List.forall_mem_cons.mp sendable
      refine ih (s := s.sendMessage now client message) (fun request member => ?_) rest'
      rw [sendMessage_accounted, Multiset.mem_cons] at member
      rcases member with rfl | old
      · exact first
      · exact all request old

/-- What the current client enqueues in a callback. -/
theorem reactionRequests_sendable {messages : List EmsMessage}
    (sendable : ∀ message ∈ messages, Sendable message) :
    ∀ request ∈ s.reactionRequests messages, Sendable request.message := by
  intro request member
  unfold reactionRequests at member
  split at member
  · obtain ⟨message, occurs, rfl⟩ := List.mem_map.mp member
    exact sendable message occurs
  · cases member

end EmsCommandSender

namespace CommandConnection

variable {conn conn' : CommandConnection} {e : Event} {q : ApiCommandParser}
  {sent : List EmsMessage}

/-- The request that a connection waits for can be sent, if there is one. -/
def Asks (conn : CommandConnection) : Prop :=
  ∀ request ∈ conn.parser.activeRequest, Sendable request

theorem parseRequest_sendable (conn : CommandConnection) (env : Env) :
    Acts Sendable True conn.parser (final (conn.parseRequest env)).parser := by
  unfold parseRequest
  dsimp only
  split
  · exact ApiCommandParser.parse_carried (fun _ _ _ _ _ carried => carried.sendable _ _ _) env
      ⟨conn.parser, .ofChars conn.request⟩
  · exact .nil

/-- In any step the parser sends what can be sent. -/
theorem Yields.sendable (yields : conn.Yields e q) (asks : conn.Asks) :
    Acts Sendable True conn.parser q := by
  have read (dest : UInt8) (type : UInt16) (offset length : UInt8) :
      Sendable (.send dest type offset [length] true) := (Carried.single _ _).sendable _ _ _
  have on : Sendable (.send EmsProto.addressUBA2 0x1d 0 [0x5a] false) :=
    (Carried.single _ _).sendable _ _ _
  cases e with
  | segment chars =>
      rw [yields]
      exact .nil
  | request env =>
      rw [yields]
      exact parseRequest_sendable conn env
  | incoming message =>
      obtain ⟨result, answered⟩ := yields
      exact (ApiCommandParser.onIncomingMessage_acts (fun dest type offset length _ => read _ _ _ _)
        (fun _ _ _ _ _ _ => read _ _ _ _) answered).1
  | timeout =>
      rw [yields]
      exact (ApiCommandParser.onTimeout_acts asks).1
  | testModeExpired now =>
      rw [yields.2]
      exact refreshTestMode_acts (.testMode .nil trivial _) now trivial on
  | testModeAborted now =>
      obtain ⟨wait, -, rfl⟩ := yields
      cases wait with
      | start => exact refreshTestMode_acts (.testMode .nil trivial _) now trivial on
      | again => exact .testMode .nil trivial _

/-- A step of a connection. -/
theorem step_sendable (next : conn.step e = some (conn', sent)) (asks : conn.Asks) :
    conn'.Asks ∧ ∀ message ∈ sent, Sendable message := by
  obtain ⟨q, yields, performed⟩ := step_yields next
  have acts := yields.sendable asks
  refine ⟨fun request active => ?_, fun message member => ?_⟩
  · rw [Option.mem_def, performed.active] at active
    rcases acts.active active with before | ⟨sendable, -⟩
    · exact asks request before
    · exact sendable
  · rcases acts.sent (performed.mem_sent.mp member) with before | sendable
    · rw [conn.quiet] at before
      cases before
    · exact sendable

end CommandConnection

namespace System

variable {κ : Type} [DecidableEq κ] {s t : System κ}

/-- Every telegram that a connection waits for or that the scheduler has taken is sendable. -/
structure AllSendable (s : System κ) : Prop where
  asks : ∀ client conn, s.connections client = some conn → conn.Asks
  sender : s.sender.AllSendable

theorem AllSendable.setConnection (all : s.AllSendable) {client : κ} {conn : CommandConnection}
    (asks : conn.Asks) : (s.setConnection client conn).AllSendable := by
  refine ⟨fun other conn' present => ?_, all.sender⟩
  by_cases same : other = client
  · rw [same, setConnection_self] at present
    cases present
    exact asks
  · rw [setConnection_other s same] at present
    exact all.asks other conn' present

theorem AllSendable.connectionStep (all : s.AllSendable) {now : Time} {client : κ}
    {e : CommandConnection.Event} (next : s.connectionStep now client e = some t) :
    t.AllSendable := by
  obtain ⟨conn, conn', sent, present, stepped, rfl⟩ := connectionStep_cases next
  obtain ⟨asks, sendable⟩ := CommandConnection.step_sendable stepped (all.asks client conn present)
  exact ⟨(all.setConnection asks).asks, all.sender.sendAll now client sendable⟩

theorem AllSendable.callback (all : s.AllSendable) {e : CommandConnection.Event}
    {reaction : List EmsMessage} (next : s.callback e = some (t, reaction)) :
    t.AllSendable ∧ ∀ message ∈ reaction, Sendable message := by
  rcases callback_cases next with ⟨-, rfl, rfl⟩ | ⟨client, conn, conn', -, present, stepped, rfl⟩
  · exact ⟨all, fun message member => by cases member⟩
  · obtain ⟨asks, sendable⟩ := CommandConnection.step_sendable stepped (all.asks client conn present)
    exact ⟨all.setConnection asks, sendable⟩

omit [DecidableEq κ] in
theorem AllSendable.senderStep (all : s.AllSendable) {e : EmsCommandSender.Event κ}
    (enqueued : ∀ request ∈ s.sender.enqueues e, Sendable request.message)
    (next : s.senderStep e = some t) : t.AllSendable := by
  obtain ⟨sender, stepped, rfl⟩ := senderStep_cases next
  exact ⟨all.asks, all.sender.step stepped enqueued⟩

theorem step_allSendable {e : Event κ} (all : s.AllSendable) (next : s.step e = some t) :
    t.AllSendable := by
  have nothing : ∀ request ∈ ([] : List (Request κ)), Sendable request.message :=
    List.forall_mem_nil _
  cases e with
  | connect client parser =>
      obtain ⟨-, next⟩ := Option.ite_none_right_eq_some.mp next
      cases next
      have asks : (CommandConnection.new parser).Asks := by
        intro request active
        rw [show (CommandConnection.new parser).parser.activeRequest = none from
          parser.2.activeRequest] at active
        cases active
      exact ⟨(all.setConnection asks).asks, all.sender⟩
  | disconnect client =>
      obtain ⟨-, next⟩ := Option.ite_none_right_eq_some.mp next
      cases next
      exact ⟨all.asks, all.sender⟩
  | segment client chars =>
      obtain ⟨-, next⟩ := Option.ite_none_right_eq_some.mp next
      exact all.connectionStep next
  | request client env =>
      obtain ⟨-, next⟩ := Option.ite_none_right_eq_some.mp next
      exact all.connectionStep next
  | testModeExpired client now => exact all.connectionStep next
  | testModeAborted client now => exact all.connectionStep next
  | telegram now message =>
      obtain ⟨⟨u, reaction⟩, called, next⟩ := Option.bind_eq_some_iff.mp next
      obtain ⟨all', sendable⟩ := all.callback called
      exact all'.senderStep (EmsCommandSender.reactionRequests_sendable sendable) next
  | responseExpired now =>
      obtain ⟨⟨expiry, wait⟩, -, next⟩ := Option.bind_eq_some_iff.mp next
      obtain ⟨⟨u, reaction⟩, called, next⟩ := Option.bind_eq_some_iff.mp next
      obtain ⟨all', sendable⟩ := all.callback called
      exact all'.senderStep (EmsCommandSender.reactionRequests_sendable sendable) next
  | responseAborted => exact all.senderStep (e := .responseAborted) nothing next
  | sendExpired now => exact all.senderStep (e := .sendExpired now) nothing next
  | sendAborted now => exact all.senderStep (e := .sendAborted now) nothing next

theorem run_allSendable {ok : System κ → Event κ → Prop} {es : List (Event κ)}
    (run : (system κ).Run ok .init es s) : s.AllSendable := by
  apply run.invariant
  · refine ⟨fun client conn present => ?_, fun request member => ?_⟩
    · cases present
    · exact absurd member (Multiset.notMem_zero request)
  · exact fun _ _ _ all _ next => step_allSendable all next

end System

end EmsCollector
