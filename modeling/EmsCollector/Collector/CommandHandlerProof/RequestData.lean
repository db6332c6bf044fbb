import EmsCollector.Collector.ApiCommandParserProof.RequestData
import EmsCollector.Collector.CommandHandlerProof.OneReply
import EmsCollector.Collector.CommandSchedulerProof.Fifo

/-!
# What `OK` says of several requests

A client sends `requestdata`, and the answers arrive in any parts, or not at all, between those to
other clients. `OK` need not mean that everything was read: only the last request goes on after a
part, and only the last one is asked for again after a loss. Where this happens to no other request,
`OK` means it, and what was lost is asked for again before `ERRTIMEOUT`.
-/

namespace EmsCollector

namespace CommandConnection

/-- Of the two verdicts on a request, only these have been sent since `before`. -/
def Tells (before conn : CommandConnection) (verdicts : List String) : Prop :=
  ∃ more, conn.terminals = before.terminals ++ more ∧
    ∀ line ∈ more, line = "OK" ∨ line = "ERRTIMEOUT" → line ∈ verdicts

variable {r : ReadRange} {response : List UInt8} {losses : Nat} {before conn conn' : CommandConnection}
  {verdicts : List String} {sent : List EmsMessage}

theorem Tells.refl (conn : CommandConnection) : conn.Tells conn [] :=
  ⟨[], (List.append_nil _).symm, nofun⟩

/-- More terminal lines. -/
theorem Tells.append (told : before.Tells conn []) {more : List String}
    (terminals : conn'.terminals = conn.terminals ++ more)
    (allowed : ∀ line ∈ more, line = "OK" ∨ line = "ERRTIMEOUT" → line ∈ verdicts) :
    before.Tells conn' verdicts := by
  obtain ⟨lines, known, none⟩ := told
  refine ⟨lines ++ more, ?_, fun line member verdict => ?_⟩
  · rw [terminals, known, List.append_assoc]
  · rcases List.mem_append.mp member with old | new
    · exact nomatch none line old verdict
    · exact allowed line new verdict

theorem Tells.trans (told : before.Tells conn verdicts) (nothing : conn.Tells conn' []) :
    before.Tells conn' verdicts := by
  obtain ⟨lines, known, allowed⟩ := told
  obtain ⟨more, new, none⟩ := nothing
  refine ⟨lines ++ more, ?_, fun line member verdict => ?_⟩
  · rw [new, known, List.append_assoc]
  · rcases List.mem_append.mp member with old | later
    · exact allowed line old verdict
    · exact nomatch none line later verdict

theorem Tells.of_eq (terminals : conn'.terminals = conn.terminals) : conn.Tells conn' [] :=
  ⟨[], terminals.trans (List.append_nil _).symm, nofun⟩

/-- The answer to the last request brings no terminal line of its own. -/
theorem answerable (reading : r.Reading response losses conn.parser) (message : EmsMessage) :
    conn.parser.Answerable message := by
  intro _ _ _
  rcases r.shown with raw | errors
  · exact .inl (reading.asked.raw.trans raw)
  · right
    rw [reading.asked.type, errors]
    exact ⟨by decide, fun contact => absurd contact (by decide)⟩

/-- The command is accepted and enqueues its reads. -/
theorem handleRequest_refresh {c : Refresh}
    (typed : c.Typed { parser := conn.parser, request := .ofChars conn.request })
    (idle : conn.parser.activeRequest = none) (env : Env) :
    ∃ conn', conn.handleRequest env = (.ok .ok, conn', c.ranges.map (·.part 0)) ∧
      c.last.Reading [] 0 conn'.parser ∧ conn'.replies = conn.replies := by
  obtain ⟨t, parsed, started⟩ := Refresh.parse_refresh typed idle env
  have long : conn.request.length > 2 := by
    obtain ⟨first, second, category, cmd⟩ := typed
    have word := RawRead.nextWord_length cmd
    have rest := (ApiCommandParser.nextWord_suffix (.ofChars conn.request)).length_le
    rw [category] at rest
    have letters : 2 < ("requestdata" : String).length := by decide
    exact letters.trans_le (word.trans rest)
  have accepted : conn.parseRequest env = .ok .ok t := by
    unfold parseRequest
    dsimp only
    rw [if_pos long]
    exact parsed
  obtain ⟨reading, effects⟩ := ReadRange.startAll_reading c.earlier c.last conn.parser
  have same : t.parser = conn.parser.startAll ((c.earlier ++ [c.last]).map ReadRange.range) := started
  rw [← same] at reading effects
  rw [conn.quiet, List.nil_append] at effects
  have messages : t.parser.effects.filterMap Effect.message? = c.ranges.map (·.part 0) := by
    rw [effects]
    exact (congrArg _ (List.map_map ..).symm).trans (filterMap_send_message _)
  have lines : t.parser.effects.filterMap Effect.line? = [] := by
    rw [effects]
    exact (congrArg _ (List.map_map ..).symm).trans (filterMap_send_line _)
  unfold handleRequest
  rw [accepted]
  refine ⟨_, Prod.ext rfl (Prod.ext rfl messages), reading.withEffects [], ?_⟩
  show (conn.replies ++ t.parser.effects.filterMap Effect.line?) ++ [] = conn.replies
  rw [lines, List.append_nil, List.append_nil]

/-- A line that arrives while a request is active is refused. -/
theorem request_busy (reading : r.Reading response losses conn.parser) {env : Env}
    (next : conn.step (.request env) = some (conn', sent)) :
    sent = [] ∧ conn'.parser = conn.parser ∧ conn.Tells conn' [] := by
  have busy : conn.parser.activeRequest.isSome = true := by
    rw [reading.active]
    rfl
  obtain ⟨result, s, parsed, same, refused⟩ : ∃ result s, conn.parseRequest env = .ok result s ∧
      s.parser = conn.parser ∧ (result = .busy ∨ result = .invalidCmd) := by
    unfold parseRequest
    dsimp only
    split
    · exact ⟨_, _, if_pos busy, rfl, .inl rfl⟩
    · exact ⟨_, _, rfl, rfl, .inr rfl⟩
  simp only [step, handleRequest, parsed] at next
  split at next
  · cases next
    refine ⟨?_, ?_, ?_⟩
    · show s.parser.effects.filterMap Effect.message? = []
      rw [same, conn.quiet]
      rfl
    · show ({ s.parser with effects := [] } : ApiCommandParser) = _
      rw [same, ← conn.quiet]
    · have spoken : s.parser.spoken = [] := by
        rw [same, ApiCommandParser.spoken, conn.quiet]
        rfl
      let after : CommandConnection := { conn with request := IStream.dropLine s.request.rest }
      have unsaid : (after.perform s.parser).1.terminals = conn.terminals := by
        rw [terminals_perform, spoken, List.append_nil]
        rfl
      have terminals : ((after.perform s.parser).1.respond (resultReply result)).terminals =
          conn.terminals ++ (resultReply result).flatMap terminalLines := by
        rw [terminals_respond, unsaid]
      refine (Tells.refl conn).append terminals ?_
      rcases refused with rfl | rfl
      · have line : terminalLines "ERRBUSY" = ["ERRBUSY"] := terminalLines_ofList rfl
        simp [resultReply, line]
      · have line : terminalLines "ERRCMD" = ["ERRCMD"] := terminalLines_ofList rfl
        simp [resultReply, line]
  · cases next

/-- What the parser has called out, when it has said nothing terminal. -/
theorem respond_terminals {q : ApiCommandParser} (silent : q.spoken = []) (lines : List String) :
    ((conn.perform q).1.respond lines).terminals = conn.terminals ++ lines.flatMap terminalLines := by
  rw [terminals_respond, terminals_perform, silent, List.append_nil]

/-- The lines and telegrams of a parser that has printed some lines. -/
theorem messages_printed {q : ApiCommandParser} {lines : List String} {messages : List EmsMessage}
    (effects : q.effects = lines.map Effect.output ++ messages.map Effect.send) :
    q.effects.filterMap Effect.message? = messages := by
  have nothing : (lines.map Effect.output).filterMap Effect.message? = [] := by
    rw [List.filterMap_map]
    exact List.filterMap_eq_nil_iff.mpr fun _ _ => rfl
  rw [effects, List.filterMap_append, nothing, filterMap_send_message, List.nil_append]

/-- A loss that is not the last one. -/
theorem timeout_again (reading : r.Reading response losses conn.parser) (few : losses < 4)
    (next : conn.step .timeout = some (conn', sent)) :
    sent = [r.part response.length] ∧ r.Reading response (losses + 1) conn'.parser ∧
      conn'.terminals = conn.terminals := by
  obtain ⟨q, timeout, again, effects⟩ := reading.timeout_again few
  rw [conn.quiet, List.nil_append] at effects
  have stepped : conn.step .timeout =
      some ((conn.perform q).1.respond [], q.effects.filterMap Effect.message?) := step_timeout timeout
  cases stepped.symm.trans next
  refine ⟨?_, again.withEffects [], ?_⟩
  · rw [effects]
    rfl
  · have silent : q.spoken = [] := by
      rw [ApiCommandParser.spoken, effects]
      rfl
    rw [respond_terminals silent, List.flatMap_nil, List.append_nil]

/-- The last loss is reported. -/
theorem timeout_last (reading : r.Reading response losses conn.parser) (last : losses = 4)
    (next : conn.step .timeout = some (conn', sent)) :
    sent = [] ∧ conn'.parser.activeRequest = none ∧
      conn'.terminals = conn.terminals ++ ["ERRTIMEOUT"] := by
  obtain ⟨q, timeout, idle, effects⟩ := reading.timeout_last last
  rw [conn.quiet] at effects
  have stepped : conn.step .timeout =
      some ((conn.perform q).1.respond ["ERRTIMEOUT"], q.effects.filterMap Effect.message?) :=
    step_timeout timeout
  cases stepped.symm.trans next
  refine ⟨?_, idle, ?_⟩
  · rw [effects]
    rfl
  · have silent : q.spoken = [] := by
      rw [ApiCommandParser.spoken, effects]
      rfl
    rw [respond_terminals silent]
    simp [timeout_terminal]

/-- An answer to the last read. -/
theorem incoming_holds (reading : r.Reading response losses conn.parser) {message : EmsMessage}
    (holds : r.Holds response.length message) (some_data : message.data ≠ [])
    (unbroken : (response ++ message.data).length = r.length ∨ r.Unbroken (response ++ message.data))
    (next : conn.step (.incoming message) = some (conn', sent)) :
    (response ++ message.data).length < r.length ∧
        sent = [r.part (response ++ message.data).length] ∧
        r.Reading (response ++ message.data) 0 conn'.parser ∧ conn'.terminals = conn.terminals ∨
      (response ++ message.data).length = r.length ∧ sent = [] ∧
        conn'.parser.activeRequest = none ∧ conn'.terminals = conn.terminals ++ ["OK"] := by
  obtain ⟨result, q, lines, answered, outcome⟩ := reading.answer holds some_data unbroken
  have balance := ApiCommandParser.onIncomingMessage_tally (answerable reading message) answered
  have debt : conn.parser.tally = 1 := by
    rw [parser_tally]
    exact ApiCommandParser.owed_active (by rw [reading.active]; rfl)
  rw [debt, ApiCommandParser.tally] at balance
  cases (step_incoming answered).symm.trans next
  rcases outcome with ⟨missing, rfl, again, effects⟩ | ⟨complete, rfl, idle, effects⟩
  · rw [conn.quiet, List.nil_append] at effects
    have silent : q.spoken = [] := by
      rw [ApiCommandParser.owed_active (by rw [again.active]; rfl)] at balance
      rw [← List.length_eq_zero_iff]
      omega
    refine .inl ⟨missing, messages_printed effects, again.withEffects [], ?_⟩
    rw [respond_terminals silent]
    exact List.append_nil _
  · rw [conn.quiet, List.nil_append] at effects
    have silent : q.spoken = [] := by
      rw [ApiCommandParser.incomingReply_some true] at balance
      rw [← List.length_eq_zero_iff]
      omega
    have printed : q.effects = lines.map Effect.output ++ ([] : List EmsMessage).map Effect.send := by
      rw [effects, List.map_nil, List.append_nil]
    refine .inr ⟨complete, messages_printed printed, idle, ?_⟩
    rw [respond_terminals silent]
    simp [incomingReply, ApiCommandParser.ok_terminal]

/-- An answer to another read. -/
theorem incoming_ignored (reading : r.Reading response losses conn.parser) {other : ReadRange} {got : Nat}
    {message : EmsMessage} (holds : other.Holds got message)
    (different : other.dest ≠ r.dest ∨ other.type ≠ r.type)
    (next : conn.step (.incoming message) = some (conn', sent)) :
    sent = [] ∧ conn'.parser = conn.parser ∧ conn'.terminals = conn.terminals := by
  have stepped : conn.step (.incoming message) =
      some ((conn.perform conn.parser).1.respond [], conn.parser.effects.filterMap Effect.message?) :=
    step_incoming (reading.ignores holds different)
  cases stepped.symm.trans next
  refine ⟨?_, ?_, ?_⟩
  · rw [conn.quiet]
    rfl
  · show ({ conn.parser with effects := [] } : ApiCommandParser) = _
    rw [← conn.quiet]
  · have silent : conn.parser.spoken = [] := by
      rw [ApiCommandParser.spoken, conn.quiet]
      rfl
    rw [respond_terminals silent, List.flatMap_nil, List.append_nil]

end CommandConnection

/-- The number of bytes that a read asks for. -/
def EmsMessage.asked (request : EmsMessage) : Nat := (request.data.headD 0).toNat

/-- The telegram answers a read: it comes from the device, with bytes of the type from the offset
    on, no more than were asked for. -/
structure EmsMessage.Answers (request message : EmsMessage) : Prop where
  source : message.source = request.dest
  type : message.getType = request.getType
  offset : message.offset = request.offset
  within : message.data.length ≤ request.asked

instance (request message : EmsMessage) : Decidable (request.Answers message) :=
  decidable_of_iff (message.source = request.dest ∧ message.getType = request.getType ∧
      message.offset = request.offset ∧ message.data.length ≤ request.asked)
    ⟨fun ⟨source, type, offset, within⟩ => ⟨source, type, offset, within⟩,
      fun ⟨source, type, offset, within⟩ => ⟨source, type, offset, within⟩⟩

theorem ReadRange.part_asked (r : ReadRange) (got : Nat) : (r.part got).asked = r.length - got := by
  have small := r.small
  show (UInt8.ofNat (r.length - got)).toNat = _
  rw [UInt8.toNat_ofNat']
  omega

/-- An answer to the read of a part holds bytes of the range. -/
theorem ReadRange.holds_answer {r : ReadRange} {got : Nat} (missing : got < r.length) {message : EmsMessage}
    (answers : (r.part got).Answers message) : r.Holds got message where
  source := answers.source.trans r.device
  type := answers.type.trans (EmsMessage.getType_send ..)
  offset := by
    have small := r.small
    rw [answers.offset]
    show (UInt8.ofNat got).toNat = got
    rw [UInt8.toNat_ofNat']
    omega
  within := by
    have within := answers.within
    rw [part_asked] at within
    omega

/-- The reads of different ranges differ. -/
theorem ReadRange.part_ne {r other : ReadRange} (different : r.dest ≠ other.dest ∨ r.type ≠ other.type)
    (got got' : Nat) : r.part got ≠ other.part got' := by
  intro same
  rcases different with dest | type
  · have dests : r.dest ||| 0x80 = other.dest ||| 0x80 := congrArg EmsMessage.dest same
    rw [r.device, other.device] at dests
    exact dest dests
  · have types := congrArg EmsMessage.getType same
    simp only [ReadRange.part, EmsMessage.getType_send] at types
    exact type types

open EmsCommandSender (requests Lost Sent Retried Fifo Transmits)

variable {κ : Type}

/-- The byte of the range at the address was received for the client. -/
def ReadRange.Received (r : ReadRange) (history : List (Time × Action κ)) (client : κ) (address : Nat) :
    Prop :=
  ∃ entry ∈ history, ∃ message got, entry.2 = .received message (some client) ∧ r.Holds got message ∧
    got ≤ address ∧ address < got + message.data.length

/-- The whole range was received. -/
def ReadRange.Whole (r : ReadRange) (history : List (Time × Action κ)) (client : κ) : Prop :=
  ∀ address < r.length, r.Received history client address

theorem ReadRange.Received.append {r : ReadRange} {history : List (Time × Action κ)} {client : κ}
    {address : Nat} (received : r.Received history client address) (more : List (Time × Action κ)) :
    r.Received (history ++ more) client address := by
  obtain ⟨entry, member, rest⟩ := received
  exact ⟨entry, List.mem_append_left _ member, rest⟩

namespace Refresh

/-- How far the command is: `todo` are the ranges that wait in front of the last one, of which
    `response` has arrived; or a verdict was sent. -/
inductive Stage where
  | reading (todo : List ReadRange) (response : List UInt8) (losses : Nat)
  | finished (verdict : String)

namespace Stage

/-- The telegrams of the client. -/
def mine (c : Refresh) : Stage → List EmsMessage
  | reading todo response _ => todo.map (·.part 0) ++ [c.last.part response.length]
  | finished _ => []

/-- The parser of the client. -/
def Parser (c : Refresh) : Stage → ApiCommandParser → Prop
  | reading todo response losses, p => c.last.Reading response losses p ∧
      (∀ r ∈ todo, r ∈ c.earlier) ∧ (todo ≠ [] → response = [])
  | finished _, p => p.activeRequest = none

/-- The verdicts that were sent. -/
def verdicts : Stage → List String
  | reading .. => []
  | finished verdict => [verdict]

/-- What the history tells: the ranges that are not waiting were received, and what was lost was
    transmitted again, but for the part that waits to be. -/
def Book (c : Refresh) (client : κ) (history : List (Time × Action κ)) (s : EmsCommandSender κ) :
    Stage → Prop
  | reading todo response losses =>
      (∀ r ∈ c.earlier, r ∈ todo ∨ r.Whole history client) ∧
      (∀ address < response.length, c.last.Received history client address) ∧
      (1 ≤ losses → Lost history { client, message := c.last.part response.length }) ∧
      ∀ message, Lost history { client, message } → Retried history { client, message } ∨
        message = c.last.part response.length ∧ ¬ s.Awaits { client, message }
  | finished verdict =>
      (verdict = "OK" → ∀ r ∈ c.ranges, r.Whole history client) ∧
      (verdict = "ERRTIMEOUT" →
        ∀ message, Lost history { client, message } → Retried history { client, message })

end Stage

variable {c : Refresh} {client : κ} {stage : Stage} {history : List (Time × Action κ)}
  {s t : EmsCommandSender κ}

/-- The history grows by entries that are no losses of the client; a telegram that is waited for was
    waited for before, or is among them. -/
theorem Stage.Book.grow (book : stage.Book c client history s) {more : List (Time × Action κ)}
    (old : ∀ {message : EmsMessage}, Lost (history ++ more) { client, message } →
      Lost history { client, message })
    (awaited : ∀ request, t.Awaits request → s.Awaits request ∨ Sent more request) :
    stage.Book c client (history ++ more) t := by
  cases stage with
  | reading todo response losses =>
      obtain ⟨earlier, part, again, retried⟩ := book
      refine ⟨fun r member => ?_, fun address bound => (part address bound).append more, fun some_loss => ?_,
        fun message lost => ?_⟩
      · exact (earlier r member).imp_right fun whole address bound => (whole address bound).append more
      · exact EmsCommandSender.Lost.append.mpr (.inl (again some_loss))
      · rcases retried message (old lost) with before | ⟨rfl, free⟩
        · exact .inl (before.append more)
        · by_cases waits : t.Awaits { client, message := c.last.part response.length }
          · rcases awaited _ waits with before | sent
            · exact absurd before free
            · exact .inl ⟨history, more, rfl, old lost, sent⟩
          · exact .inr ⟨rfl, waits⟩
  | finished verdict =>
      obtain ⟨whole, retried⟩ := book
      refine ⟨fun ok r member address bound => ?_, fun late message lost => ?_⟩
      · exact (whole ok r member address bound).append more
      · exact (retried late message (old lost)).append more

/-- What is transmitted is added to the history. -/
theorem Stage.Book.transmits (book : stage.Book c client history s) {more : List (Time × Action κ)}
    (transmitted : ∀ entry ∈ more, ∃ request, entry.2 = .transmitted request)
    (awaited : ∀ request, t.Awaits request → s.Awaits request ∨ Sent more request) :
    stage.Book c client (history ++ more) t := by
  refine book.grow (fun lost => ?_) awaited
  rcases EmsCommandSender.Lost.append.mp lost with before | now
  · exact before
  · exact absurd now (EmsCommandSender.not_lost transmitted)

/-- What happens to other clients is added to the history. -/
theorem Stage.Book.entry (book : stage.Book c client history s) {entry : Time × Action κ}
    (other : ∀ request callee, entry.2 = .timedOut request callee → request.client ≠ client)
    (awaited : ∀ request, t.Awaits request → s.Awaits request) :
    stage.Book c client (history ++ [entry]) t := by
  refine book.grow (fun lost => ?_) (fun request waits => .inl (awaited request waits))
  rcases EmsCommandSender.Lost.append.mp lost with before | ⟨last, member, callee, same⟩
  · exact before
  · cases List.mem_singleton.mp member
    exact absurd rfl (other _ callee same)

/-- The handler of an aborted wait for the next refresh of the test mode changes nothing else. -/
theorem Stage.Parser.withRepeater {p : ApiCommandParser} (parser : stage.Parser c p)
    (testModeRepeater : DeadlineTimer TestModeWait) (effects : List Effect) :
    stage.Parser c { p with testModeRepeater, effects } := by
  cases stage with
  | reading todo response losses =>
      obtain ⟨reading, rest⟩ := parser
      exact ⟨{ reading with asked := { reading.asked with } }, rest⟩
  | finished verdict => exact parser

section Steps

variable {before conn conn' : CommandConnection} {request message : EmsMessage}
  {rest sent : List EmsMessage} {u : EmsCommandSender κ}

/-- The ranges that are not waiting stay received. -/
theorem earlier_append {todo : List ReadRange} (earlier : ∀ r ∈ c.earlier, r ∈ todo ∨ r.Whole history client)
    (more : List (Time × Action κ)) : ∀ r ∈ c.earlier, r ∈ todo ∨ r.Whole (history ++ more) client := by
  intro r member
  exact (earlier r member).imp_right fun whole address bound => (whole address bound).append more

/-- A telegram is not a timeout. -/
theorem lost_received {now : Time} {callee : Option κ} {other : Request κ}
    (lost : Lost (history ++ [(now, .received message callee)]) other) : Lost history other := by
  rcases EmsCommandSender.Lost.append.mp lost with before | ⟨last, member, callee, same⟩
  · exact before
  · cases List.mem_singleton.mp member
    cases same

/-- A telegram that answers the first read of the client. -/
theorem answered_stage (mine : stage.mine c = request :: rest) (parser : stage.Parser c conn.parser)
    (told : before.Tells conn stage.verdicts) (answers : request.Answers message)
    (undisturbed : message.data.length = request.asked ∨ message.data ≠ [] ∧
      conn.parser.activeRequest = some request ∧
      c.last.Unbroken (conn.parser.requestResponse ++ message.data))
    (stepped : conn.step (.incoming message) = some (conn', sent))
    (waits : s.Awaits { client, message := request }) (book : stage.Book c client history s)
    (free : ∀ other, ¬ u.Awaits other) (now : Time) :
    ∃ stage' : Stage, stage'.mine c = rest ++ sent ∧ stage'.Parser c conn'.parser ∧
      before.Tells conn' stage'.verdicts ∧
      stage'.Book c client (history ++ [(now, .received message (some client))]) u := by
  cases stage with
  | finished verdict => cases mine
  | reading todo response losses =>
      obtain ⟨reading, known, first⟩ := parser
      obtain ⟨earlier, part, lost_once, retried⟩ := book
      cases todo with
      | nil =>
          cases mine
          have missing := reading.missing
          have holds := ReadRange.holds_answer missing answers
          have asked := c.last.part_asked response.length
          have some_data : message.data ≠ [] := by
            rw [← List.length_pos_iff]
            rcases undisturbed with complete | ⟨some_data, -⟩
            · omega
            · exact List.length_pos_iff.mpr some_data
          have unbroken : (response ++ message.data).length = c.last.length ∨
              c.last.Unbroken (response ++ message.data) := by
            rcases undisturbed with complete | ⟨-, -, unbroken⟩
            · left
              rw [List.length_append]
              omega
            · rw [reading.asked.response] at unbroken
              exact .inr unbroken
          have covered : ∀ address < (response ++ message.data).length,
              c.last.Received (history ++ [(now, .received message (some client))]) client address := by
            intro address bound
            by_cases old : address < response.length
            · exact (part address old).append _
            · rw [List.length_append] at bound
              exact ⟨_, List.mem_append_right _ (List.mem_singleton_self _), message, response.length, rfl,
                holds, by omega, bound⟩
          have again : ∀ other, Lost (history ++ [(now, .received message (some client))])
              { client, message := other } →
              Retried (history ++ [(now, .received message (some client))]) { client, message := other } := by
            intro other lost
            rcases retried other (lost_received lost) with before | ⟨rfl, idle⟩
            · exact before.append _
            · exact absurd waits idle
          rcases CommandConnection.incoming_holds reading holds some_data unbroken stepped with
            ⟨-, rfl, next, terminals⟩ | ⟨complete, rfl, idle, terminals⟩
          · exact ⟨.reading [] (response ++ message.data) 0, rfl,
              ⟨next, nofun, fun some_todo => absurd rfl some_todo⟩,
              told.trans (.of_eq terminals), earlier_append earlier _, covered,
              fun some_loss => absurd some_loss (by decide), fun other lost => .inl (again other lost)⟩
          · refine ⟨.finished "OK", rfl, idle, told.append terminals fun line member _ => member, fun _ => ?_,
              fun late => absurd late (by decide)⟩
            intro r member
            rcases List.mem_append.mp member with before | last
            · rcases earlier_append earlier _ r before with waiting | whole
              · cases waiting
              · exact whole
            · cases List.mem_singleton.mp last
              intro address bound
              exact covered address (bound.trans_eq complete.symm)
      | cons r todo =>
          cases mine
          have different := c.earlier_other (known r List.mem_cons_self)
          have complete : message.data.length = (r.part 0).asked := by
            rcases undisturbed with complete | ⟨-, active, -⟩
            · exact complete
            · exact absurd (Option.some.inj (active.symm.trans reading.active))
                (ReadRange.part_ne different 0 response.length)
          have holds := ReadRange.holds_answer r.positive answers
          obtain ⟨rfl, same, terminals⟩ :=
            CommandConnection.incoming_ignored reading holds different stepped
          refine ⟨.reading todo response losses, (List.append_nil _).symm, ⟨?_, ?_, ?_⟩,
            told.trans (.of_eq terminals), ?_, ?_, ?_, ?_⟩
          · rw [same]
            exact reading
          · exact fun other member => known other (List.mem_cons_of_mem _ member)
          · exact fun _ => first nofun
          · intro other member
            rcases earlier_append earlier _ other member with waiting | whole
            · rcases List.mem_cons.mp waiting with rfl | later
              · right
                intro address bound
                refine ⟨_, List.mem_append_right _ (List.mem_singleton_self _), message, 0, rfl, holds,
                  Nat.zero_le _, ?_⟩
                rw [complete, ReadRange.part_asked]
                omega
              · exact .inl later
            · exact .inr whole
          · exact fun address bound => (part address bound).append _
          · exact fun some_loss => EmsCommandSender.Lost.append.mpr (.inl (lost_once some_loss))
          · intro other lost
            exact (retried other (lost_received lost)).imp (fun before => before.append _)
              fun ⟨last, _⟩ => ⟨last, free _⟩

/-- A timeout of the last read. -/
theorem lost_stage (mine : stage.mine c = request :: rest) (parser : stage.Parser c conn.parser)
    (told : before.Tells conn stage.verdicts) (undisturbed : conn.parser.activeRequest = some request)
    (stepped : conn.step .timeout = some (conn', sent)) (waits : s.Awaits { client, message := request })
    (book : stage.Book c client history s) (free : ∀ other, ¬ u.Awaits other) (now : Time)
    (callee : Option κ) :
    ∃ stage' : Stage, stage'.mine c = rest ++ sent ∧ stage'.Parser c conn'.parser ∧
      before.Tells conn' stage'.verdicts ∧
      stage'.Book c client (history ++ [(now, .timedOut { client, message := request } callee)]) u := by
  cases stage with
  | finished verdict => cases mine
  | reading todo response losses =>
      obtain ⟨reading, known, first⟩ := parser
      obtain ⟨earlier, part, again, retried⟩ := book
      have active := Option.some.inj (undisturbed.symm.trans reading.active)
      subst active
      cases todo with
      | cons r todo =>
          have head : r.part 0 = c.last.part response.length := (List.cons.inj mine).1
          exact absurd head (ReadRange.part_ne (c.earlier_other (known r List.mem_cons_self)) _ _)
      | nil =>
          cases mine
          have split {other : EmsMessage}
              (lost : Lost (history ++ [(now, .timedOut { client, message := c.last.part response.length }
                callee)]) { client, message := other }) :
              Lost history { client, message := other } ∨ other = c.last.part response.length := by
            refine (EmsCommandSender.Lost.append.mp lost).imp_right ?_
            rintro ⟨last, member, callee, same⟩
            cases List.mem_singleton.mp member
            cases same
            rfl
          rcases Nat.lt_or_eq_of_le reading.few with few | last
          · obtain ⟨rfl, next, terminals⟩ := CommandConnection.timeout_again reading few stepped
            refine ⟨.reading [] response (losses + 1), rfl,
              ⟨next, nofun, fun some_todo => absurd rfl some_todo⟩,
              told.trans (.of_eq terminals), earlier_append earlier _,
              fun address bound => (part address bound).append _, fun _ => ?_, fun other lost => ?_⟩
            · exact EmsCommandSender.Lost.append.mpr (.inr ⟨_, List.mem_singleton_self _, callee, rfl⟩)
            · rcases split lost with old | rfl
              · exact (retried other old).imp (fun before => before.append _) fun ⟨same, _⟩ => ⟨same, free _⟩
              · exact .inr ⟨rfl, free _⟩
          · obtain ⟨rfl, idle, terminals⟩ := CommandConnection.timeout_last reading last stepped
            refine ⟨.finished "ERRTIMEOUT", rfl, idle, told.append terminals fun line member _ => member,
              fun ok => absurd ok (by decide), fun _ other lost => ?_⟩
            have old : Lost history { client, message := other } := by
              rcases split lost with old | rfl
              · exact old
              · exact again (by omega)
            rcases retried other old with before | ⟨rfl, idle⟩
            · exact before.append _
            · exact absurd waits idle

end Steps

end Refresh

namespace System

variable [DecidableEq κ]

/-- How the bus and the clients go on: a telegram arrives while the answer to one is waited for, and
    answers it if it is one of the client, or nobody is served; and the client sends no other line
    once its command is done. -/
def Plays (client : κ) (s : System κ) : Event κ → Prop
  | .telegram _ message =>
      (s.sender.currentClient.isSome = true → s.sender.responseTimeout.wait.isSome = true) ∧
        ∀ waiting ∈ s.sender.responseTimeout.wait, waiting.2.request.client = client →
          waiting.2.request.message.Answers message
  | .request other _ => other = client →
      ∀ conn ∈ s.connections client, conn.parser.activeRequest.isSome = true
  | _ => True

instance (client : κ) (s : System κ) (e : Event κ) : Decidable (s.Plays client e) :=
  match e with
  | .telegram _ _ => inferInstanceAs (Decidable (_ ∧ _))
  | .request _ _ => inferInstanceAs (Decidable (_ → _))
  | .connect .. | .disconnect _ | .segment .. | .testModeExpired .. | .testModeAborted ..
  | .responseExpired _ | .responseAborted | .sendExpired _ | .sendAborted _ =>
      inferInstanceAs (Decidable True)

/-- The steps that do not disturb the reads of the client. A telegram for it holds all that was asked
    for, or some of what the last read has asked for; what is lost for it is the last read; no
    acknowledgement is faked, and the client's test mode is not refreshed. -/
def Undisturbed (client : κ) (last : ReadRange) (s : System κ) : Event κ → Prop
  | .telegram _ message =>
      ∀ waiting ∈ s.sender.responseTimeout.wait, waiting.2.request.client = client →
        message.data.length = waiting.2.request.message.asked ∨
          message.data ≠ [] ∧ ∀ conn ∈ s.connections client,
            conn.parser.activeRequest = some waiting.2.request.message ∧
              last.Unbroken (conn.parser.requestResponse ++ message.data)
  | .responseExpired _ =>
      ∀ waiting ∈ s.sender.responseTimeout.wait, waiting.2.fakeAnswer = false ∧
        (waiting.2.request.client = client → ∀ conn ∈ s.connections client,
          conn.parser.activeRequest = some waiting.2.request.message)
  | .testModeExpired other _ => other ≠ client
  | .testModeAborted other _ => other = client → ∀ conn ∈ s.connections client,
      conn.parser.testModeRepeater.aborted.head? ≠ some .start
  | _ => True

instance (client : κ) (last : ReadRange) (s : System κ) (e : Event κ) :
    Decidable (s.Undisturbed client last e) :=
  match e with
  | .telegram .. => inferInstanceAs (Decidable (∀ waiting ∈ s.sender.responseTimeout.wait, _))
  | .responseExpired _ => inferInstanceAs (Decidable (∀ waiting ∈ s.sender.responseTimeout.wait, _))
  | .testModeExpired _ _ => inferInstanceAs (Decidable (_ ≠ _))
  | .testModeAborted _ _ => inferInstanceAs (Decidable (_ → _))
  | .connect .. | .disconnect _ | .segment .. | .request .. | .responseAborted
  | .sendExpired _ | .sendAborted _ => inferInstanceAs (Decidable True)

/-- What has happened since `start`. -/
def since (start s : System κ) : List (Time × Action κ) :=
  s.sender.history.drop start.sender.history.length

/-- `OK` means that the whole of every range was received, and what was lost was transmitted again
    before `ERRTIMEOUT`. -/
structure Reported (c : Refresh) (client : κ) (start s : System κ) : Prop where
  whole : "OK" ∈ (s.terminals client).drop (start.terminals client).length →
    ∀ r ∈ c.ranges, r.Whole (start.since s) client
  retried : "ERRTIMEOUT" ∈ (s.terminals client).drop (start.terminals client).length →
    ∀ message, Lost (start.since s) { client, message } → Retried (start.since s) { client, message }

/-- The invariant, with what has happened since `past`. -/
structure RefreshInv (c : Refresh) (client : κ) (before : CommandConnection)
    (past : List (Time × Action κ)) (stage : Refresh.Stage) (history : List (Time × Action κ))
    (s : System κ) : Prop where
  queue : ∃ queue, s.sender.Fifo queue ∧
    queue.filter (·.client = client) = requests client (stage.mine c)
  connection : ∃ conn, s.connections client = some conn ∧ stage.Parser c conn.parser ∧
    before.Tells conn stage.verdicts
  known : s.sender.history = past ++ history
  book : stage.Book c client history s.sender

/-- The command is under way, or it is done. -/
def Refreshing (c : Refresh) (client : κ) (before : CommandConnection) (past : List (Time × Action κ))
    (s : System κ) : Prop :=
  ∃ stage history, RefreshInv c client before past stage history s

variable {c : Refresh} {client : κ} {before : CommandConnection} {past history : List (Time × Action κ)}
  {stage : Refresh.Stage} {s t : System κ} {u : EmsCommandSender κ}

omit [DecidableEq κ] in
theorem requests_append (client : κ) (messages more : List EmsMessage) :
    requests client (messages ++ more) = requests client messages ++ requests client more :=
  List.map_append

/-- The telegrams of a client among those of another. -/
theorem filter_requests {other : κ} (messages : List EmsMessage) :
    (requests other messages).filter (·.client = client) =
      if other = client then requests client messages else [] := by
  by_cases same : other = client
  · subst same
    rw [if_pos rfl, List.filter_eq_self]
    intro request member
    obtain ⟨message, -, rfl⟩ := List.mem_map.mp member
    simp
  · rw [if_neg same, List.filter_eq_nil_iff]
    intro request member
    obtain ⟨message, -, rfl⟩ := List.mem_map.mp member
    simpa using same

/-- What is transmitted at the end of a step belongs to the history. -/
theorem refreshing_of_transmits {queue : List (Request κ)} (fifo : t.sender.Fifo queue)
    (mine : queue.filter (·.client = client) = requests client (stage.mine c))
    (connection : ∃ conn, t.connections client = some conn ∧ stage.Parser c conn.parser ∧
      before.Tells conn stage.verdicts)
    (known : u.history = past ++ history) (book : stage.Book c client history u)
    (transmits : Transmits u t.sender) : Refreshing c client before past t := by
  obtain ⟨more, added, transmitted, awaited⟩ := transmits
  refine ⟨stage, history ++ more, ⟨queue, fifo, mine⟩, connection, ?_, book.transmits transmitted awaited⟩
  rw [added, known, List.append_assoc]

/-- A step of a connection by itself, in which the client enqueues nothing and its request stays as
    it is. -/
theorem connectionStep_refreshing (inv : RefreshInv c client before past stage history s) {now : Time}
    {other : κ} {e : CommandConnection.Event}
    (own : other = client → ∀ conn conn' sent, s.connections client = some conn →
      stage.Parser c conn.parser → conn.step e = some (conn', sent) →
      sent = [] ∧ stage.Parser c conn'.parser ∧ conn.Tells conn' [])
    (next : s.connectionStep now other e = some t) : Refreshing c client before past t := by
  obtain ⟨⟨queue, fifo, mine⟩, ⟨conn, present, parser, told⟩, known, book⟩ := inv
  obtain ⟨conn₁, conn₂, sent, present', stepped, rfl⟩ := connectionStep_cases next
  obtain ⟨fifo', transmits⟩ := EmsCommandSender.sendAll_fifo fifo now other sent
  by_cases same : other = client
  · subst same
    obtain ⟨rfl, parser', quiet⟩ := own rfl conn₁ conn₂ sent present' (by
      cases present.symm.trans present'
      exact parser) stepped
    cases present.symm.trans present'
    exact refreshing_of_transmits (t := (s.setConnection other conn₂).setSender s.sender) fifo mine
      ⟨conn₂, setConnection_self s other conn₂, parser', told.trans quiet⟩ known book transmits
  · refine refreshing_of_transmits fifo' ?_ ⟨conn, ?_, parser, told⟩ known book transmits
    · rw [List.filter_append, mine, filter_requests, if_neg same, List.append_nil]
    · exact (setConnection_other s (Ne.symm same) conn₂).trans present

/-- The first telegram of a client is its first telegram in the queue. -/
theorem mine_cons {mine : List EmsMessage} {request : Request κ} {rest : List (Request κ)}
    (same : request.client = client)
    (split : (request :: rest).filter (·.client = client) = requests client mine) :
    ∃ others, mine = request.message :: others ∧
      rest.filter (·.client = client) = requests client others := by
  rw [List.filter_cons_of_pos (by simpa using same)] at split
  cases mine with
  | nil => cases split
  | cons message others =>
      obtain ⟨head, tail⟩ := List.cons.inj split
      rw [head]
      exact ⟨others, rfl, tail⟩

/-- A telegram. -/
theorem telegram_refreshing (inv : RefreshInv c client before past stage history s) {now : Time}
    {message : EmsMessage} (plays : s.Plays client (.telegram now message))
    (undisturbed : s.Undisturbed client c.last (.telegram now message))
    (next : s.step (.telegram now message) = some t) : Refreshing c client before past t := by
  obtain ⟨⟨queue, fifo, mine⟩, ⟨conn, present, parser, told⟩, known, book⟩ := inv
  obtain ⟨w, reaction, called, rfl⟩ := telegram_cases next
  let entry : Time × Action κ := (now, .received message s.sender.currentClient)
  let r := s.sender.record now (.received message s.sender.currentClient)
  have recorded : r.history = past ++ (history ++ [entry]) := by
    show s.sender.history ++ [entry] = _
    rw [known, List.append_assoc]
  have fifo_r : r.Fifo queue := fifo.record now _
  rcases callback_cases called with ⟨idle, rfl, rfl⟩ |
    ⟨current, conn₁, conn₂, serving, present₁, stepped, rfl⟩
  · cases fifo with
    | serving served => exact nomatch idle.symm.trans served
    | idle idle =>
        obtain ⟨after, transmits⟩ := EmsCommandSender.telegram_unasked (s := r)
          ⟨idle.client, idle.queue, idle.response, idle.send, idle.noAborted⟩ now message
        exact refreshing_of_transmits (.idle after) mine ⟨conn, present, parser, told⟩ recorded
          (book.entry nofun fun _ waits => waits) transmits
  · let u : EmsCommandSender κ := { r with responseTimeout := r.responseTimeout.cancel }
    have free : ∀ other, ¬ u.Awaits other := fun _ => EmsCommandSender.not_awaits rfl
    obtain ⟨⟨expiry, wait⟩, running⟩ := Option.isSome_iff_exists.mp (plays.1 (by rw [serving]; rfl))
    obtain ⟨-, rest, rfl, -, first⟩ := fifo.awaited running
    obtain ⟨after, transmits⟩ := EmsCommandSender.telegram_fifo fifo_r running now message reaction
    cases first.symm.trans serving
    by_cases same : wait.request.client = client
    · obtain ⟨others, front, behind⟩ := mine_cons same mine
      have request : wait.request = { client, message := wait.request.message } := by rw [← same]
      subst same
      cases present.symm.trans present₁
      have waits : s.sender.Awaits { client := wait.request.client, message := wait.request.message } :=
        ⟨_, running, rfl⟩
      have allowed : message.data.length = wait.request.message.asked ∨ message.data ≠ [] ∧
          conn.parser.activeRequest = some wait.request.message ∧
          c.last.Unbroken (conn.parser.requestResponse ++ message.data) := by
        rcases undisturbed _ running rfl with complete | ⟨some_data, last⟩
        · exact .inl complete
        · exact .inr ⟨some_data, last conn present⟩
      obtain ⟨stage', mine', parser', told', book'⟩ := Refresh.answered_stage front parser told
        (plays.2 _ running rfl) allowed stepped waits book free now
      rw [← serving] at book'
      refine refreshing_of_transmits (u := u) after ?_
        ⟨conn₂, setConnection_self s _ conn₂, parser', told'⟩ recorded book' transmits
      rw [List.filter_append, filter_requests, if_pos rfl, mine', requests_append]
      exact congrArg (· ++ _) behind
    · refine refreshing_of_transmits (u := u) after ?_ ⟨conn, ?_, parser, told⟩ recorded
        (book.entry nofun fun request waits => absurd waits (free request)) transmits
      · rw [List.filter_append, filter_requests, if_neg same, List.append_nil]
        rwa [List.filter_cons_of_neg (by simpa using same)] at mine
      · exact (setConnection_other s (Ne.symm same) conn₂).trans present

/-- A timeout. -/
theorem responseExpired_refreshing (inv : RefreshInv c client before past stage history s) {now : Time}
    (undisturbed : s.Undisturbed client c.last (.responseExpired now))
    (next : s.step (.responseExpired now) = some t) : Refreshing c client before past t := by
  obtain ⟨⟨queue, fifo, mine⟩, ⟨conn, present, parser, told⟩, known, book⟩ := inv
  obtain ⟨expiry, wait, w, reaction, running, called, rfl⟩ := responseExpired_cases next
  obtain ⟨real, own⟩ := undisturbed _ running
  rw [responseEvent_real real] at called
  obtain ⟨-, rest, rfl, -, first⟩ := fifo.awaited running
  obtain ⟨after, transmits⟩ := EmsCommandSender.timeout_fifo fifo running real now reaction
  let entry : Time × Action κ := (now, .timedOut wait.request s.sender.currentClient)
  let r := EmsCommandSender.record { s.sender with responseTimeout := s.sender.responseTimeout.expired } now
    (.timedOut wait.request s.sender.currentClient)
  have recorded : r.history = past ++ (history ++ [entry]) := by
    show s.sender.history ++ [entry] = _
    rw [known, List.append_assoc]
  have free : ∀ other, ¬ r.Awaits other := fun _ => EmsCommandSender.not_awaits rfl
  rcases callback_cases called with ⟨idle, -⟩ | ⟨current, conn₁, conn₂, serving, present₁, stepped, rfl⟩
  · exact nomatch idle.symm.trans first
  · cases first.symm.trans serving
    by_cases same : wait.request.client = client
    · obtain ⟨others, front, behind⟩ := mine_cons same mine
      subst same
      cases present.symm.trans present₁
      have waits : s.sender.Awaits { client := wait.request.client, message := wait.request.message } :=
        ⟨_, running, rfl⟩
      obtain ⟨stage', mine', parser', told', book'⟩ := Refresh.lost_stage front parser told
        (own rfl conn present) stepped waits book free now s.sender.currentClient
      refine refreshing_of_transmits after ?_ ⟨conn₂, setConnection_self s _ conn₂, parser', told'⟩
        recorded book' transmits
      rw [List.filter_append, filter_requests, if_pos rfl, mine', requests_append]
      exact congrArg (· ++ _) behind
    · have other : ∀ request callee, entry.2 = .timedOut request callee → request.client ≠ client := by
        rintro request callee ⟨⟩
        exact same
      refine refreshing_of_transmits after ?_ ⟨conn, ?_, parser, told⟩ recorded
        (book.entry other fun request waits => absurd waits (free request)) transmits
      · rw [List.filter_append, filter_requests, if_neg same, List.append_nil]
        rwa [List.filter_cons_of_neg (by simpa using same)] at mine
      · exact (setConnection_other s (Ne.symm same) conn₂).trans present

/-- A step keeps the invariant. -/
theorem step_refreshing {e : Event κ} (refreshing : Refreshing c client before past s)
    (plays : s.Plays client e) (undisturbed : s.Undisturbed client c.last e)
    (next : s.step e = some t) : Refreshing c client before past t := by
  obtain ⟨stage, history, inv⟩ := refreshing
  have whole := inv
  obtain ⟨⟨queue, fifo, mine⟩, ⟨conn, present, parser, told⟩, known, book⟩ := inv
  cases e with
  | connect other new =>
      simp only [step] at next
      split at next
      · rename_i absent
        cases next
        have different : client ≠ other := by
          rintro rfl
          rw [present] at absent
          cases absent
        exact ⟨stage, history, ⟨queue, fifo, mine⟩,
          ⟨conn, (setConnection_other s different _).trans present, parser, told⟩, known, book⟩
      · cases next
  | disconnect other =>
      simp only [step] at next
      split at next
      · cases next
        exact ⟨stage, history, ⟨queue, fifo, mine⟩, ⟨conn, present, parser, told⟩, known, book⟩
      · cases next
  | segment other chars =>
      simp only [step] at next
      split at next
      · refine connectionStep_refreshing whole (fun _ conn conn' sent _ parser stepped => ?_) next
        simp only [CommandConnection.step] at stepped
        split at stepped
        · cases stepped
        · cases stepped
          exact ⟨rfl, parser, .of_eq rfl⟩
      · cases next
  | request other env =>
      simp only [step] at next
      split at next
      · refine connectionStep_refreshing whole (fun own conn conn' sent present parser stepped => ?_) next
        cases stage with
        | reading todo response losses =>
            obtain ⟨reading, rest⟩ := parser
            obtain ⟨rfl, same, quiet⟩ := CommandConnection.request_busy reading stepped
            refine ⟨rfl, ⟨?_, rest⟩, quiet⟩
            rw [same]
            exact reading
        | finished verdict =>
            have busy := plays own conn present
            rw [show conn.parser.activeRequest = none from parser] at busy
            cases busy
      · cases next
  | testModeExpired other now =>
      exact connectionStep_refreshing whole (fun own => absurd own undisturbed) next
  | testModeAborted other now =>
      refine connectionStep_refreshing whole (fun own conn conn' sent present parser stepped => ?_) next
      obtain ⟨wait, first, performed⟩ := Option.map_eq_some_iff.mp stepped
      cases wait with
      | start => exact absurd first (undisturbed own conn present)
      | again =>
          cases performed
          have silent : conn.parser.spoken = [] := by
            rw [ApiCommandParser.spoken, conn.quiet]
            rfl
          refine ⟨?_, parser.withRepeater _ _, .of_eq ?_⟩
          · show conn.parser.effects.filterMap Effect.message? = []
            rw [conn.quiet]
            rfl
          · show (conn.perform { conn.parser with
              testModeRepeater := conn.parser.testModeRepeater.dropAborted }).1.terminals = _
            rw [CommandConnection.terminals_perform]
            exact (congrArg _ silent).trans (List.append_nil _)
  | telegram now message => exact telegram_refreshing whole plays undisturbed next
  | responseExpired now => exact responseExpired_refreshing whole undisturbed next
  | responseAborted =>
      obtain ⟨sender, stepped, rfl⟩ := senderStep_cases next
      obtain ⟨wait, -, rfl⟩ := Option.map_eq_some_iff.mp stepped
      obtain ⟨after, transmits⟩ := EmsCommandSender.responseAborted_fifo fifo
      exact refreshing_of_transmits after mine ⟨conn, present, parser, told⟩ known book transmits
  | sendExpired now =>
      obtain ⟨sender, stepped, rfl⟩ := senderStep_cases next
      obtain ⟨⟨expiry, request⟩, running, rfl⟩ := Option.map_eq_some_iff.mp stepped
      obtain ⟨after, transmits⟩ := EmsCommandSender.sendExpired_fifo fifo running now
      exact refreshing_of_transmits after mine ⟨conn, present, parser, told⟩ known book transmits
  | sendAborted now =>
      obtain ⟨sender, stepped, -⟩ := senderStep_cases next
      obtain ⟨request, aborted, -⟩ := Option.map_eq_some_iff.mp stepped
      rw [fifo.noAborted] at aborted
      cases aborted

/-- The command is accepted, and its reads are enqueued behind those of the others. -/
theorem request_refreshing {start begun : System κ} {queue : List (Request κ)} {conn : CommandConnection}
    {env : Env} (fifo : start.sender.Fifo queue) (others : ∀ request ∈ queue, request.client ≠ client)
    (present : start.connections client = some conn) (idle : conn.parser.activeRequest = none)
    (typed : c.Typed { parser := conn.parser, request := .ofChars conn.request })
    (begins : start.step (.request client env) = some begun) :
    Refreshing c client conn start.sender.history begun := by
  obtain ⟨conn', handled, reading, replies⟩ :=
    CommandConnection.handleRequest_refresh typed idle env
  simp only [step] at begins
  split at begins
  · obtain ⟨conn₁, conn₂, sent, present', stepped, rfl⟩ := connectionStep_cases begins
    cases present.symm.trans present'
    simp only [CommandConnection.step, handled] at stepped
    split at stepped
    · cases stepped
      obtain ⟨after, transmits⟩ := EmsCommandSender.sendAll_fifo fifo env.now client
        (c.ranges.map (·.part 0))
      have quiet : conn.Tells conn' [] := .of_eq (congrArg (·.flatMap terminalLines) replies)
      have parser : (Refresh.Stage.reading c.earlier [] 0).Parser c conn'.parser :=
        ⟨reading, fun r member => member, fun _ => rfl⟩
      have book : (Refresh.Stage.reading c.earlier [] 0).Book c client [] start.sender :=
        ⟨fun r member => .inl member, fun address missing => absurd missing (Nat.not_lt_zero address),
          fun some_loss => absurd some_loss (by decide), by
            rintro message ⟨entry, member, -⟩
            cases member⟩
      refine refreshing_of_transmits after ?_
        ⟨conn', setConnection_self start client conn', parser, quiet⟩ (List.append_nil _).symm book transmits
      have none : queue.filter (·.client = client) = [] := by
        rw [List.filter_eq_nil_iff]
        intro request member
        simpa using others request member
      rw [List.filter_append, none, filter_requests, if_pos rfl, List.nil_append]
      simp [Refresh.Stage.mine, Refresh.ranges]
    · cases stepped
  · cases begins

/-- `requestdata` is sent while the scheduler handles the telegrams of other clients, and in what
    follows the reads of the client are not disturbed. At every moment, if `OK` was sent then the
    whole of every range was received, and if `ERRTIMEOUT` was sent then all that was lost had been
    transmitted again. -/
theorem requestdata_reported {start begun : System κ} {queue : List (Request κ)} {conn : CommandConnection}
    {env : Env} (fifo : start.sender.Fifo queue) (others : ∀ request ∈ queue, request.client ≠ client)
    (present : start.connections client = some conn) (idle : conn.parser.activeRequest = none)
    (typed : c.Typed { parser := conn.parser, request := .ofChars conn.request })
    (begins : start.step (.request client env) = some begun) {es : List (Event κ)}
    (run : (system κ).Run (fun s e => s.Plays client e ∧ s.Undisturbed client c.last e) begun es s) :
    Reported c client start s := by
  have first := request_refreshing fifo others present idle typed begins
  obtain ⟨stage, history, -, ⟨conn', present', -, told⟩, known, book⟩ := run.invariant first
    (fun _ _ _ refreshing ok next => step_refreshing refreshing ok.1 ok.2 next)
  obtain ⟨more, terminals, verdicts⟩ := told
  have passed : start.since s = history := by
    unfold since
    rw [known, List.drop_left]
  have lines : (s.terminals client).drop (start.terminals client).length = more := by
    unfold System.terminals
    rw [present, present']
    exact (congrArg (List.drop _) terminals).trans List.drop_left
  constructor
  · rw [lines, passed]
    intro ok
    have sent := verdicts _ ok (.inl rfl)
    cases stage with
    | reading => cases sent
    | finished verdict => exact book.1 (List.mem_singleton.mp sent).symm
  · rw [lines, passed]
    intro late
    have sent := verdicts _ late (.inr rfl)
    cases stage with
    | reading => cases sent
    | finished verdict => exact book.2 (List.mem_singleton.mp sent).symm

/-- A client has asked for the data of the hot water. -/
def requestdataStart : System Nat :=
  { init with
    connections := fun _ => some { CommandConnection.new default with request := "ww requestdata\n".toList }
    registered := fun _ => true }

/-- The answer to the second read. -/
def secondAnswer : EmsMessage :=
  { valueHandler := true, data := List.replicate 21 0, source := EmsProto.addressUI800, dest := 0x0b
    type := 0xff, extType := 0x01f5, offset := 0 }

/-- The first read is answered, the second one lost and answered then. -/
theorem requestdata_reported_retried :
    ∃ begun es s, requestdataStart.step (.request 0 ⟨none, fun s => (none, s), 0⟩) = some begun ∧
      (system Nat).Run (fun s e => s.Plays 0 e ∧ s.Undisturbed 0 Refresh.ww.last e) begun es s ∧
      es.length = 3 ∧ Reported .ww 0 requestdataStart s := by
  let env : Env := ⟨none, fun s => (none, s), 0⟩
  let first : EmsMessage :=
    { valueHandler := true, data := List.replicate 25 0, source := EmsProto.addressUBA2, dest := 0x0b
      type := 0xea, extType := 0, offset := 0 }
  let events : List (Event Nat) :=
    [.telegram 50000 first, .responseExpired 1050000, .telegram 1100000 secondAnswer]
  let s₀ := (requestdataStart.step (.request 0 env)).get (by decide +kernel)
  let s₁ := (s₀.step (.telegram 50000 first)).get (by decide +kernel)
  let s₂ := (s₁.step (.responseExpired 1050000)).get (by decide +kernel)
  let s₃ := (s₂.step (.telegram 1100000 secondAnswer)).get (by decide +kernel)
  have run : (system Nat).Run (fun s e => s.Plays 0 e ∧ s.Undisturbed 0 Refresh.ww.last e) s₀ events s₃ :=
    .snoc (.snoc (.snoc .nil (by decide +kernel) (Option.some_get _).symm) (by decide +kernel)
      (Option.some_get _).symm) (by decide +kernel) (Option.some_get _).symm
  have idle : requestdataStart.sender.Fifo [] := .idle ⟨rfl, rfl, rfl, rfl, rfl⟩
  exact ⟨s₀, events, s₃, (Option.some_get _).symm, run, rfl,
    requestdata_reported (c := .ww) idle nofun rfl rfl ⟨_, _, rfl, rfl⟩
      (Option.some_get _).symm run⟩

omit [DecidableEq κ] in
theorem ok_sent {conn : CommandConnection} (present : s.connections client = some conn)
    (written : "OK" ∈ conn.replies) : "OK" ∈ s.terminals client := by
  unfold System.terminals
  rw [present]
  refine List.mem_flatMap.mpr ⟨"OK", written, ?_⟩
  rw [ApiCommandParser.ok_terminal]
  exact List.mem_singleton_self _

/-- The first read is lost: the second one is transmitted twice, and `OK` is sent for it. -/
theorem lost_read_unnoticed :
    ¬ ∀ (begun s : System Nat) (es : List (Event Nat)),
      requestdataStart.step (.request 0 ⟨none, fun s => (none, s), 0⟩) = some begun →
      (system Nat).Run (fun s e => s.Plays 0 e) begun es s → Reported .ww 0 requestdataStart s := by
  intro reported
  let env : Env := ⟨none, fun s => (none, s), 0⟩
  let s₀ := (requestdataStart.step (.request 0 env)).get (by decide +kernel)
  let s₁ := (s₀.step (.responseExpired 1000000)).get (by decide +kernel)
  let s₂ := (s₁.step (.telegram 1050000 secondAnswer)).get (by decide +kernel)
  let events : List (Event Nat) := [.responseExpired 1000000, .telegram 1050000 secondAnswer]
  have run : (system Nat).Run (fun s e => s.Plays 0 e) s₀ events s₂ :=
    .snoc (.snoc .nil trivial (Option.some_get _).symm) (by decide +kernel) (Option.some_get _).symm
  obtain ⟨whole, -⟩ := reported s₀ s₂ events (Option.some_get _).symm run
  let conn := (s₂.connections 0).get (by decide +kernel)
  have written : conn.replies.getLast? = some "OK" := by decide +kernel
  have none : requestdataStart.terminals 0 = [] := rfl
  have ok : "OK" ∈ (s₂.terminals 0).drop (requestdataStart.terminals 0).length := by
    rw [none, List.length_nil, List.drop_zero]
    exact ok_sent (Option.some_get _).symm (List.mem_of_getLast? written)
  obtain ⟨entry, member, message, got, received, holds, -⟩ :=
    whole ok _ List.mem_cons_self 0 (by decide)
  have types : ∀ entry ∈ requestdataStart.since s₂, (match entry.2 with
      | .received message _ => decide (message.getType = 0x01f5)
      | _ => true) = true := by decide +kernel
  have type := types entry member
  rw [received] at type
  have other : message.getType = 0xea := holds.type
  simp [other] at type

end System

end EmsCollector
