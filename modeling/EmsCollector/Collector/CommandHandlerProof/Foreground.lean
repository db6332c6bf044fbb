import EmsCollector.Collector.ApiCommandParserProof.ReadCommands
import EmsCollector.Collector.CommandHandlerProof.Connection
import Mathlib

/-!
# A command on its own

What a command brings when nothing but the device has a part in it: its reads are handled one after
the other, each with the answer of the device or without one, and the client hears what the parser
prints. There is one such course of each command, so any two moments of it can be compared.
-/

namespace EmsCollector

/-- What the devices answer to a read when these reads of the command have been handled; nothing if
    the read is lost. -/
abbrev Device : Type := List EmsMessage → EmsMessage → Option EmsMessage

/-- What the client has heard of a command, up to the terminal line, and the reads handled for it. -/
structure Dialogue where
  command : ReadCommand
  reads : List EmsMessage
  lines : List String
  deriving DecidableEq

namespace Dialogue

/-- The terminal line has been heard. -/
def Ended (d : Dialogue) : Prop := ∃ line ∈ d.lines, terminalLines line ≠ []

instance (d : Dialogue) : Decidable d.Ended := inferInstanceAs (Decidable (∃ line ∈ d.lines, _))

/-- More is heard, unless the terminal line was. -/
def hear (d : Dialogue) (reads : List EmsMessage) (lines : List String) : Dialogue :=
  if d.Ended then d else { d with reads := d.reads ++ reads, lines := d.lines ++ lines }

variable {d : Dialogue}

theorem hear_ended (ended : d.Ended) (reads : List EmsMessage) (lines : List String) :
    d.hear reads lines = d := if_pos ended

@[simp] theorem hear_nil (d : Dialogue) : d.hear [] [] = d := by
  unfold hear
  simp

@[simp] theorem hear_command (d : Dialogue) (reads : List EmsMessage) (lines : List String) :
    (d.hear reads lines).command = d.command := by
  unfold hear
  split
  · rfl
  · rfl

/-- What has been heard stays. -/
theorem lines_hear (d : Dialogue) (reads : List EmsMessage) (lines : List String) :
    d.lines <+: (d.hear reads lines).lines := by
  unfold hear
  split
  · exact List.prefix_rfl
  · exact List.prefix_append _ _

end Dialogue

/-- A command on its own: the parser, its telegrams in the order of the queue, and what was heard. -/
structure Foreground where
  parser : ApiCommandParser
  queue : List EmsMessage
  dialogue : Dialogue

namespace Foreground

open StateTransition (Reaches)

/-- An idle parser has got the command. -/
def begin (c : ReadCommand) : Foreground :=
  let p := c.start (default : { p : ApiCommandParser // p.Fresh }).1
  { parser := { p with effects := [] }, queue := p.effects.filterMap Effect.message?
    dialogue := { command := c, reads := [], lines := p.effects.filterMap Effect.line? } }

/-- The first read has been handled: what the parser has called is carried out. -/
def perform (f : Foreground) (read : EmsMessage) (p : ApiCommandParser) (lines : List String) :
    Foreground :=
  { parser := { p with effects := [] }, queue := f.queue.tail ++ p.effects.filterMap Effect.message?
    dialogue := f.dialogue.hear [read] (p.effects.filterMap Effect.line? ++ lines) }

/-- The first read in the queue is handled. -/
def advance (device : Device) (f : Foreground) : Option Foreground :=
  f.queue.head?.bind fun read =>
    match device f.dialogue.reads read with
    | some message =>
        match f.parser.onIncomingMessage message with
        | .ok (result, p) => some (f.perform read p (CommandConnection.incomingReply result))
        | .error _ => none
    | none =>
        let (result, p) := f.parser.onTimeout
        some (f.perform read p (if result then ["ERRTIMEOUT"] else []))

/-- Nothing more will be heard. -/
def Final (f : Foreground) : Prop := f.dialogue.Ended ∨ f.queue = []

variable {device : Device} {f g h : Foreground}

/-- What an advance is. -/
theorem advance_cases (next : f.advance device = some g) :
    ∃ read p lines, f.queue.head? = some read ∧ g = f.perform read p lines := by
  obtain ⟨read, first, next⟩ := Option.bind_eq_some_iff.mp next
  split at next
  · split at next
    · cases next
      exact ⟨read, _, _, first, rfl⟩
    · cases next
  · cases next
    exact ⟨read, _, _, first, rfl⟩

theorem advance_lines (next : f.advance device = some g) : f.dialogue.lines <+: g.dialogue.lines := by
  obtain ⟨read, p, lines, -, rfl⟩ := advance_cases next
  exact Dialogue.lines_hear ..

theorem advance_ended (ended : f.dialogue.Ended) (next : f.advance device = some g) :
    g.dialogue = f.dialogue := by
  obtain ⟨read, p, lines, -, rfl⟩ := advance_cases next
  exact Dialogue.hear_ended ended ..

/-- What has been heard stays. -/
theorem reaches_lines (reaches : Reaches (advance device) f g) : f.dialogue.lines <+: g.dialogue.lines := by
  induction reaches with
  | refl => exact List.prefix_rfl
  | tail _ next ih => exact ih.trans (advance_lines next)

/-- After the end nothing changes for the client. -/
theorem reaches_final (reaches : Reaches (advance device) f g) (final : f.Final) :
    g.dialogue = f.dialogue := by
  rcases final with ended | empty
  · induction reaches with
    | refl => rfl
    | tail _ next ih =>
        rw [← ih] at ended
        exact (advance_ended ended next).trans ih
  · induction reaches using Relation.ReflTransGen.head_induction_on with
    | refl => rfl
    | head next =>
        obtain ⟨read, p, lines, first, -⟩ := advance_cases next
        rw [empty] at first
        cases first

/-- The dialogue is what the client has heard at some moment of the course of its command. -/
def Told (device : Device) (d : Dialogue) : Prop :=
  ∃ f, Reaches (advance device) (begin d.command) f ∧ f.dialogue = d

/-- The dialogue is all that the client will ever hear of its command. -/
def Settled (device : Device) (d : Dialogue) : Prop :=
  ∃ f, Reaches (advance device) (begin d.command) f ∧ f.dialogue = d ∧ f.Final

variable {d d' : Dialogue}

/-- Two clients with the same command hear the same lines, one of them more than the other. -/
theorem told_comparable (told : Told device d) (told' : Told device d') (same : d.command = d'.command) :
    d.lines <+: d'.lines ∨ d'.lines <+: d.lines := by
  obtain ⟨f, reaches, rfl⟩ := told
  obtain ⟨f', reaches', rfl⟩ := told'
  rw [← same] at reaches'
  exact (StateTransition.reaches_total reaches reaches').imp reaches_lines reaches_lines

/-- All that is heard of a command is determined by it. -/
theorem settled_unique (settled : Settled device d) (settled' : Settled device d')
    (same : d.command = d'.command) : d = d' := by
  obtain ⟨f, reaches, rfl, final⟩ := settled
  obtain ⟨f', reaches', rfl, final'⟩ := settled'
  rw [← same] at reaches'
  rcases StateTransition.reaches_total reaches reaches' with later | earlier
  · exact (reaches_final later final).symm
  · exact reaches_final earlier final'

/-- All that is heard of several commands is determined by them. -/
theorem settled_lists {ds ds' : List Dialogue} (settled : ∀ d ∈ ds, Settled device d)
    (settled' : ∀ d ∈ ds', Settled device d)
    (same : ds.map Dialogue.command = ds'.map Dialogue.command) : ds = ds' := by
  induction ds generalizing ds' with
  | nil => exact (List.map_eq_nil_iff.mp same.symm).symm
  | cons d rest ih =>
      cases ds' with
      | nil => cases same
      | cons d' rest' =>
          obtain ⟨first, others⟩ := List.cons.inj same
          rw [List.forall_mem_cons] at settled settled'
          rw [settled_unique settled.1 settled'.1 first, ih settled.2 settled'.2 others]

end Foreground

/-- All that a silent parser enqueues is permitted. -/
theorem ApiCommandParser.Acts.sends {telegram : EmsMessage → Prop} {timer : Prop} {p q : ApiCommandParser}
    (acts : Acts telegram timer p q) (quiet : p.effects = []) :
    ∀ message ∈ q.effects.filterMap Effect.message?, telegram message := by
  intro message member
  rcases acts.sent (mem_messages.mp member) with before | permitted
  · rw [quiet] at before
    cases before
  · exact permitted

namespace CommandConnection

/-- The parser of the connection works on the command. -/
structure Serves (f : Foreground) (conn : CommandConnection) : Prop where
  same : conn.parser.SameRequest f.parser
  reads : ∀ request ∈ conn.parser.activeRequest, request.Read

variable {device : Device} {f : Foreground} {conn conn' : CommandConnection} {read : EmsMessage}
  {sent : List EmsMessage}

/-- What the parsers have called is carried out on both sides. -/
theorem perform_serves {q q' : ApiCommandParser} (same : q.SameRequest q')
    (acts : ApiCommandParser.Acts EmsMessage.Read False conn.parser q)
    (reads : ∀ request ∈ conn.parser.activeRequest, request.Read) (read : EmsMessage) (lines : List String) :
    let g := f.perform read q' lines
    let performed := (conn.perform q).1.respond lines
    let sent := q.effects.filterMap Effect.message?
    g.queue = f.queue.tail ++ sent ∧ Serves g performed ∧ (∀ message ∈ sent, message.Read) ∧
      ∃ more, performed.replies = conn.replies ++ more ∧ g.dialogue = f.dialogue.hear [read] more := by
  intro g performed sent
  have effects := same.effects
  refine ⟨?_, ⟨?_, ?_⟩, ?_, q.effects.filterMap Effect.line? ++ lines, List.append_assoc .., ?_⟩
  · show f.queue.tail ++ q'.effects.filterMap Effect.message? = _
    rw [← effects]
  · exact same.withEffects []
  · intro request active
    rcases acts.active active with before | ⟨read, -⟩
    · exact reads request before
    · exact read
  · exact acts.sends conn.quiet
  · show f.dialogue.hear [read] (q'.effects.filterMap Effect.line? ++ lines) = _
    rw [← effects]

/-- The connection gets the command. -/
theorem request_serves {c : ReadCommand} {env : Env}
    (typed : ReadCommand.typed? { parser := conn.parser, request := .ofChars conn.request } = some c)
    (idle : conn.parser.activeRequest = none) (next : conn.step (.request env) = some (conn', sent)) :
    sent = (Foreground.begin c).queue ∧ (sent ≠ [] → conn'.Serves (.begin c)) ∧
      (∀ message ∈ sent, message.Read) ∧
      conn'.replies = conn.replies ++ (Foreground.begin c).dialogue.lines := by
  obtain ⟨t, parsed, started⟩ := ReadCommand.parse_typed typed idle env
  have accepted : conn.parseRequest env = .ok .ok t := by
    unfold parseRequest
    dsimp only
    rw [if_pos (show conn.request.length > 2 from ReadCommand.typed_length typed)]
    exact parsed
  let blank : { p : ApiCommandParser // p.Fresh } := default
  obtain ⟨effects, same⟩ : ReadCommand.Alike t.parser (c.start blank.1) := by
    rw [started]
    exact ReadCommand.start_alike conn.quiet blank.2.effects c
  have acts : ApiCommandParser.Acts EmsMessage.Read False conn.parser t.parser := by
    rw [started]
    exact c.start_acts conn.parser
  simp only [step, handleRequest, accepted] at next
  split at next
  · cases next
    refine ⟨?_, ?_, ?_, ?_⟩
    · show t.parser.effects.filterMap Effect.message? = (c.start blank.1).effects.filterMap Effect.message?
      rw [effects]
    · intro some_sent
      have whole : t.parser.SameRequest (c.start blank.1) := same.resolve_left some_sent
      refine ⟨whole.withEffects [], ?_⟩
      intro request active
      rcases acts.active active with before | ⟨read, -⟩
      · cases idle.symm.trans before
      · exact read
    · exact acts.sends conn.quiet
    · show (conn.replies ++ t.parser.effects.filterMap Effect.line?) ++ [] =
        conn.replies ++ (c.start blank.1).effects.filterMap Effect.line?
      rw [effects, List.append_nil]
  · cases next

/-- The connection gets the answer to the first read. -/
theorem incoming_serves (serves : conn.Serves f) {message : EmsMessage} (first : f.queue.head? = some read)
    (answer : device f.dialogue.reads read = some message)
    (next : conn.step (.incoming message) = some (conn', sent)) :
    ∃ g, f.advance device = some g ∧ g.queue = f.queue.tail ++ sent ∧ conn'.Serves g ∧
      (∀ message ∈ sent, message.Read) ∧
      ∃ more, conn'.replies = conn.replies ++ more ∧ g.dialogue = f.dialogue.hear [read] more := by
  simp only [step, onIncomingMessage] at next
  split at next
  · rename_i result q answered
    cases next
    obtain ⟨q', answered', same⟩ := serves.same.onIncomingMessage answered
    have acts : ApiCommandParser.Acts EmsMessage.Read False conn.parser q :=
      (ApiCommandParser.onIncomingMessage_acts (fun _ _ _ _ _ => EmsMessage.send_read _ _ _ _)
        (fun _ _ _ _ _ _ => EmsMessage.send_read _ _ _ _) answered).1
    refine ⟨f.perform read q' (incomingReply result), ?_,
      perform_serves same acts serves.reads read (incomingReply result)⟩
    unfold Foreground.advance
    rw [first, Option.bind_some, answer]
    simp only [answered']
  · cases next

/-- The timeout of the first read. -/
theorem timeout_serves (serves : conn.Serves f) (first : f.queue.head? = some read)
    (lost : device f.dialogue.reads read = none) (next : conn.step .timeout = some (conn', sent)) :
    ∃ g, f.advance device = some g ∧ g.queue = f.queue.tail ++ sent ∧ conn'.Serves g ∧
      (∀ message ∈ sent, message.Read) ∧
      ∃ more, conn'.replies = conn.replies ++ more ∧ g.dialogue = f.dialogue.hear [read] more := by
  cases next
  obtain ⟨result, same⟩ := serves.same.onTimeout
  have acts : ApiCommandParser.Acts EmsMessage.Read False conn.parser conn.parser.onTimeout.2 :=
    (ApiCommandParser.onTimeout_acts serves.reads).1
  refine ⟨f.perform read f.parser.onTimeout.2 (if conn.parser.onTimeout.1 then ["ERRTIMEOUT"] else []), ?_,
    perform_serves same acts serves.reads read _⟩
  unfold Foreground.advance
  rw [first, Option.bind_some, lost, result]

end CommandConnection

end EmsCollector
