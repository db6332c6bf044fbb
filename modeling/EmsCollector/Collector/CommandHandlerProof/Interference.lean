import EmsCollector.Collector.CommandHandlerProof.Foreground
import EmsCollector.Collector.CommandSchedulerProof.Fifo

/-!
# Test mode and commands

A client sends commands that read, one after the other, while its test mode is refreshed. The
refreshes are told apart from the commands by nothing but the moment: one that comes while a command
is under way takes the command's place in the parser. Where none does, and no command comes before a
refresh is acknowledged, each command brings what it brings on its own, whatever the refreshes are.
-/

namespace EmsCollector

open EmsCommandSender (requests)
open StateTransition (Reaches)

instance {κ : Type} [DecidableEq κ] (s : EmsCommandSender κ) : Decidable s.Idle :=
  decidable_of_iff (s.currentClient = none ∧ s.pending = [] ∧ s.responseTimeout.wait = none ∧
      s.sendTimer.wait = none ∧ s.sendTimer.aborted = [])
    ⟨fun ⟨client, queue, response, send, noAborted⟩ => ⟨client, queue, response, send, noAborted⟩,
      fun ⟨client, queue, response, send, noAborted⟩ => ⟨client, queue, response, send, noAborted⟩⟩

namespace System

variable {κ : Type} [DecidableEq κ]

/-- The lines that were sent to the client. -/
def replies (s : System κ) (client : κ) : List String := ((s.connections client).map (·.replies)).getD []

/-- The read command that the client's line is. -/
def command? (s : System κ) (client : κ) : Event κ → Option ReadCommand
  | .request other _ =>
      if other = client then
        (s.connections client).bind fun conn =>
          ReadCommand.typed? { parser := conn.parser, request := .ofChars conn.request }
      else none
  | _ => none

/-- The telegram that is waited for. -/
def awaited (s : System κ) : Option EmsMessage := s.sender.responseTimeout.wait.map (·.2.request.message)

/-- The telegram that a step ends the wait for. -/
def handled (s : System κ) : Event κ → List EmsMessage
  | .telegram .. | .responseExpired _ => s.awaited.toList
  | _ => []

/-- Nothing is under way for the client. -/
def AtRest (s : System κ) (client : κ) : Prop :=
  s.sender.Idle ∧ ∀ conn ∈ s.connections client, conn.parser.activeRequest = none

instance (s : System κ) (client : κ) : Decidable (s.AtRest client) := inferInstanceAs (Decidable (_ ∧ _))

/-- The system has come as far with the client's command as the command on its own. -/
structure Runs (client : κ) (f : Foreground) (s : System κ) : Prop where
  fifo : s.sender.Fifo (requests client f.queue)
  polling : s.sender.Polling
  connection : ∃ conn, s.connections client = some conn ∧ (f.queue ≠ [] → conn.Serves f)

section Steps

variable {device : Device} {client other : κ} {f : Foreground} {s t : System κ}

omit [DecidableEq κ] in
theorem replies_present {conn : CommandConnection} (present : s.connections client = some conn) :
    s.replies client = conn.replies := by
  unfold replies
  rw [present]
  rfl

omit [DecidableEq κ] in
theorem replies_more {conn conn' : CommandConnection} {more : List String}
    (present : s.connections client = some conn) (after : t.connections client = some conn')
    (replies : conn'.replies = conn.replies ++ more) : t.replies client = s.replies client ++ more := by
  rw [replies_present present, ← replies]
  exact replies_present after

/-- A connection takes a step that is not heard of. -/
theorem connectionStep_runs (runs : s.Runs client f) {now : Time} {e : CommandConnection.Event}
    (unheard : ∀ conn conn' sent, s.connections other = some conn → conn.step e = some (conn', sent) →
      sent = [] ∧ conn'.replies = conn.replies ∧ (conn.Serves f → conn'.Serves f))
    (next : s.connectionStep now other e = some t) : t.Runs client f ∧ t.replies client = s.replies client := by
  obtain ⟨fifo, polling, conn, present, serves⟩ := runs
  obtain ⟨conn₁, conn₂, sent, present', stepped, rfl⟩ := connectionStep_cases next
  obtain ⟨rfl, replies, kept⟩ := unheard conn₁ conn₂ sent present' stepped
  by_cases same : other = client
  · subst same
    cases present.symm.trans present'
    have now_present := setConnection_self s other conn₂
    refine ⟨⟨fifo, polling, conn₂, now_present, fun waits => kept (serves waits)⟩, ?_⟩
    rw [replies_present present, ← replies]
    exact replies_present now_present
  · have still_present := (setConnection_other s (Ne.symm same) conn₂).trans present
    refine ⟨⟨fifo, polling, conn, still_present, serves⟩, ?_⟩
    rw [replies_present present]
    exact replies_present still_present

omit [DecidableEq κ] in
/-- The first telegram is the one that is waited for. -/
theorem awaited_first {queue : List EmsMessage} {expiry : Time} {wait : ResponseWait κ}
    (fifo : s.sender.Fifo (requests client queue))
    (running : s.sender.responseTimeout.wait = some (expiry, wait)) :
    queue.head? = some wait.request.message ∧ s.sender.currentClient = some client ∧
      wait.request.client = client := by
  obtain ⟨-, rest, split, -, current⟩ := fifo.awaited running
  cases queue with
  | nil => cases split
  | cons message others =>
      obtain ⟨first, -⟩ := List.cons.inj split
      rw [← first] at current ⊢
      exact ⟨rfl, current, rfl⟩

omit [DecidableEq κ] in
/-- The telegrams of a client that are left when the first one is handled. -/
theorem requests_tail (client : κ) {queue queue' sent : List EmsMessage} (split : queue' = queue.tail ++ sent) :
    requests client queue' = (requests client queue).tail ++ requests client sent := by
  rw [split]
  unfold requests
  rw [List.map_append, List.map_tail]

/-- The device answers what is waited for. -/
theorem telegram_runs (runs : s.Runs client f) {now : Time} {message : EmsMessage}
    (answered : s.awaited.bind (device f.dialogue.reads) = some message)
    (next : s.step (.telegram now message) = some t) :
    ∃ g more, f.advance device = some g ∧ t.Runs client g ∧ t.replies client = s.replies client ++ more ∧
      g.dialogue = f.dialogue.hear s.awaited.toList more := by
  obtain ⟨fifo, polling, conn, present, serves⟩ := runs
  obtain ⟨read, awaited, answer⟩ := Option.bind_eq_some_iff.mp answered
  obtain ⟨⟨expiry, wait⟩, running, rfl⟩ := Option.map_eq_some_iff.mp awaited
  obtain ⟨first, current, owner⟩ := awaited_first fifo running
  obtain ⟨u, reaction, called, rfl⟩ := telegram_cases next
  obtain ⟨conn₂, stepped, rfl⟩ := callback_current current present called
  have waits : f.queue ≠ [] := List.ne_nil_of_mem (List.mem_of_head? first)
  obtain ⟨g, advanced, queue, serves', reads, more, replies, heard⟩ :=
    CommandConnection.incoming_serves (serves waits) first answer stepped
  obtain ⟨after, -⟩ := EmsCommandSender.telegram_fifo (fifo.record now
    (.received message s.sender.currentClient)) running now message reaction
  rw [owner, ← requests_tail client queue] at after
  have after_polling := EmsCommandSender.telegram_polling polling running now message
    (.received message s.sender.currentClient) reads
  have now_present := setConnection_self s client conn₂
  refine ⟨g, more, advanced, ⟨after, after_polling, conn₂, now_present, fun _ => serves'⟩,
    replies_more present now_present replies, ?_⟩
  rw [awaited]
  exact heard

/-- The device does not answer what is waited for. -/
theorem responseExpired_runs (runs : s.Runs client f) {now : Time}
    (lost : s.awaited.bind (device f.dialogue.reads) = none)
    (next : s.step (.responseExpired now) = some t) :
    ∃ g more, f.advance device = some g ∧ t.Runs client g ∧ t.replies client = s.replies client ++ more ∧
      g.dialogue = f.dialogue.hear s.awaited.toList more := by
  obtain ⟨fifo, polling, conn, present, serves⟩ := runs
  obtain ⟨expiry, wait, u, reaction, running, called, rfl⟩ := responseExpired_cases next
  obtain ⟨first, current, owner⟩ := awaited_first fifo running
  have awaited : s.awaited = some wait.request.message := by
    unfold System.awaited
    rw [running]
    rfl
  rw [awaited, Option.bind_some] at lost
  have real : wait.fakeAnswer = false := polling.waiting _ running
  rw [responseEvent_real real] at called
  obtain ⟨conn₂, stepped, rfl⟩ := callback_current current present called
  have waits : f.queue ≠ [] := List.ne_nil_of_mem (List.mem_of_head? first)
  obtain ⟨g, advanced, queue, serves', reads, more, replies, heard⟩ :=
    CommandConnection.timeout_serves (serves waits) first lost stepped
  obtain ⟨after, -⟩ := EmsCommandSender.timeout_fifo fifo running real now reaction
  rw [owner, ← requests_tail client queue] at after
  obtain ⟨after_polling, -⟩ := EmsCommandSender.responseExpired_polling polling running now reads
  have now_present := setConnection_self s client conn₂
  refine ⟨g, more, advanced, ⟨after, after_polling, conn₂, now_present, fun _ => serves'⟩,
    replies_more present now_present replies, ?_⟩
  rw [awaited]
  exact heard

/-- The handler of an aborted wait for the next refresh does nothing. -/
theorem again_unheard {conn conn' : CommandConnection} {sent : List EmsMessage} {now : Time}
    (again : conn.parser.testModeRepeater.aborted.head? ≠ some .start)
    (stepped : conn.step (.testModeAborted now) = some (conn', sent)) :
    sent = [] ∧ conn'.replies = conn.replies ∧ (conn.Serves f → conn'.Serves f) := by
  obtain ⟨wait, first, performed⟩ := Option.map_eq_some_iff.mp stepped
  cases wait with
  | start => exact absurd first again
  | again =>
      cases performed
      refine ⟨?_, ?_, fun ⟨same, reads⟩ => ⟨Eq.trans ?_ same.eq, reads⟩⟩
      · show conn.parser.effects.filterMap Effect.message? = []
        rw [conn.quiet]
        rfl
      · show conn.replies ++ conn.parser.effects.filterMap Effect.line? = _
        rw [conn.quiet]
        exact List.append_nil _
      · show ({ conn.parser with testModeRepeater := .idle, effects := [] } : ApiCommandParser) = _
        rw [← conn.quiet]
        rfl

/-- The client sends a command when nothing is under way. -/
theorem request_runs (rest : s.AtRest client) {c : ReadCommand} {env : Env}
    (typed : s.command? client (.request client env) = some c)
    (next : s.step (.request client env) = some t) :
    t.Runs client (.begin c) ∧
      t.replies client = s.replies client ++ (Foreground.begin c).dialogue.lines := by
  obtain ⟨idle, free⟩ := rest
  simp only [command?, if_true] at typed
  obtain ⟨conn, present, typed⟩ := Option.bind_eq_some_iff.mp typed
  simp only [step] at next
  split at next
  · obtain ⟨conn₁, conn₂, sent, present₁, stepped, rfl⟩ := connectionStep_cases next
    cases present.symm.trans present₁
    obtain ⟨rfl, serves, reads, replies⟩ := CommandConnection.request_serves typed (free conn present) stepped
    obtain ⟨after, -⟩ := EmsCommandSender.sendAll_fifo (.idle idle) env.now client (Foreground.begin c).queue
    obtain ⟨after_polling, -⟩ := EmsCommandSender.sendAll_polling idle.polling env.now client reads
    have now_present := setConnection_self s client conn₂
    exact ⟨⟨after, after_polling, conn₂, now_present, serves⟩, replies_more present now_present replies⟩
  · cases next

end Steps

end System

/-- The system, and what a client has heard of its commands, the last one first. -/
structure Watched (κ : Type) where
  system : System κ
  heard : List Dialogue

namespace Watched

variable {κ : Type} [DecidableEq κ]

/-- The client hears what is written to its socket. -/
def step (client : κ) (w : Watched κ) (e : System.Event κ) : Option (Watched κ) :=
  (w.system.step e).map fun s =>
    let lines := (s.replies client).drop (w.system.replies client).length
    { system := s
      heard :=
        match w.system.command? client e with
        | some command => { command, reads := [], lines } :: w.heard
        | none => w.heard.modifyHead (·.hear (w.system.handled e) lines) }

/-- The client waits for no terminal line. -/
def Free (w : Watched κ) : Prop := ∀ d ∈ w.heard.head?, d.Ended

instance (w : Watched κ) : Decidable w.Free := inferInstanceAs (Decidable (∀ d ∈ w.heard.head?, _))

/-- How the devices and the client go on: what is waited for while a command is under way is answered
    as the devices do, and the client sends a line when it has heard all of the last one. Only this
    client acts. -/
def Plays (device : Device) (client : κ) (w : Watched κ) : System.Event κ → Prop
  | .telegram _ message => w.Free ∨ ∀ d ∈ w.heard.head?, w.system.awaited.bind (device d.reads) = some message
  | .responseExpired _ => w.Free ∨ ∀ d ∈ w.heard.head?, w.system.awaited.bind (device d.reads) = none
  | .request other _ => other = client ∧ w.Free
  | .testModeExpired other _ | .testModeAborted other _ => other = client
  | _ => True

/-- The refreshes keep apart from the commands: none comes while a command is under way, and a command
    comes when nothing is. -/
def Apart (client : κ) (w : Watched κ) : System.Event κ → Prop
  | .request other env =>
      (w.system.command? client (.request other env)).isSome = true → w.system.AtRest client
  | .testModeExpired _ _ => w.Free
  | .testModeAborted _ _ => w.Free ∨ ∀ conn ∈ w.system.connections client,
      conn.parser.testModeRepeater.aborted.head? ≠ some .start
  | _ => True

instance (device : Device) (client : κ) (w : Watched κ) (e : System.Event κ) :
    Decidable (w.Plays device client e) :=
  match e with
  | .telegram .. | .responseExpired _ => inferInstanceAs (Decidable (_ ∨ ∀ d ∈ w.heard.head?, _))
  | .request .. => inferInstanceAs (Decidable (_ ∧ _))
  | .testModeExpired .. | .testModeAborted .. => inferInstanceAs (Decidable (_ = _))
  | .connect .. | .disconnect _ | .segment .. | .responseAborted | .sendExpired _ | .sendAborted _ =>
      inferInstanceAs (Decidable True)

instance (client : κ) (w : Watched κ) (e : System.Event κ) : Decidable (w.Apart client e) :=
  match e with
  | .request .. => inferInstanceAs (Decidable (_ → _))
  | .testModeExpired .. => inferInstanceAs (Decidable w.Free)
  | .testModeAborted .. => inferInstanceAs (Decidable (_ ∨ ∀ conn ∈ w.system.connections client, _))
  | .connect .. | .disconnect _ | .segment .. | .telegram .. | .responseExpired _ | .responseAborted
  | .sendExpired _ | .sendAborted _ => inferInstanceAs (Decidable True)

section Steps

variable {device : Device} {client : κ} {f : Foreground} {w : Watched κ} {t : System κ}

/-- While a command is under way, a step brings it as far as it comes on its own, or is not heard of. -/
theorem running_step (runs : w.system.Runs client f) (head : w.heard.head? = some f.dialogue)
    (unended : ¬ f.dialogue.Ended) {e : System.Event κ} (plays : w.Plays device client e)
    (apart : w.Apart client e) (next : w.system.step e = some t) :
    ∃ g more, Reaches (Foreground.advance device) f g ∧ t.Runs client g ∧
      t.replies client = w.system.replies client ++ more ∧
      g.dialogue = f.dialogue.hear (w.system.handled e) more := by
  have busy : ¬ w.Free := fun free => unended (free _ head)
  have unheard (kept : t.Runs client f ∧ t.replies client = w.system.replies client)
      (nothing : w.system.handled e = []) :
      ∃ g more, Reaches (Foreground.advance device) f g ∧ t.Runs client g ∧
        t.replies client = w.system.replies client ++ more ∧
        g.dialogue = f.dialogue.hear (w.system.handled e) more := by
    refine ⟨f, [], .refl, kept.1, ?_, ?_⟩
    · rw [kept.2, List.append_nil]
    · rw [nothing, Dialogue.hear_nil]
  have whole := runs
  obtain ⟨fifo, polling, conn, present, serves⟩ := runs
  cases e with
  | connect other new =>
      simp only [System.step] at next
      split at next
      · rename_i absent
        cases next
        have different : client ≠ other := by
          rintro rfl
          rw [present] at absent
          cases absent
        have still_present := (System.setConnection_other w.system different (.new new)).trans present
        refine unheard ⟨⟨fifo, polling, conn, still_present, serves⟩, ?_⟩ rfl
        rw [System.replies_present present]
        exact System.replies_present still_present
      · cases next
  | disconnect other =>
      simp only [System.step] at next
      split at next
      · cases next
        exact unheard ⟨⟨fifo, polling, conn, present, serves⟩, rfl⟩ rfl
      · cases next
  | segment other chars =>
      simp only [System.step] at next
      split at next
      · refine unheard (System.connectionStep_runs whole (fun conn conn' sent _ stepped => ?_) next) rfl
        simp only [CommandConnection.step] at stepped
        split at stepped
        · cases stepped
        · cases stepped
          exact ⟨rfl, rfl, fun serves => ⟨serves.1, serves.2⟩⟩
      · cases next
  | request other env => exact absurd plays.2 busy
  | testModeExpired other now => exact absurd apart busy
  | testModeAborted other now =>
      have own : other = client := plays
      subst own
      refine unheard (System.connectionStep_runs whole (fun conn conn' sent present stepped => ?_) next) rfl
      exact System.again_unheard (apart.resolve_left busy conn present) stepped
  | telegram now message =>
      have answered := plays.resolve_left busy _ head
      obtain ⟨g, more, advanced, runs', replies, heard⟩ := System.telegram_runs whole answered next
      exact ⟨g, more, .single advanced, runs', replies, heard⟩
  | responseExpired now =>
      have lost := plays.resolve_left busy _ head
      obtain ⟨g, more, advanced, runs', replies, heard⟩ := System.responseExpired_runs whole lost next
      exact ⟨g, more, .single advanced, runs', replies, heard⟩
  | responseAborted =>
      obtain ⟨sender, stepped, rfl⟩ := System.senderStep_cases next
      obtain ⟨wait, aborted, rfl⟩ := Option.map_eq_some_iff.mp stepped
      obtain ⟨after, -⟩ := EmsCommandSender.responseAborted_fifo fifo
      obtain ⟨after_polling, -⟩ := EmsCommandSender.responseAborted_polling polling aborted
      exact unheard ⟨⟨after, after_polling, conn, present, serves⟩, rfl⟩ rfl
  | sendExpired now =>
      obtain ⟨sender, stepped, rfl⟩ := System.senderStep_cases next
      obtain ⟨⟨expiry, request⟩, running, rfl⟩ := Option.map_eq_some_iff.mp stepped
      obtain ⟨after, -⟩ := EmsCommandSender.sendExpired_fifo fifo running now
      obtain ⟨after_polling, -⟩ := EmsCommandSender.sendExpired_polling polling running now
      exact unheard ⟨⟨after, after_polling, conn, present, serves⟩, rfl⟩ rfl
  | sendAborted now =>
      obtain ⟨sender, stepped, -⟩ := System.senderStep_cases next
      obtain ⟨request, aborted, -⟩ := Option.map_eq_some_iff.mp stepped
      rw [fifo.noAborted] at aborted
      cases aborted

/-- What the client has heard is what its commands bring on their own. -/
structure Overheard (device : Device) (client : κ) (w : Watched κ) : Prop where
  told : ∀ d ∈ w.heard, Foreground.Told device d
  earlier : ∀ d ∈ w.heard.tail, d.Ended
  running : ∀ d ∈ w.heard.head?, d.Ended ∨
    ∃ f, Reaches (Foreground.advance device) (.begin d.command) f ∧ f.dialogue = d ∧ w.system.Runs client f

/-- Only a line of the client is a command. -/
theorem command_request {s : System κ} {e : System.Event κ} {c : ReadCommand}
    (command : s.command? client e = some c) : ∃ env, e = .request client env := by
  cases e with
  | request other env =>
      simp only [System.command?] at command
      split at command
      · rename_i same
        exact ⟨env, by rw [same]⟩
      · cases command
  | _ => cases command

/-- A step is heard as the begin of a command, or it is heard of the last one. -/
theorem step_cases {e : System.Event κ} {w' : Watched κ} (next : w.step client e = some w') :
    ∃ t, w.system.step e = some t ∧
      ((∃ env c, e = .request client env ∧ w.system.command? client e = some c ∧ w' = ⟨t,
          ⟨c, [], (t.replies client).drop (w.system.replies client).length⟩ :: w.heard⟩) ∨
        w' = ⟨t, w.heard.modifyHead
          (·.hear (w.system.handled e) ((t.replies client).drop (w.system.replies client).length))⟩) := by
  obtain ⟨t, stepped, rfl⟩ := Option.map_eq_some_iff.mp next
  refine ⟨t, stepped, ?_⟩
  cases command : w.system.command? client e with
  | some c =>
      obtain ⟨env, same⟩ := command_request command
      exact .inl ⟨env, c, same, rfl, rfl⟩
  | none => exact .inr rfl

/-- A step keeps the invariant. -/
theorem step_overheard (inv : w.Overheard device client) {e : System.Event κ} {w' : Watched κ}
    (plays : w.Plays device client e) (apart : w.Apart client e) (next : w.step client e = some w') :
    w'.Overheard device client := by
  obtain ⟨told, earlier, running⟩ := inv
  obtain ⟨t, stepped, ⟨env, c, rfl, command, rfl⟩ | rfl⟩ := step_cases next
  · obtain ⟨-, free⟩ := plays
    obtain ⟨runs, replies⟩ := System.request_runs (apart (by rw [command]; rfl)) command stepped
    have begun : (⟨c, [], (t.replies client).drop (w.system.replies client).length⟩ : Dialogue) =
        (Foreground.begin c).dialogue := by
      rw [replies, List.drop_left]
      rfl
    rw [begun]
    refine ⟨List.forall_mem_cons.mpr ⟨⟨.begin c, .refl, rfl⟩, told⟩, ?_, ?_⟩
    · show ∀ d ∈ w.heard, d.Ended
      unfold Free at free
      cases heard : w.heard with
      | nil => exact nofun
      | cons last rest =>
          rw [heard] at earlier free
          exact List.forall_mem_cons.mpr ⟨free last rfl, earlier⟩
    · rintro d ⟨⟩
      exact .inr ⟨.begin c, .refl, rfl, runs⟩
  · cases heard : w.heard with
    | nil => exact ⟨nofun, nofun, nofun⟩
    | cons d rest =>
        rw [heard] at told earlier running
        rw [List.forall_mem_cons] at told
        obtain ⟨first, others⟩ := told
        rw [List.modifyHead_cons]
        rcases running d rfl with ended | ⟨f, reaches, rfl, runs⟩
        · rw [Dialogue.hear_ended ended]
          refine ⟨List.forall_mem_cons.mpr ⟨first, others⟩, earlier, ?_⟩
          rintro _ ⟨⟩
          exact .inl ended
        by_cases ended : f.dialogue.Ended
        · rw [Dialogue.hear_ended ended]
          refine ⟨List.forall_mem_cons.mpr ⟨first, others⟩, earlier, ?_⟩
          rintro _ ⟨⟩
          exact .inl ended
        have head : w.heard.head? = some f.dialogue := by
          rw [heard]
          rfl
        obtain ⟨g, more, later, runs', replies, said⟩ := running_step runs head ended plays apart stepped
        rw [replies, List.drop_left, ← said]
        have all : Reaches (Foreground.advance device) (.begin g.dialogue.command) g := by
          rw [said, Dialogue.hear_command]
          exact reaches.trans later
        refine ⟨List.forall_mem_cons.mpr ⟨⟨g, all, rfl⟩, others⟩, earlier, ?_⟩
        rintro _ ⟨⟩
        exact .inr ⟨g, all, rfl, runs'⟩

omit [DecidableEq κ] in
/-- When the client waits for nothing, or nothing is under way, it has heard all. -/
theorem overheard_settled (inv : w.Overheard device client) (done : w.Free ∨ w.system.sender.Idle) :
    ∀ d ∈ w.heard, Foreground.Settled device d := by
  obtain ⟨told, earlier, running⟩ := inv
  have settled {d : Dialogue} (member : d ∈ w.heard) (ended : d.Ended) : Foreground.Settled device d := by
    obtain ⟨f, reaches, rfl⟩ := told d member
    exact ⟨f, reaches, rfl, .inl ended⟩
  intro d member
  cases heard : w.heard with
  | nil =>
      rw [heard] at member
      cases member
  | cons last rest =>
      have first : w.heard.head? = some last := by
        rw [heard]
        rfl
      have split : d = last ∨ d ∈ w.heard.tail := by
        rw [heard] at member ⊢
        exact List.mem_cons.mp member
      rcases split with rfl | behind
      · rcases running d first with ended | ⟨f, reaches, rfl, runs⟩
        · exact settled member ended
        · rcases done with free | idle
          · exact settled member (free _ first)
          · have served := runs.fifo.current
            rw [idle.client] at served
            refine ⟨f, reaches, rfl, .inr ?_⟩
            cases queue : f.queue with
            | nil => rfl
            | cons read others =>
                rw [queue] at served
                cases served
      · exact settled member (earlier d behind)

end Steps

/-- The watched system as a transition system. -/
def watching (client : κ) : LTS (Watched κ) (System.Event κ) := .ofOption (step client)

variable {device : Device} {client : κ}

/-- Where commands and refreshes keep apart, what the client has heard of its commands is what they
    bring on their own. -/
theorem run_overheard {start w : Watched κ} (fresh : start.heard = []) {es : List (System.Event κ)}
    (run : (watching client).Run (fun w e => w.Plays device client e ∧ w.Apart client e) start es w) :
    w.Overheard device client := by
  have first : start.Overheard device client := by
    refine ⟨?_, ?_, ?_⟩ <;> rw [fresh] <;> exact nofun
  exact run.invariant first fun _ _ _ inv guard next => step_overheard inv guard.1 guard.2 next

/-- Of any two runs, with whatever refreshes, the client hears the same of each command: at every
    moment the lines of one run continue those of the other, what has ended is the same, and so is
    everything, when both have come to an end with the same commands. -/
theorem test_mode_apart {startA startB A B : Watched κ} (freshA : startA.heard = [])
    (freshB : startB.heard = []) {esA esB : List (System.Event κ)}
    (runA : (watching client).Run (fun w e => w.Plays device client e ∧ w.Apart client e) startA esA A)
    (runB : (watching client).Run (fun w e => w.Plays device client e ∧ w.Apart client e) startB esB B) :
    (∀ d ∈ A.heard, ∀ d' ∈ B.heard, d.command = d'.command →
      (d.lines <+: d'.lines ∨ d'.lines <+: d.lines) ∧ (d.Ended → d'.Ended → d = d')) ∧
    ((A.Free ∨ A.system.sender.Idle) → (B.Free ∨ B.system.sender.Idle) →
      A.heard.map (·.command) = B.heard.map (·.command) → A.heard = B.heard) := by
  have heardA := run_overheard freshA runA
  have heardB := run_overheard freshB runB
  constructor
  · intro d member d' member' same
    have told := heardA.told d member
    have told' := heardB.told d' member'
    refine ⟨Foreground.told_comparable told told' same, fun ended ended' => ?_⟩
    obtain ⟨f, reaches, rfl⟩ := told
    obtain ⟨f', reaches', rfl⟩ := told'
    exact Foreground.settled_unique ⟨f, reaches, rfl, .inl ended⟩ ⟨f', reaches', rfl, .inl ended'⟩ same
  · intro doneA doneB same
    exact Foreground.settled_lists (overheard_settled heardA doneA) (overheard_settled heardB doneB) same

/-- A client with the test mode on has sent a command that reads three bytes. -/
def testModeStart : Watched Nat :=
  { system := { System.init with
      connections := fun _ => some
        ⟨"raw read 136 24 0 3\n".toList,
          { (default : { p : ApiCommandParser // p.Fresh }).1 with
            testModeRepeater := { wait := some (5000000, .again), aborted := [] } }, [], rfl⟩
      registered := fun _ => true }
    heard := [] }

/-- The answer with some of the bytes. -/
def chunk (offset : UInt8) (data : List UInt8) : EmsMessage :=
  { valueHandler := true, data, source := EmsProto.addressUBA2, dest := 0x0b, type := 24
    extType := 0, offset }

/-- The device gives two bytes at first. -/
def chunkDevice : Device := fun _ request =>
  if ¬ request.Read then none
  else if request.offset = 0 then some (chunk 0 [1, 2])
  else some (chunk 2 [3])

/-- The steps of the client and the device without a refresh. -/
def unrefreshed (now : Time) : List (System.Event Nat) :=
  [.request 0 ⟨none, fun s => (none, s), now⟩, .telegram (now + 50000) (chunk 0 [1, 2]),
    .sendExpired (now + 150000), .telegram (now + 200000) (chunk 2 [3])]

/-- A refresh before the command. -/
theorem test_mode_apart_before :
    ∃ A B : Watched Nat,
      (watching 0).Run (fun w e => w.Plays chunkDevice 0 e ∧ w.Apart 0 e) testModeStart
        (.testModeExpired 0 5000000 :: .responseExpired 5200000 :: unrefreshed 6000000) A ∧
      (watching 0).Run (fun w e => w.Plays chunkDevice 0 e ∧ w.Apart 0 e) testModeStart
        (unrefreshed 0) B ∧ A.heard.length = 1 ∧ A.heard = B.heard := by
  let guarded (w : Watched Nat) (e : System.Event Nat) : Option (Watched Nat) :=
    if w.Plays chunkDevice 0 e ∧ w.Apart 0 e then w.step 0 e else none
  let refreshed : List (System.Event Nat) :=
    .testModeExpired 0 5000000 :: .responseExpired 5200000 :: unrefreshed 6000000
  let A := (refreshed.foldlM guarded testModeStart).get (by decide +kernel)
  let B := ((unrefreshed 0).foldlM guarded testModeStart).get (by decide +kernel)
  have runA : (watching 0).Run (fun w e => w.Plays chunkDevice 0 e ∧ w.Apart 0 e) testModeStart _ A :=
    .ofFold (Option.some_get _).symm
  have runB : (watching 0).Run (fun w e => w.Plays chunkDevice 0 e ∧ w.Apart 0 e) testModeStart _ B :=
    .ofFold (Option.some_get _).symm
  refine ⟨A, B, runA, runB, by decide +kernel, ?_⟩
  exact (test_mode_apart rfl rfl runA runB).2 (.inr (by decide +kernel)) (.inr (by decide +kernel))
    (by decide +kernel)

/-- A refresh between the parts of the answer ends the command: the client hears `OK` and no bytes. -/
theorem refresh_ends_command :
    ¬ ∀ (esA esB : List (System.Event Nat)) (A B : Watched Nat),
      (watching 0).Run (fun w e => w.Plays chunkDevice 0 e) testModeStart esA A →
      (watching 0).Run (fun w e => w.Plays chunkDevice 0 e) testModeStart esB B → A.Free → B.Free →
      A.heard.map (·.command) = B.heard.map (·.command) →
      A.heard.map (·.lines) = B.heard.map (·.lines) := by
  intro same
  let guarded (w : Watched Nat) (e : System.Event Nat) : Option (Watched Nat) :=
    if w.Plays chunkDevice 0 e then w.step 0 e else none
  let refreshed : List (System.Event Nat) :=
    [.request 0 ⟨none, fun s => (none, s), 4990000⟩, .testModeExpired 0 5000000,
      .telegram 5010000 (chunk 0 [1, 2]), .responseExpired 5210000]
  let A := (refreshed.foldlM guarded testModeStart).get (by decide +kernel)
  let B := ((unrefreshed 0).foldlM guarded testModeStart).get (by decide +kernel)
  have runA : (watching 0).Run (fun w e => w.Plays chunkDevice 0 e) testModeStart _ A :=
    .ofFold (Option.some_get _).symm
  have runB : (watching 0).Run (fun w e => w.Plays chunkDevice 0 e) testModeStart _ B :=
    .ofFold (Option.some_get _).symm
  have lines := same _ _ A B runA runB (by decide +kernel) (by decide +kernel) (by decide +kernel)
  revert lines
  decide +kernel

end Watched

end EmsCollector
