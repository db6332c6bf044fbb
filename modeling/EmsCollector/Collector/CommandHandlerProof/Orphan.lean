import EmsCollector.Collector.CommandHandlerProof.Connection

/-!
# Orphaned clients

A client whose parser has an active request is orphaned when the scheduler will not call it any
more: it has no entry in the queue and is not the current client with a timer armed. The parser
then answers `Busy` for ever.

The scheduler goes on to the next request after any telegram, also after one that the parser
ignores, and it goes on twice after a fake acknowledgement. Where neither loses a client, no
client is ever orphaned.
-/

namespace EmsCollector.System

open ApiCommandParser (Acts)

variable {κ : Type} [DecidableEq κ]

/-- The parser of the client has an active request. -/
def Active (s : System κ) (client : κ) : Prop :=
  ∃ conn ∈ s.connections client, conn.parser.activeRequest.isSome = true

/-- No client is orphaned. -/
def NoOrphan (s : System κ) : Prop := ∀ client, s.Active client → s.sender.Held client

/-- A telegram that comes while a client is being served does not orphan it: its parser has no
    active request or takes the telegram, or it has another entry in the queue. -/
def TelegramOk (s : System κ) (message : EmsMessage) : Prop :=
  ∀ client ∈ s.sender.currentClient, ∀ conn ∈ s.connections client,
    conn.parser.activeRequest.isSome = true →
      conn.parser.Accepts message ∨ s.sender.Queued client

/-- A fake acknowledgement drops the first entry of the queue. The client of that entry is the
    one being acknowledged, has no active request, or has another entry. -/
def AcknowledgementOk (s : System κ) : Prop :=
  ∀ first ∈ s.sender.pending.head?,
    s.sender.currentClient = some first.client ∨ ¬ s.Active first.client ∨
      ∃ request ∈ s.sender.pending.tail, request.client = first.client

/-- The steps that orphan nobody. -/
def StepOk (s : System κ) : Event κ → Prop
  | .telegram _ message => s.TelegramOk message
  | .responseExpired _ =>
      ∀ wait ∈ s.sender.responseTimeout.wait, wait.2.fakeAnswer = true → s.AcknowledgementOk
  | _ => True

instance (s : System κ) (client : κ) : Decidable (s.Active client) :=
  inferInstanceAs (Decidable (∃ conn ∈ s.connections client, _))

instance (s : System κ) (message : EmsMessage) : Decidable (s.TelegramOk message) :=
  inferInstanceAs (Decidable (∀ client ∈ s.sender.currentClient, ∀ conn ∈ s.connections client, _))

instance (s : System κ) : Decidable s.AcknowledgementOk :=
  inferInstanceAs (Decidable (∀ first ∈ s.sender.pending.head?, _))

instance (s : System κ) (e : Event κ) : Decidable (s.StepOk e) :=
  match e with
  | .telegram _ message => inferInstanceAs (Decidable (s.TelegramOk message))
  | .responseExpired _ => inferInstanceAs (Decidable (∀ wait ∈ s.sender.responseTimeout.wait, _))
  | .connect .. | .disconnect _ | .segment .. | .request .. | .testModeExpired ..
  | .testModeAborted .. | .responseAborted | .sendExpired _ | .sendAborted _ =>
      inferInstanceAs (Decidable True)

/-- The invariant. -/
structure Served (s : System κ) : Prop where
  consistent : s.sender.Consistent
  noOrphan : s.NoOrphan

variable {s t : System κ}

/-- After a step of a connection, only its own client may have become active. -/
theorem active_setConnection {client other : κ} {conn : CommandConnection}
    (active : (s.setConnection client conn).Active other) :
    (other = client ∧ conn.parser.activeRequest.isSome = true) ∨
      (other ≠ client ∧ s.Active other) := by
  obtain ⟨conn', present, request⟩ := active
  by_cases same : other = client
  · subst same
    rw [setConnection_self] at present
    cases present
    exact .inl ⟨rfl, request⟩
  · rw [setConnection_other s same] at present
    exact .inr ⟨same, conn', present, request⟩

/-- A connection whose parser becomes active has enqueued a telegram. -/
theorem sent_of_active {conn conn' : CommandConnection} {e : CommandConnection.Event}
    {sent : List EmsMessage} (next : conn.step e = some (conn', sent))
    (active : conn'.parser.activeRequest.isSome = true) :
    conn.parser.activeRequest.isSome = true ∨ sent ≠ [] := by
  obtain ⟨q, yields, performed⟩ := CommandConnection.step_yields next
  rw [performed.active] at active
  obtain ⟨request, now⟩ := Option.isSome_iff_exists.mp active
  rcases yields.acts.active now with before | ⟨-, enqueued⟩
  · exact .inl (Option.isSome_iff_exists.mpr ⟨request, before⟩)
  · exact .inr (List.ne_nil_of_mem (performed.mem_sent.mpr enqueued))

/-- A step that a connection takes by itself orphans nobody. -/
theorem connectionStep_served (served : s.Served) {now : Time} {client : κ}
    {e : CommandConnection.Event} (next : s.connectionStep now client e = some t) : t.Served := by
  obtain ⟨conn, conn', sent, present, stepped, rfl⟩ := connectionStep_cases next
  refine ⟨EmsCommandSender.sendAll_consistent served.consistent now client sent, ?_⟩
  intro other active
  show (s.sender.sendAll now client sent).Held other
  rcases active_setConnection (s := s) active with ⟨rfl, request⟩ | ⟨-, before⟩
  · rcases sent_of_active stepped request with before | some
    · exact EmsCommandSender.sendAll_keeps (served.noOrphan other ⟨conn, present, before⟩) _ _ _
    · exact EmsCommandSender.sendAll_held now some
  · exact EmsCommandSender.sendAll_keeps (served.noOrphan other before) _ _ _

/-- Who is still active after a callback was waiting in the queue, or enqueued something in it. -/
theorem callback_queued (served : s.Served) {e : CommandConnection.Event}
    {reaction : List EmsMessage} (next : s.callback e = some (t, reaction))
    (called : ∀ client conn conn', s.sender.currentClient = some client →
      s.connections client = some conn → conn.step e = some (conn', reaction) →
      conn'.parser.activeRequest.isSome = true → reaction ≠ [] ∨ s.sender.Queued client)
    {other : κ} (active : t.Active other) :
    s.sender.Queued other ∨ s.sender.currentClient = some other ∧ reaction ≠ [] := by
  rcases callback_cases next with ⟨idle, rfl, -⟩ | ⟨client, conn, conn', current, present, stepped, rfl⟩
  · rcases served.noOrphan other active with queued | ⟨current, -⟩
    · exact .inl queued
    · exact nomatch idle.symm.trans current
  · rcases active_setConnection active with ⟨rfl, request⟩ | ⟨different, before⟩
    · rcases called other conn conn' current present stepped request with some | queued
      · exact .inr ⟨current, some⟩
      · exact .inl queued
    · rcases served.noOrphan other before with queued | ⟨current', -⟩
      · exact .inl queued
      · rw [current] at current'
        cases current'
        exact absurd rfl different

/-- What a telegram leaves active: the parser ignored it, or has sent something. -/
theorem incoming_active {conn conn' : CommandConnection} {message : EmsMessage}
    {sent : List EmsMessage} (next : conn.step (.incoming message) = some (conn', sent))
    (active : conn'.parser.activeRequest.isSome = true) :
    sent ≠ [] ∨ (conn.parser.activeRequest.isSome = true ∧ ¬ conn.parser.Accepts message) := by
  rcases sent_of_active next active with before | some
  · by_cases accepts : conn.parser.Accepts message
    · obtain ⟨q, ⟨result, answered⟩, performed⟩ := CommandConnection.step_yields next
      obtain ⟨-, settled⟩ : Acts (fun _ => True) True conn.parser q ∧ _ :=
        ApiCommandParser.onIncomingMessage_acts (fun _ _ _ _ _ => trivial) (fun _ _ _ _ _ _ => trivial)
          answered
      rcases settled before accepts with finished | ⟨request, enqueued⟩
      · rw [performed.active, finished] at active
        cases active
      · exact .inl (List.ne_nil_of_mem (performed.mem_sent.mpr enqueued))
    · exact .inr ⟨before, accepts⟩
  · exact .inl some

/-- A timeout that leaves the parser active has sent the request again. -/
theorem timeout_active {conn conn' : CommandConnection} {sent : List EmsMessage}
    (next : conn.step .timeout = some (conn', sent))
    (active : conn'.parser.activeRequest.isSome = true) : sent ≠ [] := by
  obtain ⟨q, rfl, performed⟩ := CommandConnection.step_yields next
  obtain ⟨-, settled⟩ : Acts (fun _ => True) True conn.parser _ ∧ _ :=
    ApiCommandParser.onTimeout_acts (fun _ _ => trivial)
  rcases settled with finished | ⟨request, enqueued⟩
  · rw [performed.active, finished] at active
    cases active
  · exact List.ne_nil_of_mem (performed.mem_sent.mpr enqueued)

theorem telegram_served (served : s.Served) {now : Time} {message : EmsMessage}
    (ok : s.TelegramOk message) (next : s.step (.telegram now message) = some t) : t.Served := by
  obtain ⟨u, reaction, called, rfl⟩ := telegram_cases next
  refine ⟨EmsCommandSender.handlePcMessage_consistent _ _ _ _, ?_⟩
  intro other active
  apply EmsCommandSender.handlePcMessage_held
  refine callback_queued served called ?_ active
  intro client conn conn' current present stepped active
  rcases incoming_active stepped active with some | ⟨before, ignored⟩
  · exact .inl some
  · exact .inr ((ok client current conn present before).resolve_left ignored)

/-- The fake acknowledgement ends the request of the current client. -/
theorem fakeAnswer_finishes {conn conn' : CommandConnection} {sent : List EmsMessage}
    (next : conn.step (.incoming EmsCommandSender.fakeMessage) = some (conn', sent)) :
    sent = [] ∧ conn'.parser.activeRequest = none := by
  obtain ⟨q, ⟨result, answered⟩, performed⟩ := CommandConnection.step_yields next
  have quiet (effects : q.effects = conn.parser.effects) : sent = [] := by
    rw [performed.sent, effects, conn.quiet]
    rfl
  unfold ApiCommandParser.onIncomingMessage at answered
  split at answered
  · rename_i idle
    cases answered
    exact ⟨quiet rfl, performed.active.trans (Option.isNone_iff_eq_none.mp idle)⟩
  · rw [if_pos (by decide)] at answered
    cases answered
    exact ⟨quiet rfl, performed.active⟩

/-- After a fake acknowledgement, whoever is active has a later entry in the queue. -/
theorem fakeAnswer_later (served : s.Served) (ok : s.AcknowledgementOk) {client other : κ}
    {conn : CommandConnection} (current : s.sender.currentClient = some client)
    (finished : conn.parser.activeRequest = none)
    (active : (s.setConnection client conn).Active other) :
    ∃ first rest, s.sender.pending = first :: rest ∧
      ∃ request ∈ rest, request.client = other := by
  obtain ⟨different, before⟩ : other ≠ client ∧ s.Active other := by
    rcases active_setConnection active with ⟨-, request⟩ | other
    · rw [finished] at request
      cases request
    · exact other
  obtain ⟨request, member, owner⟩ : s.sender.Queued other := by
    rcases served.noOrphan other before with queued | ⟨current', -⟩
    · exact queued
    · cases current.symm.trans current'
      exact absurd rfl different
  cases queue : s.sender.pending with
  | nil =>
      rw [queue] at member
      exact nomatch member
  | cons first rest =>
      rw [queue] at member
      refine ⟨first, rest, rfl, ?_⟩
      rcases List.mem_cons.mp member with rfl | later
      · have allowed := ok request
        rw [queue] at allowed
        rcases allowed rfl with acknowledged | inactive | later
        · cases current.symm.trans acknowledged
          exact absurd owner.symm different
        · exact absurd (owner ▸ before) inactive
        · rw [owner] at later
          exact later
      · exact ⟨request, later, owner⟩

theorem responseExpired_served (served : s.Served) {now : Time}
    (ok : s.StepOk (.responseExpired now)) (next : s.step (.responseExpired now) = some t) :
    t.Served := by
  obtain ⟨expiry, wait, u, reaction, running, called, rfl⟩ := responseExpired_cases next
  refine ⟨EmsCommandSender.handleResponseTimeout_consistent _ _ _ _, fun other active => ?_⟩
  cases fake : wait.fakeAnswer with
  | false =>
      rw [responseEvent_real fake] at called
      apply EmsCommandSender.timeout_held fake
      exact callback_queued served called
        (fun _ _ _ _ _ stepped active => .inl (timeout_active stepped active)) active
  | true =>
      rw [responseEvent_fake fake] at called
      rcases callback_cases called with ⟨idle, rfl, rfl⟩ | ⟨client, conn, conn', current, -, stepped, rfl⟩
      · rcases served.noOrphan other active with ⟨request, member, -⟩ | ⟨current, -⟩
        · rw [served.consistent.idle idle] at member
          exact nomatch member
        · exact nomatch idle.symm.trans current
      · obtain ⟨rfl, finished⟩ := fakeAnswer_finishes stepped
        obtain ⟨first, rest, queue, later⟩ :=
          fakeAnswer_later served (ok (expiry, wait) running fake) current finished active
        exact EmsCommandSender.fakeAnswer_held (s := { s.sender with
          responseTimeout := s.sender.responseTimeout.expired }) fake current queue later now

omit [DecidableEq κ] in
/-- The remaining completions of the timers leave the clients and the queue alone. -/
theorem timer_served (served : s.Served) {sender : EmsCommandSender κ}
    (queue : sender.pending = s.sender.pending)
    (current : sender.currentClient = s.sender.currentClient)
    (armed : s.sender.Armed → sender.Armed) : (s.setSender sender).Served := by
  refine ⟨⟨fun idle => ?_, fun busy => ?_⟩, fun client active => ?_⟩
  · rw [setSender_sender] at idle ⊢
    rw [queue]
    exact served.consistent.idle (current.symm.trans idle)
  · rw [setSender_sender] at busy ⊢
    rw [current] at busy
    exact armed (served.consistent.armed busy)
  · rcases served.noOrphan client active with ⟨request, member, owner⟩ | ⟨serving, waiting⟩
    · refine .inl ⟨request, ?_, owner⟩
      rw [setSender_sender, queue]
      exact member
    · exact .inr ⟨current.trans serving, armed waiting⟩

/-- Every step that is allowed keeps all clients served. -/
theorem step_served (served : s.Served) {e : Event κ} (ok : s.StepOk e) (next : s.step e = some t) :
    t.Served := by
  cases e with
  | connect client parser =>
      simp only [step] at next
      split at next
      · cases next
        refine ⟨served.consistent, fun other active => ?_⟩
        rcases active_setConnection (s := s) active with ⟨rfl, request⟩ | ⟨-, before⟩
        · have idle : (CommandConnection.new parser).parser.activeRequest = none := parser.2.activeRequest
          rw [idle] at request
          cases request
        · exact served.noOrphan other before
      · cases next
  | disconnect client =>
      simp only [step] at next
      split at next
      · cases next
        exact ⟨served.consistent, served.noOrphan⟩
      · cases next
  | segment client chars =>
      simp only [step] at next
      split at next
      · exact connectionStep_served served next
      · cases next
  | request client env =>
      simp only [step] at next
      split at next
      · exact connectionStep_served served next
      · cases next
  | testModeExpired client now => exact connectionStep_served served next
  | testModeAborted client now => exact connectionStep_served served next
  | telegram now message => exact telegram_served served ok next
  | responseExpired now => exact responseExpired_served served ok next
  | responseAborted =>
      obtain ⟨sender, stepped, rfl⟩ := senderStep_cases next
      obtain ⟨wait, -, rfl⟩ := Option.map_eq_some_iff.mp stepped
      exact timer_served served rfl rfl id
  | sendExpired now =>
      obtain ⟨sender, stepped, rfl⟩ := senderStep_cases next
      obtain ⟨⟨expiry, request⟩, -, rfl⟩ := Option.map_eq_some_iff.mp stepped
      exact timer_served served rfl rfl (fun _ => EmsCommandSender.doSendMessage_armed _ now request)
  | sendAborted now =>
      obtain ⟨sender, stepped, rfl⟩ := senderStep_cases next
      obtain ⟨request, -, rfl⟩ := Option.map_eq_some_iff.mp stepped
      exact timer_served served rfl rfl (fun _ => EmsCommandSender.doSendMessage_armed _ now request)

/-- A run of allowed steps keeps all clients served. -/
theorem run_served {es : List (Event κ)} (run : (system κ).Run StepOk init es s) : s.Served := by
  have start : (init : System κ).Served := by
    refine ⟨⟨fun _ => rfl, fun busy => absurd rfl busy⟩, ?_⟩
    rintro client ⟨conn, present, -⟩
    cases present
  exact run.invariant start (fun _ _ _ served ok next => step_served served ok next)

/-- In a run of allowed steps, with any number of clients and in any order, no client is
    orphaned. -/
theorem run_noOrphan {es : List (Event κ)} (run : (system κ).Run StepOk init es s) : s.NoOrphan :=
  (run_served run).noOrphan

/-- A request and its answer. -/
theorem run_noOrphan_answered :
    ∃ s, (system Nat).Run StepOk init
        [.connect 0 default, .segment 0 "uba checkmaintenanceneeded\n".toList,
          .request 0 ⟨none, fun s => (none, s), 0⟩,
          .telegram 20000 ⟨true, [0, 60, 1, 1, 50, 12, 0, 0, 0, 0], 0x88, 0x0b, 0x15, 0, 0⟩] s ∧
      s.NoOrphan :=
  have run := .ofFold rfl
  ⟨_, run, run_noOrphan run⟩

/-- A telegram from another device, which the parser ignores: the scheduler stops waiting. -/
theorem unrelated_telegram_orphans :
    ¬ ∀ (es : List (Event Nat)) (s : System Nat),
      (system Nat).Run (fun _ _ => True) init es s → s.NoOrphan := by
  intro noOrphan
  have run := noOrphan
    [.connect 0 default, .segment 0 "uba checkmaintenanceneeded\n".toList,
      .request 0 ⟨none, fun s => (none, s), 0⟩,
      .telegram 20000 ⟨true, [0, 0, 0], 0x90, 0x0b, 0x06, 0, 0⟩] _ (.ofFold rfl)
  rcases run 0 ⟨_, rfl, rfl⟩ with ⟨request, member, -⟩ | ⟨current, -⟩
  · cases member
  · cases current

end EmsCollector.System
