import EmsCollector.Collector.CommandHandlerProof.Connection

/-!
# Stopped connections

`stopConnection` takes a connection out of `m_connections` and closes its socket, but nothing
tells the scheduler, whose queue keeps the client. Only where a connection is stopped while the
scheduler does not keep its client, and where the timer of the test mode does not enqueue a
telegram for a stopped connection, does the scheduler call registered connections only.
-/

namespace EmsCollector.System

variable {κ : Type} [DecidableEq κ]

/-- Every client in `m_currentClient` or `m_pending` belongs to a registered connection. -/
def OnlyRegistered (s : System κ) : Prop :=
  ∀ client, s.sender.Keeps client → s.registered client = true

/-- The client whose `onIncomingMessage` or `onTimeout` is called in a step. -/
def callee (s : System κ) : Event κ → Option κ
  | .telegram .. => s.sender.currentClient
  | .responseExpired _ => s.sender.responseTimeout.wait.bind fun _ => s.sender.currentClient
  | _ => none

/-- Whether the timer of the test mode of a connection has the handler that enqueues a telegram
    next among the aborted ones. -/
def AbortedStart (s : System κ) (client : κ) : Prop :=
  ∃ conn ∈ s.connections client, conn.parser.testModeRepeater.aborted.head? = some .start

/-- The steps after which the scheduler keeps no stopped client: a connection is stopped only
    while the scheduler does not keep its client, and a handler of the test mode that enqueues a
    telegram runs only for a registered connection. -/
def DisconnectOk (s : System κ) : Event κ → Prop
  | .disconnect client => ¬ s.sender.Keeps client
  | .testModeExpired client _ => s.registered client = true
  | .testModeAborted client _ => s.AbortedStart client → s.registered client = true
  | _ => True

instance (s : System κ) (client : κ) : Decidable (s.AbortedStart client) :=
  inferInstanceAs (Decidable (∃ conn ∈ s.connections client, _))

instance (s : System κ) (e : Event κ) : Decidable (s.DisconnectOk e) :=
  match e with
  | .disconnect client => inferInstanceAs (Decidable (¬ s.sender.Keeps client))
  | .testModeExpired client _ => inferInstanceAs (Decidable (s.registered client = true))
  | .testModeAborted client _ =>
      inferInstanceAs (Decidable (s.AbortedStart client → s.registered client = true))
  | .connect .. | .segment .. | .request .. | .telegram .. | .responseExpired _
  | .responseAborted | .sendExpired _ | .sendAborted _ => inferInstanceAs (Decidable True)

variable {s t : System κ}

@[simp] theorem setConnection_registered (s : System κ) (client : κ) (conn : CommandConnection) :
    (s.setConnection client conn).registered = s.registered := rfl

/-- A step of a registered connection, or one in which it enqueues nothing. -/
theorem connectionStep_onlyRegistered (only : s.OnlyRegistered) {now : Time} {client : κ}
    {e : CommandConnection.Event} (next : s.connectionStep now client e = some t)
    (quiet : ∀ conn conn' sent, s.connections client = some conn →
      conn.step e = some (conn', sent) → sent = [] ∨ s.registered client = true) :
    t.OnlyRegistered := by
  obtain ⟨conn, conn', sent, present, stepped, rfl⟩ := connectionStep_cases next
  intro other kept
  show s.registered other = true
  rcases quiet conn conn' sent present stepped with rfl | registered
  · exact only other kept
  · rcases EmsCommandSender.sendAll_kept (s := s.sender) kept with before | rfl
    · exact only other before
    · exact registered

omit [DecidableEq κ] in
/-- A step of the scheduler that brings no client to it. -/
theorem setSender_onlyRegistered (only : s.OnlyRegistered) {u : System κ}
    {sender : EmsCommandSender κ} (registered : u.registered = s.registered)
    (kept : ∀ client, sender.Keeps client → s.sender.Keeps client) :
    (u.setSender sender).OnlyRegistered := by
  intro client held
  show u.registered client = true
  rw [registered]
  exact only client (kept client held)

theorem callback_registered {e : CommandConnection.Event} {reaction : List EmsMessage}
    (next : s.callback e = some (t, reaction)) : t.registered = s.registered := by
  rcases callback_cases next with ⟨-, rfl, -⟩ | ⟨client, conn, conn', -, -, -, rfl⟩
  · rfl
  · rfl

/-- The handler of an aborted wait enqueues a telegram only if it is the one of
    `uba testmode on`. -/
theorem testModeAborted_quiet {conn conn' : CommandConnection} {now : Time}
    {sent : List EmsMessage} (next : conn.step (.testModeAborted now) = some (conn', sent))
    (again : conn.parser.testModeRepeater.aborted.head? ≠ some .start) : sent = [] := by
  obtain ⟨q, ⟨wait, first, rfl⟩, performed⟩ := CommandConnection.step_yields next
  cases wait with
  | start => exact absurd first again
  | again =>
      rw [performed.sent]
      show conn.parser.effects.filterMap Effect.message? = []
      rw [conn.quiet]
      rfl

theorem step_onlyRegistered (only : s.OnlyRegistered) {e : Event κ} (ok : s.DisconnectOk e)
    (next : s.step e = some t) : t.OnlyRegistered := by
  cases e with
  | connect client parser =>
      simp only [step] at next
      split at next
      · cases next
        intro other kept
        simp only [setRegistered]
        split
        · rfl
        · exact only other kept
      · cases next
  | disconnect client =>
      simp only [step] at next
      split at next
      · cases next
        intro other kept
        simp only [setRegistered]
        split
        · rename_i same
          subst same
          exact absurd kept ok
        · exact only other kept
      · cases next
  | segment client chars =>
      simp only [step] at next
      split at next
      · rename_i registered
        exact connectionStep_onlyRegistered only next (fun _ _ _ _ _ => .inr registered)
      · cases next
  | request client env =>
      simp only [step] at next
      split at next
      · rename_i registered
        exact connectionStep_onlyRegistered only next (fun _ _ _ _ _ => .inr registered)
      · cases next
  | testModeExpired client now =>
      exact connectionStep_onlyRegistered only next (fun _ _ _ _ _ => .inr ok)
  | testModeAborted client now =>
      apply connectionStep_onlyRegistered only next
      intro conn conn' sent present stepped
      by_cases start : conn.parser.testModeRepeater.aborted.head? = some .start
      · exact .inr (ok ⟨conn, present, start⟩)
      · exact .inl (testModeAborted_quiet stepped start)
  | telegram now message =>
      obtain ⟨u, reaction, called, rfl⟩ := telegram_cases next
      apply setSender_onlyRegistered only (callback_registered called)
      intro client kept
      have before := EmsCommandSender.handlePcMessage_kept kept
      exact before
  | responseExpired now =>
      obtain ⟨expiry, wait, u, reaction, -, called, rfl⟩ := responseExpired_cases next
      apply setSender_onlyRegistered only (callback_registered called)
      intro client kept
      have before := EmsCommandSender.handleResponseTimeout_kept kept
      exact before
  | responseAborted =>
      obtain ⟨sender, stepped, rfl⟩ := senderStep_cases next
      obtain ⟨wait, -, rfl⟩ := Option.map_eq_some_iff.mp stepped
      exact setSender_onlyRegistered only rfl (fun _ kept => kept)
  | sendExpired now =>
      obtain ⟨sender, stepped, rfl⟩ := senderStep_cases next
      obtain ⟨⟨expiry, request⟩, -, rfl⟩ := Option.map_eq_some_iff.mp stepped
      exact setSender_onlyRegistered only rfl (fun _ kept => kept)
  | sendAborted now =>
      obtain ⟨sender, stepped, rfl⟩ := senderStep_cases next
      obtain ⟨request, -, rfl⟩ := Option.map_eq_some_iff.mp stepped
      exact setSender_onlyRegistered only rfl (fun _ kept => kept)

omit [DecidableEq κ] in
theorem callee_kept {e : Event κ} {client : κ} (called : s.callee e = some client) :
    s.sender.Keeps client := by
  cases e with
  | telegram now message => exact .inl called
  | responseExpired now =>
      obtain ⟨wait, -, current⟩ := Option.bind_eq_some_iff.mp called
      exact .inl current
  | _ => cases called

/-- In a run of allowed steps, in any order, every client that the scheduler keeps is registered,
    and so is the one that the next step calls. -/
theorem run_onlyRegistered {es : List (Event κ)} (run : (system κ).Run DisconnectOk init es s) :
    s.OnlyRegistered ∧ ∀ e client, s.callee e = some client → s.registered client = true := by
  have start : (init : System κ).OnlyRegistered := by
    rintro client (current | ⟨request, member, -⟩)
    · cases current
    · cases member
  have only := run.invariant start (fun _ _ _ only ok next => step_onlyRegistered only ok next)
  exact ⟨only, fun e client called => only client (callee_kept called)⟩

/-- A request, its answer, and then the connection is stopped. -/
theorem run_onlyRegistered_answered :
    ∃ s, (system Nat).Run DisconnectOk init
        [.connect 0 default, .segment 0 "uba checkmaintenanceneeded\n".toList,
          .request 0 ⟨none, fun s => (none, s), 0⟩,
          .telegram 20000 ⟨true, [0, 60, 1, 1, 50, 12, 0, 0, 0, 0], 0x88, 0x0b, 0x15, 0, 0⟩,
          .disconnect 0] s ∧
      s.OnlyRegistered ∧ ∀ e client, s.callee e = some client → s.registered client = true :=
  have run := .ofFold rfl
  ⟨_, run, run_onlyRegistered run⟩

/-- A connection that is stopped while its request is outstanding: the timeout still calls it. -/
theorem stopped_while_waiting :
    ¬ ∀ (es : List (Event Nat)) (s : System Nat), (system Nat).Run (fun _ _ => True) init es s →
      s.OnlyRegistered ∧ ∀ e client, s.callee e = some client → s.registered client = true := by
  intro safe
  obtain ⟨-, calls⟩ := safe
    [.connect 0 default, .segment 0 "uba checkmaintenanceneeded\n".toList,
      .request 0 ⟨none, fun s => (none, s), 0⟩, .disconnect 0] _ (.ofFold rfl)
  exact absurd (calls (.responseExpired 1000000) 0 rfl) (by decide)

end EmsCollector.System
