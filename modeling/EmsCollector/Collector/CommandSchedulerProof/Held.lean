import EmsCollector.Collector.CommandScheduler

/-!
# Who the scheduler will still call

A client is held if it has an entry in the queue, or is the current one while a timer is armed.
The handlers of both timers lead to the client that is current when they run, whatever telegram
the timer was set for.
-/

namespace EmsCollector.EmsCommandSender

variable {κ : Type} {s : EmsCommandSender κ} {client : κ}

/-- The client has an entry in `m_pending`. -/
def Queued (s : EmsCommandSender κ) (client : κ) : Prop :=
  ∃ request ∈ s.pending, request.client = client

instance [DecidableEq κ] (s : EmsCommandSender κ) (client : κ) : Decidable (s.Queued client) :=
  inferInstanceAs (Decidable (∃ request ∈ s.pending, request.client = client))

/-- The response timer or the send timer is armed. -/
def Armed (s : EmsCommandSender κ) : Prop :=
  s.responseTimeout.wait.isSome = true ∨ s.sendTimer.wait.isSome = true

/-- The client has an entry in the queue, or is being served. -/
def Held (s : EmsCommandSender κ) (client : κ) : Prop :=
  s.Queued client ∨ s.currentClient = some client ∧ s.Armed

/-- Whatever happens, the queue is empty when there is no current client, and a timer is armed
    when there is one. -/
structure Consistent (s : EmsCommandSender κ) : Prop where
  idle : s.currentClient = none → s.pending = []
  armed : s.currentClient ≠ none → s.Armed

theorem doSendMessage_armed (s : EmsCommandSender κ) (now : Time) (request : Request κ) :
    (s.doSendMessage now request).Armed := .inl rfl

theorem sendOrDelay_armed (s : EmsCommandSender κ) (now : Time) (request : Request κ) :
    (s.sendOrDelay now request).Armed ∧
      (s.sendOrDelay now request).currentClient = s.currentClient := by
  rcases sendOrDelay_cases s now request with ⟨expiry, delayed⟩ | sent
  · rw [delayed]
    exact ⟨.inr rfl, rfl⟩
  · rw [sent]
    exact ⟨doSendMessage_armed s now request, rfl⟩

/-- Taking the next request restores the invariant from any state. -/
theorem continue_consistent (s : EmsCommandSender κ) (now : Time) :
    Consistent (s.continueWithNextRequest now) := by
  cases queue : s.pending with
  | nil =>
      rw [continue_nil queue]
      exact ⟨fun _ => queue, fun busy => absurd rfl busy⟩
  | cons request rest =>
      rw [continue_cons queue]
      obtain ⟨armed, current⟩ := sendOrDelay_armed { s with currentClient := some request.client }
        now request
      refine ⟨fun idle => ?_, fun _ => armed⟩
      exact nomatch current.symm.trans idle

/-- The next request belongs to the current client afterwards, the others stay in the queue. -/
theorem continue_held (queued : s.Queued client) (now : Time) :
    (s.continueWithNextRequest now).Held client := by
  obtain ⟨request, member, owner⟩ := queued
  cases queue : s.pending with
  | nil =>
      rw [queue] at member
      exact nomatch member
  | cons first rest =>
      rw [queue] at member
      rw [continue_cons queue]
      obtain ⟨armed, current⟩ := sendOrDelay_armed { s with currentClient := some first.client }
        now first
      rcases List.mem_cons.mp member with rfl | later
      · refine .inr ⟨?_, armed⟩
        rw [← owner]
        exact current
      · exact .inl ⟨request, later, owner⟩

/-- Of a queue with more than one entry, all but the first stay. -/
theorem continue_queued {first : Request κ} {rest : List (Request κ)}
    (queue : s.pending = first :: rest) (now : Time) :
    (s.continueWithNextRequest now).pending = rest := by
  rw [continue_cons queue]

theorem sendMessage_consistent (consistent : Consistent s) (now : Time) (client : κ) (message : EmsMessage) :
    Consistent (s.sendMessage now client message) := by
  cases who : s.currentClient with
  | none =>
      rw [sendMessage_idle who]
      exact continue_consistent _ now
  | some other =>
      rw [sendMessage_busy who]
      refine ⟨fun idle => (nomatch who.symm.trans idle), fun busy => ?_⟩
      exact consistent.armed busy

/-- A client that enqueues a telegram is held. -/
theorem sendMessage_held (now : Time) (message : EmsMessage) :
    (s.sendMessage now client message).Held client := by
  have queued : Queued { s with pending := s.pending ++ [{ client, message }] } client :=
    ⟨_, List.mem_append_right _ (List.mem_singleton_self _), rfl⟩
  cases who : s.currentClient with
  | none =>
      rw [sendMessage_idle who]
      exact continue_held queued now
  | some other =>
      rw [sendMessage_busy who]
      exact .inl queued

/-- The other clients stay held. -/
theorem sendMessage_keeps (held : s.Held client) (now : Time) (other : κ) (message : EmsMessage) :
    (s.sendMessage now other message).Held client := by
  cases who : s.currentClient with
  | none =>
      rw [sendMessage_idle who]
      rcases held with ⟨request, member, owner⟩ | ⟨current, -⟩
      · exact continue_held ⟨request, List.mem_append_left _ member, owner⟩ now
      · exact nomatch who.symm.trans current
  | some busy =>
      rw [sendMessage_busy who]
      rcases held with ⟨request, member, owner⟩ | ⟨current, armed⟩
      · exact .inl ⟨request, List.mem_append_left _ member, owner⟩
      · rw [who] at current
        cases current
        exact .inr ⟨who, armed⟩

theorem sendAll_consistent (consistent : Consistent s) (now : Time) (other : κ) (messages : List EmsMessage) :
    Consistent (s.sendAll now other messages) := by
  induction messages generalizing s with
  | nil => exact consistent
  | cons message rest ih => exact ih (sendMessage_consistent consistent now other message)

theorem sendAll_keeps (held : s.Held client) (now : Time) (other : κ) (messages : List EmsMessage) :
    (s.sendAll now other messages).Held client := by
  induction messages generalizing s with
  | nil => exact held
  | cons message rest ih => exact ih (sendMessage_keeps held now other message)

theorem sendAll_held (now : Time) {messages : List EmsMessage} (some : messages ≠ []) :
    (s.sendAll now client messages).Held client := by
  cases messages with
  | nil => exact absurd rfl some
  | cons message rest => exact sendAll_keeps (sendMessage_held now message) now client rest

/-- What a callback leaves in the queue. -/
theorem callClient_queued (now : Time) (reaction : List EmsMessage)
    (queued : s.Queued client ∨ s.currentClient = some client ∧ reaction ≠ []) :
    (s.callClient now reaction).Queued client := by
  cases who : s.currentClient with
  | none =>
      rw [callClient_idle who]
      rcases queued with queued | ⟨current, -⟩
      · exact queued
      · exact nomatch who.symm.trans current
  | some other =>
      rw [callClient_busy who]
      rcases queued with ⟨request, member, owner⟩ | ⟨current, some⟩
      · exact ⟨request, List.mem_append_left _ member, owner⟩
      · rw [who] at current
        cases current
        obtain ⟨message, member⟩ := List.exists_mem_of_ne_nil reaction some
        exact ⟨⟨client, message⟩, List.mem_append_right _ (List.mem_map_of_mem member), rfl⟩

theorem handlePcMessage_consistent (s : EmsCommandSender κ) (now : Time) (message : EmsMessage)
    (reaction : List EmsMessage) : Consistent (s.handlePcMessage now message reaction) :=
  continue_consistent _ now

/-- The clients that `handlePcMessage` leaves held. -/
theorem handlePcMessage_held (now : Time) (message : EmsMessage) (reaction : List EmsMessage)
    (queued : s.Queued client ∨ s.currentClient = some client ∧ reaction ≠ []) :
    (s.handlePcMessage now message reaction).Held client := by
  have called : (EmsCommandSender.callClient { s.setLastCommTime message.source now with
      responseTimeout := s.responseTimeout.cancel } now reaction).Queued client :=
    callClient_queued now reaction queued
  exact continue_held called now

/-- Going on twice drops the first entry of the queue; who has a later one stays held. -/
theorem handlePcMessage_twice_held {first : Request κ} {rest : List (Request κ)}
    (queue : s.pending = first :: rest) (later : ∃ request ∈ rest, request.client = client)
    (now : Time) (message : EmsMessage) :
    ((s.handlePcMessage now message []).continueWithNextRequest now).Held client := by
  apply continue_held
  unfold Queued
  simp only [handlePcMessage, callClient_nil]
  rw [continue_queued]
  · exact later
  · exact queue

/-- Both handlers of the response timer end by taking the next request. -/
theorem handleResponseTimeout_consistent (s : EmsCommandSender κ) (now : Time)
    (wait : ResponseWait κ) (reaction : List EmsMessage) :
    Consistent (s.handleResponseTimeout now wait reaction) := by
  unfold handleResponseTimeout
  split
  · dsimp only
    split
    · exact continue_consistent _ now
    · exact continue_consistent _ now
  · exact continue_consistent _ now

theorem timeout_held {wait : ResponseWait κ} (real : wait.fakeAnswer = false) (now : Time)
    (reaction : List EmsMessage)
    (queued : s.Queued client ∨ s.currentClient = some client ∧ reaction ≠ []) :
    (s.handleResponseTimeout now wait reaction).Held client := by
  simp only [handleResponseTimeout, real, Bool.false_eq_true, if_false]
  apply continue_held
  apply callClient_queued
  exact queued

theorem fakeAnswer_held {wait : ResponseWait κ} (fake : wait.fakeAnswer = true) {busy : κ}
    (current : s.currentClient = some busy) {first : Request κ} {rest : List (Request κ)}
    (queue : s.pending = first :: rest) (later : ∃ request ∈ rest, request.client = client)
    (now : Time) : (s.handleResponseTimeout now wait []).Held client := by
  have twice := handlePcMessage_twice_held (s := s.record now (.fakeAnswered wait.request (some busy)))
    queue later now fakeMessage
  simp only [handleResponseTimeout, fake, if_true, record, current]
  simp only [record, current] at twice
  exact twice

/-- The scheduler keeps the client in `m_currentClient` or `m_pending`. -/
def Keeps (s : EmsCommandSender κ) (client : κ) : Prop :=
  s.currentClient = some client ∨ s.Queued client

instance [DecidableEq κ] (s : EmsCommandSender κ) (client : κ) : Decidable (s.Keeps client) :=
  inferInstanceAs (Decidable (_ ∨ _))

theorem continue_kept {now : Time} (kept : (s.continueWithNextRequest now).Keeps client) :
    s.Queued client := by
  cases queue : s.pending with
  | nil =>
      rw [continue_nil queue] at kept
      rcases kept with current | queued
      · cases current
      · exact queued
  | cons first rest =>
      rw [continue_cons queue] at kept
      rcases kept with current | ⟨request, member, owner⟩
      · have same := (sendOrDelay_armed { s with currentClient := some first.client } now first).2
        have owner : some first.client = some client := same.symm.trans current
        cases owner
        refine ⟨first, ?_, rfl⟩
        rw [queue]
        exact List.mem_cons_self ..
      · refine ⟨request, ?_, owner⟩
        rw [queue]
        exact List.mem_cons_of_mem _ member

/-- Only the client that enqueues a telegram may be new to the scheduler. -/
theorem sendMessage_kept {now : Time} {other : κ} {message : EmsMessage}
    (kept : (s.sendMessage now other message).Keeps client) : s.Keeps client ∨ client = other := by
  have old (queued : Queued { s with pending := s.pending ++ [{ client := other, message }] } client) :
      s.Keeps client ∨ client = other := by
    obtain ⟨request, member, owner⟩ := queued
    rcases List.mem_append.mp member with before | new
    · exact .inl (.inr ⟨request, before, owner⟩)
    · cases List.mem_singleton.mp new
      exact .inr owner.symm
  cases who : s.currentClient with
  | none =>
      rw [sendMessage_idle who] at kept
      exact old (continue_kept kept)
  | some busy =>
      rw [sendMessage_busy who] at kept
      rcases kept with current | queued
      · exact .inl (.inl (who.trans (who.symm.trans current)))
      · exact old queued

theorem sendAll_kept {now : Time} {other : κ} {messages : List EmsMessage}
    (kept : (s.sendAll now other messages).Keeps client) : s.Keeps client ∨ client = other := by
  induction messages generalizing s with
  | nil => exact .inl kept
  | cons message rest ih =>
      rcases ih kept with before | same
      · exact sendMessage_kept before
      · exact .inr same

theorem callClient_kept {now : Time} {reaction : List EmsMessage}
    (kept : (s.callClient now reaction).Keeps client) : s.Keeps client := by
  cases who : s.currentClient with
  | none =>
      rw [callClient_idle who] at kept
      exact kept
  | some busy =>
      rw [callClient_busy who] at kept
      rcases kept with current | ⟨request, member, owner⟩
      · exact .inl (who.trans (who.symm.trans current))
      · rcases List.mem_append.mp member with before | new
        · exact .inr ⟨request, before, owner⟩
        · obtain ⟨message, -, rfl⟩ := List.mem_map.mp new
          cases owner
          exact .inl who

theorem handlePcMessage_kept {now : Time} {message : EmsMessage} {reaction : List EmsMessage}
    (kept : (s.handlePcMessage now message reaction).Keeps client) : s.Keeps client := by
  have queued := continue_kept kept
  have before := callClient_kept (Or.inr queued)
  exact before

/-- The response timer brings no client to the scheduler. -/
theorem handleResponseTimeout_kept {now : Time} {wait : ResponseWait κ} {reaction : List EmsMessage}
    (kept : (s.handleResponseTimeout now wait reaction).Keeps client) : s.Keeps client := by
  unfold handleResponseTimeout at kept
  split at kept
  · dsimp only at kept
    split at kept
    · have queued := continue_kept kept
      have before := handlePcMessage_kept (Or.inr queued)
      exact before
    · have queued := continue_kept kept
      exact .inr queued
  · have queued := continue_kept kept
    have before := callClient_kept (Or.inr queued)
    exact before

end EmsCollector.EmsCommandSender
