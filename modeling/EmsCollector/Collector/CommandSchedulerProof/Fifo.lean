import EmsCollector.Collector.CommandSchedulerProof.Load

/-!
# The scheduler as a queue

While answers come only to a telegram that is waited for, and no acknowledgement is faked, the
scheduler is a queue: its first telegram is delayed or waited for, what clients enqueue goes to the
end, and an answer or a timeout takes the first one off. Whatever else a step does, it transmits.
-/

namespace EmsCollector.EmsCommandSender

variable {κ : Type}

/-- The telegram has been taken from the queue: it is delayed, or its answer is waited for. -/
inductive Taken (s : EmsCommandSender κ) (request : Request κ) : Prop
  | delayed {expiry : Time} (response : s.responseTimeout.wait = none)
      (send : s.sendTimer.wait = some (expiry, request))
  | waiting {expiry : Time} {fakeAnswer : Bool} (send : s.sendTimer.wait = none)
      (response : s.responseTimeout.wait = some (expiry, { fakeAnswer, request }))

/-- The scheduler handles the telegrams of a queue one after the other. -/
inductive Fifo (s : EmsCommandSender κ) : List (Request κ) → Prop
  | idle (idle : s.Idle) : Fifo s []
  | serving {request : Request κ} {rest : List (Request κ)}
      (client : s.currentClient = some request.client) (queue : s.pending = rest)
      (noAborted : s.sendTimer.aborted = []) (taken : Taken s request) : Fifo s (request :: rest)

/-- The telegrams of a client. -/
def requests (client : κ) (messages : List EmsMessage) : List (Request κ) :=
  messages.map fun message => { client, message }

/-- The answer to the telegram is waited for. -/
def Awaits (s : EmsCommandSender κ) (request : Request κ) : Prop :=
  ∃ waiting ∈ s.responseTimeout.wait, waiting.2.request = request

/-- The telegram is transmitted in this history. -/
def Sent (history : List (Time × Action κ)) (request : Request κ) : Prop :=
  ∃ entry ∈ history, entry.2 = .transmitted request

/-- The timeout of the telegram is in this history. -/
def Lost (history : List (Time × Action κ)) (request : Request κ) : Prop :=
  ∃ entry ∈ history, ∃ callee, entry.2 = .timedOut request callee

/-- The telegram was transmitted again after a timeout. -/
def Retried (history : List (Time × Action κ)) (request : Request κ) : Prop :=
  ∃ front back, history = front ++ back ∧ Lost front request ∧ Sent back request

/-- From `s` to `t` telegrams are transmitted and nothing else happens; what is waited for then was
    waited for before or is one of them. -/
def Transmits (s t : EmsCommandSender κ) : Prop :=
  ∃ more, t.history = s.history ++ more ∧
    (∀ entry ∈ more, ∃ request, entry.2 = .transmitted request) ∧
    ∀ request, t.Awaits request → s.Awaits request ∨ Sent more request

variable {s t u : EmsCommandSender κ} {queue : List (Request κ)} {request : Request κ}

theorem not_awaits (free : s.responseTimeout.wait = none) : ¬ s.Awaits request := by
  rintro ⟨waiting, member, -⟩
  cases free.symm.trans member

theorem Transmits.of_eq (history : t.history = s.history)
    (response : t.responseTimeout.wait = s.responseTimeout.wait) : Transmits s t := by
  refine ⟨[], ?_, nofun, fun request awaits => .inl ?_⟩
  · rw [history, List.append_nil]
  · unfold Awaits at awaits
    rw [response] at awaits
    exact awaits

theorem Transmits.refl (s : EmsCommandSender κ) : Transmits s s := .of_eq rfl rfl

theorem Sent.append {front back : List (Time × Action κ)} :
    Sent (front ++ back) request ↔ Sent front request ∨ Sent back request := by
  simp [Sent, or_and_right, exists_or]

theorem Lost.append {front back : List (Time × Action κ)} :
    Lost (front ++ back) request ↔ Lost front request ∨ Lost back request := by
  simp [Lost, or_and_right, exists_or]

theorem Retried.append {front : List (Time × Action κ)} (retried : Retried front request)
    (back : List (Time × Action κ)) : Retried (front ++ back) request := by
  obtain ⟨first, second, rfl, lost, sent⟩ := retried
  exact ⟨first, second ++ back, List.append_assoc .., lost, Sent.append.mpr (.inl sent)⟩

theorem not_lost {more : List (Time × Action κ)}
    (transmitted : ∀ entry ∈ more, ∃ request, entry.2 = .transmitted request) : ¬ Lost more request := by
  rintro ⟨entry, member, callee, lost⟩
  obtain ⟨other, sent⟩ := transmitted entry member
  cases sent.symm.trans lost

theorem Transmits.trans (first : Transmits s t) (second : Transmits t u) : Transmits s u := by
  obtain ⟨more, history, transmitted, awaited⟩ := first
  obtain ⟨more', history', transmitted', awaited'⟩ := second
  refine ⟨more ++ more', ?_, ?_, fun request awaits => ?_⟩
  · rw [history', history, List.append_assoc]
  · intro entry member
    rcases List.mem_append.mp member with old | new
    · exact transmitted entry old
    · exact transmitted' entry new
  · rcases awaited' request awaits with before | sent
    · exact (awaited request before).imp_right fun sent => Sent.append.mpr (.inl sent)
    · exact .inr (Sent.append.mpr (.inr sent))

/-- A transmitted telegram is waited for. -/
theorem doSendMessage_transmits (s : EmsCommandSender κ) (now : Time) (request : Request κ) :
    Transmits s (s.doSendMessage now request) := by
  refine ⟨[(now, .transmitted request)], rfl, ?_, fun other awaits => .inr ?_⟩
  · intro entry member
    cases List.mem_singleton.mp member
    exact ⟨request, rfl⟩
  · obtain ⟨waiting, member, same⟩ := awaits
    cases member
    cases same
    exact ⟨_, List.mem_singleton_self _, rfl⟩

theorem sendOrDelay_transmits (s : EmsCommandSender κ) (now : Time) (request : Request κ) :
    Transmits s (s.sendOrDelay now request) := by
  rcases sendOrDelay_cases s now request with ⟨expiry, delayed⟩ | sent
  · rw [delayed]
    exact .of_eq rfl rfl
  · rw [sent]
    exact doSendMessage_transmits s now request

/-- The first telegram of what is pending is taken. -/
theorem continue_fifo (response : s.responseTimeout.wait = none) (send : s.sendTimer.wait = none)
    (noAborted : s.sendTimer.aborted = []) (pending : s.pending = queue) (now : Time) :
    Fifo (s.continueWithNextRequest now) queue ∧ Transmits s (s.continueWithNextRequest now) := by
  cases queue with
  | nil =>
      rw [continue_nil pending]
      exact ⟨.idle ⟨rfl, pending, response, send, noAborted⟩, .of_eq rfl rfl⟩
  | cons request rest =>
      rw [continue_cons pending]
      have transmits := sendOrDelay_transmits { s with currentClient := some request.client } now request
      refine ⟨?_, transmits⟩
      rcases sendOrDelay_cases { s with currentClient := some request.client } now request with
        ⟨expiry, delayed⟩ | sent
      · rw [delayed]
        refine .serving rfl rfl ?_ (.delayed response rfl)
        exact (DeadlineTimer.asyncWait_aborted send expiry request).trans noAborted
      · rw [sent]
        exact .serving rfl rfl noAborted (.waiting send rfl)

theorem Fifo.current (fifo : Fifo s queue) :
    s.currentClient = queue.head?.map Request.client := by
  cases fifo with
  | idle idle => exact idle.client
  | serving client => exact client

theorem Fifo.noAborted (fifo : Fifo s queue) : s.sendTimer.aborted = [] := by
  cases fifo with
  | idle idle => exact idle.noAborted
  | serving _ _ noAborted => exact noAborted

theorem Fifo.record (fifo : Fifo s queue) (now : Time) (action : Action κ) :
    Fifo (s.record now action) queue := by
  cases fifo with
  | idle idle => exact .idle ⟨idle.client, idle.queue, idle.response, idle.send, idle.noAborted⟩
  | serving client pending noAborted taken =>
      refine .serving client pending noAborted ?_
      cases taken with
      | delayed response send => exact .delayed response send
      | waiting send response => exact .waiting send response

/-- What is waited for is at the front. -/
theorem Fifo.awaited (fifo : Fifo s queue) {expiry : Time} {wait : ResponseWait κ}
    (running : s.responseTimeout.wait = some (expiry, wait)) :
    s.sendTimer.wait = none ∧ ∃ rest, queue = wait.request :: rest ∧ s.pending = rest ∧
      s.currentClient = some wait.request.client := by
  cases fifo with
  | idle idle => exact nomatch idle.response.symm.trans running
  | serving client queue noAborted taken =>
      cases taken with
      | delayed response => exact nomatch response.symm.trans running
      | waiting send response =>
          cases response.symm.trans running
          exact ⟨send, _, rfl, queue, client⟩

/-- A client enqueues a telegram. -/
theorem sendMessage_fifo (fifo : Fifo s queue) (now : Time) (client : κ) (message : EmsMessage) :
    Fifo (s.sendMessage now client message) (queue ++ requests client [message]) ∧
      Transmits s (s.sendMessage now client message) := by
  cases fifo with
  | idle idle =>
      rw [sendMessage_idle idle.client, idle.queue]
      let next : EmsCommandSender κ := { s with pending := [{ client, message }] }
      obtain ⟨fifo, transmits⟩ :=
        continue_fifo (s := next) idle.response idle.send idle.noAborted rfl now
      exact ⟨fifo, (Transmits.of_eq (t := next) rfl rfl).trans transmits⟩
  | serving served pending noAborted taken =>
      rw [sendMessage_busy served]
      refine ⟨.serving served (congrArg (· ++ _) pending) noAborted ?_, .of_eq rfl rfl⟩
      cases taken with
      | delayed response send => exact .delayed response send
      | waiting send response => exact .waiting send response

theorem sendAll_fifo (fifo : Fifo s queue) (now : Time) (client : κ) (messages : List EmsMessage) :
    Fifo (s.sendAll now client messages)
        (queue ++ requests client messages) ∧
      Transmits s (s.sendAll now client messages) := by
  induction messages generalizing s queue with
  | nil =>
      refine ⟨?_, .refl s⟩
      rw [requests, List.map_nil, List.append_nil]
      exact fifo
  | cons message rest ih =>
      obtain ⟨first, transmits⟩ := sendMessage_fifo fifo now client message
      obtain ⟨all, transmits'⟩ := ih first
      rw [List.append_assoc] at all
      exact ⟨all, transmits.trans transmits'⟩

/-- The client of the telegram that was first enqueues what it reacts with, and the next telegram
    is taken. -/
theorem callClient_fifo {client : κ} (current : s.currentClient = some client)
    (response : s.responseTimeout.wait = none) (send : s.sendTimer.wait = none)
    (noAborted : s.sendTimer.aborted = []) (now : Time) (reaction : List EmsMessage) :
    let t := (s.callClient now reaction).continueWithNextRequest now
    Fifo t (s.pending ++ requests client reaction) ∧ Transmits s t := by
  intro t
  have called := callClient_busy current now reaction
  obtain ⟨fifo, transmits⟩ : Fifo t (s.callClient now reaction).pending ∧
      Transmits (s.callClient now reaction) t :=
    continue_fifo (by rw [called]; exact response) (by rw [called]; exact send)
      (by rw [called]; exact noAborted) rfl now
  rw [called] at fifo transmits
  exact ⟨fifo, (Transmits.of_eq (s := s) rfl rfl).trans transmits⟩

/-- A telegram for a client whose telegram is waited for takes that one off the queue. -/
theorem telegram_fifo (fifo : Fifo s queue) {expiry : Time} {wait : ResponseWait κ}
    (running : s.responseTimeout.wait = some (expiry, wait)) (now : Time) (message : EmsMessage)
    (reaction : List EmsMessage) :
    let t := s.handlePcMessage now message reaction
    Fifo t (queue.tail ++ requests wait.request.client reaction) ∧
      Transmits { s with responseTimeout := s.responseTimeout.cancel } t := by
  intro t
  have noAborted := fifo.noAborted
  obtain ⟨send, rest, rfl, pending, client⟩ := fifo.awaited running
  let u : EmsCommandSender κ := { s.setLastCommTime message.source now with
    responseTimeout := s.responseTimeout.cancel }
  obtain ⟨after, transmits⟩ := callClient_fifo (s := u) client rfl send noAborted now reaction
  rw [show u.pending = rest from pending] at after
  exact ⟨after, (Transmits.of_eq (t := u) rfl rfl).trans transmits⟩

/-- A telegram that nobody waits for changes nothing. -/
theorem telegram_unasked (idle : s.Idle) (now : Time) (message : EmsMessage) :
    (s.handlePcMessage now message []).Idle ∧ Transmits s (s.handlePcMessage now message []) := by
  let u : EmsCommandSender κ := { s.setLastCommTime message.source now with
    responseTimeout := s.responseTimeout.cancel }
  have continued : s.handlePcMessage now message [] =
      (u.callClient now []).continueWithNextRequest now := rfl
  rw [continued, callClient_nil, continue_nil (s := u) idle.queue]
  refine ⟨⟨rfl, idle.queue, rfl, idle.send, idle.noAborted⟩, .of_eq rfl ?_⟩
  exact idle.response.symm

/-- A timeout takes its telegram off the queue. -/
theorem timeout_fifo (fifo : Fifo s queue) {expiry : Time} {wait : ResponseWait κ}
    (running : s.responseTimeout.wait = some (expiry, wait)) (real : wait.fakeAnswer = false)
    (now : Time) (reaction : List EmsMessage) :
    let u : EmsCommandSender κ := { s with responseTimeout := s.responseTimeout.expired }
    let t := u.handleResponseTimeout now wait reaction
    Fifo t (queue.tail ++ requests wait.request.client reaction) ∧
      Transmits (u.record now (.timedOut wait.request s.currentClient)) t := by
  intro u t
  have noAborted := fifo.noAborted
  obtain ⟨send, rest, rfl, pending, client⟩ := fifo.awaited running
  let v := u.record now (.timedOut wait.request s.currentClient)
  have next : t = (v.callClient now reaction).continueWithNextRequest now := by
    show u.handleResponseTimeout now wait reaction = _
    unfold handleResponseTimeout
    rw [real]
    rfl
  obtain ⟨after, transmits⟩ := callClient_fifo (s := v) client rfl send noAborted now reaction
  rw [show v.pending = rest from pending, ← next] at after
  rw [← next] at transmits
  exact ⟨after, transmits⟩

/-- The send timer transmits the delayed telegram. -/
theorem sendExpired_fifo (fifo : Fifo s queue) {expiry : Time}
    (running : s.sendTimer.wait = some (expiry, request)) (now : Time) :
    let t := ({ s with sendTimer := s.sendTimer.expired } : EmsCommandSender κ).doSendMessage now request
    Fifo t queue ∧ Transmits s t := by
  intro t
  have transmits : Transmits s t := (Transmits.of_eq rfl rfl).trans
    (doSendMessage_transmits { s with sendTimer := s.sendTimer.expired } now request)
  refine ⟨?_, transmits⟩
  cases fifo with
  | idle idle => exact nomatch idle.send.symm.trans running
  | serving client pending noAborted taken =>
      cases taken with
      | waiting send => exact nomatch send.symm.trans running
      | delayed response send =>
          cases send.symm.trans running
          exact .serving client pending noAborted (.waiting rfl rfl)

/-- The handler of an aborted wait of the response timer does nothing. -/
theorem responseAborted_fifo (fifo : Fifo s queue) :
    let t : EmsCommandSender κ := { s with responseTimeout := s.responseTimeout.dropAborted }
    Fifo t queue ∧ Transmits s t := by
  refine ⟨?_, .of_eq rfl rfl⟩
  cases fifo with
  | idle idle => exact .idle ⟨idle.client, idle.queue, idle.response, idle.send, idle.noAborted⟩
  | serving client pending noAborted taken =>
      refine .serving client pending noAborted ?_
      cases taken with
      | delayed response send => exact .delayed response send
      | waiting send response => exact .waiting send response

end EmsCollector.EmsCommandSender
