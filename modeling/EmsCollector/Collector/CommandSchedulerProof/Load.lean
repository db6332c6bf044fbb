import EmsCollector.Collector.CommandSchedulerProof.Accounting
import EmsCollector.Collector.CommandSchedulerProof.Exclusive

/-!
# How long the scheduler can go on

A scheduler that only handles reads, and gets no telegram, waits for one timer after the other:
every telegram takes one wait of the send timer at most and one of the response timer. `load`
bounds the completions that are left.
-/

namespace EmsCollector.EmsCommandSender

variable {κ : Type}

/-- Nothing to send, and nothing to wait for. -/
structure Idle (s : EmsCommandSender κ) : Prop where
  client : s.currentClient = none
  queue : s.pending = []
  response : s.responseTimeout.wait = none
  send : s.sendTimer.wait = none
  noAborted : s.sendTimer.aborted = []

/-- Only reads are queued, delayed or waited for. -/
structure Polling (s : EmsCommandSender κ) : Prop where
  phase : ∃ current, Phase s current
  noAborted : s.sendTimer.aborted = []
  queue : ∀ request ∈ s.pending, request.message.Read
  delayed : ∀ wait ∈ s.sendTimer.wait, wait.2.message.Read
  waiting : ∀ wait ∈ s.responseTimeout.wait, wait.2.fakeAnswer = false

/-- Three completions for each telegram in the queue, two for a delayed one, one for a telegram
    that is waited for, and one for each wait that was aborted. -/
def load (s : EmsCommandSender κ) : Nat :=
  3 * s.pending.length + (if s.sendTimer.wait.isSome then 2 else 0) +
    (if s.responseTimeout.wait.isSome then 1 else 0) + s.responseTimeout.aborted.length

/-- Between two telegrams: only the queue is left. -/
structure Resting (s : EmsCommandSender κ) : Prop where
  response : s.responseTimeout.wait = none
  send : s.sendTimer.wait = none
  noAborted : s.sendTimer.aborted = []
  queue : ∀ request ∈ s.pending, request.message.Read

variable {s : EmsCommandSender κ}

theorem load_resting (send : s.sendTimer.wait = none) (response : s.responseTimeout.wait = none) :
    s.load = 3 * s.pending.length + s.responseTimeout.aborted.length := by
  simp [load, send, response]

theorem load_delayed {delayed : Time × Request κ} (send : s.sendTimer.wait = some delayed)
    (response : s.responseTimeout.wait = none) :
    s.load = 3 * s.pending.length + 2 + s.responseTimeout.aborted.length := by
  simp [load, send, response]

theorem load_waiting {waiting : Time × ResponseWait κ} (send : s.sendTimer.wait = none)
    (response : s.responseTimeout.wait = some waiting) :
    s.load = 3 * s.pending.length + 1 + s.responseTimeout.aborted.length := by
  simp [load, send, response]

theorem Idle.polling (idle : s.Idle) : Polling s where
  phase := ⟨[], .idle idle.client idle.queue idle.response idle.send⟩
  noAborted := idle.noAborted
  queue := by
    rw [idle.queue]
    exact nofun
  delayed := by
    rw [idle.send]
    exact nofun
  waiting := by
    rw [idle.response]
    exact nofun

/-- A read is transmitted and its answer awaited. -/
theorem doSendMessage_polling {request : Request κ} (client : s.currentClient = some request.client)
    (send : s.sendTimer.wait = none) (noAborted : s.sendTimer.aborted = [])
    (queue : ∀ request ∈ s.pending, request.message.Read) (read : request.message.Read) (now : Time) :
    Polling (s.doSendMessage now request) where
  phase := ⟨[request], .waiting client rfl send⟩
  noAborted := noAborted
  queue := queue
  delayed := by
    show ∀ wait ∈ s.sendTimer.wait, _
    rw [send]
    exact nofun
  waiting := by
    rintro _ ⟨⟩
    exact decide_eq_false read

/-- The next telegram is taken from the queue, and has at most as many completions left as it was
    worth there; without one the scheduler is idle. -/
theorem continue_polling (resting : Resting s) (now : Time) :
    Polling (s.continueWithNextRequest now) ∧ (s.continueWithNextRequest now).load ≤ s.load := by
  obtain ⟨response, send, noAborted, queue⟩ := resting
  have before := load_resting send response
  cases pending : s.pending with
  | nil =>
      rw [continue_nil pending]
      exact ⟨Idle.polling ⟨rfl, pending, response, send, noAborted⟩, Nat.le_refl _⟩
  | cons request rest =>
      rw [pending, List.forall_mem_cons] at queue
      obtain ⟨read, others⟩ := queue
      rw [pending, List.length_cons] at before
      rw [continue_cons pending]
      rcases sendOrDelay_cases { s with currentClient := some request.client } now request with
        ⟨expiry, delayed⟩ | sent
      · rw [delayed]
        refine ⟨⟨⟨[], .delayed rfl response rfl⟩, ?_, others, ?_, ?_⟩, ?_⟩
        · exact (DeadlineTimer.asyncWait_aborted send expiry request).trans noAborted
        · rintro _ ⟨⟩
          exact read
        · show ∀ wait ∈ s.responseTimeout.wait, _
          rw [response]
          exact nofun
        · refine Nat.le_trans (Nat.le_of_eq (load_delayed rfl response)) ?_
          show 3 * rest.length + 2 + s.responseTimeout.aborted.length ≤ _
          omega
      · rw [sent]
        refine ⟨doSendMessage_polling (s := { s with currentClient := some request.client, pending := rest })
          rfl send noAborted others read now, ?_⟩
        refine Nat.le_trans (Nat.le_of_eq (load_waiting send rfl)) ?_
        have aborted (expiry : Time) (wait : ResponseWait κ) :=
          DeadlineTimer.asyncWait_aborted response expiry wait
        simp only [doSendMessage, scheduleResponseTimeout, setLastCommTime, record, aborted]
        omega

/-- The other fields of a resting scheduler do not matter. -/
theorem Resting.withQueue (resting : Resting s) {t : EmsCommandSender κ} {queue : List (Request κ)}
    (response : t.responseTimeout.wait = none) (send : t.sendTimer = s.sendTimer)
    (pending : t.pending = s.pending ++ queue) (reads : ∀ request ∈ queue, request.message.Read) :
    Resting t where
  response := response
  send := send ▸ resting.send
  noAborted := send ▸ resting.noAborted
  queue := by
    intro request member
    rw [pending] at member
    rcases List.mem_append.mp member with old | new
    · exact resting.queue request old
    · exact reads request new

/-- The client that is served enqueues reads. -/
theorem callClient_resting {client : κ} (current : s.currentClient = some client) (resting : Resting s)
    (now : Time) {reaction : List EmsMessage} (reads : ∀ message ∈ reaction, message.Read) :
    Resting (s.callClient now reaction) := by
  rw [callClient_busy current]
  refine resting.withQueue resting.response rfl rfl ?_
  intro other member
  obtain ⟨message, enqueued, rfl⟩ := List.mem_map.mp member
  exact reads message enqueued

/-- A read may be enqueued at any time. -/
theorem sendMessage_polling (polling : Polling s) (now : Time) (client : κ) {message : EmsMessage}
    (read : message.Read) :
    Polling (s.sendMessage now client message) ∧ (s.sendMessage now client message).load ≤ s.load + 3 := by
  have reads : ∀ request ∈ ([{ client, message }] : List (Request κ)), request.message.Read := by
    intro request member
    cases List.mem_singleton.mp member
    exact read
  obtain ⟨⟨current, phase⟩, noAborted, queue, delayed, waiting⟩ := polling
  cases who : s.currentClient with
  | none =>
      rw [sendMessage_idle who]
      cases phase with
      | idle _ _ response send =>
          have resting : Resting { s with pending := s.pending ++ [{ client, message }] } :=
            Resting.withQueue (s := s) ⟨response, send, noAborted, queue⟩ response rfl rfl reads
          obtain ⟨next, less⟩ := continue_polling resting now
          refine ⟨next, less.trans ?_⟩
          simp [load]
          omega
      | delayed served => exact nomatch who.symm.trans served
      | waiting served => exact nomatch who.symm.trans served
  | some other =>
      rw [sendMessage_busy who]
      refine ⟨⟨⟨current, phase.withPending (by rw [who]; exact nofun) _⟩, noAborted, ?_, delayed,
        waiting⟩, ?_⟩
      · intro request member
        rcases List.mem_append.mp member with old | new
        · exact queue request old
        · exact reads request new
      · simp [load]
        omega

theorem sendAll_polling (polling : Polling s) (now : Time) (client : κ) {messages : List EmsMessage}
    (reads : ∀ message ∈ messages, message.Read) :
    Polling (s.sendAll now client messages) ∧
      (s.sendAll now client messages).load ≤ s.load + 3 * messages.length := by
  induction messages generalizing s with
  | nil => exact ⟨polling, Nat.le_refl _⟩
  | cons message rest ih =>
      rw [List.forall_mem_cons] at reads
      obtain ⟨first, less⟩ := sendMessage_polling polling now client reads.1
      obtain ⟨all, less'⟩ := ih first reads.2
      refine ⟨all, less'.trans ?_⟩
      rw [List.length_cons]
      omega

/-- A timeout takes a completion, and what the client enqueues in it brings three for each
    telegram. -/
theorem responseExpired_polling (polling : Polling s) {expiry : Time} {wait : ResponseWait κ}
    (running : s.responseTimeout.wait = some (expiry, wait)) (now : Time)
    {reaction : List EmsMessage} (reads : ∀ message ∈ reaction, message.Read) :
    let t := ({ s with responseTimeout := s.responseTimeout.expired } :
      EmsCommandSender κ).handleResponseTimeout now wait reaction
    Polling t ∧ t.load + 1 ≤ s.load + 3 * reaction.length := by
  intro t
  obtain ⟨⟨current, phase⟩, noAborted, queue, delayed, waiting⟩ := polling
  cases phase with
  | idle _ _ response => exact nomatch response.symm.trans running
  | delayed _ response => exact nomatch response.symm.trans running
  | @waiting _ fakeAnswer request client response send =>
      have same := response.symm.trans running
      cases same
      have real : fakeAnswer = false := waiting _ response
      subst real
      let u : EmsCommandSender κ := EmsCommandSender.record
        { s with responseTimeout := s.responseTimeout.expired } now (.timedOut request s.currentClient)
      have next : t = (u.callClient now reaction).continueWithNextRequest now := rfl
      have called : u.callClient now reaction = { u with
          pending := u.pending ++ reaction.map (fun message => { client := request.client, message }) } :=
        callClient_busy (s := u) client now reaction
      have resting : Resting (u.callClient now reaction) :=
        callClient_resting (s := u) client ⟨rfl, send, noAborted, queue⟩ now reads
      obtain ⟨after, less⟩ := continue_polling resting now
      rw [next]
      refine ⟨after, ?_⟩
      have before := load_waiting send response
      have between := load_resting resting.send resting.response
      have queued : (u.callClient now reaction).pending.length = s.pending.length + reaction.length := by
        rw [called]
        simp [u, record]
      have aborted : (u.callClient now reaction).responseTimeout.aborted = s.responseTimeout.aborted := by
        rw [called]
        rfl
      rw [queued, aborted] at between
      omega

/-- A telegram for a client whose telegram is waited for, in which the client enqueues reads. -/
theorem telegram_polling (polling : Polling s) {waiting : Time × ResponseWait κ}
    (running : s.responseTimeout.wait = some waiting) (now : Time) (message : EmsMessage) (action : Action κ)
    {reaction : List EmsMessage} (reads : ∀ message ∈ reaction, message.Read) :
    Polling ((s.record now action).handlePcMessage now message reaction) := by
  obtain ⟨⟨current, phase⟩, noAborted, queue, -, -⟩ := polling
  cases phase with
  | idle _ _ response => exact nomatch response.symm.trans running
  | delayed _ response => exact nomatch response.symm.trans running
  | @waiting _ _ request client response send =>
      let u : EmsCommandSender κ := { (s.record now action).setLastCommTime message.source now with
        responseTimeout := s.responseTimeout.cancel }
      have resting : Resting (u.callClient now reaction) :=
        callClient_resting (s := u) client ⟨rfl, send, noAborted, queue⟩ now reads
      exact (continue_polling resting now).1

/-- The send timer transmits the delayed telegram. -/
theorem sendExpired_polling (polling : Polling s) {expiry : Time} {request : Request κ}
    (running : s.sendTimer.wait = some (expiry, request)) (now : Time) :
    let t := ({ s with sendTimer := s.sendTimer.expired } : EmsCommandSender κ).doSendMessage now request
    Polling t ∧ t.load + 1 = s.load := by
  intro t
  obtain ⟨⟨current, phase⟩, noAborted, queue, delayed, waiting⟩ := polling
  cases phase with
  | idle _ _ _ send => exact nomatch send.symm.trans running
  | waiting _ _ send => exact nomatch send.symm.trans running
  | delayed client response send =>
      have same := send.symm.trans running
      cases same
      have sent : Polling t := doSendMessage_polling
        (s := { s with sendTimer := s.sendTimer.expired }) client rfl noAborted queue (delayed _ send) now
      refine ⟨sent, ?_⟩
      have aborted (expiry : Time) (wait : ResponseWait κ) :=
        DeadlineTimer.asyncWait_aborted response expiry wait
      rw [load_delayed send response, load_waiting (s := t) rfl rfl]
      simp only [t, doSendMessage, scheduleResponseTimeout, setLastCommTime, record, aborted]
      omega

/-- The handler of an aborted wait of the response timer does nothing. -/
theorem responseAborted_polling (polling : Polling s) {wait : ResponseWait κ}
    (aborted : s.responseTimeout.aborted.head? = some wait) :
    let t := ({ s with responseTimeout := s.responseTimeout.dropAborted } : EmsCommandSender κ)
    Polling t ∧ t.load + 1 = s.load := by
  obtain ⟨⟨current, phase⟩, noAborted, queue, delayed, waiting⟩ := polling
  obtain ⟨rest, split⟩ := List.head?_eq_some_iff.mp aborted
  refine ⟨⟨⟨current, ?_⟩, noAborted, queue, delayed, waiting⟩, ?_⟩
  · cases phase with
    | idle client queue response send => exact .idle client queue response send
    | delayed client response send => exact .delayed client response send
    | waiting client response send => exact .waiting client response send
  · simp [load, split, DeadlineTimer.dropAborted]
    omega

end EmsCollector.EmsCommandSender
