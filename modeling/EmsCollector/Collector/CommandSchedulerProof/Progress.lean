import EmsCollector.Collector.CommandSchedulerProof.Accounting

/-!
# The scheduler never stalls

While something is queued or a client is being served, one of the two timers is armed, and their
handlers run at most twice for each telegram: so the scheduler comes to rest, and when it does
everything has been transmitted. This holds in all runs, those included in which the timers are
armed again, answers are taken for one another, and a fake acknowledgement takes two telegrams from
the queue.
-/

namespace EmsCollector.EmsCommandSender

variable {κ : Type}

/-- The completion of a wait. -/
def Event.completes : Event κ → Bool
  | .responseExpired _ _ | .responseAborted | .sendExpired _ | .sendAborted _ => true
  | .enqueue _ _ _ | .telegram _ _ _ => false

/-- The completions to come: two for each telegram that has not been transmitted, and one for each
    wait of the response timer. -/
def due (s : EmsCommandSender κ) : Nat :=
  2 * (s.pending.length + s.sendTimer.held.card) + s.responseTimeout.held.card

/-- Nothing is forgotten: an idle scheduler has an empty queue, and a busy one has a timer armed. -/
structure Alive (s : EmsCommandSender κ) : Prop where
  idle : s.currentClient = none → s.pending = []
  busy : s.currentClient ≠ none → s.sendTimer.wait ≠ none ∨ s.responseTimeout.wait ≠ none

/-- No wait can complete. -/
def Still (s : EmsCommandSender κ) : Prop := ∀ e : Event κ, e.completes = true → s.step e = none

section Due

variable (s : EmsCommandSender κ) (now : Time)

theorem doSendMessage_due (request : Request κ) : (s.doSendMessage now request).due = s.due + 1 := by
  simp only [due, doSendMessage, scheduleResponseTimeout, setLastCommTime, record,
    DeadlineTimer.held_asyncWait, Multiset.card_cons]
  omega

theorem sendOrDelay_due (request : Request κ) : (s.sendOrDelay now request).due ≤ s.due + 2 := by
  rcases sendOrDelay_cases s now request with ⟨expiry, delayed⟩ | sent
  · rw [delayed]
    simp only [due, DeadlineTimer.held_asyncWait, Multiset.card_cons]
    omega
  · rw [sent, doSendMessage_due]
    omega

theorem push_due (requests : List (Request κ)) :
    ({ s with pending := s.pending ++ requests } : EmsCommandSender κ).due =
      s.due + 2 * requests.length := by
  simp only [due, List.length_append]
  omega

/-- The next telegram is taken from the queue. -/
theorem continue_due : (s.continueWithNextRequest now).due ≤ s.due := by
  cases queue : s.pending with
  | nil =>
      rw [continue_nil queue]
      exact Nat.le_refl _
  | cons request rest =>
      rw [continue_cons queue]
      have taken := sendOrDelay_due { s with currentClient := some request.client } now request
      have pending := sendOrDelay_pending { s with currentClient := some request.client } now request
      generalize { s with currentClient := some request.client }.sendOrDelay now request = u
        at taken pending ⊢
      have queued : u.pending.length = rest.length + 1 := by
        rw [pending, queue]
        exact List.length_cons
      simp only [due, queued, queue, List.length_cons] at taken ⊢
      omega

theorem sendMessage_due (client : κ) (message : EmsMessage) :
    (s.sendMessage now client message).due ≤ s.due + 2 := by
  have pushed := push_due s [{ client, message }]
  cases current : s.currentClient with
  | none =>
      rw [sendMessage_idle current]
      exact (continue_due _ now).trans pushed.le
  | some other =>
      rw [sendMessage_busy current]
      exact pushed.le

theorem callClient_due (reaction : List EmsMessage) :
    (s.callClient now reaction).due = s.due + 2 * (s.reactionRequests reaction).length := by
  unfold reactionRequests
  cases current : s.currentClient with
  | none =>
      rw [callClient_idle current]
      rfl
  | some client =>
      rw [callClient_busy current]
      exact push_due s _

/-- A telegram from the bus aborts the wait for it, which still completes. -/
theorem handlePcMessage_due (message : EmsMessage) (reaction : List EmsMessage) :
    (s.handlePcMessage now message reaction).due ≤
      s.due + 2 * (s.reactionRequests reaction).length := by
  unfold handlePcMessage
  refine (continue_due _ now).trans ((callClient_due _ now reaction).trans ?_).le
  simp only [due, setLastCommTime, DeadlineTimer.held_cancel, reactionRequests]

theorem handleResponseTimeout_due (wait : ResponseWait κ) (reaction : List EmsMessage) :
    (s.handleResponseTimeout now wait reaction).due ≤
      s.due + 2 * (s.reactionRequests reaction).length := by
  unfold handleResponseTimeout
  split
  · dsimp only
    split
    · exact (continue_due _ now).trans (handlePcMessage_due _ now _ reaction)
    · exact (continue_due _ now).trans (Nat.le_add_right _ _)
  · exact (continue_due _ now).trans (callClient_due _ now reaction).le

end Due

variable {s t : EmsCommandSender κ} {e : Event κ}

/-- A completion takes one from what is due, and each telegram that is enqueued brings two. -/
theorem step_due (next : s.step e = some t) :
    e.completes.toNat + t.due ≤ s.due + 2 * (s.enqueues e).length := by
  cases e with
  | enqueue now client message =>
      cases next
      have pushed := sendMessage_due s now client message
      simp only [Event.completes, enqueues, List.length_singleton, Bool.toNat_false]
      omega
  | telegram now message reaction =>
      cases next
      have taken := handlePcMessage_due (s.record now (.received message s.currentClient)) now message
        reaction
      simp only [Event.completes, Bool.toNat_false, Nat.zero_add]
      exact taken
  | responseExpired now reaction =>
      obtain ⟨⟨expiry, wait⟩, armed, rfl⟩ := Option.map_eq_some_iff.mp next
      have handled := handleResponseTimeout_due
        { s with responseTimeout := s.responseTimeout.expired } now wait reaction
      have before : s.due = ({ s with responseTimeout := s.responseTimeout.expired } :
          EmsCommandSender κ).due + 1 := by
        simp only [due, DeadlineTimer.held_expired armed, Multiset.card_cons]
        omega
      rw [before]
      simp only [Event.completes, Bool.toNat_true]
      refine (Nat.add_le_add_left handled 1).trans (Nat.le_of_eq ?_)
      show 1 + (_ + 2 * (s.reactionRequests reaction).length) = _
      rw [← Nat.add_assoc, Nat.add_comm 1]
      rfl
  | responseAborted =>
      obtain ⟨wait, aborted, rfl⟩ := Option.map_eq_some_iff.mp next
      simp only [Event.completes, Bool.toNat_true, enqueues, List.length_nil, due,
        DeadlineTimer.held_dropAborted aborted, Multiset.card_cons]
      omega
  | sendExpired now =>
      obtain ⟨⟨expiry, request⟩, armed, rfl⟩ := Option.map_eq_some_iff.mp next
      rw [doSendMessage_due]
      simp only [Event.completes, Bool.toNat_true, enqueues, List.length_nil, due,
        DeadlineTimer.held_expired armed, Multiset.card_cons]
      omega
  | sendAborted now =>
      obtain ⟨request, aborted, rfl⟩ := Option.map_eq_some_iff.mp next
      rw [doSendMessage_due]
      simp only [Event.completes, Bool.toNat_true, enqueues, List.length_nil, due,
        DeadlineTimer.held_dropAborted aborted, Multiset.card_cons]
      omega

/-- A transmission arms the response timer. -/
theorem doSendMessage_alive (idle : s.currentClient = none → s.pending = []) (now : Time)
    (request : Request κ) : (s.doSendMessage now request).Alive where
  idle := idle
  busy _ := .inr (Option.some_ne_none _)

/-- Whatever the scheduler was doing, it goes on with the next telegram or is idle. -/
theorem continue_alive (s : EmsCommandSender κ) (now : Time) :
    (s.continueWithNextRequest now).Alive := by
  cases queue : s.pending with
  | nil =>
      rw [continue_nil queue]
      exact ⟨fun _ => queue, fun busy => absurd rfl busy⟩
  | cons request rest =>
      rw [continue_cons queue]
      rcases sendOrDelay_cases { s with currentClient := some request.client } now request with
        ⟨expiry, delayed⟩ | sent
      · rw [delayed]
        exact ⟨fun idle => absurd idle (Option.some_ne_none _), fun _ => .inl (Option.some_ne_none _)⟩
      · rw [sent]
        exact ⟨fun idle => absurd idle (Option.some_ne_none _), fun _ => .inr (Option.some_ne_none _)⟩

theorem handleResponseTimeout_alive (s : EmsCommandSender κ) (now : Time) (wait : ResponseWait κ)
    (reaction : List EmsMessage) : (s.handleResponseTimeout now wait reaction).Alive := by
  unfold handleResponseTimeout
  split
  · dsimp only
    split
    · exact continue_alive _ now
    · exact continue_alive _ now
  · exact continue_alive _ now

theorem step_alive (alive : s.Alive) (next : s.step e = some t) : t.Alive := by
  cases e with
  | enqueue now client message =>
      cases next
      cases current : s.currentClient with
      | none =>
          rw [sendMessage_idle current]
          exact continue_alive _ now
      | some other =>
          have busy : s.currentClient ≠ none := by simp [current]
          rw [sendMessage_busy current]
          exact ⟨fun idle => absurd idle busy, alive.busy⟩
  | telegram now message reaction =>
      cases next
      exact continue_alive _ now
  | responseExpired now reaction =>
      obtain ⟨⟨expiry, wait⟩, -, rfl⟩ := Option.map_eq_some_iff.mp next
      exact handleResponseTimeout_alive _ now wait reaction
  | responseAborted =>
      obtain ⟨wait, -, rfl⟩ := Option.map_eq_some_iff.mp next
      exact ⟨alive.idle, alive.busy⟩
  | sendExpired now =>
      obtain ⟨⟨expiry, request⟩, -, rfl⟩ := Option.map_eq_some_iff.mp next
      exact doSendMessage_alive (s := { s with sendTimer := s.sendTimer.expired }) alive.idle now request
  | sendAborted now =>
      obtain ⟨request, -, rfl⟩ := Option.map_eq_some_iff.mp next
      exact doSendMessage_alive (s := { s with sendTimer := s.sendTimer.dropAborted }) alive.idle now
        request

/-- Where no wait can complete, there is none, up to the aborted ones of the response timer. -/
theorem Still.waits (still : s.Still) :
    s.responseTimeout.wait = none ∧ s.sendTimer.wait = none ∧ s.sendTimer.aborted = [] := by
  have response := still (.responseExpired 0 []) rfl
  have send := still (.sendExpired 0) rfl
  have aborted := still (.sendAborted 0) rfl
  exact ⟨Option.map_eq_none_iff.mp response, Option.map_eq_none_iff.mp send,
    List.head?_eq_none_iff.mp (Option.map_eq_none_iff.mp aborted)⟩

/-- Such a scheduler is idle, and has transmitted all it has taken. -/
theorem Alive.still (alive : s.Alive) (still : s.Still) :
    s.currentClient = none ∧ s.pending = [] ∧ s.accounted = s.transmitted := by
  obtain ⟨response, send, aborted⟩ := still.waits
  have idle : s.currentClient = none := by
    by_contra busy
    rcases alive.busy busy with armed | armed
    · exact armed send
    · exact armed response
  have queue := alive.idle idle
  exact ⟨idle, queue, by simp [accounted, queue, DeadlineTimer.held, send, aborted]⟩

/-- In every run of the scheduler, whatever its clients enqueue and whatever comes from the bus:
    each telegram accounts for at most two completions of a timer, those still to come included; and
    when no wait is left that could complete, the scheduler is idle and has transmitted everything
    that was ever enqueued. -/
theorem run_progress {es : List (Event κ)} {l : Ledger κ}
    (run : (Ledger.system κ).Run (fun _ _ => True) .init es l) :
    es.countP Event.completes + l.sender.due ≤ 2 * l.enqueued.card ∧
    (l.sender.Still → l.sender.currentClient = none ∧ l.sender.pending = [] ∧
      l.sender.transmitted = l.enqueued) := by
  have inv : es.countP Event.completes + l.sender.due ≤ 2 * l.enqueued.card ∧ l.sender.Alive ∧
      l.sender.accounted = l.enqueued := by
    induction run with
    | nil => exact ⟨Nat.le_refl _, ⟨fun _ => rfl, fun busy => absurd rfl busy⟩, rfl⟩
    | @snoc es l l' e _ _ next ih =>
        obtain ⟨bound, alive, balanced⟩ := ih
        have balanced' := Ledger.step_balanced next balanced
        obtain ⟨sender, stepped, rfl⟩ := Option.map_eq_some_iff.mp next
        refine ⟨?_, step_alive alive stepped, balanced'⟩
        have taken := step_due stepped
        rw [List.countP_append, List.countP_singleton, Multiset.card_add, Multiset.coe_card]
        cases completes : e.completes <;> simp [completes] at taken ⊢ <;> omega
  obtain ⟨bound, alive, balanced⟩ := inv
  refine ⟨bound, fun still => ?_⟩
  obtain ⟨idle, queue, all⟩ := alive.still still
  exact ⟨idle, queue, all.symm.trans balanced⟩

/-- A write and a read. The fake acknowledgement of the write has the read transmitted, and leaves
    the scheduler without a client; the timeout of the read finds none. -/
def writeThenRead : List (Event Unit) :=
  [.enqueue 0 () (.send 0x08 0x1d 0 [0] false), .enqueue 0 () (.send 0x10 0x02 0 [3] true),
    .responseExpired 200000 [], .responseExpired 1200000 []]

/-- Both are transmitted, after two of at most four completions. -/
theorem run_progress_write :
    ∃ l, (Ledger.system Unit).Run (fun _ _ => True) .init writeThenRead l ∧
      2 + l.sender.due ≤ 2 * l.enqueued.card ∧ l.sender.transmitted = l.enqueued := by
  let last := (writeThenRead.foldlM (fun (l : Ledger Unit) e => if True then l.step e else none)
    .init).get (by decide +kernel)
  have run : (Ledger.system Unit).Run (fun _ _ => True) .init writeThenRead last :=
    .ofFold (Option.some_get (by decide +kernel)).symm
  have response : last.sender.responseTimeout = .idle := by decide +kernel
  have send : last.sender.sendTimer = .idle := by decide +kernel
  have still : last.sender.Still := by
    intro e completes
    cases e with
    | enqueue now client message => cases completes
    | telegram now message reaction => cases completes
    | responseExpired now reaction => simp [step, response, DeadlineTimer.idle]
    | responseAborted => simp [step, response, DeadlineTimer.idle]
    | sendExpired now => simp [step, send, DeadlineTimer.idle]
    | sendAborted now => simp [step, send, DeadlineTimer.idle]
  obtain ⟨bound, rest⟩ := run_progress run
  exact ⟨last, run, bound, (rest still).2.2⟩

end EmsCollector.EmsCommandSender
