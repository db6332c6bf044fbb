import EmsCollector.Collector.CommandScheduler

/-!
# One telegram at a time

A transmitted telegram is outstanding until its answer, its fake acknowledgement or its timeout.
`observe` follows the outstanding telegrams through the history of the scheduler and fails where
a telegram is sent while another one is outstanding, and where an answer, a fake acknowledgement
or a timeout goes to a client other than the one that enqueued the telegram.

The scheduler takes any telegram for the answer it waits for, and the handler of the fake
acknowledgement continues with the next request twice. Both break exclusiveness. Where neither
happens it is kept.
-/

namespace EmsCollector.EmsCommandSender

variable {κ : Type}

/-- What the scheduler is doing, with the outstanding telegrams: nothing, waiting to send, or
    waiting for an answer. -/
inductive Phase (s : EmsCommandSender κ) : List (Request κ) → Prop
  | idle (client : s.currentClient = none) (queue : s.pending = [])
      (response : s.responseTimeout.wait = none) (send : s.sendTimer.wait = none) : Phase s []
  | delayed {expiry : Time} {request : Request κ} (client : s.currentClient = some request.client)
      (response : s.responseTimeout.wait = none)
      (send : s.sendTimer.wait = some (expiry, request)) : Phase s []
  | waiting {expiry : Time} {fakeAnswer : Bool} {request : Request κ}
      (client : s.currentClient = some request.client)
      (response : s.responseTimeout.wait = some (expiry, { fakeAnswer, request }))
      (send : s.sendTimer.wait = none) : Phase s [request]

theorem Phase.withPending {s : EmsCommandSender κ} {current : List (Request κ)}
    (phase : Phase s current) (busy : s.currentClient ≠ none) (queue : List (Request κ)) :
    Phase { s with pending := queue } current := by
  cases phase with
  | idle client => exact absurd client busy
  | delayed client response send => exact .delayed client response send
  | waiting client response send => exact .waiting client response send

/-- With an empty queue and a client that enqueues nothing, the scheduler is idle afterwards. -/
theorem handlePcMessage_idle {s : EmsCommandSender κ} (queue : s.pending = []) (now : Time)
    (message : EmsMessage) : (s.handlePcMessage now message []).currentClient = none := by
  simp only [handlePcMessage, callClient_nil]
  rw [continue_nil]
  exact queue

variable [DecidableEq κ] (answers : EmsMessage → EmsMessage → Bool)

/-- The outstanding telegrams after an action; `none` if the action is not allowed. Which
    telegrams from the bus count as answers is given by `answers message request`. -/
def observe (outstanding : List (Request κ)) : Action κ → Option (List (Request κ))
  | .transmitted request => if outstanding = [] then some [request] else none
  | .received message callee =>
      if (outstanding.filter (fun r => answers message r.message)).all
          (fun r => callee = some r.client) then
        some (outstanding.filter (fun r => !answers message r.message))
      else none
  | .fakeAnswered request callee =>
      if callee = some request.client then some (outstanding.erase request) else none
  | .timedOut request callee =>
      if callee = some request.client then some (outstanding.erase request) else none

/-- The outstanding telegrams at the end of a history; `none` if it is not allowed. -/
def outstanding (history : List (Time × Action κ)) : Option (List (Request κ)) :=
  history.foldlM (fun current entry => observe answers current entry.2) []

/-- No telegram was sent while another one was outstanding, and every answer, fake
    acknowledgement and timeout went to the client of its telegram. -/
def Exclusive (history : List (Time × Action κ)) : Prop :=
  (outstanding answers history).isSome = true

instance (history : List (Time × Action κ)) : Decidable (Exclusive answers history) :=
  inferInstanceAs (Decidable (_ = true))

/-- The steps that keep the scheduler exclusive. While a client is waiting, a telegram from the
    bus must be an answer to the telegram whose response timer runs; the fake acknowledgement
    must find the queue empty, and the client must enqueue nothing when it gets it. -/
def StepOk (s : EmsCommandSender κ) : Event κ → Prop
  | .telegram _ message _ =>
      s.currentClient.isSome = true →
        s.responseTimeout.wait.any (fun (_, wait) => answers message wait.request.message) = true
  | .responseExpired _ reaction =>
      s.responseTimeout.wait.any (fun (_, wait) => wait.fakeAnswer) = true →
        s.pending = [] ∧ reaction = []
  | _ => True

instance (s : EmsCommandSender κ) (e : Event κ) : Decidable (StepOk answers s e) := by
  cases e <;> simp only [StepOk] <;> infer_instance

/-- The invariant of an exclusive scheduler. -/
structure Inv (s : EmsCommandSender κ) (current : List (Request κ)) : Prop where
  phase : Phase s current
  noAborted : s.sendTimer.aborted = []
  history : outstanding answers s.history = some current

/-- Between two requests: no timer runs and nothing is outstanding. -/
structure Between (s : EmsCommandSender κ) : Prop where
  response : s.responseTimeout.wait = none
  send : s.sendTimer.wait = none
  noAborted : s.sendTimer.aborted = []
  history : outstanding answers s.history = some []

variable {answers}

theorem observe_transmitted (request : Request κ) :
    observe answers [] (.transmitted request) = some [request] := by
  simp [observe]

theorem outstanding_snoc {history : List (Time × Action κ)} {current current' : List (Request κ)}
    {action : Action κ} (before : outstanding answers history = some current)
    (allowed : observe answers current action = some current') (now : Time) :
    outstanding answers (history ++ [(now, action)]) = some current' := by
  unfold outstanding at before ⊢
  rw [List.foldlM_append, before]
  simp [allowed]

/-- A free scheduler sends or delays the next telegram, or is idle. -/
theorem continue_inv {s : EmsCommandSender κ} (between : Between answers s) (now : Time) :
    ∃ current, Inv answers (s.continueWithNextRequest now) current := by
  obtain ⟨response, send, noAborted, history⟩ := between
  cases queue : s.pending with
  | nil =>
      rw [continue_nil queue]
      exact ⟨[], .idle rfl queue response send, noAborted, history⟩
  | cons request rest =>
      rw [continue_cons queue]
      rcases sendOrDelay_cases { s with currentClient := some request.client } now request with
        ⟨expiry, delayed⟩ | sent
      · rw [delayed]
        refine ⟨[], .delayed rfl response rfl, ?_, history⟩
        rw [DeadlineTimer.asyncWait_aborted send]
        exact noAborted
      · rw [sent]
        exact ⟨[request], .waiting rfl rfl send, noAborted,
          outstanding_snoc history (observe_transmitted request) now⟩

theorem Inv.busy_phase {s : EmsCommandSender κ} {current : List (Request κ)} {client : κ}
    (inv : Inv answers s current) (busy : s.currentClient = some client)
    (queue : List (Request κ)) : Inv answers { s with pending := queue } current := by
  have serving : s.currentClient ≠ none := by
    rw [busy]
    exact nofun
  exact ⟨inv.phase.withPending serving queue, inv.noAborted, inv.history⟩

/-- An idle scheduler is between two requests. -/
theorem Inv.between {s : EmsCommandSender κ} {current : List (Request κ)}
    (inv : Inv answers s current) (idle : s.currentClient = none) :
    Between answers s ∧ s.pending = [] ∧ current = [] := by
  cases inv.phase with
  | idle _ queue response send =>
      exact ⟨⟨response, send, inv.noAborted, inv.history⟩, queue, rfl⟩
  | delayed served => exact nomatch idle.symm.trans served
  | waiting served => exact nomatch idle.symm.trans served

theorem enqueue_inv {s : EmsCommandSender κ} {current : List (Request κ)}
    (inv : Inv answers s current) (now : Time) (client : κ) (message : EmsMessage) :
    ∃ current', Inv answers (s.sendMessage now client message) current' := by
  cases who : s.currentClient with
  | none =>
      rw [sendMessage_idle who]
      obtain ⟨free, -⟩ := inv.between who
      have between : Between answers { s with pending := s.pending ++ [{ client, message }] } :=
        ⟨free.response, free.send, free.noAborted, free.history⟩
      exact continue_inv between now
  | some other =>
      rw [sendMessage_busy who]
      exact ⟨current, inv.busy_phase who _⟩

/-- A client being called extends the queue; what the timers do stays as it is. -/
theorem Between.callClient {s : EmsCommandSender κ} (between : Between answers s) (now : Time)
    (reaction : List EmsMessage) : Between answers (s.callClient now reaction) := by
  cases who : s.currentClient with
  | none =>
      rw [callClient_idle who]
      exact between
  | some client =>
      rw [callClient_busy who]
      exact ⟨between.response, between.send, between.noAborted, between.history⟩

/-- `handlePcMessage` once the telegram has been taken off the outstanding ones. -/
theorem handlePcMessage_inv {s : EmsCommandSender κ} (send : s.sendTimer.wait = none)
    (noAborted : s.sendTimer.aborted = []) (history : outstanding answers s.history = some [])
    (now : Time) (message : EmsMessage) (reaction : List EmsMessage) :
    ∃ current, Inv answers (s.handlePcMessage now message reaction) current := by
  have between : Between answers { s.setLastCommTime message.source now with
      responseTimeout := s.responseTimeout.cancel } := ⟨rfl, send, noAborted, history⟩
  exact continue_inv (between.callClient now reaction) now

theorem telegram_inv {s : EmsCommandSender κ} {current : List (Request κ)}
    (inv : Inv answers s current) {now : Time} {message : EmsMessage} {reaction : List EmsMessage}
    (ok : StepOk answers s (.telegram now message reaction)) :
    ∃ current', Inv answers ((s.record now (.received message s.currentClient)).handlePcMessage
      now message reaction) current' := by
  cases inv.phase with
  | idle client _ _ send =>
      have received : observe answers [] (.received message s.currentClient) = some [] := by
        simp [observe]
      exact handlePcMessage_inv (s := s.record now (.received message s.currentClient)) send
        inv.noAborted (outstanding_snoc inv.history received now) now message reaction
  | delayed client response =>
      have running := ok (by rw [client]; rfl)
      rw [response] at running
      cases running
  | @waiting _ _ request client response send =>
      have answered : answers message request.message = true := by
        have running := ok (by rw [client]; rfl)
        rw [response] at running
        exact running
      have received : observe answers [request] (.received message s.currentClient) = some [] := by
        simp [observe, answered, client]
      exact handlePcMessage_inv (s := s.record now (.received message s.currentClient)) send
        inv.noAborted (outstanding_snoc inv.history received now) now message reaction

theorem responseExpired_inv {s : EmsCommandSender κ} {current : List (Request κ)}
    (inv : Inv answers s current) {now : Time} {reaction : List EmsMessage} {expiry : Time}
    {wait : ResponseWait κ} (running : s.responseTimeout.wait = some (expiry, wait))
    (ok : StepOk answers s (.responseExpired now reaction)) :
    ∃ current', Inv answers (({ s with responseTimeout := s.responseTimeout.expired } :
      EmsCommandSender κ).handleResponseTimeout now wait reaction) current' := by
  cases inv.phase with
  | idle _ _ response => exact nomatch response.symm.trans running
  | delayed _ response => exact nomatch response.symm.trans running
  | @waiting _ fakeAnswer request client response send =>
      have same := response.symm.trans running
      cases same
      unfold handleResponseTimeout
      cases fakeAnswer with
      | true =>
          obtain ⟨queue, none⟩ := ok (by rw [response]; rfl)
          subst none
          have acknowledged : observe answers [request] (.fakeAnswered request s.currentClient) =
              some [] := by simp [observe, client]
          obtain ⟨current', next⟩ := handlePcMessage_inv (s := EmsCommandSender.record
            { s with responseTimeout := s.responseTimeout.expired } now
            (.fakeAnswered request s.currentClient)) send inv.noAborted
            (outstanding_snoc inv.history acknowledged now) now fakeMessage []
          have idle := handlePcMessage_idle (s := EmsCommandSender.record
            { s with responseTimeout := s.responseTimeout.expired } now
            (.fakeAnswered request s.currentClient)) queue now fakeMessage
          simp only [record, client, if_true]
          simp only [record, client] at next idle
          exact continue_inv (next.between idle).1 now
      | false =>
          have timedOut : observe answers [request] (.timedOut request s.currentClient) =
              some [] := by simp [observe, client]
          have between : Between answers (EmsCommandSender.record
              { s with responseTimeout := s.responseTimeout.expired } now
              (.timedOut request s.currentClient)) :=
            ⟨rfl, send, inv.noAborted, outstanding_snoc inv.history timedOut now⟩
          exact continue_inv (between.callClient now reaction) now

/-- The send timer transmits the delayed telegram. -/
theorem sendExpired_inv {s : EmsCommandSender κ} {current : List (Request κ)}
    (inv : Inv answers s current) (now : Time) {expiry : Time} {request : Request κ}
    (running : s.sendTimer.wait = some (expiry, request)) :
    ∃ current', Inv answers (({ s with sendTimer := s.sendTimer.expired } :
      EmsCommandSender κ).doSendMessage now request) current' := by
  cases inv.phase with
  | idle _ _ _ send => exact nomatch send.symm.trans running
  | waiting _ _ send => exact nomatch send.symm.trans running
  | delayed client response send =>
      have same := send.symm.trans running
      cases same
      exact ⟨[request], .waiting client rfl rfl, inv.noAborted,
        outstanding_snoc inv.history (observe_transmitted request) now⟩

/-- Every allowed step keeps the invariant. -/
theorem step_inv {s t : EmsCommandSender κ} {e : Event κ} (inv : ∃ current, Inv answers s current)
    (ok : StepOk answers s e) (next : step s e = some t) : ∃ current, Inv answers t current := by
  obtain ⟨current, inv⟩ := inv
  cases e with
  | enqueue now client message =>
      cases next
      exact enqueue_inv inv now client message
  | telegram now message reaction =>
      cases next
      exact telegram_inv inv ok
  | responseExpired now reaction =>
      obtain ⟨⟨expiry, wait⟩, running, rfl⟩ := Option.map_eq_some_iff.mp next
      exact responseExpired_inv inv running ok
  | responseAborted =>
      obtain ⟨wait, -, rfl⟩ := Option.map_eq_some_iff.mp next
      refine ⟨current, ?_, inv.noAborted, inv.history⟩
      cases inv.phase with
      | idle client queue response send => exact .idle client queue response send
      | delayed client response send => exact .delayed client response send
      | waiting client response send => exact .waiting client response send
  | sendExpired now =>
      obtain ⟨⟨expiry, request⟩, running, rfl⟩ := Option.map_eq_some_iff.mp next
      exact sendExpired_inv inv now running
  | sendAborted now =>
      obtain ⟨request, aborted, -⟩ := Option.map_eq_some_iff.mp next
      rw [inv.noAborted] at aborted
      exact nomatch aborted

variable (answers)

/-- With any number of clients that enqueue what they want: a run of allowed steps, in any
    order, is exclusive. -/
theorem run_exclusive {s : EmsCommandSender κ} {es : List (Event κ)}
    (run : (system κ).Run (StepOk answers) init es s) : Exclusive answers s.history := by
  have start : ∃ current, Inv answers (init : EmsCommandSender κ) current :=
    ⟨[], .idle rfl rfl rfl rfl, rfl, rfl⟩
  obtain ⟨current, inv⟩ := run.invariant start (fun _ _ _ inv ok next => step_inv inv ok next)
  unfold Exclusive
  rw [inv.history]
  rfl

/-- The weakest notion of an answer: a telegram from the device the other one was sent to. -/
def fromDevice (message request : EmsMessage) : Bool :=
  message.source &&& 0x7f = request.dest &&& 0x7f

/-- A read and its answer, a write and its fake acknowledgement. -/
theorem run_exclusive_read_write :
    ∃ s, (system Nat).Run (StepOk fromDevice) init
        [.enqueue 0 0 (.send 0x88 0x15 0 [8] true),
          .telegram 20000 ⟨true, [0, 60, 1, 1, 50, 12, 0, 0], 0x88, 0x0b, 0x15, 0, 0⟩ [],
          .enqueue 500000 1 (.send 0x88 0x1d 0 [0] false), .responseExpired 700000 []] s ∧
      Exclusive fromDevice s.history :=
  have run := .ofFold rfl
  ⟨_, run, run_exclusive fromDevice run⟩

/-- A write with two reads of other clients behind it: its fake acknowledgement sends both. -/
theorem fakeAnswer_sends_two :
    ¬ ∀ (es : List (Event Nat)) (s : EmsCommandSender Nat),
      (system Nat).Run (fun _ _ => True) init es s → Exclusive fromDevice s.history := by
  intro exclusive
  have run := exclusive
    [.enqueue 0 0 (.send 0x88 0x1d 0 [0] false), .enqueue 1000 1 (.send 0x88 0x15 0 [10] true),
      .enqueue 2000 2 (.send 0x90 0x0140 0 [46] true), .responseExpired 200000 []]
    _ (.ofFold rfl)
  exact absurd run (by decide)

end EmsCollector.EmsCommandSender
