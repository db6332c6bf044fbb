import EmsCollector.Collector.EmsMessage
import EmsCollector.Misc.DeadlineTimer
import EmsCollector.Misc.Run

/-!
# The command scheduler

`EmsCommandSender` (`collector/CommandScheduler.h`, `collector/CommandScheduler.cpp`): the queue
of telegrams to send, the client whose telegram is being handled, and its two timers. What a
client does in its callbacks is known to the scheduler only by the telegrams it enqueues there,
so the callbacks appear as the lists of these telegrams (`reaction`).

Each telegram carries the client that enqueued it. The source keeps the client in the queue
only; behind the queue it rides along for the statements and no definition looks at it.
-/

namespace EmsCollector

/-- A telegram and the client that enqueued it. -/
structure Request (κ : Type) where
  client : κ
  message : EmsMessage
  deriving DecidableEq, Repr

/-- A wait of the response timer: which of the two handlers
    (`collector/CommandScheduler.cpp:46-81`), and the telegram the timer runs for. -/
structure ResponseWait (κ : Type) where
  fakeAnswer : Bool
  request : Request κ
  deriving DecidableEq, Repr

/-- What can be seen of the scheduler from outside; `callee` is the client whose
    callback runs. -/
inductive Action (κ : Type) where
  | transmitted (request : Request κ)
  | received (message : EmsMessage) (callee : Option κ)
  | fakeAnswered (request : Request κ) (callee : Option κ)
  | timedOut (request : Request κ) (callee : Option κ)
  deriving DecidableEq, Repr

/-- The members of `EmsCommandSender` (`collector/CommandScheduler.h:67-71`), and the history of
    what could be seen from outside. -/
structure EmsCommandSender (κ : Type) where
  currentClient : Option κ
  pending : List (Request κ)
  responseTimeout : DeadlineTimer (ResponseWait κ)
  sendTimer : DeadlineTimer (Request κ)
  lastCommTimes : UInt8 → Option Time
  history : List (Time × Action κ)

namespace EmsCommandSender

variable {κ : Type}

/-- `collector/CommandScheduler.h:64-65`. -/
def requestTimeout : Time := milliseconds 1000
def minDistanceBetweenRequests : Int := 100

def init : EmsCommandSender κ :=
  { currentClient := none, pending := [], responseTimeout := .idle, sendTimer := .idle
    lastCommTimes := fun _ => none, history := [] }

def record (s : EmsCommandSender κ) (now : Time) (action : Action κ) : EmsCommandSender κ :=
  { s with history := s.history ++ [(now, action)] }

/-- `m_lastCommTimes[address] = now`. -/
def setLastCommTime (s : EmsCommandSender κ) (address : UInt8) (now : Time) : EmsCommandSender κ :=
  { s with lastCommTimes := fun a => if a = address then some now else s.lastCommTimes a }

/-- `scheduleResponseTimeout` (`collector/CommandScheduler.cpp:46-81`). -/
def scheduleResponseTimeout (s : EmsCommandSender κ) (now : Time) (request : Request κ)
    (fakeAnswer : Bool) : EmsCommandSender κ :=
  let expiry := now + if fakeAnswer then milliseconds 200 else requestTimeout
  { s with responseTimeout := s.responseTimeout.asyncWait expiry { fakeAnswer, request } }

/-- `doSendMessage` (`collector/CommandScheduler.cpp:104-113`). -/
def doSendMessage (s : EmsCommandSender κ) (now : Time) (request : Request κ) :
    EmsCommandSender κ :=
  let fakeAnswer := request.message.dest &&& 0x80 = 0
  ((s.record now (.transmitted request)).scheduleResponseTimeout now request fakeAnswer).setLastCommTime
    request.message.dest now

/-- `sendMessage(message)` (`collector/CommandScheduler.cpp:83-102`): at once, or a while after
    the last communication with the device. -/
def sendOrDelay (s : EmsCommandSender κ) (now : Time) (request : Request κ) :
    EmsCommandSender κ :=
  match s.lastCommTimes request.message.dest with
  | some last =>
      if (now - last).tdiv 1000 ≤ minDistanceBetweenRequests then
        { s with sendTimer :=
            s.sendTimer.asyncWait (last + milliseconds minDistanceBetweenRequests) request }
      else
        s.doSendMessage now request
  | none => s.doSendMessage now request

/-- `continueWithNextRequest` (`collector/CommandScheduler.cpp:115-127`). -/
def continueWithNextRequest (s : EmsCommandSender κ) (now : Time) : EmsCommandSender κ :=
  match s.pending with
  | [] => { s with currentClient := none }
  | request :: rest =>
      { ({ s with currentClient := some request.client }.sendOrDelay now request) with
        pending := rest }

/-- `sendMessage(client, message)` (`collector/CommandScheduler.cpp:36-44`). -/
def sendMessage (s : EmsCommandSender κ) (now : Time) (client : κ) (message : EmsMessage) :
    EmsCommandSender κ :=
  let wasIdle := s.currentClient.isNone
  let s := { s with pending := s.pending ++ [{ client, message }] }
  if wasIdle then s.continueWithNextRequest now else s

/-- What a client enqueues, one telegram after the other. -/
def sendAll (s : EmsCommandSender κ) (now : Time) (client : κ) (messages : List EmsMessage) :
    EmsCommandSender κ :=
  messages.foldl (fun s message => s.sendMessage now client message) s

/-- A callback of the current client, which enqueues `reaction`. -/
def callClient (s : EmsCommandSender κ) (now : Time) (reaction : List EmsMessage) :
    EmsCommandSender κ :=
  match s.currentClient with
  | some client => reaction.foldl (fun s message => s.sendMessage now client message) s
  | none => s

/-- `handlePcMessage` (`collector/CommandScheduler.cpp:24-34`). -/
def handlePcMessage (s : EmsCommandSender κ) (now : Time) (message : EmsMessage)
    (reaction : List EmsMessage) : EmsCommandSender κ :=
  let s := s.setLastCommTime message.source now
  let s := { s with responseTimeout := s.responseTimeout.cancel }
  (s.callClient now reaction).continueWithNextRequest now

/-- The fake acknowledgement: `std::vector<uint8_t>(0x00, 0x01)` is an empty vector. -/
def fakeMessage : EmsMessage := .send 0x0b 0xff 0x01 [] false

/-- The handler of a response wait that has expired. -/
def handleResponseTimeout (s : EmsCommandSender κ) (now : Time) (wait : ResponseWait κ)
    (reaction : List EmsMessage) : EmsCommandSender κ :=
  if wait.fakeAnswer then
    let s := s.record now (.fakeAnswered wait.request s.currentClient)
    match s.currentClient with
    | some _ => (s.handlePcMessage now fakeMessage reaction).continueWithNextRequest now
    | none => s.continueWithNextRequest now
  else
    let s := s.record now (.timedOut wait.request s.currentClient)
    (s.callClient now reaction).continueWithNextRequest now

/-- The steps of the scheduler. An aborted wait of the send timer runs `doSendMessage` like an
    expired one, since the handler is bound without the error code. -/
inductive Event (κ : Type) where
  | enqueue (now : Time) (client : κ) (message : EmsMessage)
  | telegram (now : Time) (message : EmsMessage) (reaction : List EmsMessage)
  | responseExpired (now : Time) (reaction : List EmsMessage)
  | responseAborted
  | sendExpired (now : Time)
  | sendAborted (now : Time)
  deriving DecidableEq, Repr

def step (s : EmsCommandSender κ) : Event κ → Option (EmsCommandSender κ)
  | .enqueue now client message => some (s.sendMessage now client message)
  | .telegram now message reaction =>
      some ((s.record now (.received message s.currentClient)).handlePcMessage now message reaction)
  | .responseExpired now reaction =>
      s.responseTimeout.wait.map fun (_, wait) =>
        { s with responseTimeout := s.responseTimeout.expired }.handleResponseTimeout now wait reaction
  | .responseAborted =>
      s.responseTimeout.aborted.head?.map fun _ =>
        { s with responseTimeout := s.responseTimeout.dropAborted }
  | .sendExpired now =>
      s.sendTimer.wait.map fun (_, request) =>
        { s with sendTimer := s.sendTimer.expired }.doSendMessage now request
  | .sendAborted now =>
      s.sendTimer.aborted.head?.map fun request =>
        { s with sendTimer := s.sendTimer.dropAborted }.doSendMessage now request

theorem continue_nil {s : EmsCommandSender κ} (queue : s.pending = []) (now : Time) :
    s.continueWithNextRequest now = { s with currentClient := none } := by
  unfold continueWithNextRequest
  rw [queue]

theorem continue_cons {s : EmsCommandSender κ} {request : Request κ} {rest : List (Request κ)}
    (queue : s.pending = request :: rest) (now : Time) :
    s.continueWithNextRequest now =
      { ({ s with currentClient := some request.client }.sendOrDelay now request) with
        pending := rest } := by
  unfold continueWithNextRequest
  rw [queue]

/-- A telegram is delayed or sent at once. -/
theorem sendOrDelay_cases (s : EmsCommandSender κ) (now : Time) (request : Request κ) :
    (∃ expiry, s.sendOrDelay now request =
      { s with sendTimer := s.sendTimer.asyncWait expiry request }) ∨
    s.sendOrDelay now request = s.doSendMessage now request := by
  unfold sendOrDelay
  cases s.lastCommTimes request.message.dest with
  | none => exact .inr rfl
  | some last =>
      by_cases recent : (now - last).tdiv 1000 ≤ minDistanceBetweenRequests
      · exact .inl ⟨_, if_pos recent⟩
      · exact .inr (if_neg recent)

theorem sendMessage_idle {s : EmsCommandSender κ} (idle : s.currentClient = none) (now : Time)
    (client : κ) (message : EmsMessage) :
    s.sendMessage now client message =
      EmsCommandSender.continueWithNextRequest
        { s with pending := s.pending ++ [{ client, message }] } now := by
  simp [sendMessage, idle]

theorem sendMessage_busy {s : EmsCommandSender κ} {client : κ} (busy : s.currentClient = some client)
    (now : Time) (other : κ) (message : EmsMessage) :
    s.sendMessage now other message =
      { s with pending := s.pending ++ [{ client := other, message }] } := by
  simp [sendMessage, busy]

/-- A client that is being served only extends the queue in its callbacks. -/
theorem callClient_busy {s : EmsCommandSender κ} {client : κ} (busy : s.currentClient = some client)
    (now : Time) (reaction : List EmsMessage) :
    s.callClient now reaction =
      { s with pending := s.pending ++ reaction.map (fun message => { client, message }) } := by
  have calls : s.callClient now reaction =
      reaction.foldl (fun s message => s.sendMessage now client message) s := by
    unfold callClient
    rw [busy]
  rw [calls]
  clear calls
  induction reaction generalizing s with
  | nil => simp
  | cons message rest ih =>
      rw [List.foldl_cons, sendMessage_busy busy,
        ih (s := { s with pending := s.pending ++ [{ client, message }] }) busy]
      simp

theorem callClient_idle {s : EmsCommandSender κ} (idle : s.currentClient = none) (now : Time)
    (reaction : List EmsMessage) : s.callClient now reaction = s := by
  unfold callClient
  rw [idle]

theorem callClient_nil (s : EmsCommandSender κ) (now : Time) : s.callClient now [] = s := by
  unfold callClient
  cases s.currentClient <;> rfl

/-- The scheduler as a transition system. -/
def system (κ : Type) : LTS (EmsCommandSender κ) (Event κ) := .ofOption step

end EmsCommandSender

end EmsCollector
