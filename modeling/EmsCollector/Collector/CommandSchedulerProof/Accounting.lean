import EmsCollector.Collector.CommandScheduler
import Mathlib

/-!
# Every telegram is transmitted once

A telegram that was enqueued is in the queue, or it is held by a wait of the send timer that has
not completed, or it was transmitted. The handler of the send timer does not look at its error
code: a wait that was aborted because the timer was armed again transmits its telegram, too.
-/

namespace EmsCollector.EmsCommandSender

variable {κ : Type}

/-- The telegram an action transmits. -/
def Action.request? : Action κ → Option (Request κ)
  | .transmitted request => some request
  | _ => none

/-- The telegrams handed to `sendMessageImpl`. -/
def transmitted (s : EmsCommandSender κ) : Multiset (Request κ) :=
  s.history.filterMap (fun entry => Action.request? entry.2)

/-- Everything the scheduler has taken and not dropped: transmitted, waiting in the queue, or
    held by the send timer. -/
def accounted (s : EmsCommandSender κ) : Multiset (Request κ) :=
  s.transmitted + s.pending + s.sendTimer.held

/-- What the current client enqueues in a callback in which it reacts with `messages`. -/
def reactionRequests (s : EmsCommandSender κ) (messages : List EmsMessage) : List (Request κ) :=
  match s.currentClient with
  | some client => messages.map fun message => { client, message }
  | none => []

/-- The telegrams given to `sendMessage(client, message)` in a step. -/
def enqueues (s : EmsCommandSender κ) : Event κ → List (Request κ)
  | .enqueue _ client message => [{ client, message }]
  | .telegram _ _ reaction => s.reactionRequests reaction
  | .responseExpired _ reaction => s.reactionRequests reaction
  | _ => []

/-- The scheduler with the telegrams ever enqueued. -/
structure Ledger (κ : Type) where
  sender : EmsCommandSender κ
  enqueued : Multiset (Request κ)

namespace Ledger

def init : Ledger κ := { sender := .init, enqueued := 0 }

def step (l : Ledger κ) (e : Event κ) : Option (Ledger κ) :=
  (l.sender.step e).map fun sender => { sender, enqueued := l.enqueued + l.sender.enqueues e }

def system (κ : Type) : LTS (Ledger κ) (Event κ) := .ofOption step

end Ledger

theorem transmitted_record (s : EmsCommandSender κ) (now : Time) (action : Action κ) :
    (s.record now action).transmitted = s.transmitted + (Action.request? action).toList := by
  cases action <;> simp [transmitted, record, Action.request?, ← Multiset.coe_add]

theorem accounted_congr {s t : EmsCommandSender κ} (history : t.history = s.history)
    (pending : t.pending = s.pending) (send : t.sendTimer = s.sendTimer) :
    t.accounted = s.accounted := by
  simp only [accounted, transmitted, history, pending, send]

/-- A transmitted telegram is accounted for. -/
theorem doSendMessage_accounted (s : EmsCommandSender κ) (now : Time) (request : Request κ) :
    (s.doSendMessage now request).accounted = request ::ₘ s.accounted := by
  have sent := transmitted_record s now (.transmitted request)
  have fields : (s.doSendMessage now request).accounted =
      (s.record now (.transmitted request)).accounted := accounted_congr rfl rfl rfl
  rw [fields]
  simp only [accounted, sent, Action.request?]
  show s.transmitted + ([request] : List _) + s.pending + s.sendTimer.held = _
  rw [← Multiset.singleton_add, Multiset.coe_singleton]
  abel

theorem sendOrDelay_accounted (s : EmsCommandSender κ) (now : Time) (request : Request κ) :
    (s.sendOrDelay now request).accounted = request ::ₘ s.accounted := by
  rcases sendOrDelay_cases s now request with ⟨expiry, delayed⟩ | sent
  · rw [delayed]
    simp only [accounted, DeadlineTimer.held_asyncWait, Multiset.add_cons]
    rfl
  · rw [sent]
    exact doSendMessage_accounted s now request

theorem sendOrDelay_pending (s : EmsCommandSender κ) (now : Time) (request : Request κ) :
    (s.sendOrDelay now request).pending = s.pending := by
  rcases sendOrDelay_cases s now request with ⟨expiry, delayed⟩ | sent
  · rw [delayed]
  · rw [sent]
    rfl

theorem accounted_push (s : EmsCommandSender κ) (requests : List (Request κ)) :
    ({ s with pending := s.pending ++ requests } : EmsCommandSender κ).accounted =
      s.accounted + requests := by
  show s.transmitted + ((s.pending ++ requests : List _) : Multiset _) + s.sendTimer.held = _
  rw [← Multiset.coe_add]
  simp only [accounted]
  abel

theorem accounted_pop {s : EmsCommandSender κ} {request : Request κ} {rest : List (Request κ)}
    (queue : s.pending = request :: rest) :
    s.accounted = request ::ₘ ({ s with pending := rest } : EmsCommandSender κ).accounted := by
  simp only [accounted, queue]
  rw [← Multiset.cons_coe, Multiset.add_cons, Multiset.cons_add]
  rfl

/-- `pop_front` drops the telegram that was just sent or delayed. -/
theorem continue_accounted (s : EmsCommandSender κ) (now : Time) :
    (s.continueWithNextRequest now).accounted = s.accounted := by
  cases queue : s.pending with
  | nil =>
      rw [continue_nil queue]
      exact accounted_congr rfl rfl rfl
  | cons request rest =>
      rw [continue_cons queue]
      apply Multiset.cons_inj_right request |>.mp
      have pending := sendOrDelay_pending { s with currentClient := some request.client } now request
      rw [← accounted_pop (pending.trans queue), sendOrDelay_accounted]
      rfl

theorem sendMessage_accounted (s : EmsCommandSender κ) (now : Time) (client : κ)
    (message : EmsMessage) :
    (s.sendMessage now client message).accounted = { client, message } ::ₘ s.accounted := by
  have pushed := accounted_push s [{ client, message }]
  rw [Multiset.coe_singleton, Multiset.add_comm, Multiset.singleton_add] at pushed
  cases current : s.currentClient with
  | none => rw [sendMessage_idle current, continue_accounted, pushed]
  | some other => rw [sendMessage_busy current, pushed]

theorem sendAll_accounted (s : EmsCommandSender κ) (now : Time) (client : κ)
    (messages : List EmsMessage) :
    (s.sendAll now client messages).accounted.card = s.accounted.card + messages.length := by
  induction messages generalizing s with
  | nil => rfl
  | cons message rest ih =>
      have first := sendMessage_accounted s now client message
      have all : s.sendAll now client (message :: rest) =
          (s.sendMessage now client message).sendAll now client rest := rfl
      rw [all, ih, first, Multiset.card_cons, List.length_cons]
      omega

theorem callClient_accounted (s : EmsCommandSender κ) (now : Time) (reaction : List EmsMessage) :
    (s.callClient now reaction).accounted = s.accounted + s.reactionRequests reaction := by
  unfold reactionRequests
  cases current : s.currentClient with
  | none =>
      rw [callClient_idle current]
      exact (Multiset.add_zero _).symm
  | some client =>
      rw [callClient_busy current]
      exact accounted_push s _

theorem handlePcMessage_accounted (s : EmsCommandSender κ) (now : Time) (message : EmsMessage)
    (reaction : List EmsMessage) :
    (s.handlePcMessage now message reaction).accounted =
      s.accounted + s.reactionRequests reaction := by
  unfold handlePcMessage
  rw [continue_accounted]
  exact callClient_accounted _ now reaction

theorem accounted_record (s : EmsCommandSender κ) (now : Time) {action : Action κ}
    (silent : Action.request? action = none) : (s.record now action).accounted = s.accounted := by
  simp only [accounted, transmitted_record, silent]
  show s.transmitted + 0 + s.pending + s.sendTimer.held = _
  rw [Multiset.add_zero]

/-- Each of the two calls of `continueWithNextRequest` after a fake acknowledgement takes a
    telegram of its own. -/
theorem handleResponseTimeout_accounted (s : EmsCommandSender κ) (now : Time)
    (wait : ResponseWait κ) (reaction : List EmsMessage) :
    (s.handleResponseTimeout now wait reaction).accounted =
      s.accounted + s.reactionRequests reaction := by
  unfold handleResponseTimeout
  split
  · have recorded : (s.record now (.fakeAnswered wait.request s.currentClient)).accounted =
        s.accounted := accounted_record s now rfl
    cases current : s.currentClient with
    | none =>
        simp only [record, current, reactionRequests] at recorded ⊢
        rw [continue_accounted, recorded]
        exact (Multiset.add_zero _).symm
    | some client =>
        simp only [record, current] at recorded ⊢
        rw [continue_accounted, handlePcMessage_accounted, recorded]
        simp only [reactionRequests, current]
  · rw [continue_accounted, callClient_accounted, accounted_record s now rfl]
    rfl

/-- A step accounts for exactly what it enqueues. -/
theorem step_accounted {s t : EmsCommandSender κ} {e : Event κ} (next : s.step e = some t) :
    t.accounted = s.accounted + s.enqueues e := by
  simp only [step] at next
  split at next
  case _ now client message =>
    cases next
    rw [sendMessage_accounted, enqueues, Multiset.coe_singleton, Multiset.add_comm]
    rfl
  case _ now message reaction =>
    cases next
    rw [handlePcMessage_accounted, accounted_record s now rfl]
    rfl
  case _ now reaction =>
    obtain ⟨⟨expiry, wait⟩, -, rfl⟩ := Option.map_eq_some_iff.mp next
    exact handleResponseTimeout_accounted _ now wait reaction
  case _ =>
    obtain ⟨wait, -, rfl⟩ := Option.map_eq_some_iff.mp next
    exact (Multiset.add_zero _).symm
  case _ now =>
    obtain ⟨⟨expiry, request⟩, armed, rfl⟩ := Option.map_eq_some_iff.mp next
    rw [doSendMessage_accounted]
    simp only [accounted, DeadlineTimer.held_expired armed, Multiset.add_cons]
    exact (Multiset.add_zero _).symm
  case _ now =>
    obtain ⟨request, aborted, rfl⟩ := Option.map_eq_some_iff.mp next
    rw [doSendMessage_accounted]
    simp only [accounted, DeadlineTimer.held_dropAborted aborted, Multiset.add_cons]
    exact (Multiset.add_zero _).symm

theorem Ledger.step_balanced {l l' : Ledger κ} {e : Event κ} (next : l.step e = some l')
    (balanced : l.sender.accounted = l.enqueued) : l'.sender.accounted = l'.enqueued := by
  obtain ⟨sender, moved, rfl⟩ := Option.map_eq_some_iff.mp next
  rw [step_accounted moved, balanced]

/-- In every run of the scheduler the telegrams transmitted, those in the queue and those held by
    a wait of the send timer are together the telegrams ever enqueued, each as often as it was
    enqueued. -/
theorem run_accounted {es : List (Event κ)} {l : Ledger κ}
    (run : (Ledger.system κ).Run (fun _ _ => True) .init es l) :
    l.sender.transmitted + l.sender.pending + l.sender.sendTimer.held = l.enqueued := by
  apply run.invariant (I := fun l => l.sender.accounted = l.enqueued)
  · rfl
  · intro l e l' balanced _ next
    exact Ledger.step_balanced next balanced

/-- Two telegrams to one device: the first is transmitted, the second delayed, and a telegram
    from the bus arms the send timer again for a third one. The second is transmitted by its
    aborted wait, the third is held. -/
theorem run_accounted_aborted :
    let read (offset : UInt8) : EmsMessage := .send 0x08 0x02 offset [1] true
    let events : List (Event Unit) := [.enqueue 0 () (read 0), .enqueue 0 () (read 1), .enqueue 0 () (read 2),
      .telegram 1000 (read 0) [], .telegram 2000 (read 1) [], .sendAborted 2000]
    ∃ l, (Ledger.system Unit).Run (fun _ _ => True) .init events l ∧
      l.sender.transmitted = ([⟨(), read 0⟩, ⟨(), read 1⟩] : List (Request Unit)) ∧
      l.sender.transmitted + l.sender.pending + l.sender.sendTimer.held = l.enqueued := by
  intro read events
  have run : (Ledger.system Unit).Run (fun _ _ => True) .init events _ := .ofFold rfl
  exact ⟨_, run, rfl, run_accounted run⟩

end EmsCollector.EmsCommandSender
