import EmsCollector.Collector.CommandSchedulerProof.Accounting

/-!
# The distance between telegrams

`m_lastCommTimes` is keyed by address bytes: a read is noted under the address with bit 7, a
write and a telegram that was received under the one without. A telegram is delayed only by the
entry of its own byte, and what the send timer's handler transmits is not delayed again: neither
what arrives during the wait nor the abortion of the wait is looked at.
-/

namespace EmsCollector.EmsCommandSender

variable {κ : Type}

/-- A bus device, whatever bit 7 of the byte says. -/
def deviceOf (address : UInt8) : UInt8 := address &&& 0x7f

/-- The address byte under which a telegram to or from a device is noted. -/
def contact : Action κ → Option UInt8
  | .transmitted request => some request.message.dest
  | .received message _ => some message.source
  | .fakeAnswered .. | .timedOut .. => none

/-- If the later one is a transmission to the device of the earlier one, it comes at least
    `MinDistanceBetweenRequests` later. -/
def Spaced (earlier later : Time × Action κ) : Prop :=
  ∀ request ∈ Action.request? later.2, ∀ address ∈ contact earlier.2,
    deviceOf address = deviceOf request.message.dest →
      earlier.1 + milliseconds minDistanceBetweenRequests ≤ later.1

instance (earlier later : Time × Action κ) : Decidable (Spaced earlier later) :=
  inferInstanceAs (Decidable (∀ request ∈ Action.request? later.2, ∀ address ∈ contact earlier.2,
    deviceOf address = deviceOf request.message.dest → _))

/-- Every transmission keeps the distance to all that went to or came from the device before. -/
def MinDistance (history : List (Time × Action κ)) : Prop := history.Pairwise Spaced

instance (history : List (Time × Action κ)) : Decidable (MinDistance history) :=
  inferInstanceAs (Decidable (history.Pairwise Spaced))

/-- No telegram under an address of that kind was exchanged in the last 100 ms. -/
def Quiet (history : List (Time × Action κ)) (addresses : UInt8 → Prop) (now : Time) : Prop :=
  ∀ entry ∈ history, ∀ address, contact entry.2 = some address → addresses address →
    entry.1 + milliseconds minDistanceBetweenRequests ≤ now

/-- The address bytes of the device of a telegram. -/
def SameDevice (request : Request κ) (address : UInt8) : Prop :=
  deviceOf address = deviceOf request.message.dest

/-- The address byte of the device of a telegram that is not the telegram's own. -/
def OtherByte (request : Request κ) (address : UInt8) : Prop :=
  SameDevice request address ∧ address ≠ request.message.dest

/-- `sendMessage(message)` delays the telegram. -/
def HeldBack (s : EmsCommandSender κ) (now : Time) (request : Request κ) : Prop :=
  ∃ last ∈ s.lastCommTimes request.message.dest, (now - last).tdiv 1000 ≤ minDistanceBetweenRequests

instance (s : EmsCommandSender κ) (now : Time) (request : Request κ) :
    Decidable (s.HeldBack now request) :=
  inferInstanceAs (Decidable (∃ last ∈ s.lastCommTimes request.message.dest, _))

/-- If a telegram is taken up and not delayed, none was exchanged with its device under the
    address byte with the other bit 7 in the last 100 ms. -/
def TakesUpClear (s : EmsCommandSender κ) (now : Time) : Prop :=
  ∀ request, s.pending.head? = some request → ¬ s.HeldBack now request →
    Quiet s.history (OtherByte request) now

/-- `handlePcMessage` up to its call of `continueWithNextRequest`. -/
def beforeContinue (s : EmsCommandSender κ) (now : Time) (message : EmsMessage)
    (reaction : List EmsMessage) : EmsCommandSender κ :=
  let s := s.setLastCommTime message.source now
  let s := { s with responseTimeout := s.responseTimeout.cancel }
  s.callClient now reaction

/-- The states in which the handler of a response wait calls `continueWithNextRequest`. A fake
    acknowledgement takes up two telegrams. -/
def timeoutTakeUps (s : EmsCommandSender κ) (now : Time) (wait : ResponseWait κ)
    (reaction : List EmsMessage) : List (Time × EmsCommandSender κ) :=
  if wait.fakeAnswer then
    let s := s.record now (.fakeAnswered wait.request s.currentClient)
    if s.currentClient.isSome then
      [(now, s.beforeContinue now fakeMessage reaction),
        (now, s.handlePcMessage now fakeMessage reaction)]
    else [(now, s)]
  else
    let s := s.record now (.timedOut wait.request s.currentClient)
    [(now, s.callClient now reaction)]

/-- The states in which a step calls `continueWithNextRequest`. -/
def takeUps (s : EmsCommandSender κ) : Event κ → List (Time × EmsCommandSender κ)
  | .enqueue now client message =>
      if s.currentClient.isNone then [(now, { s with pending := s.pending ++ [{ client, message }] })]
      else []
  | .telegram now message reaction =>
      [(now, (s.record now (.received message s.currentClient)).beforeContinue now message reaction)]
  | .responseExpired now reaction =>
      s.responseTimeout.wait.toList.flatMap fun (_, wait) =>
        { s with responseTimeout := s.responseTimeout.expired }.timeoutTakeUps now wait reaction
  | .responseAborted | .sendExpired _ | .sendAborted _ => []

/-- A telegram that a wait of the send timer holds, and how long the history was when the wait was
    armed. -/
structure Delay (κ : Type) where
  request : Request κ
  noted : Nat
  deriving DecidableEq, Repr

/-- The wait that is armed if the telegram that is taken up is held back. -/
def armed (s : EmsCommandSender κ) (now : Time) : List (Delay κ) :=
  (s.pending.head?.toList.filter (fun request => s.HeldBack now request)).map fun request =>
    { request, noted := s.history.length }

/-- When the handler of a wait transmits, nothing was exchanged with the device in the last 100 ms
    since the wait was armed, nor before under the other address byte. -/
structure HandlerClear (s : EmsCommandSender κ) (now : Time) (delay : Delay κ) : Prop where
  meanwhile : Quiet (s.history.drop delay.noted) (SameDevice delay.request) now
  other : Quiet (s.history.take delay.noted) (OtherByte delay.request) now

/-- A wait has not been cut short: the last telegram before it under the own address byte was
    100 ms ago. -/
def LongEnough (s : EmsCommandSender κ) (now : Time) (delay : Delay κ) : Prop :=
  Quiet (s.history.take delay.noted) (· = delay.request.message.dest) now

/-- The scheduler with the waits of the send timer whose handlers have not run yet, oldest first. -/
structure Delays (κ : Type) where
  sender : EmsCommandSender κ
  waits : List (Delay κ)

namespace Delays

def init : Delays κ := { sender := .init, waits := [] }

/-- The waits whose handlers do not run in a step: the timer's own wait is the last one, and the
    aborted ones complete in their order. -/
def remaining (d : Delays κ) : Event κ → List (Delay κ)
  | .sendExpired _ => d.waits.dropLast
  | .sendAborted _ => d.waits.tail
  | _ => d.waits

def step (d : Delays κ) (e : Event κ) : Option (Delays κ) :=
  (d.sender.step e).map fun sender =>
    { sender, waits := d.remaining e ++ (d.sender.takeUps e).flatMap fun up => up.2.armed up.1 }

def system (κ : Type) : LTS (Delays κ) (Event κ) := .ofOption step

/-- The condition on the handlers of the send timer. A wait that expires has been long enough. -/
def HandlersClear (d : Delays κ) : Event κ → Prop
  | .sendExpired now => ∀ delay ∈ d.waits.getLast?, d.sender.HandlerClear now delay
  | .sendAborted now =>
      ∀ delay ∈ d.waits.head?, d.sender.HandlerClear now delay ∧ d.sender.LongEnough now delay
  | _ => True

/-- The condition on a step. -/
structure StepClear (d : Delays κ) (e : Event κ) : Prop where
  taken : ∀ up ∈ d.sender.takeUps e, up.2.TakesUpClear up.1
  handlers : d.HandlersClear e

end Delays

/-- The moment of a step; the handler of an aborted response wait does nothing at all. -/
def Event.now : Event κ → Option Time
  | .enqueue now _ _ | .telegram now _ _ | .responseExpired now _ | .sendExpired now
  | .sendAborted now => some now
  | .responseAborted => none

/-- The moment at which the send timer expires. -/
def Event.sendExpiry : Event κ → Option Time
  | .sendExpired now => some now
  | _ => none

/-- The clock does not go back behind anything that has been seen, and the send timer does not
    expire before the time it was armed for. -/
def ClockOk (s : EmsCommandSender κ) (e : Event κ) : Prop :=
  (∀ now ∈ e.now, ∀ entry ∈ s.history, entry.1 ≤ now) ∧
    ∀ now ∈ e.sendExpiry, ∀ wait ∈ s.sendTimer.wait, wait.1 ≤ now

instance (s : EmsCommandSender κ) (e : Event κ) : Decidable (s.ClockOk e) :=
  inferInstanceAs (Decidable ((∀ now ∈ e.now, ∀ entry ∈ s.history, entry.1 ≤ now) ∧
    ∀ now ∈ e.sendExpiry, ∀ wait ∈ s.sendTimer.wait, wait.1 ≤ now))

/-- All that was exchanged is noted in `m_lastCommTimes`. -/
def Noted (s : EmsCommandSender κ) : Prop :=
  ∀ entry ∈ s.history, ∀ address, contact entry.2 = some address →
    ∃ last, s.lastCommTimes address = some last ∧ entry.1 ≤ last

/-- `Noted`, and nothing lies in the future. -/
structure Known (s : EmsCommandSender κ) (now : Time) : Prop where
  noted : s.Noted
  past : ∀ entry ∈ s.history, entry.1 ≤ now

theorem Known.congr {s t : EmsCommandSender κ} {now : Time} (known : s.Known now)
    (history : t.history = s.history) (times : t.lastCommTimes = s.lastCommTimes) : t.Known now := by
  obtain ⟨noted, past⟩ := known
  refine ⟨?_, by rwa [history]⟩
  intro entry member address contacted
  rw [history] at member
  rw [times]
  exact noted entry member address contacted

theorem minDistance_snoc (history : List (Time × Action κ)) (now : Time) (action : Action κ) :
    MinDistance (history ++ [(now, action)]) ↔ MinDistance history ∧
      ∀ request ∈ Action.request? action,
        Quiet history (fun address => deviceOf address = deviceOf request.message.dest) now := by
  unfold MinDistance
  rw [List.pairwise_append]
  constructor
  · rintro ⟨before, -, spaced⟩
    refine ⟨before, ?_⟩
    intro request transmitted entry member address contacted same
    exact spaced entry member _ (List.mem_singleton_self _) request transmitted address contacted same
  · rintro ⟨before, quiet⟩
    refine ⟨before, List.pairwise_singleton _ _, ?_⟩
    intro entry member later final request transmitted address contacted same
    cases List.mem_singleton.mp final
    exact quiet request transmitted entry member address contacted same

/-- An action that is no transmission does not matter. -/
theorem minDistance_record (s : EmsCommandSender κ) (now : Time) {action : Action κ}
    (other : Action.request? action = none) :
    MinDistance (s.record now action).history ↔ MinDistance s.history := by
  show MinDistance (s.history ++ [(now, action)]) ↔ _
  rw [minDistance_snoc, other]
  exact and_iff_left nofun

theorem Known.past_record {s : EmsCommandSender κ} {now : Time} (known : s.Known now)
    (action : Action κ) : ∀ entry ∈ (s.record now action).history, entry.1 ≤ now := by
  intro entry member
  rcases List.mem_append.mp member with before | final
  · exact known.past entry before
  · cases List.mem_singleton.mp final
    exact Int.le_refl now

/-- A telegram is noted when it is transmitted or received. -/
theorem Known.note {s : EmsCommandSender κ} {now : Time} (known : s.Known now) {action : Action κ}
    {address : UInt8} (contacted : contact action = some address) :
    ((s.record now action).setLastCommTime address now).Known now := by
  refine ⟨?_, known.past_record action⟩
  intro entry member other its_contact
  rcases List.mem_append.mp member with before | final
  · obtain ⟨last, entered, older⟩ := known.noted entry before other its_contact
    by_cases same : other = address
    · exact ⟨now, if_pos same, known.past entry before⟩
    · exact ⟨last, (if_neg same).trans entered, older⟩
  · cases List.mem_singleton.mp final
    rw [contacted] at its_contact
    cases its_contact
    exact ⟨now, if_pos rfl, Int.le_refl now⟩

/-- What else is recorded needs no note. -/
theorem Known.record {s : EmsCommandSender κ} {now : Time} (known : s.Known now) {action : Action κ}
    (silent : contact action = none) : (s.record now action).Known now := by
  refine ⟨?_, known.past_record action⟩
  intro entry member address contacted
  rcases List.mem_append.mp member with before | final
  · exact known.noted entry before address contacted
  · cases List.mem_singleton.mp final
    rw [silent] at contacted
    cases contacted

/-- The time of a fake acknowledgement is noted under the own address. -/
theorem Known.setLastCommTime {s : EmsCommandSender κ} {now : Time} (known : s.Known now)
    (address : UInt8) : (s.setLastCommTime address now).Known now := by
  obtain ⟨noted, past⟩ := known
  refine ⟨?_, past⟩
  intro entry member other contacted
  obtain ⟨last, entered, older⟩ := noted entry member other contacted
  by_cases same : other = address
  · exact ⟨now, if_pos same, past entry member⟩
  · exact ⟨last, (if_neg same).trans entered, older⟩

theorem doSendMessage_distance {s : EmsCommandSender κ} {now : Time} (known : s.Known now)
    (request : Request κ) :
    (s.doSendMessage now request).Known now ∧
      (MinDistance (s.doSendMessage now request).history ↔
        MinDistance s.history ∧ Quiet s.history (SameDevice request) now) := by
  have noted : contact (.transmitted request : Action κ) = some request.message.dest := rfl
  refine ⟨(known.note noted).congr rfl rfl, ?_⟩
  show MinDistance (s.history ++ [(now, .transmitted request)]) ↔ _
  rw [minDistance_snoc]
  constructor
  · rintro ⟨before, quiet⟩
    exact ⟨before, quiet request rfl⟩
  · rintro ⟨before, quiet⟩
    refine ⟨before, ?_⟩
    rintro _ ⟨⟩
    exact quiet

theorem Quiet.later {history : List (Time × Action κ)} {addresses : UInt8 → Prop} {now later : Time}
    (quiet : Quiet history addresses now) (after : now ≤ later) : Quiet history addresses later :=
  fun entry member address contacted kind =>
    Int.le_trans (quiet entry member address contacted kind) after

/-- A device is quiet if it is under the own address byte and under the other one. -/
theorem quiet_device {history : List (Time × Action κ)} {request : Request κ} {now : Time} :
    Quiet history (SameDevice request) now ↔
      Quiet history (· = request.message.dest) now ∧ Quiet history (OtherByte request) now := by
  constructor
  · intro quiet
    refine ⟨?_, fun entry member address contacted other =>
      quiet entry member address contacted other.1⟩
    rintro entry member address contacted rfl
    exact quiet entry member _ contacted rfl
  · rintro ⟨own, other⟩ entry member address contacted same
    by_cases its_own : address = request.message.dest
    · exact own entry member address contacted its_own
    · exact other entry member address contacted ⟨same, its_own⟩

/-- A device is quiet when the handler of a wait runs if it was until the wait was armed, and has
    been since. -/
theorem quiet_delay {s : EmsCommandSender κ} {now : Time} {delay : Delay κ} :
    Quiet s.history (SameDevice delay.request) now ↔
      s.HandlerClear now delay ∧ s.LongEnough now delay := by
  have split : Quiet s.history (SameDevice delay.request) now ↔
      Quiet (s.history.take delay.noted) (SameDevice delay.request) now ∧
        Quiet (s.history.drop delay.noted) (SameDevice delay.request) now := by
    conv_lhs => rw [← List.take_append_drop delay.noted s.history]
    exact List.forall_mem_append
  rw [split, quiet_device]
  constructor
  · rintro ⟨⟨own, other⟩, meanwhile⟩
    exact ⟨⟨meanwhile, other⟩, own⟩
  · rintro ⟨⟨meanwhile, other⟩, own⟩
    exact ⟨⟨own, other⟩, meanwhile⟩

/-- `total_milliseconds` rounds towards zero. -/
theorem apart_of_tdiv {now last : Int} (late : 100 < (now - last).tdiv 1000) :
    last + 1000 * 100 ≤ now := by
  have positive : 0 ≤ now - last := by
    by_contra negative
    have opposite := Int.neg_tdiv (last - now) 1000
    have quotient : 0 ≤ (last - now).tdiv 1000 := Int.tdiv_nonneg (by omega) (by omega)
    rw [Int.neg_sub] at opposite
    omega
  rw [Int.tdiv_eq_ediv_of_nonneg positive] at late
  omega

/-- A telegram that is not delayed keeps the distance to its own entry. -/
theorem quiet_of_not_heldBack {s : EmsCommandSender κ} {now : Time} (known : s.Known now)
    {request : Request κ} (free : ¬ s.HeldBack now request) :
    Quiet s.history (fun address => address = request.message.dest) now := by
  rintro entry member address contacted rfl
  obtain ⟨last, entered, older⟩ := known.noted entry member request.message.dest contacted
  have late : 100 < (now - last).tdiv 1000 :=
    Int.not_le.mp fun recent => free ⟨last, entered, recent⟩
  exact Int.le_trans (Int.add_le_add_right older _) (apart_of_tdiv late)

theorem sendOrDelay_held {s : EmsCommandSender κ} {now : Time} {request : Request κ}
    (held : s.HeldBack now request) : ∃ last, s.lastCommTimes request.message.dest = some last ∧
      s.sendOrDelay now request =
        { s with sendTimer :=
            s.sendTimer.asyncWait (last + milliseconds minDistanceBetweenRequests) request } := by
  obtain ⟨last, entered, recent⟩ := held
  refine ⟨last, entered, ?_⟩
  unfold sendOrDelay
  rw [entered]
  exact if_pos recent

theorem sendOrDelay_sent {s : EmsCommandSender κ} {now : Time} {request : Request κ}
    (free : ¬ s.HeldBack now request) : s.sendOrDelay now request = s.doSendMessage now request := by
  unfold sendOrDelay
  cases entered : s.lastCommTimes request.message.dest with
  | none => rfl
  | some last => exact if_neg fun recent => free ⟨last, entered, recent⟩

/-- The waits are those of the send timer, and the one that is not aborted expires 100 ms after the
    last telegram before it under its own address byte. -/
structure Tracked (s : EmsCommandSender κ) (waits : List (Delay κ)) : Prop where
  requests : waits.map Delay.request =
    s.sendTimer.aborted ++ (s.sendTimer.wait.map Prod.snd).toList
  due : ∀ wait ∈ s.sendTimer.wait, ∀ delay ∈ waits.getLast?,
    delay.noted ≤ s.history.length ∧ s.LongEnough wait.1 delay

/-- The own wait of the timer is the last one. -/
theorem Tracked.last {s : EmsCommandSender κ} {waits : List (Delay κ)} (tracked : s.Tracked waits)
    {expiry : Time} {request : Request κ} (armed : s.sendTimer.wait = some (expiry, request)) :
    ∃ front delay, waits = front ++ [delay] ∧ front.map Delay.request = s.sendTimer.aborted ∧
      delay.request = request := by
  have requests := tracked.requests
  rw [armed] at requests
  obtain ⟨front, tail, rfl, aborted, single⟩ := List.map_eq_append_iff.mp requests
  obtain ⟨delay, rfl, same⟩ := List.map_eq_singleton_iff.mp single
  exact ⟨front, delay, rfl, aborted, same⟩

/-- A wait stays as it is while the history grows. -/
theorem Tracked.grow {s t : EmsCommandSender κ} {waits : List (Delay κ)} (tracked : s.Tracked waits)
    (timer : t.sendTimer = s.sendTimer) {more : List (Time × Action κ)}
    (history : t.history = s.history ++ more) : t.Tracked waits := by
  obtain ⟨requests, due⟩ := tracked
  refine ⟨timer ▸ requests, fun wait armed delay last => ?_⟩
  obtain ⟨within, long⟩ := due wait (timer ▸ armed) delay last
  refine ⟨?_, ?_⟩
  · rw [history, List.length_append]
    exact Nat.le_add_right_of_le within
  · unfold LongEnough
    rw [history, List.take_append_of_le_length within]
    exact long

/-- A wait is armed for 100 ms behind the last telegram under the own address byte. -/
theorem Tracked.arm {s : EmsCommandSender κ} {waits : List (Delay κ)} (tracked : s.Tracked waits)
    (noted : s.Noted) {request : Request κ} {last : Time}
    (entered : s.lastCommTimes request.message.dest = some last) :
    ({ s with
        sendTimer :=
          s.sendTimer.asyncWait (last + milliseconds minDistanceBetweenRequests) request } :
      EmsCommandSender κ).Tracked (waits ++ [{ request, noted := s.history.length }]) := by
  refine ⟨?_, ?_⟩
  · rw [List.map_append, tracked.requests]
    rfl
  · rintro _ ⟨⟩ delay is_last
    rw [List.getLast?_concat] at is_last
    cases is_last
    refine ⟨Nat.le_refl _, ?_⟩
    show Quiet (s.history.take s.history.length) _ _
    rw [List.take_length]
    rintro entry member address contacted rfl
    obtain ⟨last', entered', older⟩ := noted entry member _ contacted
    cases entered.symm.trans entered'
    exact Int.add_le_add_right older _

/-- From one state to another in which the calls of `continueWithNextRequest` are made in `ups`. -/
structure Advance (now : Time) (s : EmsCommandSender κ) (ups : List (Time × EmsCommandSender κ))
    (t : EmsCommandSender κ) : Prop where
  known : t.Known now
  distance : MinDistance t.history ↔
    MinDistance s.history ∧ ∀ up ∈ ups, up.2.TakesUpClear up.1
  tracked : ∀ waits, s.Tracked waits →
    t.Tracked (waits ++ ups.flatMap fun up => up.2.armed up.1)

theorem Advance.trans {now : Time} {s t u : EmsCommandSender κ}
    {ups more : List (Time × EmsCommandSender κ)} (first : Advance now s ups t)
    (second : Advance now t more u) : Advance now s (ups ++ more) u := by
  refine ⟨second.known, ?_, fun waits tracked => ?_⟩
  · rw [second.distance, first.distance, List.forall_mem_append, and_assoc]
  · rw [List.flatMap_append, ← List.append_assoc]
    exact second.tracked _ (first.tracked waits tracked)

/-- What is recorded besides transmissions is no matter of distance. -/
theorem Advance.record {now : Time} {s : EmsCommandSender κ} {action : Action κ}
    (known : (s.record now action).Known now) (other : Action.request? action = none) :
    Advance now s [] (s.record now action) := by
  refine ⟨known, ?_, fun waits tracked => ?_⟩
  · rw [minDistance_record s now other]
    exact (and_iff_left (List.forall_mem_nil _)).symm
  · rw [List.flatMap_nil, List.append_nil]
    exact tracked.grow rfl rfl

theorem Advance.unseen {now : Time} {s t : EmsCommandSender κ} (known : t.Known now)
    (history : t.history = s.history) (timer : t.sendTimer = s.sendTimer) : Advance now s [] t := by
  refine ⟨known, ?_, fun waits tracked => ?_⟩
  · rw [history]
    exact (and_iff_left (List.forall_mem_nil _)).symm
  · rw [List.flatMap_nil, List.append_nil]
    exact tracked.grow timer (history.trans (List.append_nil _).symm)

/-- The telegram that is taken up is transmitted, or a wait is armed for it. -/
theorem continue_advance {s : EmsCommandSender κ} {now : Time} (known : s.Known now) :
    Advance now s [(now, s)] (s.continueWithNextRequest now) := by
  cases queue : s.pending with
  | nil =>
      rw [continue_nil queue]
      have clear : s.TakesUpClear now := by
        intro request first
        rw [queue] at first
        cases first
      have idle : s.armed now = [] := by
        unfold armed
        rw [queue]
        rfl
      obtain ⟨known', distance, tracked⟩ :=
        Advance.unseen (s := s) (t := { s with currentClient := none }) (known.congr rfl rfl) rfl rfl
      refine ⟨known', ?_, ?_⟩
      · rw [List.forall_mem_singleton]
        exact (and_iff_left clear).symm
      · rw [List.flatMap_singleton, idle]
        exact tracked
  | cons request rest =>
      rw [continue_cons queue]
      have known₁ : ({ s with currentClient := some request.client } : EmsCommandSender κ).Known now :=
        known.congr rfl rfl
      have clear_iff : s.TakesUpClear now ↔
          (¬ s.HeldBack now request → Quiet s.history (OtherByte request) now) := by
        unfold TakesUpClear
        rw [queue]
        simp
      by_cases held : s.HeldBack now request
      · obtain ⟨last, entered, delayed⟩ :=
          sendOrDelay_held (s := { s with currentClient := some request.client }) held
        have waits_for : s.armed now = [{ request, noted := s.history.length }] := by
          simp [armed, queue, held]
        rw [delayed]
        refine ⟨known₁.congr rfl rfl, ?_, fun waits tracked => ?_⟩
        · rw [List.forall_mem_singleton, clear_iff]
          exact (and_iff_left fun free => absurd held free).symm
        · rw [List.flatMap_singleton, waits_for]
          exact (tracked.arm known.noted entered).grow rfl (List.append_nil _).symm
      · have idle : s.armed now = [] := by
          simp [armed, queue, held]
        rw [sendOrDelay_sent (s := { s with currentClient := some request.client }) held]
        obtain ⟨known₂, distance⟩ := doSendMessage_distance known₁ request
        refine ⟨known₂.congr rfl rfl, ?_, fun waits tracked => ?_⟩
        · rw [List.forall_mem_singleton, clear_iff]
          refine distance.trans (and_congr_right fun _ => ?_)
          rw [quiet_device, and_iff_right (quiet_of_not_heldBack known held), forall_prop_of_true held]
        · rw [List.flatMap_singleton, idle, List.append_nil]
          exact tracked.grow rfl rfl

/-- The callbacks only enqueue. -/
theorem callClient_unseen (s : EmsCommandSender κ) (now : Time) (reaction : List EmsMessage) :
    (s.callClient now reaction).history = s.history ∧
      (s.callClient now reaction).lastCommTimes = s.lastCommTimes ∧
      (s.callClient now reaction).sendTimer = s.sendTimer := by
  cases current : s.currentClient with
  | none => rw [callClient_idle current]; exact ⟨rfl, rfl, rfl⟩
  | some client => rw [callClient_busy current]; exact ⟨rfl, rfl, rfl⟩

/-- A telegram for the PC, real or fake. -/
theorem handlePcMessage_advance {s : EmsCommandSender κ} {now : Time} {message : EmsMessage}
    (known : (s.setLastCommTime message.source now).Known now) (reaction : List EmsMessage) :
    Advance now s [(now, s.beforeContinue now message reaction)]
      (s.handlePcMessage now message reaction) := by
  obtain ⟨history, times, timer⟩ := callClient_unseen
    { s.setLastCommTime message.source now with
      responseTimeout := (s.setLastCommTime message.source now).responseTimeout.cancel } now reaction
  have before : (s.beforeContinue now message reaction).Known now := known.congr history times
  have called : Advance now s [] (s.beforeContinue now message reaction) :=
    .unseen before history timer
  exact called.trans (continue_advance before)

/-- A telegram for the PC is noted before it is handled. -/
theorem telegram_advance {s : EmsCommandSender κ} {now : Time} (known : s.Known now)
    (message : EmsMessage) (reaction : List EmsMessage) :
    Advance now s (s.takeUps (.telegram now message reaction))
      ((s.record now (.received message s.currentClient)).handlePcMessage now message reaction) := by
  let t := s.record now (.received message s.currentClient)
  have source : contact (.received message s.currentClient : Action κ) = some message.source := rfl
  have noted : (t.setLastCommTime message.source now).Known now := known.note source
  obtain ⟨known', distance, tracked⟩ := handlePcMessage_advance noted reaction
  refine ⟨known', ?_, fun waits before => ?_⟩
  · rw [distance, minDistance_record s now rfl]
    rfl
  · exact tracked waits (before.grow rfl rfl)

theorem timeout_advance {s : EmsCommandSender κ} {now : Time} (known : s.Known now)
    (wait : ResponseWait κ) (reaction : List EmsMessage) :
    Advance now s (s.timeoutTakeUps now wait reaction) (s.handleResponseTimeout now wait reaction) := by
  unfold handleResponseTimeout timeoutTakeUps
  by_cases fake : wait.fakeAnswer = true
  · rw [if_pos fake, if_pos fake]
    have known₁ := @Known.record _ s now known (.fakeAnswered wait.request s.currentClient) rfl
    have recorded := Advance.record known₁ rfl
    generalize s.record now (.fakeAnswered wait.request s.currentClient) = s₁ at known₁ recorded
    dsimp only
    cases s₁.currentClient with
    | none => exact recorded.trans (continue_advance known₁)
    | some client =>
        have answered := handlePcMessage_advance (known₁.setLastCommTime fakeMessage.source) reaction
        exact (recorded.trans answered).trans (continue_advance answered.known)
  · rw [if_neg fake, if_neg fake]
    have known₁ := @Known.record _ s now known (.timedOut wait.request s.currentClient) rfl
    have recorded := Advance.record known₁ rfl
    generalize s.record now (.timedOut wait.request s.currentClient) = s₁ at known₁ recorded
    obtain ⟨history, times, timer⟩ := callClient_unseen s₁ now reaction
    have called := known₁.congr history times
    exact (recorded.trans (Advance.unseen called history timer)).trans
      (continue_advance called)

/-- The own wait of the timer has completed. -/
theorem Tracked.expired {s : EmsCommandSender κ} {front : List (Delay κ)}
    (aborted : front.map Delay.request = s.sendTimer.aborted) :
    ({ s with sendTimer := s.sendTimer.expired } : EmsCommandSender κ).Tracked front :=
  ⟨aborted.trans (List.append_nil _).symm, nofun⟩

/-- The oldest aborted wait has completed. -/
theorem Tracked.dropAborted {s : EmsCommandSender κ} {waits : List (Delay κ)}
    (tracked : s.Tracked waits) {request : Request κ}
    (aborted : s.sendTimer.aborted.head? = some request) :
    ∃ delay rest, waits = delay :: rest ∧ delay.request = request ∧
      ({ s with sendTimer := s.sendTimer.dropAborted } : EmsCommandSender κ).Tracked rest := by
  obtain ⟨more, split⟩ := List.head?_eq_some_iff.mp aborted
  obtain ⟨requests, due⟩ := tracked
  rw [split, List.cons_append] at requests
  obtain ⟨delay, rest, rfl, same, others⟩ := List.map_eq_cons_iff.mp requests
  refine ⟨delay, rest, rfl, same, ?_, fun wait armed last is_last => ?_⟩
  · rw [others]
    show _ = s.sendTimer.aborted.tail ++ _
    rw [split]
    rfl
  · refine due wait armed last ?_
    obtain ⟨front, rfl⟩ := List.getLast?_eq_some_iff.mp is_last
    rw [← List.cons_append, List.getLast?_concat]
    rfl

/-- The handler of a wait transmits. -/
theorem handler_distance {s t : EmsCommandSender κ} {now : Time} (known : s.Known now)
    (history : t.history = s.history) (times : t.lastCommTimes = s.lastCommTimes) (delay : Delay κ) :
    (t.doSendMessage now delay.request).Known now ∧
      (MinDistance (t.doSendMessage now delay.request).history ↔
        MinDistance s.history ∧ s.HandlerClear now delay ∧ s.LongEnough now delay) := by
  obtain ⟨known', distance⟩ := doSendMessage_distance (known.congr history times) delay.request
  rw [history, quiet_delay] at distance
  exact ⟨known', distance⟩

theorem takeUps_idle {s : EmsCommandSender κ} (idle : s.currentClient = none) (now : Time) (client : κ)
    (message : EmsMessage) :
    s.takeUps (.enqueue now client message) =
      [(now, { s with pending := s.pending ++ [{ client, message }] })] :=
  if_pos (by rw [idle]; rfl)

theorem takeUps_busy {s : EmsCommandSender κ} {client : κ} (busy : s.currentClient = some client)
    (now : Time) (other : κ) (message : EmsMessage) : s.takeUps (.enqueue now other message) = [] :=
  if_neg (by rw [busy]; exact Bool.false_ne_true)

theorem takeUps_timeout {s : EmsCommandSender κ} {expiry : Time} {wait : ResponseWait κ}
    (armed : s.responseTimeout.wait = some (expiry, wait)) (now : Time) (reaction : List EmsMessage) :
    s.takeUps (.responseExpired now reaction) =
      timeoutTakeUps { s with responseTimeout := s.responseTimeout.expired } now wait reaction := by
  unfold takeUps
  rw [armed]
  exact List.flatMap_singleton ..

theorem enqueue_advance {s : EmsCommandSender κ} {now : Time} (known : s.Known now) (client : κ)
    (message : EmsMessage) :
    Advance now s (s.takeUps (.enqueue now client message)) (s.sendMessage now client message) := by
  cases current : s.currentClient with
  | none =>
      let t : EmsCommandSender κ := { s with pending := s.pending ++ [{ client, message }] }
      have queued : t.Known now := known.congr rfl rfl
      have enqueued : Advance now s [] t := .unseen queued rfl rfl
      rw [sendMessage_idle current, takeUps_idle current]
      exact enqueued.trans (continue_advance queued)
  | some busy =>
      rw [sendMessage_busy current, takeUps_busy current]
      exact .unseen (known.congr rfl rfl) rfl rfl

namespace Delays

variable {d : Delays κ} {s : EmsCommandSender κ} {e : Event κ} {now : Time}

/-- The step of the scheduler keeps track of the waits, and keeps the distance exactly if it meets
    the condition. -/
def Keeps (d : Delays κ) (e : Event κ) (s : EmsCommandSender κ) : Prop :=
  (s.Noted ∧ s.Tracked (d.remaining e ++ (d.sender.takeUps e).flatMap fun up => up.2.armed up.1)) ∧
    (MinDistance s.history ↔ MinDistance d.sender.history ∧ d.StepClear e)

/-- A step in which no handler of the send timer runs. -/
theorem keeps_of_advance (tracked : d.sender.Tracked d.waits)
    (advance : Advance now d.sender (d.sender.takeUps e) s) (kept : d.remaining e = d.waits)
    (quiet : d.HandlersClear e) : d.Keeps e s := by
  refine ⟨⟨advance.known.noted, ?_⟩, ?_⟩
  · rw [kept]
    exact advance.tracked _ tracked
  · rw [advance.distance]
    exact and_congr_right fun _ => ⟨fun taken => ⟨taken, quiet⟩, StepClear.taken⟩

theorem stepClear_sendExpired {delay : Delay κ} (last : d.waits.getLast? = some delay) :
    d.StepClear (.sendExpired now) ↔ d.sender.HandlerClear now delay := by
  constructor
  · exact fun clear => clear.handlers delay last
  · intro clear
    refine ⟨List.forall_mem_nil _, fun other is_last => ?_⟩
    cases last.symm.trans is_last
    exact clear

theorem stepClear_sendAborted {delay : Delay κ} (first : d.waits.head? = some delay) :
    d.StepClear (.sendAborted now) ↔
      d.sender.HandlerClear now delay ∧ d.sender.LongEnough now delay := by
  constructor
  · exact fun clear => clear.handlers delay first
  · intro clear
    refine ⟨List.forall_mem_nil _, fun other is_first => ?_⟩
    cases first.symm.trans is_first
    exact clear

/-- A wait that expires has been long enough. -/
theorem sendExpired_keeps (known : d.sender.Known now) (tracked : d.sender.Tracked d.waits)
    {expiry : Time} {request : Request κ} (armed : d.sender.sendTimer.wait = some (expiry, request))
    (due : expiry ≤ now) :
    d.Keeps (.sendExpired now)
      ({ d.sender with sendTimer := d.sender.sendTimer.expired }.doSendMessage now request) := by
  obtain ⟨front, delay, waits, aborted, rfl⟩ := tracked.last armed
  have last : d.waits.getLast? = some delay := by rw [waits, List.getLast?_concat]
  obtain ⟨-, long⟩ := tracked.due _ armed delay last
  have long_enough : d.sender.LongEnough now delay := long.later due
  obtain ⟨known', distance⟩ := handler_distance known
    (t := { d.sender with sendTimer := d.sender.sendTimer.expired }) rfl rfl delay
  rw [and_iff_left long_enough, ← stepClear_sendExpired last] at distance
  refine ⟨⟨known'.noted, ?_⟩, distance⟩
  show Tracked _ (d.waits.dropLast ++ [])
  rw [waits, List.dropLast_concat, List.append_nil]
  exact (Tracked.expired aborted).grow rfl rfl

theorem sendAborted_keeps (known : d.sender.Known now) (tracked : d.sender.Tracked d.waits)
    {request : Request κ} (aborted : d.sender.sendTimer.aborted.head? = some request) :
    d.Keeps (.sendAborted now)
      ({ d.sender with sendTimer := d.sender.sendTimer.dropAborted }.doSendMessage now request) := by
  obtain ⟨delay, rest, waits, rfl, others⟩ := tracked.dropAborted aborted
  have first : d.waits.head? = some delay := by rw [waits, List.head?_cons]
  obtain ⟨known', distance⟩ := handler_distance known
    (t := { d.sender with sendTimer := d.sender.sendTimer.dropAborted }) rfl rfl delay
  rw [← stepClear_sendAborted first] at distance
  refine ⟨⟨known'.noted, ?_⟩, distance⟩
  show Tracked _ (d.waits.tail ++ [])
  rw [waits, List.tail_cons, List.append_nil]
  exact others.grow rfl rfl

theorem step_keeps (noted : d.sender.Noted) (tracked : d.sender.Tracked d.waits)
    (clock : d.sender.ClockOk e) (next : d.sender.step e = some s) : d.Keeps e s := by
  obtain ⟨forward, due⟩ := clock
  cases e with
  | enqueue now client message =>
      have known : d.sender.Known now := ⟨noted, forward now rfl⟩
      cases next
      exact keeps_of_advance tracked (enqueue_advance known client message) rfl trivial
  | telegram now message reaction =>
      have known : d.sender.Known now := ⟨noted, forward now rfl⟩
      cases next
      exact keeps_of_advance tracked (telegram_advance known message reaction) rfl trivial
  | responseExpired now reaction =>
      have known : d.sender.Known now := ⟨noted, forward now rfl⟩
      obtain ⟨⟨expiry, wait⟩, armed, rfl⟩ := Option.map_eq_some_iff.mp next
      let t : EmsCommandSender κ :=
        { d.sender with responseTimeout := d.sender.responseTimeout.expired }
      have expired : t.Known now := known.congr rfl rfl
      have unseen : Advance now d.sender [] t := .unseen expired rfl rfl
      have advance := unseen.trans (timeout_advance expired wait reaction)
      rw [List.nil_append, ← takeUps_timeout armed] at advance
      exact keeps_of_advance tracked advance rfl trivial
  | responseAborted =>
      obtain ⟨wait, -, rfl⟩ := Option.map_eq_some_iff.mp next
      refine ⟨⟨noted, ?_⟩, (and_iff_left ⟨List.forall_mem_nil _, trivial⟩).symm⟩
      show Tracked _ (d.waits ++ [])
      rw [List.append_nil]
      exact ⟨tracked.requests, tracked.due⟩
  | sendExpired now =>
      obtain ⟨⟨expiry, request⟩, armed, rfl⟩ := Option.map_eq_some_iff.mp next
      exact sendExpired_keeps ⟨noted, forward now rfl⟩ tracked armed (due now rfl _ armed)
  | sendAborted now =>
      obtain ⟨request, aborted, rfl⟩ := Option.map_eq_some_iff.mp next
      exact sendAborted_keeps ⟨noted, forward now rfl⟩ tracked aborted

/-- The waits are there in every run of the scheduler. -/
theorem run_distance {s : EmsCommandSender κ} {es : List (Event κ)}
    (run : (EmsCommandSender.system κ).Run ClockOk .init es s) :
    ∃ waits, (s.Noted ∧ s.Tracked waits) ∧
      (system κ).Run (fun _ _ => True) init es ⟨s, waits⟩ ∧
      (MinDistance s.history ↔ (system κ).Run StepClear init es ⟨s, waits⟩) := by
  induction run with
  | nil =>
      exact ⟨[], ⟨nofun, rfl, nofun⟩, .nil, fun _ => .nil, fun _ => List.Pairwise.nil⟩
  | @snoc es t u e before clock next ih =>
      obtain ⟨waits, ⟨noted, tracked⟩, follows, distance⟩ := ih
      have next' : step ⟨t, waits⟩ e = some ⟨u, _⟩ := Option.map_eq_some_iff.mpr ⟨u, next, rfl⟩
      obtain ⟨kept, step⟩ := step_keeps (d := ⟨t, waits⟩) noted tracked clock next
      refine ⟨_, kept, .snoc follows trivial next', step.trans ⟨?_, ?_⟩⟩
      · rintro ⟨far, clear⟩
        exact .snoc (distance.mp far) clear next'
      · intro clear
        obtain ⟨t', before', here, -⟩ := clear.of_snoc
        obtain rfl := follows.unique before'
        exact ⟨distance.mpr before', here⟩

end Delays

/-- A run keeps the minimum distance exactly if all its steps meet the condition. -/
theorem run_minDistance_iff {s : EmsCommandSender κ} {es : List (Event κ)}
    (run : (system κ).Run ClockOk init es s) :
    MinDistance s.history ↔
      ∃ waits, (Delays.system κ).Run Delays.StepClear .init es ⟨s, waits⟩ := by
  obtain ⟨waits, -, follows, distance⟩ := Delays.run_distance run
  rw [distance]
  constructor
  · exact fun clear => ⟨waits, clear⟩
  · rintro ⟨waits', clear⟩
    cases follows.unique clear
    exact clear

/-- Two reads of a device: its answer to the first comes 80 ms before the second, which keeps the
    distance to the first one only. -/
theorem read_behind_answer :
    ∃ s, (system Unit).Run ClockOk init
        [.enqueue 0 () (.send 0x08 0x15 0 [8] true), .enqueue 0 () (.send 0x08 0x15 8 [4] true),
          .telegram 20000 ⟨true, [0, 60, 1, 1, 50, 12, 0, 0], 0x08, 0x0b, 0x15, 0, 0⟩ [],
          .sendExpired 100000] s ∧
      s.history.map (fun entry => (entry.1, contact entry.2)) =
        [(0, some 0x88), (20000, some 0x08), (100000, some 0x88)] ∧
      ¬ MinDistance s.history := by
  exact ⟨_, .ofFold rfl, rfl, by decide⟩

/-- Two reads of a device that answers within 5 ms; the second waits for 120 ms. -/
theorem run_minDistance_apart :
    ∃ s waits, (Delays.system Unit).Run Delays.StepClear .init
        [.enqueue 0 () (.send 0x08 0x15 0 [8] true), .enqueue 0 () (.send 0x08 0x15 8 [4] true),
          .telegram 5000 ⟨true, [0, 60, 1, 1, 50, 12, 0, 0], 0x08, 0x0b, 0x15, 0, 0⟩ [],
          .sendExpired 120000] ⟨s, waits⟩ := by
  let events : List (Event Unit) :=
    [.enqueue 0 () (.send 0x08 0x15 0 [8] true), .enqueue 0 () (.send 0x08 0x15 8 [4] true),
      .telegram 5000 ⟨true, [0, 60, 1, 1, 50, 12, 0, 0], 0x08, 0x0b, 0x15, 0, 0⟩ [],
      .sendExpired 120000]
  let guarded (s : EmsCommandSender Unit) (e : Event Unit) : Option (EmsCommandSender Unit) :=
    if s.ClockOk e then s.step e else none
  let s := (events.foldlM guarded init).get (by decide +kernel)
  have run : (system Unit).Run ClockOk init events s := .ofFold (Option.some_get _).symm
  obtain ⟨waits, clear⟩ := (run_minDistance_iff run).mp (by decide +kernel)
  exact ⟨s, waits, clear⟩

end EmsCollector.EmsCommandSender
