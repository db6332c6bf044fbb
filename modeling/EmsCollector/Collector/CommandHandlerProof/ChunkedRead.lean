import EmsCollector.Collector.ApiCommandParserProof.RawRead
import EmsCollector.Collector.CommandHandlerProof.Connection
import EmsCollector.Collector.CommandSchedulerProof.Load

/-!
# Chunked reads

A single client reads a range of a device, which answers each read with a part of what was asked
for, or not at all. However the parts are cut and however often a part is lost, up to four times
in a row, the client gets the range.
-/

namespace EmsCollector

namespace EmsCommandSender

variable {κ : Type}

/-- Which of the two timers runs for a telegram, with the completions until it is answered. -/
inductive Timed (s : EmsCommandSender κ) (request : Request κ) : Nat → Prop
  | delayed {expiry : Time} (response : s.responseTimeout.wait = none)
      (send : s.sendTimer.wait = some (expiry, request)) : Timed s request 2
  | waiting {expiry : Time} (send : s.sendTimer.wait = none)
      (response : s.responseTimeout.wait = some (expiry, { fakeAnswer := false, request })) :
      Timed s request 1

/-- The scheduler handles one read, and nothing else is queued. -/
structure Serving (s : EmsCommandSender κ) (request : Request κ) (stage : Nat) : Prop where
  client : s.currentClient = some request.client
  queue : s.pending = []
  noAborted : s.sendTimer.aborted = []
  timed : Timed s request stage

variable {s : EmsCommandSender κ} {request : Request κ}

theorem Timed.stage_le {stage : Nat} (timed : Timed s request stage) : stage ≤ 2 := by
  cases timed with
  | delayed => exact Nat.le_refl 2
  | waiting => exact Nat.le_succ 1

/-- A read is transmitted, and its answer awaited. -/
theorem doSendMessage_waits (s : EmsCommandSender κ) (now : Time) (read : request.message.Read) :
    ∃ expiry, (s.doSendMessage now request).responseTimeout.wait =
      some (expiry, { fakeAnswer := false, request }) := by
  have real : decide (request.message.dest &&& 0x80 = 0) = false := decide_eq_false read
  refine ⟨now + requestTimeout, ?_⟩
  simp [doSendMessage, scheduleResponseTimeout, setLastCommTime, record, real]

/-- The only telegram in the queue is taken. -/
theorem continue_serving (response : s.responseTimeout.wait = none) (send : s.sendTimer.wait = none)
    (noAborted : s.sendTimer.aborted = []) (queue : s.pending = [request])
    (read : request.message.Read) (now : Time) :
    ∃ stage, Serving (s.continueWithNextRequest now) request stage ∧
      (s.continueWithNextRequest now).responseTimeout.aborted = s.responseTimeout.aborted := by
  rw [continue_cons queue]
  rcases sendOrDelay_cases { s with currentClient := some request.client } now request with
    ⟨expiry, delayed⟩ | sent
  · rw [delayed]
    refine ⟨2, ⟨rfl, rfl, ?_, .delayed response rfl⟩, rfl⟩
    exact (DeadlineTimer.asyncWait_aborted send expiry request).trans noAborted
  · rw [sent]
    obtain ⟨expiry, waits⟩ :=
      doSendMessage_waits { s with currentClient := some request.client } now read
    exact ⟨1, ⟨rfl, rfl, noAborted, .waiting send waits⟩,
      DeadlineTimer.asyncWait_aborted response _ _⟩

/-- The idle scheduler takes a read. -/
theorem sendMessage_serving (idle : s.Idle) (now : Time) (client : κ) {message : EmsMessage}
    (read : message.Read) :
    ∃ stage, Serving (s.sendMessage now client message) { client, message } stage ∧
      (s.sendMessage now client message).responseTimeout.aborted = s.responseTimeout.aborted := by
  rw [sendMessage_idle idle.client]
  let request : Request κ := { client, message }
  have queue : s.pending ++ [request] = [request] := by
    rw [idle.queue, List.nil_append]
  exact continue_serving (s := { s with pending := s.pending ++ [request] })
    idle.response idle.send idle.noAborted queue read now

/-- A client that is being served enqueues the next read in its callback. -/
theorem reaction_serving (client : s.currentClient = some request.client) (queue : s.pending = [])
    (noAborted : s.sendTimer.aborted = []) (response : s.responseTimeout.wait = none)
    (send : s.sendTimer.wait = none) {message : EmsMessage} (read : message.Read) (now : Time) :
    let t := (s.callClient now [message]).continueWithNextRequest now
    ∃ stage, Serving t { client := request.client, message } stage ∧
      t.responseTimeout.aborted = s.responseTimeout.aborted := by
  intro t
  have called : s.callClient now [message] =
      { s with pending := s.pending ++ [{ client := request.client, message }] } :=
    callClient_busy client now [message]
  have next : t = EmsCommandSender.continueWithNextRequest
      { s with pending := s.pending ++ [{ client := request.client, message }] } now := by
    rw [← called]
  rw [next]
  refine continue_serving (s := { s with pending := s.pending ++ [{ client := request.client, message }] })
    response send noAborted ?_ read now
  show s.pending ++ _ = _
  rw [queue, List.nil_append]

/-- A timeout in which the client asks again. -/
theorem timeout_serving (client : s.currentClient = some request.client) (queue : s.pending = [])
    (noAborted : s.sendTimer.aborted = []) (send : s.sendTimer.wait = none) {message : EmsMessage}
    (read : message.Read) (now : Time) :
    let t := ({ s with responseTimeout := s.responseTimeout.expired } :
      EmsCommandSender κ).handleResponseTimeout now { fakeAnswer := false, request } [message]
    ∃ stage, Serving t { client := request.client, message } stage ∧
      t.responseTimeout.aborted = s.responseTimeout.aborted := by
  let u : EmsCommandSender κ := EmsCommandSender.record
    { s with responseTimeout := s.responseTimeout.expired } now (.timedOut request s.currentClient)
  exact reaction_serving (s := u) client queue noAborted rfl send read now

/-- A telegram cancels the wait for an answer; the handler of the wait still runs. -/
theorem cancel_waiting {expiry : Time} {wait : ResponseWait κ}
    (running : s.responseTimeout.wait = some (expiry, wait)) :
    s.responseTimeout.cancel.aborted.length = s.responseTimeout.aborted.length + 1 := by
  simp [DeadlineTimer.cancel, running]

/-- A telegram to which the client reacts with the next read. -/
theorem telegram_serving {expiry : Time} {wait : ResponseWait κ}
    (client : s.currentClient = some request.client) (queue : s.pending = [])
    (noAborted : s.sendTimer.aborted = []) (send : s.sendTimer.wait = none)
    (running : s.responseTimeout.wait = some (expiry, wait)) {message : EmsMessage}
    (read : message.Read) (now : Time) (answer : EmsMessage) :
    let t := s.handlePcMessage now answer [message]
    ∃ stage, Serving t { client := request.client, message } stage ∧
      t.responseTimeout.aborted.length = s.responseTimeout.aborted.length + 1 := by
  let u : EmsCommandSender κ := { s.setLastCommTime answer.source now with
    responseTimeout := s.responseTimeout.cancel }
  obtain ⟨stage, serving, aborted⟩ :=
    reaction_serving (s := u) client queue noAborted rfl send read now
  refine ⟨stage, serving, ?_⟩
  rw [← cancel_waiting running]
  exact congrArg List.length aborted

/-- A telegram to which the client does not react leaves the scheduler idle. -/
theorem telegram_idle {expiry : Time} {wait : ResponseWait κ} (queue : s.pending = [])
    (noAborted : s.sendTimer.aborted = []) (send : s.sendTimer.wait = none)
    (running : s.responseTimeout.wait = some (expiry, wait)) (now : Time) (answer : EmsMessage) :
    let t := s.handlePcMessage now answer []
    t.Idle ∧ t.responseTimeout.aborted.length = s.responseTimeout.aborted.length + 1 := by
  intro t
  let u : EmsCommandSender κ := { s.setLastCommTime answer.source now with
    responseTimeout := s.responseTimeout.cancel }
  have next : t = { u with currentClient := none } := by
    have continued : t = (u.callClient now []).continueWithNextRequest now := rfl
    rw [continued, callClient_nil]
    exact continue_nil (s := u) queue now
  rw [next]
  exact ⟨⟨rfl, queue, rfl, send, noAborted⟩, cancel_waiting running⟩

/-- The delayed read is transmitted. -/
theorem delayed_serving (client : s.currentClient = some request.client) (queue : s.pending = [])
    (noAborted : s.sendTimer.aborted = []) (response : s.responseTimeout.wait = none)
    (read : request.message.Read) (now : Time) :
    let t := ({ s with sendTimer := s.sendTimer.expired } : EmsCommandSender κ).doSendMessage now request
    Serving t request 1 ∧ t.responseTimeout.aborted = s.responseTimeout.aborted := by
  obtain ⟨expiry, waits⟩ :=
    doSendMessage_waits { s with sendTimer := s.sendTimer.expired } now read
  exact ⟨⟨client, queue, noAborted, .waiting rfl waits⟩,
    DeadlineTimer.asyncWait_aborted response _ _⟩

end EmsCommandSender

namespace CommandConnection

variable {r : RawRead} {memory : Nat → UInt8} {got losses : Nat} {conn : CommandConnection}

/-- The command is accepted and enqueues its first read. -/
theorem handleRequest_reading (typed : r.Typed { parser := conn.parser, request := .ofChars conn.request })
    (idle : conn.parser.activeRequest = none) (memory : Nat → UInt8) (env : Env) :
    ∃ conn', conn.handleRequest env = (.ok .ok, conn', [r.part 0]) ∧
      r.Reading memory 0 0 conn'.parser ∧ conn'.replies = conn.replies := by
  obtain ⟨t, parsed, started⟩ := RawRead.parse_typed typed idle env
  have long : conn.request.length > 2 := by
    obtain ⟨first, -, -, category, -⟩ := typed
    exact RawRead.nextWord_length category
  have accepted : conn.parseRequest env = .ok .ok t := by
    unfold parseRequest
    dsimp only
    rw [if_pos long]
    exact parsed
  obtain ⟨reading, effects⟩ := RawRead.start_reading r memory conn.parser
  rw [← started] at reading effects
  rw [conn.quiet] at effects
  unfold handleRequest
  rw [accepted]
  refine ⟨_, Prod.ext rfl (Prod.ext rfl ?_), reading.withEffects [], ?_⟩
  · show t.parser.effects.filterMap Effect.message? = [r.part 0]
    rw [effects]
    rfl
  · show (conn.replies ++ t.parser.effects.filterMap Effect.line?) ++ [] = conn.replies
    rw [effects]
    simp [Effect.line?]

/-- A loss that is not the last one: the part is enqueued again. -/
theorem timeout_reading (reading : r.Reading memory got losses conn.parser) (few : losses < 4) :
    ∃ conn', conn.step .timeout = some (conn', [r.part got]) ∧
      r.Reading memory got (losses + 1) conn'.parser ∧ conn'.replies = conn.replies := by
  obtain ⟨q, timeout, again, effects⟩ := RawRead.timeout_reading reading few
  rw [conn.quiet, List.nil_append] at effects
  have stepped : conn.step .timeout =
      some ((conn.perform q).1.respond [], q.effects.filterMap Effect.message?) := step_timeout timeout
  rw [effects] at stepped
  refine ⟨_, stepped, again.withEffects [], ?_⟩
  · show (conn.replies ++ q.effects.filterMap Effect.line?) ++ [] = conn.replies
    rw [effects]
    simp [Effect.line?]

/-- An answer with the next `count` bytes: the next part is enqueued, or the range is printed, with
    one `OK`. -/
theorem answer_reading (reading : r.Reading memory got losses conn.parser) {message : EmsMessage}
    {count : Nat} (source : message.source = r.target) (type : message.getType = r.type)
    (offset : message.offset.toNat = r.offset.toNat + got)
    (data : message.data = slice memory (r.offset.toNat + got) count) (positive : 1 ≤ count)
    (within : got + count ≤ r.len.toNat) :
    ∃ conn' sent, conn.step (.incoming message) = some (conn', sent) ∧
      (sent = [r.part (got + count)] ∧ r.Reading memory (got + count) 0 conn'.parser ∧
          conn'.replies = conn.replies ∨
        sent = [] ∧ r.Complete memory conn'.parser ∧
          conn'.replies = conn.replies ++ [ApiCommandParser.rawOutput (r.range memory), "OK"]) := by
  obtain ⟨result, q, answered, outcome⟩ :=
    RawRead.answer_reading reading source type offset data positive within
  refine ⟨_, _, step_incoming answered, ?_⟩
  rcases outcome with ⟨-, rfl, next, effects⟩ | ⟨rfl, complete, effects⟩
  · rw [conn.quiet, List.nil_append] at effects
    refine .inl ⟨?_, next.withEffects [], ?_⟩
    · show q.effects.filterMap Effect.message? = _
      rw [effects]
      rfl
    · show (conn.replies ++ q.effects.filterMap Effect.line?) ++ [] = conn.replies
      rw [effects]
      simp [Effect.line?]
  · rw [conn.quiet, List.nil_append] at effects
    refine .inr ⟨?_, ⟨complete.idle, complete.response⟩, ?_⟩
    · show q.effects.filterMap Effect.message? = _
      rw [effects]
      rfl
    · show (conn.replies ++ q.effects.filterMap Effect.line?) ++ ["OK"] = _
      rw [effects]
      simp [Effect.line?]

end CommandConnection

namespace System

variable {κ : Type} [DecidableEq κ]

/-- What happens while a device is read, with the number of the losses in a row: the timers of the
    scheduler complete, the device answers the read that is waited for with some of the bytes that
    were asked for, or the read or its answer is lost, at most four times in a row. -/
inductive DeviceStep (r : RawRead) (memory : Nat → UInt8) :
    Nat × System κ → Event κ → Nat × System κ → Prop
  | sendExpired {losses : Nat} {s t : System κ} {now : Time}
      (next : s.step (.sendExpired now) = some t) :
      DeviceStep r memory (losses, s) (.sendExpired now) (losses, t)
  | sendAborted {losses : Nat} {s t : System κ} {now : Time}
      (next : s.step (.sendAborted now) = some t) :
      DeviceStep r memory (losses, s) (.sendAborted now) (losses, t)
  | responseAborted {losses : Nat} {s t : System κ} (next : s.step .responseAborted = some t) :
      DeviceStep r memory (losses, s) .responseAborted (losses, t)
  | lost {losses : Nat} {s t : System κ} {now : Time} (few : losses < 4)
      (next : s.step (.responseExpired now) = some t) :
      DeviceStep r memory (losses, s) (.responseExpired now) (losses + 1, t)
  | answered {losses : Nat} {s t : System κ} {now expiry : Time} {wait : ResponseWait κ}
      {length : UInt8} {count : Nat} {message : EmsMessage}
      (outstanding : s.sender.responseTimeout.wait = some (expiry, wait))
      (asked : wait.request.message.data = [length]) (positive : 1 ≤ count)
      (within : count ≤ length.toNat)
      (received : EmsMessage.receive (r.answer wait.request.message.offset
        (slice memory wait.request.message.offset.toNat count)) = .ok message)
      (next : s.step (.telegram now message) = some t) :
      DeviceStep r memory (losses, s) (.telegram now message) (0, t)

/-- The system with the device. -/
def deviceBus (κ : Type) [DecidableEq κ] (r : RawRead) (memory : Nat → UInt8) :
    LTS (Nat × System κ) (Event κ) := ⟨DeviceStep r memory⟩

/-- The range is being read: the read of the next part is delayed or waited for. -/
structure Fetching (r : RawRead) (memory : Nat → UInt8) (client : κ) (before : CommandConnection)
    (got losses stage : Nat) (s : System κ) : Prop where
  connection : ∃ conn, s.connections client = some conn ∧
    r.Reading memory got losses conn.parser ∧ conn.replies = before.replies
  serving : s.sender.Serving { client, message := r.part got } stage

/-- The range has been read and printed, with one `OK`, and the scheduler is idle again. -/
structure Fetched (r : RawRead) (memory : Nat → UInt8) (client : κ) (before : CommandConnection)
    (s : System κ) : Prop where
  connection : ∃ conn, s.connections client = some conn ∧ r.Complete memory conn.parser ∧
    conn.replies = before.replies ++ [ApiCommandParser.rawOutput (r.range memory), "OK"]
  idle : s.sender.Idle

/-- The invariant, with a bound for the completions that are left. -/
inductive FetchInv (r : RawRead) (memory : Nat → UInt8) (client : κ) (before : CommandConnection) :
    Nat → Nat × System κ → Prop
  | fetching {got losses stage n : Nat} {s : System κ}
      (fetching : Fetching r memory client before got losses stage s) (few : losses ≤ 4)
      (bound : n + 2 * losses = 11 * (r.len.toNat - got) + stage +
        s.sender.responseTimeout.aborted.length) : FetchInv r memory client before n (losses, s)
  | fetched {losses : Nat} {s : System κ} (fetched : Fetched r memory client before s) :
      FetchInv r memory client before s.sender.responseTimeout.aborted.length (losses, s)

variable {r : RawRead} {memory : Nat → UInt8} {client : κ} {before : CommandConnection}
  {got losses stage n : Nat} {s t : System κ}

omit [DecidableEq κ] in
theorem Fetching.missing (fetching : Fetching r memory client before got losses stage s) :
    got < r.len.toNat := by
  obtain ⟨⟨conn, -, reading, -⟩, -⟩ := fetching
  exact reading.missing

theorem part_read (r : RawRead) (got : Nat) : (r.part got).Read := EmsMessage.send_read _ _ _ _

theorem part_offset (r : RawRead) {got : Nat} (missing : got < r.len.toNat) :
    (r.part got).offset.toNat = r.offset.toNat + got := by
  have fits := r.fits
  show (UInt8.ofNat (r.offset.toNat + got)).toNat = _
  rw [UInt8.toNat_ofNat']
  omega

theorem part_data (r : RawRead) (got : Nat) :
    ∃ length : UInt8, (r.part got).data = [length] ∧ length.toNat = r.len.toNat - got := by
  have small := r.len.toNat_lt
  refine ⟨_, rfl, ?_⟩
  rw [UInt8.toNat_ofNat']
  omega

/-- The completion of the send timer. -/
theorem sendExpired_step (fetching : Fetching r memory client before got losses stage s) {now : Time}
    (next : s.step (.sendExpired now) = some t) :
    stage = 2 ∧ Fetching r memory client before got losses 1 t ∧
      t.sender.responseTimeout.aborted = s.sender.responseTimeout.aborted := by
  obtain ⟨connection, current, queue, noAborted, timed⟩ := fetching
  obtain ⟨sender, stepped, rfl⟩ := senderStep_cases next
  obtain ⟨⟨expiry, request⟩, running, rfl⟩ := Option.map_eq_some_iff.mp stepped
  cases timed with
  | waiting send => exact nomatch send.symm.trans running
  | delayed response send =>
      cases send.symm.trans running
      obtain ⟨serving, aborted⟩ := EmsCommandSender.delayed_serving current queue noAborted response
        (part_read r got) now
      exact ⟨rfl, ⟨connection, serving⟩, aborted⟩

/-- A lost read is asked for again. -/
theorem lost_step (fetching : Fetching r memory client before got losses stage s) {now : Time}
    (few : losses < 4) (next : s.step (.responseExpired now) = some t) :
    ∃ stage', stage = 1 ∧ stage' ≤ 2 ∧ Fetching r memory client before got (losses + 1) stage' t ∧
      t.sender.responseTimeout.aborted = s.sender.responseTimeout.aborted := by
  obtain ⟨⟨conn, present, reading, replies⟩, current, queue, noAborted, timed⟩ := fetching
  obtain ⟨expiry, wait, u, reaction, running, called, rfl⟩ := responseExpired_cases next
  cases timed with
  | delayed response => exact nomatch response.symm.trans running
  | waiting send response =>
      cases response.symm.trans running
      obtain ⟨conn', timeout, again, same⟩ := CommandConnection.timeout_reading reading few
      obtain ⟨conn₂, stepped, rfl⟩ := callback_current current present called
      cases timeout.symm.trans stepped
      obtain ⟨stage', serving, aborted⟩ := EmsCommandSender.timeout_serving current queue noAborted send
        (part_read r got) now
      exact ⟨stage', rfl, serving.timed.stage_le,
        ⟨⟨conn', setConnection_self s client conn', again, same.trans replies⟩, serving⟩, aborted⟩

/-- An answer to the read that is waited for. -/
theorem answered_step (fetching : Fetching r memory client before got losses stage s) (now : Time)
    {expiry : Time} {wait : ResponseWait κ} {length : UInt8} {count : Nat} {message : EmsMessage}
    (outstanding : s.sender.responseTimeout.wait = some (expiry, wait))
    (asked : wait.request.message.data = [length]) (positive : 1 ≤ count)
    (within : count ≤ length.toNat)
    (received : EmsMessage.receive (r.answer wait.request.message.offset
      (slice memory wait.request.message.offset.toNat count)) = .ok message) :
    stage = 1 ∧ ∃ t, s.step (.telegram now message) = some t ∧
      t.sender.responseTimeout.aborted.length = s.sender.responseTimeout.aborted.length + 1 ∧
      ((∃ stage', stage' ≤ 2 ∧ Fetching r memory client before (got + count) 0 stage' t) ∨
        Fetched r memory client before t) := by
  obtain ⟨⟨conn, present, reading, replies⟩, current, queue, noAborted, timed⟩ := fetching
  cases timed with
  | delayed response => exact nomatch response.symm.trans outstanding
  | waiting send response =>
      cases response.symm.trans outstanding
      obtain ⟨length', data, missing⟩ := part_data r got
      cases data.symm.trans asked
      have some_bytes : slice memory (r.part got).offset.toNat count ≠ [] := by
        rw [← List.length_pos_iff, length_slice]
        exact positive
      obtain ⟨message', received', source, type, offset, bytes⟩ :=
        r.receive_answer (r.part got).offset some_bytes
      cases received.symm.trans received'
      have position := part_offset r reading.missing
      rw [← offset] at position
      rw [part_offset r reading.missing] at bytes
      have short : got + count ≤ r.len.toNat := by
        have := reading.missing
        omega
      obtain ⟨conn', sent, stepped, outcome⟩ :=
        CommandConnection.answer_reading reading source type position bytes positive short
      have next : s.step (.telegram now message) = some ((s.setConnection client conn').setSender
          (EmsCommandSender.handlePcMessage
            (s.sender.record now (.received message s.sender.currentClient)) now message sent)) := by
        have called : s.callback (.incoming message) = some (s.setConnection client conn', sent) := by
          simp only [callback, show s.sender.currentClient = some client from current, present]
          show (conn.step _ >>= _) = _
          rw [stepped]
          rfl
        simp only [step, called]
        rfl
      refine ⟨rfl, _, next, ?_⟩
      rcases outcome with ⟨rfl, again, same⟩ | ⟨rfl, complete, same⟩
      · obtain ⟨stage', serving, aborted⟩ := EmsCommandSender.telegram_serving
          (s := s.sender.record now (.received message s.sender.currentClient)) current queue noAborted
          send response (part_read r (got + count)) now message
        exact ⟨aborted, .inl ⟨stage', serving.timed.stage_le,
          ⟨conn', setConnection_self s client conn', again, same.trans replies⟩, serving⟩⟩
      · obtain ⟨idle, aborted⟩ := EmsCommandSender.telegram_idle
          (s := s.sender.record now (.received message s.sender.currentClient)) queue noAborted send
          response now message
        exact ⟨aborted, .inr ⟨⟨conn', setConnection_self s client conn', complete, by
          rw [same, replies]⟩, idle⟩⟩

/-- The handlers of aborted waits change nothing. -/
theorem responseAborted_step (next : s.step .responseAborted = some t) :
    t.sender.responseTimeout.aborted.length + 1 = s.sender.responseTimeout.aborted.length ∧
      t.connections = s.connections ∧ t.sender = { s.sender with
        responseTimeout := s.sender.responseTimeout.dropAborted } := by
  obtain ⟨sender, stepped, rfl⟩ := senderStep_cases next
  obtain ⟨wait, aborted, rfl⟩ := Option.map_eq_some_iff.mp stepped
  obtain ⟨rest, split⟩ := List.head?_eq_some_iff.mp aborted
  refine ⟨?_, rfl, rfl⟩
  show s.sender.responseTimeout.dropAborted.aborted.length + 1 = _
  rw [DeadlineTimer.dropAborted_aborted, split]
  rfl

/-- No wait of the send timer was aborted. -/
theorem sendAborted_step (noAborted : s.sender.sendTimer.aborted = []) (now : Time) :
    s.step (.sendAborted now) = none := by
  simp [step, senderStep, EmsCommandSender.step, noAborted]

omit [DecidableEq κ] in
theorem responseAborted_timed {sender : EmsCommandSender κ} {request : Request κ}
    (timed : sender.Timed request stage) :
    EmsCommandSender.Timed { sender with responseTimeout := sender.responseTimeout.dropAborted }
      request stage := by
  cases timed with
  | delayed response send => exact .delayed response send
  | waiting send response => exact .waiting send response

/-- Every step keeps the invariant and takes from what is left. -/
theorem deviceStep_lowers {u v : Nat × System κ} {e : Event κ}
    (inv : FetchInv r memory client before n u) (next : DeviceStep r memory u e v) :
    ∃ k, k + 1 ≤ n ∧ FetchInv r memory client before k v := by
  cases next with
  | @sendExpired losses s t now next =>
      cases inv with
      | fetching fetching few bound =>
          have missing := fetching.missing
          obtain ⟨rfl, after, aborted⟩ := sendExpired_step fetching next
          exact ⟨n - 1, by omega, .fetching after few (by rw [aborted]; omega)⟩
      | fetched fetched =>
          obtain ⟨sender, stepped, -⟩ := senderStep_cases next
          obtain ⟨wait, running, -⟩ := Option.map_eq_some_iff.mp stepped
          exact nomatch fetched.idle.send.symm.trans running
  | @sendAborted losses s t now next =>
      cases inv with
      | fetching fetching =>
          rw [sendAborted_step fetching.serving.noAborted] at next
          cases next
      | fetched fetched =>
          rw [sendAborted_step fetched.idle.noAborted] at next
          cases next
  | @responseAborted losses s t next =>
      obtain ⟨aborted, connections, sender⟩ := responseAborted_step next
      cases inv with
      | @fetching got _ stage _ _ fetching few bound =>
          have missing := fetching.missing
          obtain ⟨connection, current, queue, noAborted, timed⟩ := fetching
          have after : Fetching r memory client before got losses stage t := by
            refine ⟨connections ▸ connection, ?_⟩
            rw [sender]
            exact ⟨current, queue, noAborted, responseAborted_timed timed⟩
          exact ⟨n - 1, by omega, .fetching after few (by omega)⟩
      | fetched fetched =>
          obtain ⟨connection, current, queue, response, send, noAborted⟩ := fetched
          refine ⟨_, Nat.le_of_eq aborted, .fetched ⟨connections ▸ connection, ?_⟩⟩
          rw [sender]
          exact ⟨current, queue, response, send, noAborted⟩
  | @lost losses s t now few next =>
      cases inv with
      | fetching fetching _ bound =>
          have missing := fetching.missing
          obtain ⟨stage', rfl, short, after, aborted⟩ := lost_step fetching few next
          exact ⟨n + stage' - 3, by omega, .fetching after few (by rw [aborted]; omega)⟩
      | fetched fetched =>
          obtain ⟨expiry, wait, -, -, running, -⟩ := responseExpired_cases next
          exact nomatch fetched.idle.response.symm.trans running
  | @answered losses s t now expiry wait length count message outstanding asked positive within received
      next =>
      cases inv with
      | @fetching got _ stage _ _ fetching few bound =>
          have missing := fetching.missing
          obtain ⟨rfl, t', next', aborted, outcome⟩ :=
            answered_step fetching now outstanding asked positive within received
          cases next.symm.trans next'
          rcases outcome with ⟨stage', short, after⟩ | after
          · refine ⟨11 * (r.len.toNat - (got + count)) + stage' +
              t.sender.responseTimeout.aborted.length, ?_, .fetching after (Nat.zero_le 4) rfl⟩
            omega
          · exact ⟨_, by omega, .fetched after⟩
      | fetched fetched => exact nomatch fetched.idle.response.symm.trans outstanding

/-- A read that is under way can go on: the send timer completes, or the device answers. -/
theorem fetching_goes_on (fetching : Fetching r memory client before got losses stage s) :
    ∃ e v, DeviceStep r memory (losses, s) e v := by
  have whole := fetching
  obtain ⟨⟨conn, present, reading, replies⟩, current, queue, noAborted, timed⟩ := fetching
  cases timed with
  | @delayed expiry response send =>
      have next : s.step (.sendExpired expiry) = some (s.setSender (EmsCommandSender.doSendMessage
          { s.sender with sendTimer := s.sender.sendTimer.expired } expiry
          { client, message := r.part got })) := by
        simp only [step, senderStep, EmsCommandSender.step, send]
        rfl
      exact ⟨_, _, .sendExpired next⟩
  | @waiting expiry send response =>
      obtain ⟨length, data, missing⟩ := part_data r got
      have some_bytes : slice memory (r.part got).offset.toNat 1 ≠ [] := List.cons_ne_nil _ _
      obtain ⟨message, received, -⟩ := r.receive_answer (r.part got).offset some_bytes
      have one : 1 ≤ length.toNat := by
        have := reading.missing
        omega
      obtain ⟨-, t, next, -⟩ := answered_step whole expiry response data (Nat.le_refl 1) one received
      exact ⟨_, _, .answered response data (Nat.le_refl 1) one received next⟩

/-- The command is accepted, and its first read is delayed or waited for. -/
theorem request_fetching (memory : Nat → UInt8) {conn : CommandConnection} {env : Env} (idle : s.sender.Idle)
    (present : s.connections client = some conn) (free : conn.parser.activeRequest = none)
    (typed : r.Typed { parser := conn.parser, request := .ofChars conn.request })
    (next : s.step (.request client env) = some t) :
    ∃ stage, Fetching r memory client conn 0 0 stage t ∧
      t.sender.responseTimeout.aborted = s.sender.responseTimeout.aborted := by
  obtain ⟨conn', handled, reading, replies⟩ :=
    CommandConnection.handleRequest_reading typed free memory env
  simp only [step] at next
  split at next
  · obtain ⟨conn₁, conn₂, sent, present', stepped, rfl⟩ := connectionStep_cases next
    cases present.symm.trans present'
    simp only [CommandConnection.step, handled] at stepped
    split at stepped
    · cases stepped
      obtain ⟨stage, serving, aborted⟩ :=
        EmsCommandSender.sendMessage_serving idle env.now client (part_read r 0)
      exact ⟨stage, ⟨⟨conn', setConnection_self s client conn', reading, replies⟩, serving⟩, aborted⟩
    · cases stepped
  · cases next

/-- With an idle scheduler, a client sends `raw read` for a range of a device, and the device
    answers each read with some of the bytes asked for or loses it, at most four times in a row. The
    run is bounded. At every moment the response is a beginning of the range; and either the read
    is under way, has printed nothing and can go on, or the whole range has been printed, followed
    by one `OK`, no request is active, and the scheduler is idle with an empty queue. -/
theorem chunked_read {start begun : System κ} {conn : CommandConnection} {env : Env}
    (idle : start.sender.Idle) (present : start.connections client = some conn)
    (free : conn.parser.activeRequest = none)
    (typed : r.Typed { parser := conn.parser, request := .ofChars conn.request })
    (begins : start.step (.request client env) = some begun) {es : List (Event κ)}
    (run : (deviceBus κ r memory).Run (fun _ _ => True) (0, begun) es (losses, s)) :
    es.length ≤ 11 * r.len.toNat + 2 + start.sender.responseTimeout.aborted.length ∧
      ∃ conn', s.connections client = some conn' ∧
        conn'.parser.requestResponse <+: r.range memory ∧
        (conn'.parser.activeRequest.isSome = true ∧ conn'.replies = conn.replies ∧
            (∃ e v, DeviceStep r memory (losses, s) e v) ∨
          conn'.parser.activeRequest = none ∧ conn'.parser.requestResponse = r.range memory ∧
            conn'.replies = conn.replies ++ [ApiCommandParser.rawOutput (r.range memory), "OK"] ∧
            s.sender.pending = [] ∧ s.sender.currentClient = none) := by
  obtain ⟨stage, fetching, aborted⟩ := request_fetching memory idle present free typed begins
  have short := fetching.serving.timed.stage_le
  have first : FetchInv r memory client conn
      (11 * r.len.toNat + stage + start.sender.responseTimeout.aborted.length) (0, begun) :=
    .fetching fetching (Nat.zero_le 4) (by rw [aborted]; omega)
  obtain ⟨left, bound, inv⟩ := run.bounded first (fun _ _ _ _ inv _ next => deviceStep_lowers inv next)
  refine ⟨by omega, ?_⟩
  cases inv with
  | fetching fetching =>
      have goes_on := fetching_goes_on fetching
      obtain ⟨⟨conn', present', reading, replies⟩, -⟩ := fetching
      refine ⟨conn', present', ?_, .inl ⟨?_, replies, goes_on⟩⟩
      · rw [reading.response]
        exact slice_prefix memory _ (Nat.le_of_lt reading.missing)
      · rw [reading.active]
        rfl
  | fetched fetched =>
      obtain ⟨⟨conn', present', complete, replies⟩, idle⟩ := fetched
      refine ⟨conn', present', ?_, .inr ⟨complete.idle, complete.response, replies, idle.queue, idle.client⟩⟩
      exact ⟨[], by rw [List.append_nil, complete.response]⟩

theorem rawRead_other : (0x1b9 : UInt16) ≠ 0xff := by
  decide

/-- Three bytes of an EMS-plus type. -/
def rawRead : RawRead where
  target := 0x10
  type := 0x1b9
  offset := 5
  len := 3
  positive := by decide
  fits := by decide
  other := rawRead_other

/-- A client has asked for them. -/
def rawReadStart : System Nat :=
  { init with
    connections := fun _ =>
      some { CommandConnection.new default with request := "raw read 16 441 5 3\n".toList }
    registered := fun _ => true }

/-- The first read is lost, the second one is answered with two bytes, the third one with one. -/
theorem chunked_read_two_parts :
    ∃ begun es s, rawReadStart.step (.request 0 ⟨none, fun s => (none, s), 0⟩) = some begun ∧
      (deviceBus Nat rawRead UInt8.ofNat).Run (fun _ _ => True) (0, begun) es (0, s) ∧
      es.length ≤ 35 ∧ ∃ conn ∈ s.connections 0, conn.parser.activeRequest = none ∧
        conn.replies = ["0x05 0x06 0x07 ", "OK"] := by
  let env : Env := ⟨none, fun s => (none, s), 0⟩
  let first : EmsMessage :=
    { valueHandler := true, data := [5, 6], source := 0x10, dest := 0x0b, type := 0xff,
      extType := 0x1b9, offset := 5 }
  let second : EmsMessage := { first with data := [7], offset := 7 }
  let s₀ := (rawReadStart.step (.request 0 env)).get (by decide +kernel)
  let s₁ := (s₀.step (.responseExpired 1000000)).get (by decide +kernel)
  let s₂ := (s₁.step (.telegram 1050000 first)).get (by decide +kernel)
  let s₃ := (s₂.step (.sendExpired 1100000)).get (by decide +kernel)
  let s₄ := (s₃.step (.telegram 1150000 second)).get (by decide +kernel)
  let wait₁ := s₁.sender.responseTimeout.wait.get (by decide +kernel)
  let wait₃ := s₃.sender.responseTimeout.wait.get (by decide +kernel)
  have lost : DeviceStep rawRead UInt8.ofNat (0, s₀) (.responseExpired 1000000) (1, s₁) :=
    .lost (by decide) (Option.some_get _).symm
  have answered : DeviceStep rawRead UInt8.ofNat (1, s₁) (.telegram 1050000 first) (0, s₂) :=
    @DeviceStep.answered _ _ _ _ _ _ _ _ _ wait₁.2 3 2 _
      (Option.some_get (by decide +kernel)).symm (by decide +kernel)
      (by decide) (by decide) (by decide +kernel) (Option.some_get _).symm
  have sent : DeviceStep rawRead UInt8.ofNat (0, s₂) (.sendExpired 1100000) (0, s₃) :=
    .sendExpired (Option.some_get _).symm
  have finished : DeviceStep rawRead UInt8.ofNat (0, s₃) (.telegram 1150000 second) (0, s₄) :=
    @DeviceStep.answered _ _ _ _ _ _ _ _ _ wait₃.2 1 1 _
      (Option.some_get (by decide +kernel)).symm (by decide +kernel)
      (by decide) (by decide) (by decide +kernel) (Option.some_get _).symm
  have run : (deviceBus Nat rawRead UInt8.ofNat).Run (fun _ _ => True) (0, s₀) _ (0, s₄) :=
    .snoc (.snoc (.snoc (.snoc .nil trivial lost) trivial answered) trivial sent) trivial finished
  obtain ⟨bound, conn, present, -, outcome⟩ := chunked_read ⟨rfl, rfl, rfl, rfl, rfl⟩ rfl rfl
    ⟨_, _, _, rfl, rfl, rfl⟩ (Option.some_get _).symm run
  have idle : ∀ conn ∈ s₄.connections 0, conn.parser.activeRequest.isSome = false := by decide +kernel
  rcases outcome with ⟨active, -⟩ | ⟨none, -, replies, -⟩
  · rw [idle conn present] at active
    cases active
  · exact ⟨s₀, _, s₄, (Option.some_get _).symm, run, bound, conn, present, none, replies⟩
end System

end EmsCollector
