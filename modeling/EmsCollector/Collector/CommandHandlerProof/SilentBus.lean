import EmsCollector.Collector.ApiCommandParserProof.Outcome
import EmsCollector.Collector.CommandHandlerProof.Orphan
import EmsCollector.Collector.CommandSchedulerProof.Load

/-!
# A silent bus

A command that enqueues reads gets no answer. Each timeout of one of its telegrams sends the last
one again, until the retries are used up; the telegrams that are still queued then time out
without an effect. `credit` counts the retries that a parser may still enqueue.
-/

namespace EmsCollector

open ApiCommandParser (Outcome)

namespace CommandConnection

/-- The terminal lines that the client has been sent. -/
def terminals (conn : CommandConnection) : List String := conn.replies.flatMap terminalLines

/-- The times that the active request may be sent again. -/
def credit (conn : CommandConnection) : Nat :=
  if conn.parser.activeRequest.isSome then conn.parser.retriesLeft.toNat - 1 else 0

/-- The connection of a client whose command has enqueued reads, with its credit: it waits for an
    answer, or it has reported the timeout. -/
inductive Asking (before conn : CommandConnection) : Nat → Prop
  | waiting {request : EmsMessage} {credit : Nat}
      (active : conn.parser.activeRequest = some request) (read : request.Read)
      (retries : conn.parser.retriesLeft.toNat = credit + 1) (bounded : credit ≤ 4)
      (quiet : conn.terminals = before.terminals) : Asking before conn credit
  | reported (idle : conn.parser.activeRequest = none)
      (reply : conn.terminals = before.terminals ++ ["ERRTIMEOUT"]) : Asking before conn 0

theorem Asking.credit {before conn : CommandConnection} {n : Nat} (asking : Asking before conn n) :
    conn.credit = n := by
  unfold CommandConnection.credit
  cases asking with
  | waiting active _ retries =>
      rw [active, retries]
      rfl
  | reported idle =>
      rw [idle]
      exact if_neg Bool.false_ne_true

theorem filterMap_send_message (messages : List EmsMessage) :
    (messages.map Effect.send).filterMap Effect.message? = messages := by
  induction messages with
  | nil => rfl
  | cons message rest ih => simpa [Effect.message?] using ih

theorem filterMap_send_line (messages : List EmsMessage) :
    (messages.map Effect.send).filterMap Effect.line? = [] := by
  induction messages with
  | nil => rfl
  | cons message rest ih => simp [Effect.line?]

/-- Of the ways in which a command can end, only requests enqueue nothing but reads. They print
    no terminal line. -/
theorem outcome_reads {env : Env} {p q : ApiCommandParser} {result : CommandResult}
    (outcome : Outcome env p result q) (quiet : p.effects = [])
    (some_sent : q.effects.filterMap Effect.message? ≠ [])
    (reads : ∀ message ∈ q.effects.filterMap Effect.message?, message.Read) :
    q.retriesLeft = ApiCommandParser.maxRequestRetries ∧
      (∃ request, q.activeRequest = some request ∧ request.Read) ∧
      (q.effects.filterMap Effect.line?).flatMap terminalLines = [] := by
  have polled {r : ApiCommandParser} (lines : (r.effects.filterMap Effect.line?).flatMap terminalLines = [])
      (silent : r.effects.filterMap Effect.message? = []) (ranges : List ApiCommandParser.Range)
      (same : q = r.startAll ranges) :
      q.retriesLeft = ApiCommandParser.maxRequestRetries ∧
        (∃ request, q.activeRequest = some request ∧ request.Read) ∧
        (q.effects.filterMap Effect.line?).flatMap terminalLines = [] := by
    obtain ⟨sent, effects, reads', active⟩ := ApiCommandParser.startAll_polled ranges r
    rw [← same] at effects active
    have sent_eq : q.effects.filterMap Effect.message? = sent := by
      rw [effects, List.filterMap_append, silent, filterMap_send_message, List.nil_append]
    rw [sent_eq] at some_sent
    obtain ⟨retries, request, member, request_active⟩ := active some_sent
    refine ⟨retries, ⟨request, request_active, reads' request member⟩, ?_⟩
    rw [effects, List.filterMap_append, filterMap_send_line, List.append_nil]
    exact lines
  have written (telegrams : List ApiCommandParser.Write) (some_telegram : telegrams ≠ [])
      (member : ∀ telegram ∈ telegrams, .send telegram.message ∈ q.effects) : False := by
    obtain ⟨telegram, first⟩ := List.exists_mem_of_ne_nil _ some_telegram
    exact telegram.message_not_read (reads _ (mem_messages.mpr (member telegram first)))
  cases outcome with
  | refused failed =>
      rw [quiet] at some_sent
      exact absurd rfl some_sent
  | helped single =>
      simp [ApiCommandParser.output, quiet, Effect.message?] at some_sent
  | fetched cache selector =>
      simp [ApiCommandParser.output, quiet, Effect.message?] at some_sent
  | requested ranges => exact polled (by rw [quiet]; rfl) (by rw [quiet]; rfl) ranges rfl
  | version =>
      refine polled ?_ ?_ _ rfl
      · simp [ApiCommandParser.output, quiet, Effect.line?, ApiCommandParser.version_terminal]
      · simp [ApiCommandParser.output, quiet, Effect.message?]
  | written telegram =>
      refine (written [telegram] nofun (fun other member => ?_)).elim
      rw [ApiCommandParser.writeAll_effects]
      exact List.mem_append_right _ (List.mem_map_of_mem member)
  | confirmed telegrams some_telegram single =>
      refine (written telegrams some_telegram (fun other member => List.mem_append_left _ ?_)).elim
      rw [ApiCommandParser.writeAll_effects]
      exact List.mem_append_right _ (List.mem_map_of_mem member)
  | testModeOn =>
      simp [ApiCommandParser.testModeOn, ApiCommandParser.output, quiet, Effect.message?] at some_sent
  | testModeOff =>
      refine (written [(EmsProto.addressUBA2, 0x1d, 0, [0x00])] nofun
        (fun other member => List.mem_append_left _ ?_)).elim
      rw [ApiCommandParser.writeAll_effects]
      exact List.mem_append_right _ (List.mem_map_of_mem member)

/-- An accepted command that has enqueued reads. -/
theorem handleRequest_asking {conn conn' : CommandConnection} {env : Env} {sent : List EmsMessage}
    (handled : conn.handleRequest env = (.ok .ok, conn', sent)) (some_sent : sent ≠ [])
    (reads : ∀ message ∈ sent, message.Read) :
    Asking conn conn' 4 ∧ conn'.parser.activeRequest.isSome = true := by
  unfold handleRequest finish at handled
  cases parsed : conn.parseRequest env with
  | error abort s =>
      rw [parsed] at handled
      cases handled
  | ok result s =>
      rw [parsed] at handled
      cases handled
      have outcome : Outcome env conn.parser .ok s.parser := by
        unfold parseRequest at parsed
        dsimp only at parsed
        split at parsed
        · exact ApiCommandParser.parse_outcome parsed
        · cases parsed
      obtain ⟨retries, ⟨request, active, read⟩, silent⟩ :=
        outcome_reads outcome conn.quiet some_sent reads
      refine ⟨.waiting active read ?_ (Nat.le_refl 4) ?_, ?_⟩
      · show s.parser.retriesLeft.toNat = 5
        rw [retries]
        rfl
      · show ((conn.replies ++ s.parser.effects.filterMap Effect.line?) ++ []).flatMap terminalLines = _
        rw [List.append_nil, List.flatMap_append, silent, List.append_nil]
        rfl
      · show s.parser.activeRequest.isSome = true
        rw [active]
        rfl

theorem timeout_terminal : terminalLines "ERRTIMEOUT" = ["ERRTIMEOUT"] := terminalLines_ofList rfl

/-- A timeout of an asking client: either it goes on with one retry less, or it reports the
    timeout, or it has done so before. -/
theorem timeout_asking {before conn conn' : CommandConnection} {sent : List EmsMessage} {n : Nat}
    (asking : Asking before conn n) (next : conn.step .timeout = some (conn', sent)) :
    ∃ left, Asking before conn' left ∧ sent.length + left = n ∧
      (∀ message ∈ sent, message.Read) ∧ (conn'.parser.activeRequest.isSome = true → sent ≠ []) := by
  have stepped : conn.onTimeout = (conn', sent) := Option.some.inj next
  unfold onTimeout at stepped
  cases asking with
  | reported idle reply =>
      rw [ApiCommandParser.onTimeout_idle idle] at stepped
      cases stepped
      refine ⟨0, .reported idle ?_, ?_, ?_, ?_⟩
      · rw [← reply]
        simp [terminals, respond, conn.quiet]
      · simp [conn.quiet]
      · simp [conn.quiet]
      · intro active
        rw [show _ = none from idle] at active
        cases active
  | @waiting request n active read retries bounded quiet =>
      cases n with
      | zero =>
          rw [ApiCommandParser.onTimeout_last active retries] at stepped
          cases stepped
          refine ⟨0, .reported rfl ?_, ?_, ?_, ?_⟩
          · rw [← quiet]
            simp [terminals, respond, conn.quiet, timeout_terminal]
          · simp [conn.quiet]
          · simp [conn.quiet]
          · intro active
            cases active
      | succ left =>
          rw [ApiCommandParser.onTimeout_again active (by omega)] at stepped
          cases stepped
          refine ⟨left, .waiting active read ?_ (Nat.le_of_succ_le bounded) ?_, ?_, ?_, ?_⟩
          · show (conn.parser.retriesLeft - 1).toNat = left + 1
            rw [ApiCommandParser.retriesLeft_pred (by omega)]
            omega
          · rw [← quiet]
            simp [terminals, respond, conn.quiet, Effect.line?]
          · simp [conn.quiet, Effect.message?]
            omega
          · simp [conn.quiet, Effect.message?, read]
          · simp [conn.quiet, Effect.message?]

end CommandConnection

namespace System

variable {κ : Type} [DecidableEq κ]

/-- The completions of the timers of the scheduler. -/
def Event.isTimer : Event κ → Bool
  | .responseExpired _ | .responseAborted | .sendExpired _ | .sendAborted _ => true
  | _ => false

/-- The runs on a silent bus. Each client in `served` has had one command accepted, which has
    enqueued so many telegrams, all of them reads; `n` timers have completed. -/
inductive SilentRun (start : System κ) : List (κ × Nat) → Nat → System κ → Prop
  | start : SilentRun start [] 0 start
  | command {served : List (κ × Nat)} {n : Nat} {s t : System κ} {client : κ} {env : Env}
      {conn conn' : CommandConnection} {sent : List EmsMessage} (run : SilentRun start served n s)
      (first : client ∉ served.map Prod.fst) (present : s.connections client = some conn)
      (handled : conn.handleRequest env = (.ok .ok, conn', sent)) (some_sent : sent ≠ [])
      (reads : ∀ message ∈ sent, message.Read) (next : s.step (.request client env) = some t) :
      SilentRun start ((client, sent.length) :: served) n t
  | timer {served : List (κ × Nat)} {n : Nat} {s t : System κ} {e : Event κ}
      (run : SilentRun start served n s) (timer : e.isTimer = true) (next : s.step e = some t) :
      SilentRun start served (n + 1) t

/-- The telegrams of the commands. -/
def telegrams (served : List (κ × Nat)) : Nat := (served.map Prod.snd).sum

/-- The telegrams that the clients may still enqueue. -/
def credits (s : System κ) (served : List (κ × Nat)) : Nat :=
  (served.map fun entry => ((s.connections entry.1).map CommandConnection.credit).getD 0).sum

theorem credits_other {s : System κ} {client : κ} {served : List (κ × Nat)}
    (other : client ∉ served.map Prod.fst) (conn : CommandConnection) :
    (s.setConnection client conn).credits served = s.credits served := by
  unfold credits
  congr 1
  apply List.map_congr_left
  intro entry member
  have different : entry.1 ≠ client := by
    rintro rfl
    exact other (List.mem_map_of_mem member)
  rw [setConnection_other s different]

theorem credits_setConnection {s : System κ} {client : κ} {served : List (κ × Nat)}
    (distinct : (served.map Prod.fst).Nodup) (member : client ∈ served.map Prod.fst)
    {before : CommandConnection} (present : s.connections client = some before)
    (conn : CommandConnection) :
    (s.setConnection client conn).credits served + before.credit =
      s.credits served + conn.credit := by
  induction served with
  | nil => exact nomatch member
  | cons entry rest ih =>
      obtain ⟨owner, count⟩ := entry
      obtain ⟨fresh, distinct⟩ := List.nodup_cons.mp distinct
      have split (u : System κ) : u.credits ((owner, count) :: rest) =
          ((u.connections owner).map CommandConnection.credit).getD 0 + u.credits rest := by
        simp [credits]
      rw [split, split]
      by_cases same : owner = client
      · subst same
        rw [credits_other fresh, setConnection_self, present]
        simp only [Option.map_some, Option.getD_some]
        omega
      · rw [setConnection_other s same]
        have later : client ∈ rest.map Prod.fst := by
          rcases List.mem_cons.mp member with rfl | later
          · exact absurd rfl same
          · exact later
        have rest_credits := ih distinct later
        omega

/-- The invariant of the runs on a silent bus. -/
structure SilentInv (start : System κ) (served : List (κ × Nat)) (n : Nat) (s : System κ) : Prop where
  polling : s.sender.Polling
  consistent : s.sender.Consistent
  distinct : (served.map Prod.fst).Nodup
  keeps : ∀ client, s.sender.Keeps client → client ∈ served.map Prod.fst
  others : ∀ client, client ∉ served.map Prod.fst → s.connections client = start.connections client
  asking : ∀ client ∈ served.map Prod.fst, ∃ before conn credit,
    start.connections client = some before ∧ s.connections client = some conn ∧
      CommandConnection.Asking before conn credit ∧
      (conn.parser.activeRequest.isSome = true → s.sender.Held client)
  account : s.sender.accounted.card + s.credits served =
    start.sender.accounted.card + telegrams served + 4 * served.length
  load : n + s.sender.load + 3 * s.credits served ≤
    start.sender.load + 3 * (telegrams served + 4 * served.length)

variable {start s t : System κ} {served : List (κ × Nat)} {n : Nat}

omit [DecidableEq κ] in
theorem start_silent (idle : start.sender.Idle) : SilentInv start [] 0 start where
  polling := idle.polling
  consistent := ⟨fun _ => idle.queue, fun busy => absurd idle.client busy⟩
  distinct := List.nodup_nil
  keeps := by
    rintro client (current | ⟨request, member, -⟩)
    · exact nomatch idle.client.symm.trans current
    · rw [idle.queue] at member
      exact nomatch member
  others := fun _ _ => rfl
  asking := nofun
  account := rfl
  load := by simp [credits, telegrams]

/-- A command takes its telegrams to the scheduler, and its client gets a credit of four. -/
theorem command_silent (inv : SilentInv start served n s) {client : κ} {env : Env}
    {conn conn' : CommandConnection} {sent : List EmsMessage} (first : client ∉ served.map Prod.fst)
    (present : s.connections client = some conn)
    (handled : conn.handleRequest env = (.ok .ok, conn', sent)) (some_sent : sent ≠ [])
    (reads : ∀ message ∈ sent, message.Read) (next : s.step (.request client env) = some t) :
    SilentInv start ((client, sent.length) :: served) n t := by
  have moved : t = (s.setConnection client conn').setSender (s.sender.sendAll env.now client sent) := by
    simp only [step] at next
    split at next
    · obtain ⟨conn₁, conn₂, sent', present', stepped, rfl⟩ := connectionStep_cases next
      cases present.symm.trans present'
      simp only [CommandConnection.step, handled] at stepped
      split at stepped
      · cases stepped
        rfl
      · cases stepped
    · cases next
  subst moved
  obtain ⟨asked, active⟩ := CommandConnection.handleRequest_asking handled some_sent reads
  obtain ⟨polling, load⟩ := EmsCommandSender.sendAll_polling inv.polling env.now client reads
  have held : (s.sender.sendAll env.now client sent).Held client :=
    EmsCommandSender.sendAll_held env.now some_sent
  have total : telegrams ((client, sent.length) :: served) = sent.length + telegrams served := by
    simp [telegrams]
  have credits : ((s.setConnection client conn').setSender
      (s.sender.sendAll env.now client sent)).credits ((client, sent.length) :: served) =
        4 + s.credits served := by
    have rest := credits_other (s := s) first conn'
    have own : ((s.setConnection client conn').connections client) = some conn' :=
      setConnection_self s client conn'
    show (List.map _ _).sum = _
    rw [List.map_cons, List.sum_cons]
    show (((s.setConnection client conn').connections client).map _).getD 0 +
      (s.setConnection client conn').credits served = _
    rw [own, rest, Option.map_some, Option.getD_some, asked.credit]
  refine ⟨polling, EmsCommandSender.sendAll_consistent inv.consistent env.now client sent,
    List.nodup_cons.mpr ⟨first, inv.distinct⟩, ?_, ?_, ?_, ?_, ?_⟩
  · intro other kept
    rcases EmsCommandSender.sendAll_kept kept with before | rfl
    · exact List.mem_cons_of_mem _ (inv.keeps other before)
    · exact List.mem_cons_self ..
  · intro other absent
    rw [List.map_cons, List.mem_cons, not_or] at absent
    exact (setConnection_other s absent.1 conn').trans (inv.others other absent.2)
  · intro other member
    by_cases same : other = client
    · subst same
      refine ⟨conn, conn', 4, ?_, setConnection_self s other conn', asked, fun _ => held⟩
      rw [← inv.others other first]
      exact present
    · have old : other ∈ served.map Prod.fst := by
        rcases List.mem_cons.mp member with rfl | old
        · exact absurd rfl same
        · exact old
      obtain ⟨before, conn₁, credit, original, present₁, asking, waits⟩ := inv.asking other old
      refine ⟨before, conn₁, credit, original, ?_, asking, fun active => ?_⟩
      · exact (setConnection_other s same conn').trans present₁
      · exact EmsCommandSender.sendAll_keeps (waits active) env.now client sent
  · rw [credits, total, List.length_cons]
    have account := inv.account
    have sent_account := EmsCommandSender.sendAll_accounted s.sender env.now client sent
    show (s.sender.sendAll env.now client sent).accounted.card + _ = _
    omega
  · rw [credits, total, List.length_cons]
    have bound := inv.load
    show n + (s.sender.sendAll env.now client sent).load + _ ≤ _
    omega

/-- A timeout takes a completion, and a credit for the telegram that it sends again. -/
theorem timeout_silent (inv : SilentInv start served n s) {now : Time}
    (next : s.step (.responseExpired now) = some t) : SilentInv start served (n + 1) t := by
  obtain ⟨expiry, wait, u, reaction, running, called, rfl⟩ := responseExpired_cases next
  have real : wait.fakeAnswer = false := inv.polling.waiting _ running
  rw [responseEvent_real real] at called
  rcases callback_cases called with ⟨idle, -, -⟩ | ⟨client, conn, conn', current, present, stepped, rfl⟩
  · obtain ⟨phase_current, phase⟩ := inv.polling.phase
    cases phase with
    | idle _ _ response => cases response.symm.trans running
    | delayed _ response => cases response.symm.trans running
    | waiting busy => cases idle.symm.trans busy
  have member : client ∈ served.map Prod.fst := inv.keeps client (.inl current)
  obtain ⟨before, conn₁, credit, original, present₁, asking, -⟩ := inv.asking client member
  cases present.symm.trans present₁
  obtain ⟨left, asked, spent, reads, again⟩ := CommandConnection.timeout_asking asking stepped
  let after := EmsCommandSender.handleResponseTimeout
    { s.sender with responseTimeout := s.sender.responseTimeout.expired } now wait reaction
  obtain ⟨polling, load⟩ : after.Polling ∧ after.load + 1 ≤ s.sender.load + 3 * reaction.length :=
    EmsCommandSender.responseExpired_polling inv.polling running now reads
  have accounted : after.accounted.card = s.sender.accounted.card + reaction.length := by
    have enqueued : (EmsCommandSender.reactionRequests
        { s.sender with responseTimeout := s.sender.responseTimeout.expired } reaction).length =
          reaction.length := by
      simp [EmsCommandSender.reactionRequests, current]
    rw [EmsCommandSender.handleResponseTimeout_accounted, Multiset.card_add, Multiset.coe_card, enqueued]
    rfl
  have credits := credits_setConnection inv.distinct member present conn'
  rw [asking.credit, asked.credit] at credits
  have held {other : κ} (queued : s.sender.Queued other ∨
      s.sender.currentClient = some other ∧ reaction ≠ []) := EmsCommandSender.timeout_held
    (s := { s.sender with responseTimeout := s.sender.responseTimeout.expired }) real now reaction queued
  refine ⟨polling, EmsCommandSender.handleResponseTimeout_consistent _ now wait reaction,
    inv.distinct, ?_, ?_, ?_, ?_, ?_⟩
  · intro other kept
    have before := EmsCommandSender.handleResponseTimeout_kept kept
    exact inv.keeps other before
  · intro other absent
    have different : other ≠ client := by
      rintro rfl
      exact absent member
    exact (setConnection_other s different conn').trans (inv.others other absent)
  · intro other member'
    by_cases same : other = client
    · subst same
      refine ⟨before, conn', left, original, setConnection_self s other conn', asked, ?_⟩
      exact fun active => held (.inr ⟨current, again active⟩)
    · obtain ⟨before', conn₂, credit', original', present₂, asking', waits⟩ := inv.asking other member'
      refine ⟨before', conn₂, credit', original', ?_, asking', fun active => ?_⟩
      · exact (setConnection_other s same conn').trans present₂
      · rcases waits active with queued | ⟨serving, -⟩
        · exact held (.inl queued)
        · cases current.symm.trans serving
          exact absurd rfl same
  · have account := inv.account
    show after.accounted.card + (s.setConnection client conn').credits served = _
    omega
  · have bound := inv.load
    show n + 1 + after.load + 3 * (s.setConnection client conn').credits served ≤ _
    omega

omit [DecidableEq κ] in
/-- The other completions do not call a client. -/
theorem timer_silent (inv : SilentInv start served n s) {sender : EmsCommandSender κ}
    (polling : sender.Polling) (load : sender.load + 1 = s.sender.load)
    (accounted : sender.accounted = s.sender.accounted)
    (queue : sender.pending = s.sender.pending)
    (current : sender.currentClient = s.sender.currentClient)
    (armed : s.sender.Armed → sender.Armed) : SilentInv start served (n + 1) (s.setSender sender) := by
  have consistent : sender.Consistent := by
    refine ⟨fun idle => ?_, fun busy => ?_⟩
    · rw [queue]
      exact inv.consistent.idle (current.symm.trans idle)
    · rw [current] at busy
      exact armed (inv.consistent.armed busy)
  have credits : (s.setSender sender).credits served = s.credits served := rfl
  refine ⟨polling, consistent, inv.distinct, ?_, inv.others, ?_, ?_, ?_⟩
  · rintro client (serving | ⟨request, member, owner⟩)
    · exact inv.keeps client (.inl (current.symm.trans serving))
    · rw [setSender_sender, queue] at member
      exact inv.keeps client (.inr ⟨request, member, owner⟩)
  · intro client member
    obtain ⟨before, conn, credit, original, present, asking, waits⟩ := inv.asking client member
    refine ⟨before, conn, credit, original, present, asking, fun active => ?_⟩
    rcases waits active with ⟨request, member, owner⟩ | ⟨serving, waiting⟩
    · refine .inl ⟨request, ?_, owner⟩
      rw [setSender_sender, queue]
      exact member
    · exact .inr ⟨current.trans serving, armed waiting⟩
  · have account := inv.account
    rw [credits, setSender_sender, accounted]
    exact account
  · have bound := inv.load
    rw [credits, setSender_sender]
    omega

theorem run_silent (idle : start.sender.Idle) (run : SilentRun start served n s) :
    SilentInv start served n s := by
  induction run with
  | start => exact start_silent idle
  | command _ first present handled some_sent reads next ih =>
      exact command_silent ih first present handled some_sent reads next
  | @timer served n s t e _ timer next ih =>
      cases e with
      | responseExpired now => exact timeout_silent ih next
      | responseAborted =>
          obtain ⟨sender, stepped, rfl⟩ := senderStep_cases next
          obtain ⟨wait, aborted, rfl⟩ := Option.map_eq_some_iff.mp stepped
          obtain ⟨polling, load⟩ := EmsCommandSender.responseAborted_polling ih.polling aborted
          exact timer_silent ih polling load rfl rfl rfl id
      | sendExpired now =>
          obtain ⟨sender, stepped, rfl⟩ := senderStep_cases next
          obtain ⟨⟨expiry, request⟩, running, rfl⟩ := Option.map_eq_some_iff.mp stepped
          obtain ⟨polling, load⟩ := EmsCommandSender.sendExpired_polling ih.polling running now
          refine timer_silent ih polling load ?_ rfl rfl
            (fun _ => EmsCommandSender.doSendMessage_armed _ now request)
          rw [EmsCommandSender.doSendMessage_accounted]
          simp only [EmsCommandSender.accounted, DeadlineTimer.held_expired running, Multiset.add_cons]
          rfl
      | sendAborted now =>
          obtain ⟨sender, stepped, -⟩ := senderStep_cases next
          obtain ⟨request, aborted, -⟩ := Option.map_eq_some_iff.mp stepped
          rw [ih.polling.noAborted] at aborted
          cases aborted
      | connect | disconnect | segment | request | testModeExpired | testModeAborted | telegram =>
          cases timer

/-- How the runs on a silent bus end. -/
structure Finished (start : System κ) (served : List (κ × Nat)) (s : System κ) : Prop where
  queue : s.sender.pending = []
  client : s.sender.currentClient = none
  reported : ∀ client ∈ served.map Prod.fst, ∃ before conn,
    start.connections client = some before ∧ s.connections client = some conn ∧
      conn.parser.activeRequest = none ∧ conn.terminals = before.terminals ++ ["ERRTIMEOUT"]
  others : ∀ client, client ∉ served.map Prod.fst → s.connections client = start.connections client

/-- Without a timer to wait for, the scheduler is idle. -/
theorem stuck_idle (inv : SilentInv start served n s)
    (stuck : ∀ e : Event κ, e.isTimer = true → s.step e = none) :
    s.sender.currentClient = none ∧ s.sender.pending = [] := by
  obtain ⟨current, phase⟩ := inv.polling.phase
  cases phase with
  | idle client queue => exact ⟨client, queue⟩
  | delayed client response send =>
      have next := stuck (.sendExpired 0) rfl
      simp [step, senderStep, EmsCommandSender.step, send] at next
  | @waiting expiry fakeAnswer request client response send =>
      have next := stuck (.responseExpired 0) rfl
      have real : fakeAnswer = false := inv.polling.waiting _ response
      obtain ⟨before, conn, credit, -, present, -⟩ := inv.asking request.client
        (inv.keeps _ (.inl client))
      simp [step, senderStep, EmsCommandSender.step, callback, client, present, response, real,
        responseEvent, CommandConnection.step] at next

theorem stuck_finished (inv : SilentInv start served n s)
    (stuck : ∀ e : Event κ, e.isTimer = true → s.step e = none) : Finished start served s := by
  obtain ⟨idle, queue⟩ := stuck_idle inv stuck
  refine ⟨queue, idle, fun client member => ?_, inv.others⟩
  obtain ⟨before, conn, credit, original, present, asking, waits⟩ := inv.asking client member
  cases asking with
  | reported finished reply => exact ⟨before, conn, original, present, finished, reply⟩
  | waiting active =>
      have held : s.sender.Held client := waits (by rw [active]; rfl)
      rcases held with ⟨request, member, -⟩ | ⟨serving, -⟩
      · rw [queue] at member
        exact nomatch member
      · exact nomatch idle.symm.trans serving

/-- From the idle scheduler, let any number of clients have a command each accepted that enqueues
    reads only, and let nothing but timers complete. At most four telegrams more than the commands
    have enqueued are transmitted for each client, the number of completions is bounded, no retry
    counter is decremented below zero, and when nothing can complete any more each client has got
    one `ERRTIMEOUT` and the scheduler is idle. -/
theorem silent_bus (idle : start.sender.Idle) (run : SilentRun start served n s) :
    s.sender.transmitted.card ≤
        start.sender.transmitted.card + telegrams served + 4 * served.length ∧
      n ≤ start.sender.responseTimeout.aborted.length +
        3 * (telegrams served + 4 * served.length) ∧
      (∀ client ∈ served.map Prod.fst, ∀ conn ∈ s.connections client,
        conn.parser.activeRequest.isSome = true → conn.parser.retriesLeft ≠ 0) ∧
      ((∀ e : Event κ, e.isTimer = true → s.step e = none) → Finished start served s) := by
  have inv := run_silent idle run
  refine ⟨?_, ?_, ?_, stuck_finished inv⟩
  · have account := inv.account
    have before : start.sender.accounted.card = start.sender.transmitted.card := by
      simp [EmsCommandSender.accounted, DeadlineTimer.held, idle.queue, idle.send, idle.noAborted]
    have after : s.sender.transmitted.card ≤ s.sender.accounted.card := by
      simp only [EmsCommandSender.accounted, Multiset.card_add]
      omega
    omega
  · have bound := inv.load
    rw [EmsCommandSender.load_resting idle.send idle.response, idle.queue] at bound
    simp only [List.length_nil] at bound
    omega
  · intro client member conn present active
    obtain ⟨before, conn', credit, -, present', asking, -⟩ := inv.asking client member
    cases present'.symm.trans present
    cases asking with
    | reported finished =>
        rw [finished] at active
        cases active
    | waiting _ _ retries =>
        intro zero
        rw [zero] at retries
        cases retries

/-- Timers that complete one after the other. -/
theorem SilentRun.timers (run : SilentRun start served n s) {es : List (Event κ)}
    (timers : ∀ e ∈ es, e.isTimer = true) (fold : es.foldlM step s = some t) :
    SilentRun start served (n + es.length) t := by
  induction es generalizing s n with
  | nil =>
      cases fold
      exact run
  | cons e rest ih =>
      rw [List.foldlM_cons] at fold
      obtain ⟨u, next, fold⟩ := Option.bind_eq_some_iff.mp fold
      rw [List.forall_mem_cons] at timers
      have after := ih (.timer run timers.1 next) timers.2 fold
      rw [List.length_cons, show n + (rest.length + 1) = n + 1 + rest.length by omega]
      exact after

/-- No timer of the scheduler can complete when none is armed and no handler is left. -/
theorem idle_stuck (response : s.sender.responseTimeout = .idle) (send : s.sender.sendTimer = .idle)
    (e : Event κ) (timer : e.isTimer = true) : s.step e = none := by
  cases e with
  | responseExpired | responseAborted | sendExpired | sendAborted =>
      simp [step, senderStep, EmsCommandSender.step, response, send, DeadlineTimer.idle]
  | connect | disconnect | segment | request | testModeExpired | testModeAborted | telegram =>
      cases timer

/-- Two clients have sent a command each: one telegram, and two telegrams. -/
def silentStart : System Nat :=
  { init with
    connections := fun client =>
      if client = 0 then some { CommandConnection.new default with request := "uba geterrors\n".toList }
      else if client = 1 then
        some { CommandConnection.new default with request := "ww requestdata\n".toList }
      else none
    registered := fun _ => true }

/-- All the eleven telegrams that the bound allows are transmitted. -/
theorem silent_bus_two_clients :
    ∃ s, SilentRun silentStart [(1, 2), (0, 1)] 11 s ∧
      s.sender.transmitted.card = 11 ∧ s.sender.transmitted.card ≤ 0 + 3 + 4 * 2 ∧
      Finished silentStart [(1, 2), (0, 1)] s := by
  let env : Env := ⟨none, fun s => (none, s), 0⟩
  let timeouts : List (Event Nat) := (List.range 11).map fun i => .responseExpired (1000000 * (i + 1))
  have idle : silentStart.sender.Idle := ⟨rfl, rfl, rfl, rfl, rfl⟩
  have first : SilentRun silentStart [(0, 1)] 0 _ :=
    @SilentRun.command Nat _ silentStart [] 0 silentStart _ 0 env _ _ _ .start (by decide) rfl rfl
      (by decide) (by decide) rfl
  have both : SilentRun silentStart [(1, 2), (0, 1)] 0 _ :=
    @SilentRun.command Nat _ silentStart [(0, 1)] 0 _ _ 1 env _ _ _ first (by decide) rfl rfl
      (by decide) (by decide) rfl
  have expiries : ∀ e ∈ timeouts, e.isTimer = true := by decide
  have run := both.timers expiries (Option.some_get (by decide +kernel)).symm
  obtain ⟨bound, -, -, finished⟩ := silent_bus idle run
  refine ⟨_, run, by decide +kernel, bound, finished (idle_stuck ?_ ?_)⟩
  · decide +kernel
  · decide +kernel

end System

end EmsCollector
