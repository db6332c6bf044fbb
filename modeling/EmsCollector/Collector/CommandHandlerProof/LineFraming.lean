import EmsCollector.Collector.ApiCommandParserProof.Forward
import EmsCollector.Collector.CommandHandlerProof.Connection

/-!
# Lines of the command port

The parser reads from the whole receive buffer, and only what it has left is dropped up to the
next line end. Here a run of a connection is compared with one in which every line is handled on
its own, in order. A line that the parser reads to its end, with more bytes behind it in the
buffer, takes bytes of the lines behind it.
-/

namespace EmsCollector

open ApiCommandParser (final appendResult nextWord)
open IStream (Forward dropLine)

/-- What comes of handling a line: the result or the exception, the connection afterwards with
    what is left in its buffer, and the telegrams enqueued. -/
abbrev Outcome := Except Abort CommandResult × CommandConnection × List EmsMessage

/-- The bytes of a list of lines. -/
def stream (lines : List (List Char)) : List Char := lines.flatMap (· ++ ['\n'])

/-- The first line of a buffer, without its end. -/
def firstLine (chars : List Char) : List Char := chars.takeWhile (· ≠ '\n')

theorem dropWhile_line {chars : List Char} (complete : '\n' ∈ chars) :
    chars.dropWhile (· ≠ '\n') = '\n' :: dropLine chars := by
  induction chars with
  | nil => cases complete
  | cons c chars ih =>
      by_cases lineEnd : c = '\n'
      · subst lineEnd
        rfl
      · have later : '\n' ∈ chars := (List.mem_cons.mp complete).resolve_left (Ne.symm lineEnd)
        have rest := ih later
        simp only [dropLine, List.dropWhile_cons, lineEnd, ne_eq, not_false_eq_true, decide_true,
          if_true] at rest ⊢
        exact rest

theorem split_line {chars : List Char} (complete : '\n' ∈ chars) :
    chars = firstLine chars ++ '\n' :: dropLine chars := by
  rw [← dropWhile_line complete]
  exact List.takeWhile_append_dropWhile.symm

/-- A line end is found in front of what is added. -/
theorem dropLine_append {chars : List Char} (complete : '\n' ∈ chars) (more : List Char) :
    dropLine (chars ++ more) = dropLine chars ++ more := by
  show ((chars ++ more).dropWhile (· ≠ '\n')).tail = _
  rw [List.dropWhile_append, dropWhile_line complete]
  rfl

theorem firstLine_single (chars : List Char) : '\n' ∉ firstLine chars := by
  intro member
  have others := List.all_eq_true.mp (List.all_takeWhile (l := chars) (p := (· ≠ '\n'))) _ member
  simp at others

theorem firstLine_append {line : List Char} (single : '\n' ∉ line) (behind : List Char) :
    firstLine (line ++ '\n' :: behind) = line := by
  induction line with
  | nil => rfl
  | cons c line ih =>
      have other : c ≠ '\n' := fun same => single (same ▸ List.mem_cons_self ..)
      have rest := ih (fun member => single (List.mem_cons_of_mem _ member))
      simp only [firstLine, List.cons_append, List.takeWhile_cons, other, ne_eq, not_false_eq_true,
        decide_true, if_true] at rest ⊢
      rw [rest]

theorem dropLine_line {line : List Char} (single : '\n' ∉ line) (behind : List Char) :
    dropLine (line ++ '\n' :: behind) = behind := by
  have complete : '\n' ∈ line ++ '\n' :: behind := by simp
  have whole := split_line complete
  rw [firstLine_append single] at whole
  have rest := List.append_cancel_left whole
  exact (List.cons.inj rest).2.symm

/-- What is left of a line holds its end. -/
theorem lineEnd_mem {line rest : List Char} (suffix : rest <:+ line ++ ['\n']) (left : rest ≠ []) :
    '\n' ∈ rest := by
  obtain ⟨taken, whole⟩ := suffix
  have last := congrArg List.getLast? whole
  rw [List.getLast?_append_of_ne_nil _ left, List.getLast?_concat] at last
  exact List.mem_of_getLast? last

/-- Whatever is left of a line is dropped. -/
theorem dropLine_suffix {line rest : List Char} (single : '\n' ∉ line)
    (suffix : rest <:+ line ++ ['\n']) : dropLine rest = [] := by
  induction line with
  | nil =>
      rcases List.suffix_cons_iff.mp suffix with rfl | shorter
      · rfl
      · rw [List.suffix_nil.mp shorter]
        rfl
  | cons c line ih =>
      rcases List.suffix_cons_iff.mp suffix with rfl | shorter
      · exact dropLine_line single []
      · exact ih (fun member => single (List.mem_cons_of_mem _ member)) shorter

theorem dropLine_shorter {chars : List Char} (some : chars ≠ []) :
    (dropLine chars).length < chars.length := by
  unfold dropLine
  cases dropped : chars.dropWhile (· ≠ '\n') with
  | nil => exact List.length_pos_iff.mpr some
  | cons c rest =>
      have shorter := (List.dropWhile_suffix (l := chars) (· ≠ '\n')).length_le
      rw [dropped] at shorter
      exact Nat.lt_of_lt_of_le (Nat.lt_succ_self rest.length) shorter

namespace ApiCommandParser

/-- A line of at most one character holds a word of at most one character. -/
theorem nextWord_short {line : List Char} (short : line.length ≤ 1) :
    (nextWord (.ofChars (line ++ ['\n']))).1.length ≤ 1 := by
  match line, short with
  | [], _ => exact Nat.zero_le _
  | [c], _ =>
      have lineEnd : isSpace '\n' = true := rfl
      by_cases blank : isSpace c = true
      · simp [nextWord, IStream.readString, IStream.extract, IStream.sentry, IStream.good,
          IStream.ofChars, Scan.run, IStream.skipStep, blank, lineEnd]
      · simp [nextWord, IStream.readString, IStream.extract, IStream.sentry, IStream.good,
          IStream.ofChars, Scan.run, IStream.skipStep, IStream.wordStep, blank, lineEnd]

theorem select_unknown {cmd : String} {commands : List (String × RequestM CommandResult)}
    (unknown : ∀ entry ∈ commands, cmd ≠ entry.1) : select cmd commands = pure .invalidCmd := by
  unfold select
  induction commands with
  | nil => rfl
  | cons entry rest ih =>
      rw [List.lookup_cons, beq_false_of_ne (unknown entry (List.mem_cons_self ..))]
      exact ih (fun entry member => unknown entry (List.mem_cons_of_mem _ member))

/-- No command is as short as one character. -/
theorem commands_length (env : Env) : ∀ entry ∈ commands env, 1 < entry.1.length := by
  unfold commands
  simp only [List.forall_mem_cons]
  exact ⟨by decide, by decide, by decide, by decide, by decide, by decide, by decide, by decide,
    by decide, by decide, by decide, nofun⟩

/-- A line of at most one character is no command. -/
theorem parse_short {line : List Char} (short : line.length ≤ 1) {p : ApiCommandParser}
    (idle : p.activeRequest = none) (env : Env) :
    ∃ request, parse env ⟨p, .ofChars (line ++ ['\n'])⟩ = .ok .invalidCmd ⟨p, request⟩ := by
  have word := nextWord_short short
  have unknown : select (nextWord (.ofChars (line ++ ['\n']))).1 (commands env) =
      pure .invalidCmd := by
    apply select_unknown
    intro entry member same
    have long := commands_length env entry member
    rw [← same] at long
    exact Nat.not_lt_of_le word long
  refine ⟨(nextWord (.ofChars (line ++ ['\n']))).2, ?_⟩
  unfold parse parseCommand
  rw [idle, readWord_bind, unknown]
  rfl

end ApiCommandParser

namespace CommandConnection

/-- `handleRequest` of a line on its own; the bytes behind the line stay in the buffer. -/
def handleAlone (conn : CommandConnection) (line : List Char) (env : Env) : Outcome :=
  let (result, alone, sent) := handleRequest { conn with request := line ++ ['\n'] } env
  (result, { alone with request := alone.request ++ conn.request.drop (line.length + 1) }, sent)

/-- The line of a request event. -/
def Event.env? : Event → Option Env
  | .request env => some env
  | _ => none

/-- The bytes that arrive in an event. -/
def Event.arrived : Event → List Char
  | .segment chars => chars
  | _ => []

/-- What comes of the lines in a run, until an exception is thrown or something happens that the
    connection is not ready for. -/
def trace : CommandConnection → List Event → List Outcome
  | _, [] => []
  | conn, e :: es =>
      match e.env? with
      | some env =>
          if '\n' ∈ conn.request then
            match conn.handleRequest env with
            | (.ok result, conn', sent) => (.ok result, conn', sent) :: trace conn' es
            | outcome => [outcome]
          else []
      | none =>
          match conn.step e with
          | some (conn', _) => trace conn' es
          | none => []

/-- The same with the lines that the client sends, each handled on its own when it has arrived. -/
def traceAlone : List (List Char) → CommandConnection → List Event → List Outcome
  | _, _, [] => []
  | lines, conn, e :: es =>
      match e.env? with
      | some env =>
          if '\n' ∈ conn.request then
            match lines with
            | line :: lines =>
                match conn.handleAlone line env with
                | (.ok result, conn', sent) => (.ok result, conn', sent) :: traceAlone lines conn' es
                | outcome => [outcome]
            | [] => []
          else []
      | none =>
          match conn.step e with
          | some (conn', _) => traceAlone lines conn' es
          | none => []

/-- The parser, given the first line alone, stops in front of its end. -/
def KeepsLineEnd (conn : CommandConnection) (env : Env) : Prop :=
  (final (ApiCommandParser.parse env
    ⟨conn.parser, .ofChars (firstLine conn.request ++ ['\n'])⟩)).request.rest ≠ []

instance (conn : CommandConnection) (env : Env) : Decidable (conn.KeepsLineEnd env) :=
  inferInstanceAs (Decidable (¬ _ = _))

/-- The lines whose handling takes no byte behind them, and that have the result they have alone:
    nothing stands behind the line, or the buffer is too short to be parsed, or the parser stops in
    front of the line end (and is free, if the line alone would be too short to be parsed). -/
def LineOk (conn : CommandConnection) (env : Env) : Prop :=
  dropLine conn.request = [] ∨ conn.request.length ≤ 2 ∨
    conn.KeepsLineEnd env ∧
      ((firstLine conn.request).length ≤ 1 → conn.parser.activeRequest = none)

/-- All lines that are handled in a run are of that kind. -/
def LinesOk : CommandConnection → List Event → Prop
  | _, [] => True
  | conn, e :: es =>
      (∀ env ∈ e.env?, '\n' ∈ conn.request → conn.LineOk env) ∧
        ∀ conn' sent, conn.step e = some (conn', sent) → LinesOk conn' es

section Alone

variable {conn : CommandConnection} {env : Env} {line behind : List Char}

/-- The end of a parse with more bytes behind what it leaves. -/
theorem finish_append {r : EStateM.Result Abort Session CommandResult} (conn : CommandConnection)
    (left : '\n' ∈ (final r).request.rest) (more : List Char) :
    conn.finish (appendResult r more) = ((conn.finish r).1,
      { (conn.finish r).2.1 with request := (conn.finish r).2.1.request ++ more },
      (conn.finish r).2.2) := by
  cases r with
  | ok result s =>
      have dropped := dropLine_append left more
      simp only [final] at dropped
      simp only [finish, appendResult, IStream.append, perform, respond, dropped]
  | error abort s => rfl

/-- The parser does not care for the buffer that the connection has. -/
theorem finish_request (conn : CommandConnection) (request : List Char)
    (r : EStateM.Result Abort Session CommandResult) :
    finish { conn with request } r = conn.finish r := by
  cases r <;> rfl

theorem handleAlone_eq (buffer : conn.request = line ++ '\n' :: behind) (env : Env) :
    conn.handleAlone line env =
      let outcome := conn.finish (parseRequest { conn with request := line ++ ['\n'] } env)
      (outcome.1, { outcome.2.1 with request := outcome.2.1.request ++ behind }, outcome.2.2) := by
  have rest : conn.request.drop (line.length + 1) = behind := by
    rw [buffer]
    simp [List.drop_append]
  unfold handleAlone handleRequest
  rw [finish_request, rest]

theorem finish_rest (conn : CommandConnection) {result : CommandResult} {p : ApiCommandParser}
    {request request' : IStream} (same : dropLine request.rest = dropLine request'.rest) :
    conn.finish (.ok result ⟨p, request⟩) = conn.finish (.ok result ⟨p, request'⟩) := by
  simp only [finish, same]

/-- A result that holds for the line alone and leaves its end holds for the whole buffer. -/
theorem handleRequest_of_append (buffer : conn.request = line ++ '\n' :: behind)
    (left : '\n' ∈ (final (parseRequest { conn with request := line ++ ['\n'] } env)).request.rest)
    (longer : conn.parseRequest env =
      appendResult (parseRequest { conn with request := line ++ ['\n'] } env) behind) :
    conn.handleRequest env = conn.handleAlone line env := by
  rw [handleAlone_eq buffer]
  unfold handleRequest
  rw [longer, finish_append conn left]

/-- With nothing behind it, the line is alone in the buffer. -/
theorem handleRequest_alone (buffer : conn.request = line ++ ['\n']) (env : Env) :
    conn.handleRequest env = conn.handleAlone line env := by
  rw [handleAlone_eq buffer]
  have same : ({ conn with request := line ++ ['\n'] } : CommandConnection) = conn := by
    rw [← buffer]
  unfold handleRequest
  rw [same]
  simp

/-- What the parser leaves of a line, if anything, holds the line end. -/
theorem lineEnd_left (forward : Forward env.readPtime) {p : ApiCommandParser}
    (left : (final (ApiCommandParser.parse env ⟨p, .ofChars (line ++ ['\n'])⟩)).request.rest ≠ []) :
    '\n' ∈ (final (ApiCommandParser.parse env ⟨p, .ofChars (line ++ ['\n'])⟩)).request.rest :=
  lineEnd_mem ((ApiCommandParser.parse_readsForward forward).suffix ⟨p, .ofChars (line ++ ['\n'])⟩)
    left

theorem parseRequest_long (conn : CommandConnection) (long : conn.request.length > 2) (env : Env) :
    conn.parseRequest env = ApiCommandParser.parse env ⟨conn.parser, .ofChars conn.request⟩ := by
  unfold parseRequest
  exact if_pos long

theorem parseRequest_short (conn : CommandConnection) (short : ¬ conn.request.length > 2) (env : Env) :
    conn.parseRequest env = .ok .invalidCmd ⟨conn.parser, .ofChars conn.request⟩ := by
  unfold parseRequest
  exact if_neg short

/-- A line of the right kind has the result that it has alone. -/
theorem handleRequest_of_lineOk (buffer : conn.request = line ++ '\n' :: behind)
    (single : '\n' ∉ line) (forward : Forward env.readPtime) (ok : conn.LineOk env) :
    conn.handleRequest env = conn.handleAlone line env := by
  have whole : conn.request = (line ++ ['\n']) ++ behind := by
    rw [buffer]
    simp
  by_cases longBuffer : conn.request.length > 2
  · unfold LineOk KeepsLineEnd at ok
    rw [buffer, dropLine_line single, firstLine_append single, ← buffer] at ok
    rcases ok with nothing | short | ⟨left, free⟩
    · subst nothing
      exact handleRequest_alone buffer env
    · exact absurd longBuffer (Nat.not_lt_of_le short)
    · have longer : conn.parseRequest env = appendResult
          (ApiCommandParser.parse env ⟨conn.parser, .ofChars (line ++ ['\n'])⟩) behind := by
        rw [parseRequest_long conn longBuffer, whole]
        exact (ApiCommandParser.parse_readsForward forward).stopped
          ⟨conn.parser, .ofChars (line ++ ['\n'])⟩ behind left
      have lineEnd := lineEnd_left forward left
      by_cases long : (line ++ ['\n']).length > 2
      · rw [← parseRequest_long { conn with request := line ++ ['\n'] } long] at longer lineEnd
        exact handleRequest_of_append buffer lineEnd longer
      · -- The line alone would not be parsed; in the longer buffer it is no command either.
        have shortLine : line.length ≤ 1 := by
          rw [List.length_append, List.length_singleton] at long
          exact Nat.le_of_succ_le_succ (Nat.le_of_not_lt long)
        obtain ⟨request, parsed⟩ := ApiCommandParser.parse_short shortLine (free shortLine) env
        have suffix := (ApiCommandParser.parse_readsForward forward).suffix
          ⟨conn.parser, .ofChars (line ++ ['\n'])⟩
        rw [parsed] at longer lineEnd suffix
        have dropped : dropLine request.rest = dropLine (IStream.ofChars (line ++ ['\n'])).rest :=
          (dropLine_suffix single suffix).trans (dropLine_line single []).symm
        rw [handleAlone_eq buffer, parseRequest_short { conn with request := line ++ ['\n'] } long]
        unfold handleRequest
        rw [longer, finish_append conn lineEnd, finish_rest conn dropped]
  · have alone : ¬ (line ++ ['\n']).length > 2 := by
      rw [whole, List.length_append] at longBuffer
      exact fun long => longBuffer (Nat.lt_of_lt_of_le long (Nat.le_add_right _ _))
    apply handleRequest_of_append buffer
    · rw [parseRequest_short { conn with request := line ++ ['\n'] } alone]
      simp [final, IStream.ofChars]
    · rw [parseRequest_short { conn with request := line ++ ['\n'] } alone,
        parseRequest_short conn longBuffer, whole]
      rfl

/-- Only a line of the right kind has the result that it has alone, unless an exception is
    thrown. -/
theorem lineOk_of_handleRequest (buffer : conn.request = line ++ '\n' :: behind)
    (single : '\n' ∉ line) (forward : Forward env.readPtime)
    (same : conn.handleRequest env = conn.handleAlone line env) {result : CommandResult}
    (returned : (conn.handleRequest env).1 = .ok result) : conn.LineOk env := by
  have whole : conn.request = (line ++ ['\n']) ++ behind := by
    rw [buffer]
    simp
  unfold LineOk KeepsLineEnd
  rw [buffer, dropLine_line single, firstLine_append single, ← buffer]
  by_cases nothing : behind = []
  · exact .inl nothing
  by_cases longBuffer : conn.request.length > 2
  · refine .inr (.inr ⟨fun exhausted => ?_, fun shortLine => ?_⟩)
    · have shorter := (ApiCommandParser.parse_readsForward forward).exhausted
        ⟨conn.parser, .ofChars (line ++ ['\n'])⟩ behind exhausted
      change (final (ApiCommandParser.parse env
        ⟨conn.parser, .ofChars ((line ++ ['\n']) ++ behind)⟩)).request.rest.length ≤ _ at shorter
      rw [← whole, ← parseRequest_long conn longBuffer] at shorter
      have left := congrArg (fun outcome => outcome.2.1.request.length) same
      simp only [handleAlone_eq buffer, List.length_append] at left
      unfold handleRequest at left returned
      cases parsed : conn.parseRequest env with
      | error abort s =>
          rw [parsed] at returned
          cases returned
      | ok value s =>
          rw [parsed] at left shorter
          change (dropLine s.request.rest).length = _ at left
          change s.request.rest.length ≤ behind.length at shorter
          have some := List.length_pos_iff.mpr nothing
          by_cases empty : s.request.rest = []
          · rw [empty] at left
            change 0 = _ at left
            omega
          · have dropped := dropLine_shorter empty
            omega
    · cases active : conn.parser.activeRequest with
      | none => rfl
      | some request =>
          have busy : conn.parseRequest env = .ok .busy ⟨conn.parser, .ofChars conn.request⟩ := by
            rw [parseRequest_long conn longBuffer]
            unfold ApiCommandParser.parse
            rw [active]
            rfl
          have alone : ¬ (line ++ ['\n']).length > 2 := by
            rw [List.length_append, List.length_singleton]
            exact Nat.not_lt_of_le (Nat.succ_le_succ shortLine)
          have results := congrArg Prod.fst same
          rw [handleAlone_eq buffer, parseRequest_short { conn with request := line ++ ['\n'] } alone]
            at results
          unfold handleRequest at results
          rw [busy] at results
          cases results
  · exact .inr (.inl (Nat.le_of_not_lt longBuffer))

/-- A line that is handled on its own leaves what stands behind it. -/
theorem handleAlone_request (buffer : conn.request = line ++ '\n' :: behind) (single : '\n' ∉ line)
    (forward : Forward env.readPtime) {conn' : CommandConnection} {result : CommandResult}
    {sent : List EmsMessage} (handled : conn.handleAlone line env = (.ok result, conn', sent)) :
    conn'.request = behind := by
  rw [handleAlone_eq buffer] at handled
  have suffix : (final (parseRequest { conn with request := line ++ ['\n'] } env)).request.rest <:+
      line ++ ['\n'] := by
    by_cases long : (line ++ ['\n']).length > 2
    · rw [parseRequest_long { conn with request := line ++ ['\n'] } long]
      exact (ApiCommandParser.parse_readsForward forward).suffix ⟨_, .ofChars (line ++ ['\n'])⟩
    · rw [parseRequest_short { conn with request := line ++ ['\n'] } long]
      exact List.suffix_refl _
  cases parsed : parseRequest { conn with request := line ++ ['\n'] } env with
  | error abort s =>
      rw [parsed] at handled
      cases handled
  | ok value s =>
      rw [parsed] at handled suffix
      cases handled
      have dropped := dropLine_suffix single suffix
      change dropLine s.request.rest ++ behind = behind
      rw [show dropLine s.request.rest = [] from dropped]
      rfl

end Alone

/-- The bytes that arrive in a run. -/
def arrived (es : List Event) : List Char := es.flatMap Event.arrived

/-- Only bytes that arrive and lines that are handled change the buffer. -/
theorem step_request {conn conn' : CommandConnection} {e : Event} {sent : List EmsMessage}
    (other : e.env? = none) (next : conn.step e = some (conn', sent)) :
    conn'.request = conn.request ++ e.arrived := by
  cases e with
  | segment chars =>
      simp only [step] at next
      split at next
      · cases next
      · cases next
        rfl
  | request env => cases other
  | incoming message =>
      simp only [step, onIncomingMessage] at next
      split at next
      · cases next
        exact (List.append_nil _).symm
      · cases next
  | timeout =>
      cases next
      exact (List.append_nil _).symm
  | testModeExpired now =>
      obtain ⟨wait, -, performed⟩ := Option.map_eq_some_iff.mp next
      cases performed
      exact (List.append_nil _).symm
  | testModeAborted now =>
      obtain ⟨wait, -, performed⟩ := Option.map_eq_some_iff.mp next
      cases performed
      exact (List.append_nil _).symm

/-- When a line is complete, the buffer begins with the next line of the client. -/
theorem buffer_line {lines : List (List Char)} (separate : ∀ line ∈ lines, '\n' ∉ line)
    {buffer later : List Char} (split : buffer ++ later <+: stream lines) (complete : '\n' ∈ buffer) :
    ∃ line rest behind, lines = line :: rest ∧ '\n' ∉ line ∧ buffer = line ++ '\n' :: behind ∧
      behind ++ later <+: stream rest := by
  cases lines with
  | nil =>
      have empty := List.prefix_nil.mp split
      rw [(List.append_eq_nil_iff.mp empty).1] at complete
      cases complete
  | cons line rest =>
      have single := separate line (List.mem_cons_self ..)
      obtain ⟨unsent, whole⟩ := split
      rw [split_line complete] at whole
      have both : firstLine buffer ++ '\n' :: (dropLine buffer ++ later ++ unsent) =
          line ++ '\n' :: stream rest := by
        simpa [stream] using whole
      have first := firstLine_single buffer
      have same := congrArg firstLine both
      rw [firstLine_append first, firstLine_append single] at same
      have after := congrArg dropLine both
      rw [dropLine_line first, dropLine_line single] at after
      refine ⟨line, rest, dropLine buffer, rfl, single, ?_, unsent, after⟩
      rw [← same]
      exact split_line complete

/-- No exception is thrown in a run. -/
def Returns (outcomes : List Outcome) : Prop :=
  ∀ outcome ∈ outcomes, ∃ result, outcome.1 = .ok result

/-- A request is a step if no exception is thrown. -/
theorem step_of_handleRequest {conn conn' : CommandConnection} {env : Env} {result : CommandResult}
    {sent : List EmsMessage} (complete : '\n' ∈ conn.request)
    (handled : conn.handleRequest env = (.ok result, conn', sent)) :
    conn.step (.request env) = some (conn', sent) := by
  simp only [step, if_pos complete, handled]

section Request

variable {conn conn' : CommandConnection} {env : Env} {sent : List EmsMessage} {es : List Event}

theorem trace_ok {result : CommandResult} (complete : '\n' ∈ conn.request)
    (handled : conn.handleRequest env = (.ok result, conn', sent)) :
    conn.trace (.request env :: es) = (.ok result, conn', sent) :: conn'.trace es := by
  simp only [trace, Event.env?, if_pos complete, handled]

theorem trace_error {abort : Abort} (complete : '\n' ∈ conn.request)
    (handled : conn.handleRequest env = (.error abort, conn', sent)) :
    conn.trace (.request env :: es) = [(.error abort, conn', sent)] := by
  simp only [trace, Event.env?, if_pos complete, handled]

theorem traceAlone_ok {line : List Char} {lines : List (List Char)} {result : CommandResult}
    (complete : '\n' ∈ conn.request)
    (handled : conn.handleAlone line env = (.ok result, conn', sent)) :
    traceAlone (line :: lines) conn (.request env :: es) =
      (.ok result, conn', sent) :: traceAlone lines conn' es := by
  simp only [traceAlone, Event.env?, if_pos complete, handled]

theorem traceAlone_error {line : List Char} {lines : List (List Char)} {abort : Abort}
    (complete : '\n' ∈ conn.request)
    (handled : conn.handleAlone line env = (.error abort, conn', sent)) :
    traceAlone (line :: lines) conn (.request env :: es) = [(.error abort, conn', sent)] := by
  simp only [traceAlone, Event.env?, if_pos complete, handled]

end Request

theorem env?_some {e : Event} {env : Env} (line : e.env? = some env) : e = .request env := by
  cases e with
  | request env' =>
      cases line
      rfl
  | _ => cases line

/-- Until a line does something else than alone, both runs are the same. -/
theorem trace_eq_iff {lines : List (List Char)} {es : List Event} {conn : CommandConnection}
    (separate : ∀ line ∈ lines, '\n' ∉ line) (split : conn.request ++ arrived es <+: stream lines)
    (forward : ∀ env, .request env ∈ es → Forward env.readPtime) :
    (conn.LinesOk es → conn.trace es = traceAlone lines conn es) ∧
      (conn.trace es = traceAlone lines conn es → Returns (conn.trace es) → conn.LinesOk es) := by
  induction es generalizing conn lines with
  | nil => exact ⟨fun _ => rfl, fun _ _ => trivial⟩
  | cons e es ih =>
      have later : ∀ env, .request env ∈ es → Forward env.readPtime :=
        fun env member => forward env (List.mem_cons_of_mem _ member)
      cases line : e.env? with
      | none =>
          cases next : conn.step e with
          | none =>
              simp only [trace, traceAlone, LinesOk, line, next]
              exact ⟨fun _ => trivial, fun _ _ => ⟨nofun, nofun⟩⟩
          | some after =>
              obtain ⟨conn', sent⟩ := after
              have split' : conn'.request ++ arrived es <+: stream lines := by
                rw [step_request line next, List.append_assoc]
                exact split
              obtain ⟨enough, needed⟩ := ih separate split' later
              simp only [trace, traceAlone, LinesOk, line, next]
              refine ⟨fun ok => enough (ok.2 conn' sent rfl), fun same returns => ⟨nofun, ?_⟩⟩
              intro conn'' sent' stepped
              cases stepped
              exact needed same returns
      | some env =>
          cases env?_some line
          by_cases complete : '\n' ∈ conn.request
          · have whole : conn.request ++ arrived es <+: stream lines := split
            obtain ⟨first, rest, behind, rfl, single, buffer, split'⟩ :=
              buffer_line separate whole complete
            have separate' : ∀ line ∈ rest, '\n' ∉ line :=
              fun line member => separate line (List.mem_cons_of_mem _ member)
            have reads := forward env (List.mem_cons_self ..)
            rcases handled : conn.handleRequest env with ⟨result, conn', sent⟩
            constructor
            · intro ok
              have same := handleRequest_of_lineOk buffer single reads (ok.1 env rfl complete)
              rw [handled] at same
              cases result with
              | error abort =>
                  rw [trace_error complete handled, traceAlone_error complete same.symm]
              | ok result =>
                  have left := handleAlone_request buffer single reads same.symm
                  rw [trace_ok complete handled, traceAlone_ok complete same.symm]
                  rw [← left] at split'
                  rw [(ih separate' split' later).1
                    (ok.2 conn' sent (step_of_handleRequest complete handled))]
            · intro same returns
              cases result with
              | error abort =>
                  rw [trace_error complete handled] at returns
                  obtain ⟨result, impossible⟩ := returns _ (List.mem_singleton_self _)
                  cases impossible
              | ok result =>
                  rw [trace_ok complete handled] at same returns
                  rcases handledAlone : conn.handleAlone first env with ⟨alone, conn'', sent'⟩
                  cases alone with
                  | error abort =>
                      rw [traceAlone_error complete handledAlone] at same
                      cases same
                  | ok alone =>
                      rw [traceAlone_ok complete handledAlone] at same
                      obtain ⟨head, tail⟩ := List.cons.inj same
                      cases head
                      have left := handleAlone_request buffer single reads handledAlone
                      rw [← left] at split'
                      refine ⟨fun env' member _ => ?_, fun next sent'' stepped => ?_⟩
                      · cases member
                        exact lineOk_of_handleRequest buffer single reads
                          (handled.trans handledAlone.symm) (congrArg Prod.fst handled)
                      · rw [step_of_handleRequest complete handled] at stepped
                        cases stepped
                        exact (ih separate' split' later).2 tail
                          (fun outcome member => returns outcome (List.mem_cons_of_mem _ member))
          · have stuck : conn.step (.request env) = none := if_neg complete
            simp only [trace, traceAlone, LinesOk, line, if_neg complete, stuck]
            exact ⟨fun _ => trivial, fun _ _ => ⟨fun _ _ held => absurd held complete, nofun⟩⟩

/-- For all lines that a new client sends, all ways to split them into segments and everything
    else that happens in between: if all lines that are handled are of the right kind, they have
    the results that they have alone; in a run without an exception, only then. -/
theorem lines_framed {parser : { p : ApiCommandParser // p.Fresh }} {lines : List (List Char)}
    {es : List Event} (separate : ∀ line ∈ lines, '\n' ∉ line)
    (split : arrived es <+: stream lines)
    (forward : ∀ env, .request env ∈ es → Forward env.readPtime) :
    ((new parser).LinesOk es → (new parser).trace es = traceAlone lines (new parser) es) ∧
      ((new parser).trace es = traceAlone lines (new parser) es → Returns ((new parser).trace es) →
        (new parser).LinesOk es) :=
  trace_eq_iff separate split forward

/-- The extraction of a well-formed time: the digits of 19 characters. -/
def readTimestamp : IStream → Option Ptime × IStream :=
  IStream.extract (fun read c => if read.length < 19 then some (read ++ [c]) else none) [] (fun read =>
    let number (start count : Nat) : Option Nat := ((read.drop start).take count).foldlM
      (fun value c => (IStream.digitValue 10 c).map (value * 10 + ·)) 0
    do some (.time (← number 0 4) (← number 5 2) (← number 8 2) (← number 11 2) (← number 14 2)
      (← number 17 2)))

theorem readTimestamp_forward : Forward readTimestamp := by
  unfold readTimestamp
  exact IStream.extract_forward _ _ _

/-- Two lines in one segment, the second of which is not parsed while the first one waits. -/
theorem lines_framed_together :
    (new default).trace
        [.segment "rc settime 2024-05-06 07:08:09\nhelp\n".toList, .request ⟨none, readTimestamp, 0⟩,
          .request ⟨none, readTimestamp, 0⟩] =
      traceAlone ["rc settime 2024-05-06 07:08:09".toList, "help".toList] (new default)
        [.segment "rc settime 2024-05-06 07:08:09\nhelp\n".toList, .request ⟨none, readTimestamp, 0⟩,
          .request ⟨none, readTimestamp, 0⟩] := by
  refine (lines_framed (by decide) (List.prefix_refl _) (fun env member => ?_)).1 ⟨nofun, ?_⟩
  · have same : env = ⟨none, readTimestamp, 0⟩ := by
      simp at member
      exact member
    rw [same]
    exact readTimestamp_forward
  · rintro conn sent ⟨⟩
    refine ⟨?_, ?_⟩
    · rintro env ⟨⟩ -
      exact .inr (.inr ⟨by decide, by decide⟩)
    · rintro conn' sent' ⟨⟩
      refine ⟨?_, ?_⟩
      · rintro env ⟨⟩ -
        exact .inl rfl
      · exact fun _ _ _ => trivial

/-- A line without its subcommand takes the next line for it. -/
theorem line_takes_next :
    ¬ ∀ (parser : { p : ApiCommandParser // p.Fresh }) (lines : List (List Char)) (es : List Event),
      (∀ line ∈ lines, '\n' ∉ line) → arrived es <+: stream lines →
      (∀ env, .request env ∈ es → Forward env.readPtime) →
        (new parser).trace es = traceAlone lines (new parser) es := by
  intro framed
  have same := framed default ["rc".toList, "help".toList]
    [.segment "rc\nhelp\n".toList, .request ⟨none, readTimestamp, 0⟩, .request ⟨none, readTimestamp, 0⟩]
    (by decide) (List.prefix_refl _) (fun env member => ?_)
  · exact absurd (congrArg List.length same) (by decide)
  · have same : env = ⟨none, readTimestamp, 0⟩ := by
      simp at member
      exact member
    rw [same]
    exact readTimestamp_forward

end CommandConnection

end EmsCollector
