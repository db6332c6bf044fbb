import EmsCollector.Collector.ApiCommandParserProof.Commands
import Mathlib

/-!
# What a command comes to

About forty commands end in a few ways: they are refused, print their help or cached values,
start requests, or send one or two telegrams, some of them with an `OK` of their own.
-/

namespace EmsCollector

/-- The lines that end the reply to a command. -/
def terminalWords : List String := ["OK", "FAIL", "ERRBUSY", "ERRCMD", "ERRARGS", "ERRTIMEOUT"]

/-- The terminal lines of a text for the client; the connection ends it with a line break. -/
def terminalLines (text : String) : List String :=
  ((text.toList.splitOn '\n').filter (· ∈ terminalWords.map String.toList)).map String.ofList

/-- The same words as characters. -/
def terminalChars : List (List Char) :=
  [['O', 'K'], ['F', 'A', 'I', 'L'], ['E', 'R', 'R', 'B', 'U', 'S', 'Y'], ['E', 'R', 'R', 'C', 'M', 'D'],
    ['E', 'R', 'R', 'A', 'R', 'G', 'S'], ['E', 'R', 'R', 'T', 'I', 'M', 'E', 'O', 'U', 'T']]

theorem terminalWords_toList : terminalWords.map String.toList = terminalChars := by
  simp [terminalWords, terminalChars]

/-- The terminal lines of a text that is given by its characters. -/
theorem terminalLines_ofList {text : String} {chars : List Char} (same : text = String.ofList chars) :
    terminalLines text =
      ((chars.splitOn '\n').filter (· ∈ terminalChars)).map String.ofList := by
  unfold terminalLines
  rw [same, String.toList_ofList, terminalWords_toList]

theorem ofList_append {text rest : String} {chars more : List Char} (same : text = String.ofList chars)
    (same' : rest = String.ofList more) : text ++ rest = String.ofList (chars ++ more) := by
  rw [same, same', String.ofList_append]

/-- A piece of a help text: lines, none of them terminal. -/
structure HelpLines (text : String) : Prop where
  ended : text.toList.getLast? = some '\n'
  quiet : terminalLines text = []

theorem HelpLines.line {text : String} {chars : List Char} (same : text = String.ofList chars)
    (ended : chars.getLast? = some '\n')
    (quiet : (chars.splitOn '\n').filter (· ∈ terminalChars) = []) : HelpLines text := by
  refine ⟨?_, ?_⟩
  · rw [same, String.toList_ofList, ended]
  · rw [terminalLines_ofList same, quiet]
    rfl

/-- Behind a line break the lines start afresh. -/
theorem terminalLines_append {text : String} (ended : text.toList.getLast? = some '\n')
    (rest : String) : terminalLines (text ++ rest) = terminalLines text ++ terminalLines rest := by
  obtain ⟨body, split⟩ := List.getLast?_eq_some_iff.mp ended
  unfold terminalLines
  rw [String.toList_append, split, List.append_assoc, List.singleton_append,
    List.splitOn_append_cons_self, List.splitOn_append_cons_self]
  simp [terminalWords]

theorem HelpLines.append {text rest : String} (lines : HelpLines text) (more : HelpLines rest) :
    HelpLines (text ++ rest) := by
  refine ⟨?_, ?_⟩
  · rw [String.toList_append, List.getLast?_append, more.ended]
    rfl
  · rw [terminalLines_append lines.ended, lines.quiet, more.quiet]
    rfl

namespace ApiCommandParser

/-- A range to be requested: device, type, offset, length, and whether it is printed raw. -/
abbrev Range : Type := UInt8 × UInt16 × Nat × Nat × Bool

def startAll (ranges : List Range) (p : ApiCommandParser) : ApiCommandParser :=
  ranges.foldl (fun p (dest, type, offset, length, raw) =>
    p.startRequest dest type offset length true raw) p

/-- A telegram to be written: device, type, offset and data. -/
abbrev Write : Type := UInt8 × UInt16 × UInt8 × List UInt8

def writeAll (telegrams : List Write) (p : ApiCommandParser) : ApiCommandParser :=
  telegrams.foldl (fun p (dest, type, offset, data) => p.sendCommand dest type offset data) p

/-- `uba testmode on` waits for the first telegram of the test mode. -/
def testModeOn (p : ApiCommandParser) (now : Time) : ApiCommandParser :=
  { p with testModeRepeater :=
    p.testModeRepeater.cancel.asyncWait (now + milliseconds 1000) .start }.output "OK"

/-- `uba testmode off` sends its last one. -/
def testModeOff (p : ApiCommandParser) : ApiCommandParser :=
  ({ p with testModeRepeater := p.testModeRepeater.cancel }.writeAll
    [(EmsProto.addressUBA2, 0x1d, 0, [0x00])]).output "OK"

/-- How a command ends for the parser `p`. -/
inductive Outcome (env : Env) (p : ApiCommandParser) : CommandResult → ApiCommandParser → Prop
  | refused {result : CommandResult} (failed : result ≠ .ok) : Outcome env p result p
  | helped {text : String} (single : terminalLines text = ["OK"]) : Outcome env p .ok (p.output text)
  | fetched {outputValues : List String → String} (cache : env.cache = some outputValues)
      (selector : List String) :
      Outcome env p .ok ((p.output (outputValues selector)).output "OK")
  | requested (ranges : List Range) : Outcome env p .ok (p.startAll ranges)
  | version : Outcome env p .ok ((p.output ("collector version: " ++ apiVersion)).startAll
      [(EmsProto.addressUBA2, 0x02, 0, 3, false)])
  | written (telegram : Write) : Outcome env p .ok (p.writeAll [telegram])
  | confirmed (telegrams : List Write) (some_telegram : telegrams ≠ []) {text : String}
      (single : terminalLines text = ["OK"]) : Outcome env p .ok ((p.writeAll telegrams).output text)
  | testModeOn : Outcome env p .ok (p.testModeOn env.now)
  | testModeOff : Outcome env p .ok p.testModeOff

/-- A command that is refused leaves the parser as it was. -/
theorem Outcome.unchanged {env : Env} {p q : ApiCommandParser} {result : CommandResult}
    (outcome : Outcome env p result q) (failed : result ≠ .ok) : q = p := by
  cases outcome with
  | refused => rfl
  | helped | fetched | requested | version | written | confirmed | testModeOn | testModeOff =>
      exact absurd rfl failed

/-- The extraction leaves the parser alone. -/
def Silent {α : Type} (m : RequestM α) : Prop := ∀ s value t, m s = .ok value t → t.parser = s.parser

/-- If the command ends normally, it ends in one of these ways. -/
def EndsIn (env : Env) (m : RequestM CommandResult) : Prop :=
  ∀ s result t, m s = .ok result t → Outcome env s.parser result t.parser

theorem bind_ok {α β : Type} {m : RequestM α} {next : α → RequestM β} {s t : Session} {value : β}
    (ran : (m >>= next) s = .ok value t) : ∃ first u, m s = .ok first u ∧ next first u = .ok value t := by
  change EStateM.bind m next s = .ok value t at ran
  unfold EStateM.bind at ran
  cases first : m s with
  | ok result u =>
      rw [first] at ran
      exact ⟨result, u, rfl, ran⟩
  | error abort u =>
      rw [first] at ran
      cases ran

theorem pure_silent {α : Type} (value : α) : Silent (pure value : RequestM α) := by
  rintro s _ t ⟨⟩
  rfl

theorem read_silent {α : Type} (extraction : IStream → Option α × IStream) :
    Silent (read extraction) := by
  rintro s _ t ⟨⟩
  rfl

theorem readTokens_silent : Silent readTokens := by
  rintro s _ t ⟨⟩
  rfl

theorem bind_silent {α β : Type} {m : RequestM α} {next : α → RequestM β} (first : Silent m)
    (rest : ∀ value, Silent (next value)) : Silent (m >>= next) := by
  intro s value t ran
  obtain ⟨result, u, before, after⟩ := bind_ok ran
  exact (rest result u value t after).trans (first s result u before)

theorem readWord_silent : Silent readWord := bind_silent (read_silent _) (fun _ => pure_silent _)

theorem parseIntParameter_silent (max : UInt32) : Silent (parseIntParameter max) :=
  bind_silent (read_silent _) (fun _ => pure_silent _)

variable {env : Env}

theorem bind_outcome {α : Type} {m : RequestM α} {next : α → RequestM CommandResult} (first : Silent m)
    (rest : ∀ value, EndsIn env (next value)) : EndsIn env (m >>= next) := by
  intro s result t ran
  obtain ⟨value, u, before, after⟩ := bind_ok ran
  rw [← first s value u before]
  exact rest value u result t after

theorem refused_outcome {result : CommandResult} (failed : result ≠ .ok) :
    EndsIn env (pure result : RequestM CommandResult) := by
  rintro s _ t ⟨⟩
  exact .refused failed

theorem throw_outcome (abort : Abort) : EndsIn env (throw abort : RequestM CommandResult) := by
  rintro s result t ⟨⟩

theorem update_outcome {change : ApiCommandParser → ApiCommandParser}
    (ends : ∀ p, Outcome env p .ok (change p)) :
    EndsIn env (do update change; pure .ok : RequestM CommandResult) := by
  rintro s _ t ⟨⟩
  exact ends s.parser

theorem sendCommand_outcome (dest : UInt8) (type : UInt16) (offset : UInt8) (data : List UInt8) :
    EndsIn env (do
      update (·.sendCommand dest type offset data)
      pure CommandResult.ok) :=
  update_outcome (fun _ => .written (dest, type, offset, data))

theorem select_outcome {cmd : String} {commands : List (String × RequestM CommandResult)}
    (all : ∀ entry ∈ commands, EndsIn env entry.2) : EndsIn env (select cmd commands) :=
  lookup_getD (fun entry member _ => all entry member) (refused_outcome nofun)

theorem ok_terminal : terminalLines "OK" = ["OK"] := terminalLines_ofList rfl

/-- A help text ends with `OK`. -/
theorem help_outcome {text : String} (lines : HelpLines text) : EndsIn env (help (text ++ "OK")) := by
  refine update_outcome (fun _ => .helped ?_)
  rw [terminalLines_append lines.ended, lines.quiet, ok_terminal]
  rfl

theorem foldl_startRequest (ranges : List (UInt8 × UInt16 × Nat × Nat)) (raw : Bool)
    (p : ApiCommandParser) :
    ranges.foldl (fun p (dest, type, offset, length) =>
      p.startRequest dest type offset length true raw) p =
        p.startAll (ranges.map fun (dest, type, offset, length) => (dest, type, offset, length, raw)) := by
  unfold startAll
  rw [List.foldl_map]

theorem request_outcome (ranges : List (UInt8 × UInt16 × Nat × Nat)) (raw : Bool) :
    EndsIn env (request ranges raw) := by
  refine update_outcome (fun p => ?_)
  rw [foldl_startRequest]
  exact .requested _

theorem handleKeyword_outcome (dest : UInt8) (type : UInt16) (offset : UInt8)
    (words : List (String × UInt8)) : EndsIn env (handleKeyword dest type offset words) := by
  refine bind_outcome readWord_silent (fun mode => ?_)
  cases words.lookup mode with
  | none => exact refused_outcome nofun
  | some data => exact sendCommand_outcome _ _ _ _

theorem handleSingleByteValue_outcome (dest : UInt8) (type : UInt16) (offset : UInt8)
    (multiplier min max : Int) :
    EndsIn env (handleSingleByteValue dest type offset multiplier min max) := by
  refine bind_outcome (read_silent _) (fun value => ?_)
  cases value.bind (singleByteOf · multiplier min max) with
  | none => exact refused_outcome nofun
  | some data => exact sendCommand_outcome _ _ _ _

theorem handleSetTime_outcome : EndsIn env (handleSetTime env) := by
  refine bind_outcome (read_silent _) (fun time => ?_)
  rcases time with _ | special | ⟨year, month, day, hours, minutes, seconds⟩
  · exact refused_outcome nofun
  · exact throw_outcome _
  · exact sendCommand_outcome _ _ _ _

theorem handleSetContactInfo_outcome : EndsIn env handleSetContactInfo := by
  refine bind_outcome (read_silent _) (fun line => ?_)
  cases line.filter (fun line => 1 ≤ line ∧ line ≤ 3) with
  | none => exact refused_outcome nofun
  | some line =>
      refine bind_outcome readTokens_silent (fun tokens => ?_)
      cases fromBytes (contactText tokens) with
      | error abort => exact throw_outcome _
      | ok units =>
          rintro s _ t ⟨⟩
          have texts : terminalLines "\nOK" = ["OK"] := terminalLines_ofList rfl
          exact .confirmed [(EmsProto.addressUI800, 0x0137, _, contactChunk units 0),
            (EmsProto.addressUI800, 0x0137, _, contactChunk units 1)] nofun texts

theorem handleRcCommand_outcome : EndsIn env (handleRcCommand env) := by
  refine bind_outcome readWord_silent (fun cmd => select_outcome ?_)
  unfold rcCommands
  simp only [List.forall_mem_cons]
  refine ⟨help_outcome (by (repeat' apply HelpLines.append) <;> exact .line rfl rfl rfl),
    update_outcome (fun p => ?_), request_outcome _ _, request_outcome _ _,
    handleSingleByteValue_outcome _ _ _ _ _ _, handleKeyword_outcome _ _ _ _,
    handleKeyword_outcome _ _ _ _, handleSetTime_outcome, request_outcome _ _,
    handleSetContactInfo_outcome, nofun⟩
  exact .requested [(EmsProto.addressUI800, 0x0140, 0, 46, true),
    (EmsProto.addressUI800, 0x00bf, 0, 20, false), (EmsProto.addressUBA2, 0x00bf, 0, 20, false)]

theorem schedule_outcome (data : Option (List UInt8)) : EndsIn env
    (match data with
      | some data => do
          ApiCommandParser.update (fun p => p.sendCommand EmsProto.addressUBA2 0x15 0 data)
          Pure.pure CommandResult.ok
      | none => Pure.pure CommandResult.invalidArgs) := by
  cases data with
  | none => exact refused_outcome nofun
  | some data => exact sendCommand_outcome _ _ _ _

theorem handleScheduleMaintenance_outcome : EndsIn env handleScheduleMaintenance := by
  refine bind_outcome readWord_silent (fun kind => ?_)
  dsimp only
  split
  · exact bind_outcome (read_silent _) (fun due => schedule_outcome _)
  · split
    · exact bind_outcome (parseIntParameter_silent _) (fun hours => schedule_outcome _)
    · split
      · exact bind_outcome (parseIntParameter_silent _) (fun months => schedule_outcome _)
      · split
        · exact schedule_outcome (some _)
        · exact refused_outcome nofun

theorem handleTestMode_outcome : EndsIn env (handleTestMode env.now) := by
  refine bind_outcome readWord_silent (fun mode => ?_)
  split
  · exact update_outcome (fun _ => .testModeOn)
  · split
    · exact update_outcome (fun _ => .testModeOff)
    · exact refused_outcome nofun

theorem handleTestState_outcome : EndsIn env handleTestState := by
  have readUpTo (max : UInt32) : Silent (readUpTo max) :=
    bind_silent (read_silent _) (fun _ => pure_silent _)
  have readFlag : Silent readFlag := bind_silent (read_silent _) (fun _ => pure_silent _)
  refine bind_outcome (readUpTo _) (fun _ => bind_outcome (readUpTo _) (fun _ => bind_outcome (readUpTo _)
    (fun _ => bind_outcome (readUpTo _) (fun _ => bind_outcome readFlag (fun _ => bind_outcome readFlag
    (fun _ => bind_outcome readFlag (fun _ => ?_)))))))
  exact sendCommand_outcome _ _ _ _

theorem handleUbaCommand_outcome : EndsIn env (handleUbaCommand env) := by
  refine bind_outcome readWord_silent (fun cmd => select_outcome ?_)
  unfold ubaCommands
  simp only [List.forall_mem_cons]
  refine ⟨help_outcome (by (repeat' apply HelpLines.append) <;> exact .line rfl rfl rfl),
    request_outcome _ _, request_outcome _ _, handleScheduleMaintenance_outcome,
    request_outcome _ _, update_outcome (fun p => ?_), update_outcome (fun p => ?_),
    handleTestMode_outcome, handleTestState_outcome, nofun⟩
  · exact .confirmed [(EmsProto.addressUBA2, 0x05, 8, [0xff])] nofun ok_terminal
  · exact .confirmed [(EmsProto.addressUBA2, 0x05, 0, [0x5a]),
      (EmsProto.addressUI800, 0x05, 0, [0x5a])] nofun ok_terminal

theorem readRawParameters_silent : Silent readRawParameters := by
  refine bind_silent (parseIntParameter_silent _) (fun target => ?_)
  rcases target with _ | target
  · exact pure_silent _
  refine bind_silent (parseIntParameter_silent _) (fun type => ?_)
  rcases type with _ | type
  · exact pure_silent _
  refine bind_silent (parseIntParameter_silent _) (fun offset => ?_)
  rcases offset with _ | offset
  · exact pure_silent _
  refine bind_silent (parseIntParameter_silent _) (fun last => ?_)
  rcases last with _ | last
  · exact pure_silent _
  · exact pure_silent _

theorem handleRawCommand_outcome : EndsIn env handleRawCommand := by
  have parameters {command : UInt8 → UInt16 → UInt8 → UInt8 → ApiCommandParser → ApiCommandParser}
      (ends : ∀ target type offset last p, Outcome env p .ok (command target type offset last p)) :
      EndsIn env (rawParameters command) := by
    refine bind_outcome readRawParameters_silent (fun values => ?_)
    rcases values with _ | ⟨target, type, offset, last⟩
    · exact refused_outcome nofun
    · exact update_outcome (ends _ _ _ _)
  refine bind_outcome readWord_silent (fun cmd => select_outcome ?_)
  unfold rawCommands
  simp only [List.forall_mem_cons]
  refine ⟨help_outcome (by (repeat' apply HelpLines.append) <;> exact .line rfl rfl rfl),
    parameters (fun target type offset len p => ?_),
    parameters (fun target type offset value p => ?_), nofun⟩
  · exact .requested [(target, type, offset.toNat, len.toNat, true)]
  · exact .written (target, type, offset, [value])

theorem handleCacheCommand_outcome : EndsIn env (handleCacheCommand env) := by
  refine bind_outcome readWord_silent (fun cmd => ?_)
  cases cache : env.cache with
  | none => exact refused_outcome nofun
  | some outputValues =>
      refine select_outcome ?_
      simp only [List.forall_mem_cons]
      refine ⟨help_outcome (by (repeat' apply HelpLines.append) <;> exact .line rfl rfl rfl), ?_, nofun⟩
      exact bind_outcome readTokens_silent (fun tokens => update_outcome (fun _ => .fetched cache _))

/-- A temperature that is refused leaves the parser as it was when it is switched off instead. -/
theorem handleTemporaryTemp_outcome : EndsIn env handleTemporaryTemp := by
  intro s result t ran
  obtain ⟨first, u, tried, rest⟩ := bind_ok ran
  have ends : Outcome env s.parser first u.parser :=
    handleSingleByteValue_outcome _ _ _ _ _ _ s first u tried
  split at rest
  · rename_i ok
    cases rest
    rw [ok] at ends
    exact ends
  · rename_i failed
    rw [← ends.unchanged failed]
    exact sendCommand_outcome _ _ _ _ u result t rest

theorem handleHkCommand_outcome (number : UInt16) : EndsIn env (handleHkCommand number) := by
  refine bind_outcome readWord_silent (fun cmd => select_outcome ?_)
  unfold hkCommands
  simp only [List.forall_mem_cons]
  exact ⟨help_outcome (by (repeat' apply HelpLines.append) <;> exact .line rfl rfl rfl),
    request_outcome _ _, handleSingleByteValue_outcome _ _ _ _ _ _,
    handleSingleByteValue_outcome _ _ _ _ _ _, handleSingleByteValue_outcome _ _ _ _ _ _,
    handleKeyword_outcome _ _ _ _, handleKeyword_outcome _ _ _ _,
    handleSingleByteValue_outcome _ _ _ _ _ _, handleSingleByteValue_outcome _ _ _ _ _ _,
    handleSingleByteValue_outcome _ _ _ _ _ _, handleTemporaryTemp_outcome,
    handleKeyword_outcome _ _ _ _, handleSingleByteValue_outcome _ _ _ _ _ _,
    handleSingleByteValue_outcome _ _ _ _ _ _, nofun⟩

theorem handleWwCommand_outcome : EndsIn env handleWwCommand := by
  refine bind_outcome readWord_silent (fun cmd => select_outcome ?_)
  unfold wwCommands
  simp only [List.forall_mem_cons]
  exact ⟨help_outcome (by (repeat' apply HelpLines.append) <;> exact .line rfl rfl rfl),
    handleKeyword_outcome _ _ _ _, handleKeyword_outcome _ _ _ _, request_outcome _ _,
    handleSingleByteValue_outcome _ _ _ _ _ _, handleSingleByteValue_outcome _ _ _ _ _ _,
    handleSingleByteValue_outcome _ _ _ _ _ _, handleSingleByteValue_outcome _ _ _ _ _ _,
    handleSingleByteValue_outcome _ _ _ _ _ _, handleKeyword_outcome _ _ _ _, nofun⟩

theorem parseCommand_outcome : EndsIn env (parseCommand env) := by
  refine bind_outcome readWord_silent (fun category => select_outcome ?_)
  unfold commands
  simp only [List.forall_mem_cons]
  exact ⟨help_outcome (by (repeat' apply HelpLines.append) <;> exact .line rfl rfl rfl),
    handleHkCommand_outcome _, handleHkCommand_outcome _, handleHkCommand_outcome _,
    handleHkCommand_outcome _, handleWwCommand_outcome, handleRcCommand_outcome,
    handleUbaCommand_outcome, handleRawCommand_outcome, handleCacheCommand_outcome,
    update_outcome (fun _ => .version), nofun⟩

/-- Every line that `parse` takes normally ends in one of the ways; while a request is active it
    is refused. -/
theorem parse_outcome {s t : Session} {result : CommandResult} (parsed : parse env s = .ok result t) :
    Outcome env s.parser result t.parser := by
  unfold parse at parsed
  split at parsed
  · cases parsed
    exact .refused nofun
  · exact parseCommand_outcome s result t parsed

/-- The telegram of a write. -/
def Write.message : Write → EmsMessage
  | (dest, type, offset, data) => .send dest type offset data false

theorem writeAll_effects (telegrams : List Write) (p : ApiCommandParser) :
    (p.writeAll telegrams).effects = p.effects ++ telegrams.map (fun telegram => .send telegram.message) := by
  induction telegrams generalizing p with
  | nil => exact (List.append_nil _).symm
  | cons telegram rest ih =>
      obtain ⟨dest, type, offset, data⟩ := telegram
      have first : p.writeAll ((dest, type, offset, data) :: rest) =
          (p.sendCommand dest type offset data).writeAll rest := rfl
      rw [first, ih]
      simp [sendCommand, sendActiveRequest, Write.message]

theorem Write.message_not_read (telegram : Write) : ¬ telegram.message.Read :=
  EmsMessage.send_not_read _ _ _ _

/-- The version of the collector is not a terminal line. -/
theorem version_terminal : terminalLines ("collector version: " ++ apiVersion) = [] :=
  terminalLines_ofList (ofList_append rfl rfl)

/-- What a series of read requests does: `sent` is enqueued, the last one stays active. -/
structure Polled (p q : ApiCommandParser) (sent : List EmsMessage) : Prop where
  effects : q.effects = p.effects ++ sent.map .send
  reads : ∀ message ∈ sent, message.Read
  active : sent ≠ [] → q.retriesLeft = maxRequestRetries ∧
    ∃ message ∈ sent, q.activeRequest = some message

theorem startAll_polled (ranges : List Range) (p : ApiCommandParser) :
    ∃ sent, Polled p (p.startAll ranges) sent := by
  induction ranges using List.reverseRecOn with
  | nil => exact ⟨[], (List.append_nil _).symm, nofun, fun some_sent => absurd rfl some_sent⟩
  | append_singleton ranges range ih =>
      obtain ⟨dest, type, offset, length, raw⟩ := range
      obtain ⟨sent, effects, reads, active⟩ := ih
      have last : p.startAll (ranges ++ [(dest, type, offset, length, raw)]) =
          (p.startAll ranges).startRequest dest type offset length true raw := by
        simp [startAll]
      rw [last]
      unfold startRequest continueRequest
      dsimp only
      split
      · exact ⟨sent, effects, reads, active⟩
      · refine ⟨sent ++ [.send dest type (UInt8.ofNat (offset + 0)) [UInt8.ofNat (length - 0)] true],
          ?_, ?_, fun _ => ⟨rfl, _, List.mem_append_right _ (List.mem_singleton_self _), rfl⟩⟩
        · simp [sendCommand, sendActiveRequest, effects]
        · intro message member
          rcases List.mem_append.mp member with before | new
          · exact reads message before
          · cases List.mem_singleton.mp new
            exact EmsMessage.send_read _ _ _ _

end ApiCommandParser

end EmsCollector
