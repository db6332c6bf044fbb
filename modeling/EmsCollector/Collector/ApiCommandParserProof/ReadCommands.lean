import EmsCollector.Collector.ApiCommandParserProof.Repeater
import EmsCollector.Collector.ApiCommandParserProof.RequestData

/-!
# The commands that read

The commands that ask the devices for data, and what an idle parser does with each of them. What it
did before and its timer leave no trace in that.
-/

namespace EmsCollector

/-- A command that asks the devices for data. -/
inductive ReadCommand where
  | listing (l : Listing)
  | requestdata (c : Refresh)
  | getcontactinfo
  | checkmaintenanceneeded
  | getversion
  | raw (target : UInt8) (type : UInt16) (offset len : UInt8)
  deriving DecidableEq, Repr

namespace ReadCommand

open ApiCommandParser (nextWord parse select commands)

/-- The lines that are printed at once. -/
def greeting : ReadCommand → List String
  | getversion => ["collector version: " ++ ApiCommandParser.apiVersion]
  | _ => []

/-- The ranges that are asked for. -/
def ranges : ReadCommand → List ApiCommandParser.Range
  | listing l => [(l.dest, l.type, 0, l.length, false)]
  | requestdata c => c.ranges.map ReadRange.range
  | getcontactinfo => [(EmsProto.addressUI800, 0x0137, 0, 120, false)]
  | checkmaintenanceneeded => [(EmsProto.addressUBA2, 0x15, 0, 10, false)]
  | getversion => [(EmsProto.addressUBA2, 0x02, 0, 3, false)]
  | raw target type offset len => [(target, type, offset.toNat, len.toNat, true)]

/-- What the command does to the parser. -/
def start (c : ReadCommand) (p : ApiCommandParser) : ApiCommandParser :=
  (c.greeting.foldl ApiCommandParser.output p).startAll c.ranges

/-- The commands of two words, with these. -/
def twoWords : List ((String × String) × ReadCommand) :=
  [Listing.rcActiveErrors, .rcErrors, .ubaActiveErrors, .ubaErrors].map (fun l => (l.words, listing l)) ++
    [Refresh.rc, .hk1, .hk2, .hk3, .hk4, .ww].map (fun c => ((c.word, "requestdata"), requestdata c)) ++
    [(("rc", "getcontactinfo"), getcontactinfo), (("uba", "checkmaintenanceneeded"), checkmaintenanceneeded)]

/-- The command that the buffer begins with, if it is one of these. -/
def typed? (s : Session) : Option ReadCommand :=
  let (category, first) := nextWord s.request
  let (cmd, second) := nextWord first
  if category = "getversion" then some getversion
  else if category = "raw" ∧ cmd = "read" then
    match ApiCommandParser.readRawParameters { s with request := second } with
    | .ok (some (target, type, offset, len)) _ => some (raw target type offset len)
    | _ => none
  else twoWords.lookup (category, cmd)

/-- What the parsers have called is the same, and once a telegram is among it they differ in the timer
    of the test mode at most. -/
def Alike (p q : ApiCommandParser) : Prop :=
  p.effects = q.effects ∧ (p.effects.filterMap Effect.message? = [] ∨ p.SameRequest q)

variable {c : ReadCommand} {s : Session}

theorem startRequest_alike {p q : ApiCommandParser} (alike : Alike p q) (dest : UInt8) (type : UInt16)
    (offset length : Nat) (raw : Bool) :
    Alike (p.startRequest dest type offset length true raw)
      (q.startRequest dest type offset length true raw) := by
  obtain ⟨effects, earlier⟩ := alike
  let fresh (p : ApiCommandParser) : ApiCommandParser := { p with
    requestOffset := offset, requestLength := length, requestDestination := dest, requestType := type
    requestResponse := [], parsePosition := 0, outputRawData := raw, responseCounter := 0 }
  have started (p : ApiCommandParser) : p.startRequest dest type offset length true raw =
      (fresh p).continueRequest.2 := rfl
  rcases Nat.eq_zero_or_pos length with rfl | positive
  · have nothing (p : ApiCommandParser) : (fresh p).continueRequest.2 = fresh p :=
      congrArg Prod.snd (RawRead.continueRequest_complete (p := fresh p) (Nat.zero_le _))
    rw [started, started, nothing, nothing]
    refine ⟨effects, earlier.imp_right fun same => ?_⟩
    exact congrArg fresh same.eq
  · have sent (p : ApiCommandParser) := congrArg Prod.snd
      (RawRead.continueRequest_missing (p := fresh p) positive)
    rw [started, started, sent, sent]
    refine ⟨congrArg (· ++ _) effects, .inr ?_⟩
    simp only [ApiCommandParser.SameRequest, ApiCommandParser.withRepeater, ApiCommandParser.sendCommand,
      ApiCommandParser.sendActiveRequest, fresh, effects]

theorem output_alike {p q : ApiCommandParser} (alike : Alike p q) (line : String) :
    Alike (p.output line) (q.output line) := by
  obtain ⟨effects, earlier⟩ := alike
  refine ⟨congrArg (· ++ _) effects, earlier.imp (fun nothing => ?_) fun same => ?_⟩
  · show (p.effects ++ [Effect.output line]).filterMap Effect.message? = []
    rw [List.filterMap_append, nothing]
    rfl
  · exact congrArg (fun p => p.output line) same.eq

theorem outputs_alike {p q : ApiCommandParser} (alike : Alike p q) (lines : List String) :
    Alike (lines.foldl ApiCommandParser.output p) (lines.foldl ApiCommandParser.output q) := by
  induction lines generalizing p q with
  | nil => exact alike
  | cons line rest ih => exact ih (output_alike alike line)

theorem startAll_alike {p q : ApiCommandParser} (alike : Alike p q) (ranges : List ApiCommandParser.Range) :
    Alike (p.startAll ranges) (q.startAll ranges) := by
  induction ranges generalizing p q with
  | nil => exact alike
  | cons range rest ih =>
      obtain ⟨dest, type, offset, length, raw⟩ := range
      exact ih (startRequest_alike alike dest type offset length raw)

/-- What a parser did before and its timer leave no trace. -/
theorem start_alike {p q : ApiCommandParser} (quiet : p.effects = []) (quiet' : q.effects = [])
    (c : ReadCommand) : Alike (c.start p) (c.start q) := by
  refine startAll_alike (outputs_alike ⟨quiet.trans quiet'.symm, .inl ?_⟩ c.greeting) c.ranges
  rw [quiet]
  rfl

/-- A command of two words. -/
theorem parse_twoWords {category cmd : String} {first second : IStream}
    (word : nextWord s.request = (category, first)) (word' : nextWord first = (cmd, second))
    (named : twoWords.lookup (category, cmd) = some c) (idle : s.parser.activeRequest = none) (env : Env) :
    ∃ t, parse env s = .ok .ok t ∧ t.parser = c.start s.parser := by
  have member : ((category, cmd), c) ∈ twoWords := mem_of_lookup named
  rcases List.mem_append.mp member with before | last
  · rcases List.mem_append.mp before with lists | refreshes
    · obtain ⟨l, -, same⟩ := List.mem_map.mp lists
      obtain ⟨words, rfl⟩ := Prod.mk.inj same
      have typed : l.Typed s := ⟨first, second, by rw [word, words], by rw [word', words]⟩
      exact ApiCommandParser.parse_listing typed idle env
    · obtain ⟨r, -, same⟩ := List.mem_map.mp refreshes
      cases same
      exact Refresh.parse_refresh ⟨first, second, word, word'⟩ idle env
  · refine ⟨⟨c.start s.parser, second⟩, ?_, rfl⟩
    rw [ApiCommandParser.parse_word idle word]
    rcases List.mem_cons.mp last with same | last
    · cases same
      show ApiCommandParser.handleRcCommand env ⟨s.parser, first⟩ = _
      unfold ApiCommandParser.handleRcCommand
      rw [ApiCommandParser.readWord_bind, word']
      rfl
    · cases List.mem_singleton.mp last
      show ApiCommandParser.handleUbaCommand env ⟨s.parser, first⟩ = _
      unfold ApiCommandParser.handleUbaCommand
      rw [ApiCommandParser.readWord_bind, word']
      rfl

/-- The buffer holds a word of the command. -/
theorem typed_length (typed : typed? s = some c) : 2 < s.request.rest.length := by
  unfold typed? at typed
  rcases word : nextWord s.request with ⟨category, first⟩
  rcases word' : nextWord first with ⟨cmd, second⟩
  simp only [word, word'] at typed
  have long : 2 < category.length ∨ 2 < cmd.length := by
    split at typed
    · rename_i version
      subst version
      exact .inl (by decide)
    · split at typed
      · rename_i read
        obtain ⟨rfl, -⟩ := read
        exact .inl (by decide)
      · have words : ∀ entry ∈ twoWords, 2 < entry.1.2.length := by decide
        exact .inr (words ((category, cmd), c) (mem_of_lookup typed))
  have behind : first.rest.length ≤ s.request.rest.length := by
    have suffix := (ApiCommandParser.nextWord_suffix s.request).length_le
    rw [word] at suffix
    exact suffix
  have category_length := RawRead.nextWord_length word
  have cmd_length := RawRead.nextWord_length word'
  omega

/-- Only reads are enqueued. -/
theorem start_acts (c : ReadCommand) (p : ApiCommandParser) :
    ApiCommandParser.Acts EmsMessage.Read False p (c.start p) := by
  have ranges (ranges : List ApiCommandParser.Range) (q : ApiCommandParser) :
      ApiCommandParser.Acts EmsMessage.Read False q (q.startAll ranges) := by
    induction ranges generalizing q with
    | nil => exact .nil
    | cons range rest ih =>
        obtain ⟨dest, type, offset, length, raw⟩ := range
        have first : ApiCommandParser.Acts EmsMessage.Read False q
            (q.startRequest dest type offset length true raw) :=
          .startRequest .nil (fun _ => EmsMessage.send_read _ _ _ _) _ _ _
        exact first.trans (ih _)
  exact (ApiCommandParser.outputs_acts c.greeting p).trans (ranges c.ranges _)

/-- An idle parser starts the reads of the command. -/
theorem parse_typed (typed : typed? s = some c) (idle : s.parser.activeRequest = none) (env : Env) :
    ∃ t, parse env s = .ok .ok t ∧ t.parser = c.start s.parser := by
  unfold typed? at typed
  rcases word : nextWord s.request with ⟨category, first⟩
  rcases word' : nextWord first with ⟨cmd, second⟩
  simp only [word, word'] at typed
  split at typed
  · rename_i version
    subst version
    cases typed
    refine ⟨⟨getversion.start s.parser, first⟩, ?_, rfl⟩
    rw [ApiCommandParser.parse_word idle word]
    rfl
  · split at typed
    · rename_i read
      obtain ⟨rfl, rfl⟩ := read
      split at typed
      · rename_i target type offset len t parameters
        cases typed
        exact RawRead.parse_typedRead ⟨first, second, t, word, word', parameters⟩ idle env
      · cases typed
    · exact parse_twoWords word word' typed idle env

end ReadCommand

end EmsCollector
