import EmsCollector.Collector.ApiCommandParserProof.Unicode
import EmsCollector.Misc.Rows

/-!
# What a command is built from

Every command reads from the request and acts on the parser by a few calls. `Built` says so once,
by the structure of the commands; what holds of all commands is then an induction on it.
-/

namespace EmsCollector

/-- The type that a telegram for sending was built with. -/
theorem EmsMessage.getType_send (dest : UInt8) (type : UInt16) (offset : UInt8) (data : List UInt8)
    (expectResponse : Bool) : (EmsMessage.send dest type offset data expectResponse).getType = type := by
  unfold EmsMessage.getType EmsMessage.send
  by_cases plus : type ≥ 0xf0
  · have nonzero : type ≠ 0 := by
      rintro rfl
      exact absurd plus (by decide)
    simp [plus, nonzero]
  · have low : type < 0xf0 := by
      rw [ge_iff_le, UInt16.not_le] at plus
      exact plus
    have small : type.toNat < 240 := low
    have back : type.toUInt8.toUInt16 = type := by
      apply UInt16.toNat_inj.mp
      rw [UInt8.toNat_toUInt16, UInt16.toNat_toUInt8]
      omega
    simp [plus, low, back]

/-- The data of a telegram that a frame can carry: some data, which fits with every header, and a
    single byte, the length, where an answer is expected. -/
structure Carried (data : List UInt8) (expectResponse : Bool) : Prop where
  nonempty : data ≠ []
  short : data.length ≤ 248
  length : expectResponse = true → data.length = 1

theorem Carried.single (b : UInt8) (expectResponse : Bool) : Carried [b] expectResponse :=
  ⟨List.cons_ne_nil _ _, Nat.le_of_ble_eq_true rfl, fun _ => rfl⟩

theorem Carried.write {b : UInt8} {rest : List UInt8} (short : rest.length ≤ 247) :
    Carried (b :: rest) false :=
  ⟨List.cons_ne_nil _ _, Nat.succ_le_succ short, fun read => absurd read Bool.false_ne_true⟩

namespace ApiCommandParser

/-- The calls by which the parser changes. `telegram` says which telegrams it may enqueue, `timer`
    whether it may change the timer of the test mode. -/
inductive Acts (telegram : EmsMessage → Prop) (timer : Prop) (p : ApiCommandParser) :
    ApiCommandParser → Prop
  | nil : Acts telegram timer p p
  | output {q : ApiCommandParser} (before : Acts telegram timer p q) (line : String) :
      Acts telegram timer p (q.output line)
  | fields {q r : ApiCommandParser} (before : Acts telegram timer p q)
      (activeRequest : r.activeRequest = q.activeRequest) (effects : r.effects = q.effects)
      (repeater : r.testModeRepeater = q.testModeRepeater) : Acts telegram timer p r
  | sendCommand {q : ApiCommandParser} {dest : UInt8} {type : UInt16} {offset : UInt8}
      {data : List UInt8} {expectResponse : Bool} (before : Acts telegram timer p q)
      (permitted : telegram (.send dest type offset data expectResponse)) :
      Acts telegram timer p (q.sendCommand dest type offset data expectResponse)
  | resend {q : ApiCommandParser} (before : Acts telegram timer p q)
      (permitted : ∀ message ∈ q.activeRequest, telegram message) :
      Acts telegram timer p q.sendActiveRequest
  | finish {q : ApiCommandParser} (before : Acts telegram timer p q) :
      Acts telegram timer p { q with activeRequest := none }
  | testMode {q : ApiCommandParser} (before : Acts telegram timer p q) (permitted : timer)
      (repeater : DeadlineTimer TestModeWait) :
      Acts telegram timer p { q with testModeRepeater := repeater }

/-- The parts that commands are built from. -/
inductive Built (env : Env) (telegram : EmsMessage → Prop) (timer : Prop) :
    {α : Type} → RequestM α → Prop
  | pure {α : Type} (value : α) : Built env telegram timer (pure value)
  | throw {α : Type} (abort : Abort) : Built env telegram timer (throw abort : RequestM α)
  | bind {α β : Type} {m : RequestM α} {next : α → RequestM β} (first : Built env telegram timer m)
      (rest : ∀ value, Built env telegram timer (next value)) : Built env telegram timer (m >>= next)
  | extract {σ α : Type} (step : σ → Char → Option σ) (start : σ) (finish : σ → Option α) :
      Built env telegram timer (read (IStream.extract step start finish))
  | readPtime : Built env telegram timer (read env.readPtime)
  | readTokens : Built env telegram timer readTokens
  | update {change : ApiCommandParser → ApiCommandParser}
      (acts : ∀ p, Acts telegram timer p (change p)) : Built env telegram timer (update change)

section Acts

variable {telegram : EmsMessage → Prop} {timer : Prop} {p q : ApiCommandParser}

/-- Only permitted telegrams are enqueued. -/
theorem Acts.sent (acts : Acts telegram timer p q) {message : EmsMessage}
    (enqueued : .send message ∈ q.effects) : .send message ∈ p.effects ∨ telegram message := by
  induction acts with
  | nil => exact .inl enqueued
  | output _ line ih =>
      rcases List.mem_append.mp enqueued with old | new
      · exact ih old
      · cases List.mem_singleton.mp new
  | fields _ _ effects _ ih =>
      rw [effects] at enqueued
      exact ih enqueued
  | sendCommand _ permitted ih =>
      rcases List.mem_append.mp enqueued with old | new
      · exact ih old
      · cases List.mem_singleton.mp new
        exact .inr permitted
  | resend _ permitted ih =>
      rcases List.mem_append.mp enqueued with old | new
      · exact ih old
      · obtain ⟨request, active, same⟩ := List.mem_map.mp new
        cases same
        exact .inr (permitted _ (Option.mem_toList.mp active))
  | finish _ ih => exact ih enqueued
  | testMode _ _ _ ih => exact ih enqueued

/-- A request that becomes active has been enqueued. -/
theorem Acts.active (acts : Acts telegram timer p q) {request : EmsMessage}
    (active : q.activeRequest = some request) :
    p.activeRequest = some request ∨ telegram request ∧ .send request ∈ q.effects := by
  induction acts with
  | nil => exact .inl active
  | output _ line ih =>
      rcases ih active with same | ⟨permitted, enqueued⟩
      · exact .inl same
      · exact .inr ⟨permitted, List.mem_append_left _ enqueued⟩
  | fields _ activeRequest effects _ ih =>
      rw [activeRequest] at active
      rw [effects]
      exact ih active
  | sendCommand _ permitted =>
      cases active
      exact .inr ⟨permitted, List.mem_append_right _ (List.mem_singleton_self _)⟩
  | resend _ _ ih =>
      rcases ih active with same | ⟨permitted, enqueued⟩
      · exact .inl same
      · exact .inr ⟨permitted, List.mem_append_left _ enqueued⟩
  | finish => cases active
  | testMode _ _ _ ih => exact ih active

/-- The timer of the test mode is changed by its command only. -/
theorem Acts.repeater (acts : Acts telegram timer p q) (unchanged : ¬ timer) :
    q.testModeRepeater = p.testModeRepeater := by
  induction acts with
  | nil => rfl
  | output _ _ ih => exact ih
  | fields _ _ _ repeater ih => exact repeater.trans ih
  | sendCommand _ _ ih => exact ih
  | resend _ _ ih => exact ih
  | finish _ ih => exact ih
  | testMode _ permitted => exact absurd permitted unchanged

theorem Acts.trans {r : ApiCommandParser} (first : Acts telegram timer p q)
    (second : Acts telegram timer q r) : Acts telegram timer p r := by
  induction second with
  | nil => exact first
  | output _ line ih => exact ih.output line
  | fields _ activeRequest effects repeater ih => exact ih.fields activeRequest effects repeater
  | sendCommand _ permitted ih => exact ih.sendCommand permitted
  | resend _ permitted ih => exact ih.resend permitted
  | finish _ ih => exact ih.finish
  | testMode _ permitted repeater ih => exact ih.testMode permitted repeater

/-- A read request asks for what is missing, or for nothing. -/
theorem Acts.startRequest {dest : UInt8} {type : UInt16} {length : Nat}
    (acts : Acts telegram timer p q)
    (permitted : ∀ offset, telegram (.send dest type offset [UInt8.ofNat length] true))
    (offset : Nat) (newRequest raw : Bool) :
    Acts telegram timer p (q.startRequest dest type offset length newRequest raw) := by
  have set : Acts telegram timer p { q with
      requestOffset := offset, requestLength := length, requestDestination := dest,
      requestType := type, requestResponse := [], parsePosition := 0, outputRawData := raw,
      responseCounter := if newRequest then 0 else q.responseCounter } := acts.fields rfl rfl rfl
  unfold ApiCommandParser.startRequest continueRequest
  dsimp only
  split
  · exact set
  · exact set.sendCommand (permitted _)

end Acts

/-- The session in which a command ends. -/
def final {α : Type} : EStateM.Result Abort Session α → Session
  | .ok _ s => s
  | .error _ s => s

/-- The next word of a request. -/
def nextWord (s : IStream) : String × IStream := (s.readString.1.getD "", s.readString.2)

theorem readWord_bind {α : Type} (next : String → RequestM α) (s : Session) :
    (readWord >>= next) s = next (nextWord s.request).1 ⟨s.parser, (nextWord s.request).2⟩ := rfl

/-- An idle parser chooses the command by the first word. -/
theorem parse_word {env : Env} {s : Session} (idle : s.parser.activeRequest = none) {category : String}
    {first : IStream} (word : nextWord s.request = (category, first)) :
    parse env s = select category (commands env) ⟨s.parser, first⟩ := by
  have free : ¬ s.parser.activeRequest.isSome = true := by
    rw [idle]
    exact Bool.false_ne_true
  unfold parse
  rw [if_neg free]
  unfold parseCommand
  rw [readWord_bind, word]

theorem read_bind {α β : Type} (extraction : IStream → Option α × IStream)
    (next : Option α → RequestM β) (s : Session) : (read extraction >>= next) s =
      next (extraction s.request).1 ⟨s.parser, (extraction s.request).2⟩ := rfl

theorem readTokens_bind {α : Type} (next : List String → RequestM α) (s : Session) :
    (readTokens >>= next) s = next (tokenLoop (s.request.rest.length + 2) s.request).1
      ⟨s.parser, (tokenLoop (s.request.rest.length + 2) s.request).2⟩ := rfl

/-- An ASCII byte stands for a code unit of its own. -/
theorem ascii_le_units (chars : List Nat) :
    ((chars.flatMap utf8Bytes).filter (· < 0x80)).length ≤ (chars.flatMap utf16Units).length := by
  induction chars with
  | nil => exact Nat.le_refl _
  | cons c rest ih =>
      have first : ((utf8Bytes c).filter (· < 0x80)).length ≤ 1 := by
        by_cases ascii : c < 0x80
        · rw [utf8Bytes, if_pos ascii]
          exact List.length_filter_le _ _
        · have lead : ∀ b ∈ utf8Bytes c, ¬ b < 0x80 := by
            unfold utf8Bytes
            grind
          rw [List.filter_eq_nil_iff.mpr (by simpa using lead)]
          exact Nat.zero_le 1
      have units : 1 ≤ (utf16Units c).length := by
        unfold utf16Units
        split <;> simp
      rw [List.flatMap_cons, List.filter_append, List.length_append, List.flatMap_cons,
        List.length_append]
      exact Nat.add_le_add (first.trans units) ih

/-- The padding alone fills a line. -/
theorem contactText_padded {tokens : List String} {units : List Nat}
    (ok : fromBytes (contactText tokens) = .ok units) : 20 < units.length := by
  obtain ⟨chars, scalars, text⟩ := fromBytes_utf8 ok
  rw [text, fromBytes_text scalars] at ok
  cases ok
  refine Nat.lt_of_lt_of_le ?_ (ascii_le_units chars)
  rw [← text]
  unfold contactText
  rw [List.map_append, List.filter_append, List.length_append]
  exact Nat.lt_of_lt_of_le (Nat.le_of_ble_eq_true rfl) (Nat.le_add_left _ _)

/-- Each of the two chunks of a line has ten characters. -/
theorem contactChunk_carried {tokens : List String} {units : List Nat}
    (ok : fromBytes (contactText tokens) = .ok units) {chunk : Nat} (which : chunk < 2) :
    Carried (contactChunk units chunk) false := by
  have padded := contactText_padded ok
  have length : (contactChunk units chunk).length = 20 := by
    simp only [contactChunk, List.length_flatMap, List.length_cons, List.length_nil]
    rw [List.map_const', List.sum_replicate, List.length_take, List.length_drop]
    simp only [smul_eq_mul]
    omega
  refine ⟨fun nothing => ?_, by omega, fun read => absurd read Bool.false_ne_true⟩
  rw [nothing] at length
  cases length

section Built

variable {env : Env} {telegram : EmsMessage → Prop} {timer : Prop}

/-- A command acts on the parser by the calls that it is built from. -/
theorem Built.acts {α : Type} {m : RequestM α} (built : Built env telegram timer m) (s : Session) :
    Acts telegram timer s.parser (final (m s)).parser := by
  induction built generalizing s with
  | pure => exact .nil
  | throw => exact .nil
  | @bind α β m next _ _ first rest =>
      have before := first s
      show Acts _ _ _ (final (EStateM.bind m next s)).parser
      unfold EStateM.bind
      cases ran : m s with
      | ok value t =>
          rw [ran] at before
          exact before.trans (rest value t)
      | error abort t =>
          rw [ran] at before
          exact before
  | extract => exact .nil
  | readPtime => exact .nil
  | readTokens => exact .nil
  | update acts => exact acts s.parser

theorem readString_built : Built env telegram timer (read IStream.readString) :=
  .extract IStream.wordStep [] (fun word => some (String.ofList word))

theorem readUnsigned_built (anyBase : Bool) :
    Built env telegram timer (read (IStream.readUnsigned anyBase)) :=
  .extract (IStream.intStep anyBase) IStream.intStart IStream.finishUnsigned

theorem readBool_built : Built env telegram timer (read IStream.readBool) :=
  .extract (IStream.intStep false) IStream.intStart IStream.finishBool

theorem readFloat_built : Built env telegram timer (read IStream.readFloat) :=
  .extract IStream.floatStep IStream.floatStart IStream.finishFloat

theorem readWord_built : Built env telegram timer readWord :=
  .bind readString_built (fun _ => .pure _)

theorem parseIntParameter_built (max : UInt32) :
    Built env telegram timer (parseIntParameter max) :=
  .bind (readUnsigned_built true) (fun _ => .pure _)

/-- A command with subcommands is built if the ones that its word names are. -/
theorem select_built {cmd : String} {commands : List (String × RequestM CommandResult)}
    (all : ∀ entry ∈ commands, cmd = entry.1 → Built env telegram timer entry.2) :
    Built env telegram timer (select cmd commands) :=
  lookup_getD (fun entry member same => all entry member same.symm) (.pure _)

theorem help_built (text : String) : Built env telegram timer (help text) :=
  .bind (.update (fun _ => .output .nil text)) (fun _ => .pure _)

/-- A telegram is enqueued, and the command succeeds. -/
theorem sendCommand_built {dest : UInt8} {type : UInt16} {offset : UInt8} {data : List UInt8}
    (permitted : telegram (.send dest type offset data false)) :
    Built env telegram timer (do
      update (·.sendCommand dest type offset data)
      pure CommandResult.ok) :=
  .bind (.update (fun _ => .sendCommand .nil permitted)) (fun _ => .pure _)

theorem handleCacheCommand_built : Built env telegram timer (handleCacheCommand env) := by
  refine .bind readWord_built (fun cmd => ?_)
  cases env.cache with
  | none => exact .pure _
  | some outputValues =>
      refine select_built ?_
      simp only [List.forall_mem_cons]
      refine ⟨fun _ => help_built _, fun _ => ?_, nofun⟩
      exact .bind .readTokens (fun tokens => .bind
        (.update (fun _ => .output (.output .nil _) _)) (fun _ => .pure _))

theorem readRawParameters_built : Built env telegram timer readRawParameters := by
  refine .bind (parseIntParameter_built _) (fun target => ?_)
  rcases target with _ | target
  · exact .pure _
  refine .bind (parseIntParameter_built _) (fun type => ?_)
  rcases type with _ | type
  · exact .pure _
  refine .bind (parseIntParameter_built _) (fun offset => ?_)
  rcases offset with _ | offset
  · exact .pure _
  refine .bind (parseIntParameter_built _) (fun last => ?_)
  rcases last with _ | last
  · exact .pure _
  · exact .pure _

variable (others : ∀ dest type offset data expectResponse, type ≠ 0x1d →
  Carried data expectResponse → telegram (.send dest type offset data expectResponse))

include others

theorem request_built {ranges : List (UInt8 × UInt16 × Nat × Nat)} {raw : Bool}
    (other : ∀ range ∈ ranges, range.2.1 ≠ 0x1d) : Built env telegram timer (request ranges raw) := by
  refine .bind (.update (fun p => ?_)) (fun _ => .pure _)
  induction ranges generalizing p with
  | nil => exact .nil
  | cons range rest ih =>
      have first : Acts telegram timer p
          (p.startRequest range.1 range.2.1 range.2.2.1 range.2.2.2 true raw) :=
        Acts.nil.startRequest (fun _ => others _ _ _ _ _ (other range (List.mem_cons_self ..))
          (.single _ _)) _ _ _
      exact first.trans (ih (fun range member => other range (List.mem_cons_of_mem _ member)) _)

theorem handleKeyword_built {dest : UInt8} {type : UInt16} {offset : UInt8}
    {words : List (String × UInt8)} (other : type ≠ 0x1d) :
    Built env telegram timer (handleKeyword dest type offset words) := by
  refine .bind readWord_built (fun mode => ?_)
  cases words.lookup mode with
  | none => exact .pure _
  | some data => exact sendCommand_built (others _ _ _ _ _ other (.single _ _))

theorem handleSingleByteValue_built {dest : UInt8} {type : UInt16} {offset : UInt8}
    {multiplier min max : Int} (other : type ≠ 0x1d) :
    Built env telegram timer (handleSingleByteValue dest type offset multiplier min max) := by
  refine .bind readFloat_built (fun value => ?_)
  cases value.bind (singleByteOf · multiplier min max) with
  | none => exact .pure _
  | some data => exact sendCommand_built (others _ _ _ _ _ other (.single _ _))

theorem handleSetTime_built : Built env telegram timer (handleSetTime env) := by
  refine .bind .readPtime (fun time => ?_)
  rcases time with _ | special | ⟨year, month, day, hours, minutes, seconds⟩
  · exact .pure _
  · exact .throw _
  · exact sendCommand_built (others _ _ _ _ _ (by decide) (.write (Nat.le_of_ble_eq_true rfl)))

theorem handleSetContactInfo_built : Built env telegram timer handleSetContactInfo := by
  refine .bind (readUnsigned_built false) (fun line => ?_)
  cases line.filter (fun line => 1 ≤ line ∧ line ≤ 3) with
  | none => exact .pure _
  | some line =>
      refine .bind .readTokens (fun tokens => ?_)
      cases converted : fromBytes (contactText tokens) with
      | error abort => exact .throw _
      | ok units =>
          refine .bind (.update (fun p => ?_)) (fun _ => .bind (.update (fun _ => .output .nil _))
            (fun _ => .pure _))
          exact .sendCommand (.sendCommand .nil
            (others _ _ _ _ _ (by decide) (contactChunk_carried converted (by decide))))
            (others _ _ _ _ _ (by decide) (contactChunk_carried converted (by decide)))

theorem handleRcCommand_built : Built env telegram timer (handleRcCommand env) := by
  refine .bind readWord_built (fun cmd => select_built ?_)
  unfold rcCommands
  simp only [List.forall_mem_cons]
  refine ⟨fun _ => help_built _, fun _ => ?_, fun _ => request_built others (by decide),
    fun _ => request_built others (by decide),
    fun _ => handleSingleByteValue_built others (by decide),
    fun _ => handleKeyword_built others (by decide), fun _ => handleKeyword_built others (by decide),
    fun _ => handleSetTime_built others, fun _ => request_built others (by decide),
    fun _ => handleSetContactInfo_built others, nofun⟩
  refine .bind (.update (fun _ => ?_)) (fun _ => .pure _)
  have permitted (dest : UInt8) {type : UInt16} (other : type ≠ 0x1d) (length offset : UInt8) :
      telegram (.send dest type offset [length] true) := others _ _ _ _ _ other (.single _ _)
  exact ((Acts.nil.startRequest (permitted _ (by decide) _) _ _ _).startRequest
    (permitted _ (by decide) _) _ _ _).startRequest (permitted _ (by decide) _) _ _ _

theorem schedule_built {data : Option (List UInt8)} (carried : ∀ bytes ∈ data, Carried bytes false) :
    Built env telegram timer
    (match data with
      | some data => do
          ApiCommandParser.update (fun p => p.sendCommand EmsProto.addressUBA2 0x15 0 data)
          Pure.pure CommandResult.ok
      | none => Pure.pure CommandResult.invalidArgs) := by
  cases data with
  | none => exact .pure _
  | some data => exact sendCommand_built (others _ _ _ _ _ (by decide) (carried data rfl))

theorem handleScheduleMaintenance_built :
    Built env telegram timer handleScheduleMaintenance := by
  have six (a b c d e f : UInt8) : Carried [a, b, c, d, e, f] false :=
    .write (Nat.le_of_ble_eq_true rfl)
  have mapped {α : Type} {bytes : α → List UInt8} (value : Option α)
      (carried : ∀ a, Carried (bytes a) false) : ∀ data ∈ value.map bytes, Carried data false := by
    intro data member
    obtain ⟨a, -, rfl⟩ := Option.map_eq_some_iff.mp member
    exact carried a
  refine .bind readWord_built (fun kind => ?_)
  dsimp only
  split
  · exact .bind readString_built (fun due => schedule_built others (mapped _ fun _ => six _ _ _ _ _ _))
  · split
    · exact .bind (parseIntParameter_built _)
        (fun hours => schedule_built others (mapped _ fun _ => six _ _ _ _ _ _))
    · split
      · exact .bind (parseIntParameter_built _)
          (fun months => schedule_built others (mapped _ fun _ => six _ _ _ _ _ _))
      · split
        · exact schedule_built others (mapped (some ()) fun _ => six _ _ _ _ _ _)
        · exact .pure _

theorem handleTestState_built : Built env telegram timer handleTestState := by
  have readUpTo (max : UInt32) : Built env telegram timer (readUpTo max) :=
    .bind (readUnsigned_built false) (fun _ => .pure _)
  have readFlag : Built env telegram timer readFlag := .bind readBool_built (fun _ => .pure _)
  refine .bind (readUpTo _) (fun _ => .bind (readUpTo _) (fun _ => .bind (readUpTo _) (fun _ =>
    .bind (readUpTo _) (fun _ => .bind readFlag (fun _ => .bind readFlag (fun _ =>
    .bind readFlag (fun _ => ?_)))))))
  exact sendCommand_built (others _ _ _ _ _ (by decide) (.write (Nat.le_of_ble_eq_true rfl)))

/-- All subcommands of `uba` but the test mode are of the other types. -/
theorem ubaCommands_built {cmd : String}
    (testMode : cmd = "testmode" → Built env telegram timer (handleTestMode env.now)) :
    ∀ entry ∈ ubaCommands env, cmd = entry.1 → Built env telegram timer entry.2 := by
  unfold ubaCommands
  simp only [List.forall_mem_cons]
  refine ⟨fun _ => help_built _, fun _ => request_built others (by decide),
    fun _ => request_built others (by decide), fun _ => handleScheduleMaintenance_built others,
    fun _ => request_built others (by decide), fun _ => ?_, fun _ => ?_, testMode,
    fun _ => handleTestState_built others, nofun⟩
  · refine .bind (.update (fun _ => .output (.sendCommand .nil ?_) _)) (fun _ => .pure _)
    exact others _ _ _ _ _ (by decide) (.single _ _)
  · refine .bind (.update (fun _ => .output (.sendCommand (.sendCommand .nil ?_) ?_) _))
      (fun _ => .pure _)
    · exact others _ _ _ _ _ (by decide) (.single _ _)
    · exact others _ _ _ _ _ (by decide) (.single _ _)

theorem handleHkCommand_built (number : UInt16) :
    Built env telegram timer (handleHkCommand number) := by
  have value {offset : UInt8} {multiplier min max : Int} {type : UInt16} (other : type ≠ 0x1d) :
      Built env telegram timer
        (handleSingleByteValue EmsProto.addressUI800 type offset multiplier min max) :=
    handleSingleByteValue_built others other
  refine .bind readWord_built (fun cmd => select_built ?_)
  unfold hkCommands
  simp only [List.forall_mem_cons]
  refine ⟨fun _ => help_built _, fun _ => request_built others (by decide),
    fun _ => value (by decide), fun _ => value (by decide), fun _ => value (by decide),
    fun _ => handleKeyword_built others (by decide), fun _ => handleKeyword_built others (by decide),
    fun _ => value (by decide), fun _ => value (by decide), fun _ => value (by decide), fun _ => ?_,
    fun _ => handleKeyword_built others (by decide), fun _ => value (by decide),
    fun _ => value (by decide), nofun⟩
  refine .bind (value (by decide)) (fun result => ?_)
  split
  · exact .pure _
  · exact sendCommand_built (others _ _ _ _ _ (by decide) (.single _ _))

theorem handleWwCommand_built : Built env telegram timer handleWwCommand := by
  have value {dest : UInt8} {offset : UInt8} {multiplier min max : Int} {type : UInt16}
      (other : type ≠ 0x1d) :
      Built env telegram timer (handleSingleByteValue dest type offset multiplier min max) :=
    handleSingleByteValue_built others other
  refine .bind readWord_built (fun cmd => select_built ?_)
  unfold wwCommands
  simp only [List.forall_mem_cons]
  exact ⟨fun _ => help_built _, fun _ => handleKeyword_built others (by decide),
    fun _ => handleKeyword_built others (by decide), fun _ => request_built others (by decide),
    fun _ => value (by decide), fun _ => value (by decide), fun _ => value (by decide),
    fun _ => value (by decide), fun _ => value (by decide),
    fun _ => handleKeyword_built others (by decide), nofun⟩

/-- All commands but `uba` and `raw` are of the other types. -/
theorem commands_built {category : String}
    (uba : category = "uba" → Built env telegram timer (handleUbaCommand env))
    (raw : category = "raw" → Built env telegram timer handleRawCommand) :
    ∀ entry ∈ commands env, category = entry.1 → Built env telegram timer entry.2 := by
  unfold commands
  simp only [List.forall_mem_cons]
  refine ⟨fun _ => help_built _, fun _ => handleHkCommand_built others _,
    fun _ => handleHkCommand_built others _, fun _ => handleHkCommand_built others _,
    fun _ => handleHkCommand_built others _, fun _ => handleWwCommand_built others,
    fun _ => handleRcCommand_built others, uba, raw, fun _ => handleCacheCommand_built,
    fun _ => ?_, nofun⟩
  refine .bind (.update (fun _ => ?_)) (fun _ => .pure _)
  exact (Acts.nil.output _).startRequest
    (fun _ => others _ _ _ _ _ (by decide) (.single _ _)) _ _ _

end Built

/-- The commands as a whole. -/
theorem parseCommand_carried {telegram : EmsMessage → Prop}
    (all : ∀ dest type offset data expectResponse, Carried data expectResponse →
      telegram (.send dest type offset data expectResponse)) (env : Env) :
    Built env telegram True (parseCommand env) := by
  have others (dest : UInt8) (type : UInt16) (offset : UInt8) (data : List UInt8)
      (expectResponse : Bool) (_ : type ≠ 0x1d) (carried : Carried data expectResponse) :
      telegram (.send dest type offset data expectResponse) := all _ _ _ _ _ carried
  have testMode : Built env telegram True (handleTestMode env.now) := by
    refine .bind readWord_built (fun mode => ?_)
    split
    · refine .bind (.update (fun _ => .output (.testMode .nil trivial _) _)) (fun _ => .pure _)
    · split
      · refine .bind (.update (fun _ => .output (.sendCommand (.testMode .nil trivial _) ?_) _))
          (fun _ => .pure _)
        exact all _ _ _ _ _ (.single _ _)
      · exact .pure _
  have raw : Built env telegram True handleRawCommand := by
    refine .bind readWord_built (fun cmd => select_built ?_)
    have parameters {command : UInt8 → UInt16 → UInt8 → UInt8 → ApiCommandParser → ApiCommandParser}
        (acts : ∀ target type offset last p,
          Acts telegram True p (command target type offset last p)) :
        Built env telegram True (rawParameters command) := by
      refine .bind readRawParameters_built (fun values => ?_)
      rcases values with _ | ⟨target, type, offset, last⟩
      · exact .pure _
      · exact .bind (.update (acts _ _ _ _)) (fun _ => .pure _)
    unfold rawCommands
    simp only [List.forall_mem_cons]
    exact ⟨fun _ => help_built _,
      fun _ => parameters fun _ _ _ _ _ =>
        Acts.nil.startRequest (fun _ => all _ _ _ _ _ (.single _ _)) _ _ _,
      fun _ => parameters fun _ _ _ _ _ => .sendCommand .nil (all _ _ _ _ _ (.single _ _)), nofun⟩
  refine .bind readWord_built (fun category => select_built (commands_built others
    (fun _ => ?_) (fun _ => raw)))
  exact .bind readWord_built (fun cmd => select_built (ubaCommands_built others (fun _ => testMode)))

theorem parseCommand_built (env : Env) : Built env (fun _ => True) True (parseCommand env) :=
  parseCommand_carried (fun _ _ _ _ _ _ => trivial) env

/-- While a request is active no command is parsed; else the command acts on the parser. -/
theorem parse_carried {telegram : EmsMessage → Prop}
    (all : ∀ dest type offset data expectResponse, Carried data expectResponse →
      telegram (.send dest type offset data expectResponse)) (env : Env) (s : Session) :
    Acts telegram True s.parser (final (parse env s)).parser := by
  unfold parse
  split
  · exact .nil
  · exact (parseCommand_carried all env).acts s

theorem parse_acts (env : Env) (s : Session) :
    Acts (fun _ => True) True s.parser (final (parse env s)).parser :=
  parse_carried (fun _ _ _ _ _ _ => trivial) env s

end ApiCommandParser

end EmsCollector
