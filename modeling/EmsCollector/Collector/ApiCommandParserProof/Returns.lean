import EmsCollector.Collector.ApiCommandParserProof.Responses
import EmsCollector.Collector.ApiCommandParserProof.Unicode
import EmsCollector.Collector.CommandHandler

/-!
# Exceptions

Neither `parse` nor `onIncomingMessage` catches what the conversions of text throw, and the
answers to two kinds of request are used without a look at their length. Everything else returns
normally, whatever the line, the telegram and the state of the parser are.
-/

namespace EmsCollector.ApiCommandParser

/-- The call returns normally. -/
def Returns {α : Type} (m : RequestM α) (s : Session) : Prop := ∃ value t, m s = .ok value t

/-- The call returns normally in every state. -/
def Total {α : Type} (m : RequestM α) : Prop := ∀ s, Returns m s

/-- The line is `rc settime` with a special value for the time. -/
def SpecialTime (env : Env) (request : IStream) : Prop :=
  let (category, request) := nextWord request
  let (cmd, request) := nextWord request
  category = "rc" ∧ cmd = "settime" ∧ (env.readPtime request).1 = some .special

/-- The number of an existing line of contact information, and a text that is not well-formed. -/
def MalformedText (request : IStream) : Prop :=
  let (line, request) := request.readUnsigned false
  (∃ n ∈ line, 1 ≤ n ∧ n ≤ 3) ∧
    ¬ Utf8 (contactText (tokenLoop (request.rest.length + 2) request).1)

/-- The line is `rc setcontactinfo` with a text that is not well-formed. -/
def MalformedContact (request : IStream) : Prop :=
  let (category, request) := nextWord request
  let (cmd, request) := nextWord request
  category = "rc" ∧ cmd = "setcontactinfo" ∧ MalformedText request

/-- The 16-bit characters of a line of contact information that is complete. -/
def lineUnits (chunk : List UInt8) : List Nat :=
  (List.range 20).map fun i =>
    (chunk.getD (2 * i) 0).toNat * 256 + (chunk.getD (2 * i + 1) 0).toNat

/-- The response consists of complete lines of contact information that can be converted. -/
def ContactLines (response : List UInt8) : Prop :=
  40 ∣ response.length ∧ ∀ i < response.length / 40,
    Convertible (lineUnits ((response.drop (40 * i)).take 40))

/-- The answer to a version request ends before the minor version. -/
def ShortVersion (p : ApiCommandParser) (message : EmsMessage) : Prop :=
  p.requestType = 0x02 ∧ (p.requestResponse ++ message.data).length < 3

/-- The answer completes a request for contact information that is not well-formed. -/
def BrokenContact (p : ApiCommandParser) (message : EmsMessage) : Prop :=
  p.requestType = 0x0137 ∧
    (message.data = [] ∨ p.requestLength ≤ (p.requestResponse ++ message.data).length) ∧
    ¬ ContactLines (p.requestResponse ++ message.data)

section Commands

theorem pure_total {α : Type} (value : α) : Total (pure value : RequestM α) :=
  fun s => ⟨value, s, rfl⟩

theorem read_total {α : Type} (extraction : IStream → Option α × IStream) : Total (read extraction) :=
  fun _ => ⟨_, _, rfl⟩

theorem readTokens_total : Total readTokens := fun _ => ⟨_, _, rfl⟩

theorem update_total (change : ApiCommandParser → ApiCommandParser) : Total (update change) :=
  fun _ => ⟨_, _, rfl⟩

/-- What follows a call that returned decides. -/
theorem bind_returns {α β : Type} {m : RequestM α} {next : α → RequestM β} {s u : Session} {value : α}
    (ran : m s = .ok value u) : Returns (m >>= next) s ↔ Returns (next value) u := by
  have same : (m >>= next) s = next value u := by
    show EStateM.bind m next s = _
    unfold EStateM.bind
    rw [ran]
  unfold Returns
  rw [same]

theorem bind_total {α β : Type} {m : RequestM α} {next : α → RequestM β} (first : Total m)
    (rest : ∀ value, Total (next value)) : Total (m >>= next) := by
  intro s
  obtain ⟨value, u, ran⟩ := first s
  exact (bind_returns ran).mpr (rest value u)

theorem readWord_total : Total readWord := bind_total (read_total _) (fun _ => pure_total _)

theorem parseIntParameter_total (max : UInt32) : Total (parseIntParameter max) :=
  bind_total (read_total _) (fun _ => pure_total _)

/-- A command that returns if the one its word names does. -/
theorem select_total {cmd : String} {commands : List (String × RequestM CommandResult)}
    (all : ∀ entry ∈ commands, entry.1 = cmd → Total entry.2) :
    Total (ApiCommandParser.select cmd commands) :=
  lookup_getD all (pure_total _)

theorem help_total (text : String) : Total (help text) :=
  bind_total (update_total _) (fun _ => pure_total _)

theorem request_total (ranges : List (UInt8 × UInt16 × Nat × Nat)) (raw : Bool) :
    Total (request ranges raw) :=
  bind_total (update_total _) (fun _ => pure_total _)

/-- A change of the parser, and `Ok`. -/
theorem done_total (change : ApiCommandParser → ApiCommandParser) :
    Total (do update change; pure .ok : RequestM CommandResult) :=
  bind_total (update_total _) (fun _ => pure_total _)

theorem handleKeyword_total (dest : UInt8) (type : UInt16) (offset : UInt8)
    (words : List (String × UInt8)) : Total (handleKeyword dest type offset words) := by
  refine bind_total readWord_total (fun mode => ?_)
  cases words.lookup mode with
  | none => exact pure_total _
  | some data => exact done_total _

theorem handleSingleByteValue_total (dest : UInt8) (type : UInt16) (offset : UInt8)
    (multiplier min max : Int) : Total (handleSingleByteValue dest type offset multiplier min max) := by
  refine bind_total (read_total _) (fun value => ?_)
  cases value.bind (singleByteOf · multiplier min max) with
  | none => exact pure_total _
  | some data => exact done_total _

theorem handleTemporaryTemp_total : Total handleTemporaryTemp := by
  refine bind_total (handleSingleByteValue_total _ _ _ _ _ _) (fun result => ?_)
  split
  · exact pure_total _
  · exact done_total _

theorem schedule_total (data : Option (List UInt8)) : Total
    (match data with
      | some data => do
          ApiCommandParser.update (fun p => p.sendCommand EmsProto.addressUBA2 0x15 0 data)
          Pure.pure CommandResult.ok
      | none => Pure.pure CommandResult.invalidArgs) := by
  cases data with
  | none => exact pure_total _
  | some data => exact done_total _

theorem handleScheduleMaintenance_total : Total handleScheduleMaintenance := by
  refine bind_total readWord_total (fun kind => ?_)
  dsimp only
  split
  · exact bind_total (read_total _) (fun due => schedule_total _)
  · split
    · exact bind_total (parseIntParameter_total _) (fun hours => schedule_total _)
    · split
      · exact bind_total (parseIntParameter_total _) (fun months => schedule_total _)
      · split
        · exact schedule_total (some _)
        · exact pure_total _

theorem handleTestMode_total (now : Time) : Total (handleTestMode now) := by
  refine bind_total readWord_total (fun mode => ?_)
  split
  · exact done_total _
  · split
    · exact done_total _
    · exact pure_total _

theorem handleTestState_total : Total handleTestState := by
  have number (max : UInt32) : Total (readUpTo max) := bind_total (read_total _) (fun _ => pure_total _)
  have flag : Total readFlag := bind_total (read_total _) (fun _ => pure_total _)
  exact bind_total (number _) (fun _ => bind_total (number _) (fun _ => bind_total (number _)
    (fun _ => bind_total (number _) (fun _ => bind_total flag (fun _ => bind_total flag
    (fun _ => bind_total flag (fun _ => done_total _)))))))

theorem readRawParameters_total : Total readRawParameters := by
  refine bind_total (parseIntParameter_total _) (fun target => ?_)
  rcases target with _ | target
  · exact pure_total _
  refine bind_total (parseIntParameter_total _) (fun type => ?_)
  rcases type with _ | type
  · exact pure_total _
  refine bind_total (parseIntParameter_total _) (fun offset => ?_)
  rcases offset with _ | offset
  · exact pure_total _
  refine bind_total (parseIntParameter_total _) (fun last => ?_)
  rcases last with _ | last
  · exact pure_total _
  · exact pure_total _

theorem rawParameters_total
    (command : UInt8 → UInt16 → UInt8 → UInt8 → ApiCommandParser → ApiCommandParser) :
    Total (rawParameters command) := by
  refine bind_total readRawParameters_total (fun values => ?_)
  rcases values with _ | ⟨target, type, offset, last⟩
  · exact pure_total _
  · exact done_total _

theorem handleHkCommand_total (number : UInt16) : Total (handleHkCommand number) := by
  refine bind_total readWord_total (fun cmd => select_total ?_)
  unfold hkCommands
  simp only [List.forall_mem_cons]
  exact ⟨fun _ => help_total _, fun _ => request_total _ _,
    fun _ => handleSingleByteValue_total _ _ _ _ _ _, fun _ => handleSingleByteValue_total _ _ _ _ _ _,
    fun _ => handleSingleByteValue_total _ _ _ _ _ _, fun _ => handleKeyword_total _ _ _ _,
    fun _ => handleKeyword_total _ _ _ _, fun _ => handleSingleByteValue_total _ _ _ _ _ _,
    fun _ => handleSingleByteValue_total _ _ _ _ _ _, fun _ => handleSingleByteValue_total _ _ _ _ _ _,
    fun _ => handleTemporaryTemp_total, fun _ => handleKeyword_total _ _ _ _,
    fun _ => handleSingleByteValue_total _ _ _ _ _ _, fun _ => handleSingleByteValue_total _ _ _ _ _ _,
    nofun⟩

theorem handleWwCommand_total : Total handleWwCommand := by
  refine bind_total readWord_total (fun cmd => select_total ?_)
  unfold wwCommands
  simp only [List.forall_mem_cons]
  exact ⟨fun _ => help_total _, fun _ => handleKeyword_total _ _ _ _,
    fun _ => handleKeyword_total _ _ _ _, fun _ => request_total _ _,
    fun _ => handleSingleByteValue_total _ _ _ _ _ _, fun _ => handleSingleByteValue_total _ _ _ _ _ _,
    fun _ => handleSingleByteValue_total _ _ _ _ _ _, fun _ => handleSingleByteValue_total _ _ _ _ _ _,
    fun _ => handleSingleByteValue_total _ _ _ _ _ _, fun _ => handleKeyword_total _ _ _ _, nofun⟩

theorem handleUbaCommand_total (env : Env) : Total (handleUbaCommand env) := by
  refine bind_total readWord_total (fun cmd => select_total ?_)
  unfold ubaCommands
  simp only [List.forall_mem_cons]
  exact ⟨fun _ => help_total _, fun _ => request_total _ _, fun _ => request_total _ _,
    fun _ => handleScheduleMaintenance_total, fun _ => request_total _ _, fun _ => done_total _,
    fun _ => done_total _, fun _ => handleTestMode_total _, fun _ => handleTestState_total, nofun⟩

theorem handleRawCommand_total : Total handleRawCommand := by
  refine bind_total readWord_total (fun cmd => select_total ?_)
  unfold rawCommands
  simp only [List.forall_mem_cons]
  exact ⟨fun _ => help_total _, fun _ => rawParameters_total _, fun _ => rawParameters_total _, nofun⟩

theorem handleCacheCommand_total (env : Env) : Total (handleCacheCommand env) := by
  refine bind_total readWord_total (fun cmd => ?_)
  cases env.cache with
  | none => exact pure_total _
  | some outputValues =>
      refine select_total ?_
      simp only [List.forall_mem_cons]
      exact ⟨fun _ => help_total _, fun _ => bind_total readTokens_total (fun _ => done_total _), nofun⟩

variable {env : Env} {s : Session}

theorem read_returns {α β : Type} (extraction : IStream → Option α × IStream)
    (next : Option α → RequestM β) (s : Session) : Returns (read extraction >>= next) s ↔
      Returns (next (extraction s.request).1) ⟨s.parser, (extraction s.request).2⟩ := Iff.rfl

theorem readTokens_returns {β : Type} (next : List String → RequestM β) (s : Session) :
    Returns (readTokens >>= next) s ↔
      Returns (next (tokenLoop (s.request.rest.length + 2) s.request).1)
        ⟨s.parser, (tokenLoop (s.request.rest.length + 2) s.request).2⟩ := Iff.rfl

theorem throw_not_returns {α : Type} (abort : Abort) : ¬ Returns (throw abort : RequestM α) s := by
  rintro ⟨value, t, ⟨⟩⟩

/-- `rc settime` throws on a special time only. -/
theorem handleSetTime_returns :
    Returns (handleSetTime env) s ↔ (env.readPtime s.request).1 ≠ some .special := by
  unfold handleSetTime
  rw [read_returns]
  rcases (env.readPtime s.request).1 with _ | special | ⟨year, month, day, hours, minutes, seconds⟩
  · exact iff_of_true (pure_total _ _) nofun
  · exact iff_of_false (throw_not_returns _) (fun other => other rfl)
  · exact iff_of_true (done_total _ _) nofun

/-- `rc setcontactinfo` throws on a malformed text only. -/
theorem handleSetContactInfo_returns :
    Returns handleSetContactInfo s ↔ ¬ MalformedText s.request := by
  unfold MalformedText
  dsimp only
  unfold handleSetContactInfo
  rw [read_returns]
  cases named : (s.request.readUnsigned false).1.filter (fun line => 1 ≤ line ∧ line ≤ 3) with
  | none =>
      rw [Option.filter_eq_none_iff] at named
      refine iff_of_true (pure_total _ _) ?_
      rintro ⟨⟨n, member, bounds⟩, -⟩
      exact named n member (decide_eq_true bounds)
  | some line =>
      obtain ⟨member, bounds⟩ := Option.filter_eq_some_iff.mp named
      have existing : ∃ n ∈ (s.request.readUnsigned false).1, 1 ≤ n ∧ n ≤ 3 :=
        ⟨line, member, of_decide_eq_true bounds⟩
      rw [not_and_not_right, forall_prop_of_true existing, ← fromBytes_ok_iff]
      dsimp only
      rw [readTokens_returns]
      cases fromBytes (contactText _) with
      | error abort => exact iff_of_false (throw_not_returns _) nofun
      | ok units =>
          exact iff_of_true (bind_total (update_total _) (fun _ => done_total _) _) ⟨units, rfl⟩

theorem handleRcCommand_returns {cmd : String} {request : IStream}
    (taken : nextWord s.request = (cmd, request)) :
    Returns (handleRcCommand env) s ↔
      ¬ (cmd = "settime" ∧ (env.readPtime request).1 = some .special) ∧
        ¬ (cmd = "setcontactinfo" ∧ MalformedText request) := by
  have start : Returns (handleRcCommand env) s ↔
      Returns (ApiCommandParser.select cmd (rcCommands env)) ⟨s.parser, request⟩ := by
    unfold Returns handleRcCommand
    rw [readWord_bind, taken]
  rw [start]
  by_cases time : cmd = "settime"
  · have command : ApiCommandParser.select cmd (rcCommands env) = handleSetTime env := by
      simp [time, ApiCommandParser.select, rcCommands, List.lookup]
    rw [command, handleSetTime_returns, time]
    simp
  by_cases contact : cmd = "setcontactinfo"
  · have command : ApiCommandParser.select cmd (rcCommands env) = handleSetContactInfo := by
      simp [contact, ApiCommandParser.select, rcCommands, List.lookup]
    rw [command, handleSetContactInfo_returns, contact]
    simp
  refine iff_of_true (select_total ?_ _) ⟨fun named => time named.1, fun named => contact named.1⟩
  unfold rcCommands
  simp only [List.forall_mem_cons]
  exact ⟨fun _ => help_total _, fun _ => done_total _, fun _ => request_total _ _,
    fun _ => request_total _ _, fun _ => handleSingleByteValue_total _ _ _ _ _ _,
    fun _ => handleKeyword_total _ _ _ _, fun _ => handleKeyword_total _ _ _ _,
    fun named => absurd named.symm time, fun _ => request_total _ _,
    fun named => absurd named.symm contact, nofun⟩

/-- The commands throw on these two kinds of line only. -/
theorem parseCommand_returns :
    Returns (parseCommand env) s ↔ ¬ SpecialTime env s.request ∧ ¬ MalformedContact s.request := by
  obtain ⟨category, request, taken⟩ : ∃ category request, nextWord s.request = (category, request) :=
    ⟨_, _, rfl⟩
  obtain ⟨cmd, rest, taken'⟩ : ∃ cmd rest, nextWord request = (cmd, rest) := ⟨_, _, rfl⟩
  have start : Returns (parseCommand env) s ↔
      Returns (ApiCommandParser.select category (commands env)) ⟨s.parser, request⟩ := by
    unfold Returns parseCommand
    rw [readWord_bind, taken]
  unfold SpecialTime MalformedContact
  rw [start, taken]
  dsimp only
  rw [taken']
  dsimp only
  by_cases rc : category = "rc"
  · have command : ApiCommandParser.select category (commands env) = handleRcCommand env := by
      simp [rc, ApiCommandParser.select, commands, List.lookup]
    rw [command, handleRcCommand_returns taken']
    simp only [rc, true_and]
  refine iff_of_true (select_total ?_ _) ⟨fun named => rc named.1, fun named => rc named.1⟩
  unfold commands
  simp only [List.forall_mem_cons]
  exact ⟨fun _ => help_total _, fun _ => handleHkCommand_total _, fun _ => handleHkCommand_total _,
    fun _ => handleHkCommand_total _, fun _ => handleHkCommand_total _, fun _ => handleWwCommand_total,
    fun named => absurd named.symm rc, fun _ => handleUbaCommand_total _, fun _ => handleRawCommand_total,
    fun _ => handleCacheCommand_total _, fun _ => done_total _, nofun⟩

/-- What `parse` throws on. -/
theorem parse_returns :
    Returns (parse env) s ↔ s.parser.activeRequest.isSome = true ∨
      ¬ SpecialTime env s.request ∧ ¬ MalformedContact s.request := by
  by_cases busy : s.parser.activeRequest.isSome = true
  · have refused : parse env s = .ok .busy s := if_pos busy
    exact iff_of_true ⟨_, _, refused⟩ (.inl busy)
  · have parsed : parse env s = parseCommand env s := if_neg busy
    unfold Returns
    rw [parsed, or_iff_right busy]
    exact parseCommand_returns

end Commands

section Answers

/-- All calls of a list return if each of them does. -/
theorem mapM_returns {α β : Type} {f : α → Except Abort β} {l : List α} :
    (∃ values, l.mapM f = .ok values) ↔ ∀ x ∈ l, ∃ value, f x = .ok value := by
  induction l with
  | nil => exact iff_of_true ⟨[], rfl⟩ nofun
  | cons x rest ih =>
      rw [List.forall_mem_cons, ← ih, List.mapM_cons]
      cases f x with
      | error abort => exact iff_of_false nofun nofun
      | ok value =>
          cases rest.mapM f with
          | error abort => exact iff_of_false nofun nofun
          | ok values => exact iff_of_true ⟨_, rfl⟩ ⟨⟨_, rfl⟩, ⟨_, rfl⟩⟩

theorem mapM_ok {α β : Type} {f : α → Except Abort β} {g : α → β} {l : List α}
    (each : ∀ x ∈ l, f x = .ok (g x)) : l.mapM f = .ok (l.map g) := by
  induction l with
  | nil => rfl
  | cons x rest ih =>
      rw [List.forall_mem_cons] at each
      rw [List.mapM_cons, each.1, ih each.2]
      rfl

/-- The characters of a line are read if there are 40 bytes. -/
theorem contactUnits_complete {chunk : List UInt8} (complete : chunk.length = 40) :
    contactUnits chunk = .ok (lineUnits chunk) := by
  refine mapM_ok (fun i member => ?_)
  have bound : i < 20 := List.mem_range.mp member
  rw [List.getD_eq_getElem?_getD, List.getD_eq_getElem?_getD, List.getElem?_eq_getElem (by omega),
    List.getElem?_eq_getElem (by omega)]
  rfl

theorem contactUnits_short {chunk : List UInt8} (short : chunk.length < 40) :
    ¬ ∃ units, contactUnits chunk = .ok units := by
  unfold contactUnits
  rw [mapM_returns]
  intro each
  obtain ⟨unit, ok⟩ := each 19 (by decide)
  have last : chunk[2 * 19 + 1]? = none := List.getElem?_eq_none (by omega)
  rw [last] at ok
  revert ok
  cases chunk[2 * 19]? <;> exact nofun

theorem lineUnits_bound (chunk : List UInt8) : ∀ unit ∈ lineUnits chunk, unit < 0x10000 := by
  intro unit member
  obtain ⟨i, -, rfl⟩ := List.mem_map.mp member
  have high := (chunk.getD (2 * i) 0).toNat_lt
  have low := (chunk.getD (2 * i + 1) 0).toNat_lt
  omega

theorem contactLine_returns {chunk : List UInt8} (within : chunk.length ≤ 40) :
    (∃ line, contactLine chunk = .ok line) ↔
      chunk.length = 40 ∧ Convertible (lineUnits chunk) := by
  by_cases complete : chunk.length = 40
  · rw [and_iff_right complete, ← toBytes_ok_iff (lineUnits_bound chunk)]
    unfold contactLine
    rw [contactUnits_complete complete]
    show (∃ line, ((toBytes (lineUnits chunk)).bind fun bytes => _) = .ok line) ↔ _
    cases toBytes (lineUnits chunk) with
    | error abort => exact iff_of_false nofun nofun
    | ok bytes => exact iff_of_true ⟨_, rfl⟩ ⟨_, rfl⟩
  · refine iff_of_false ?_ (fun both => complete both.1)
    have short := contactUnits_short (Nat.lt_of_le_of_ne within complete)
    rintro ⟨line, ok⟩
    unfold contactLine at ok
    cases units : contactUnits chunk with
    | error abort =>
        rw [units] at ok
        cases ok
    | ok units' => exact short ⟨units', units⟩

/-- The lines of a response are all decoded if they are complete and can be converted. -/
theorem contactLines_returns {response : List UInt8} :
    (∃ lines, (List.range ((response.length + 39) / 40)).mapM (fun i =>
      contactLine ((response.drop (40 * i)).take 40)) = .ok lines) ↔
      ContactLines response := by
  have within (i : Nat) : ((response.drop (40 * i)).take 40).length ≤ 40 := List.length_take_le _ _
  rw [mapM_returns]
  simp only [List.mem_range, contactLine_returns (within _), List.length_take, List.length_drop]
  constructor
  · intro each
    have whole : 40 ∣ response.length := by
      by_contra part
      have last := (each (response.length / 40) (by omega)).1
      omega
    exact ⟨whole, fun i bound => (each i (by omega)).2⟩
  · rintro ⟨whole, lines⟩ i bound
    exact ⟨by omega, lines i (by omega)⟩

variable {p : ApiCommandParser} {message : EmsMessage}

theorem handleVersion_returns :
    (∃ r, p.handleVersion = .ok r) ↔ ¬ p.requestResponse.length < 3 := by
  unfold handleVersion
  by_cases short : p.requestResponse.length < 3
  · refine iff_of_false ?_ (fun long => long short)
    have minor : p.requestResponse[2]? = none := List.getElem?_eq_none (by omega)
    rw [minor]
    cases p.requestResponse[1]? <;> exact nofun
  · refine iff_of_true ?_ short
    rw [List.getElem?_eq_getElem (by omega), List.getElem?_eq_getElem (by omega)]
    dsimp only
    split <;> exact ⟨_, rfl⟩

theorem handleContactInfo_returns : (∃ r, p.handleContactInfo = .ok r) ↔
    ¬ (p.requestLength ≤ p.requestResponse.length ∧ ¬ ContactLines p.requestResponse) := by
  unfold handleContactInfo
  by_cases complete : p.requestLength ≤ p.requestResponse.length
  · have done : p.continueRequest = (false, p) := if_pos complete
    rw [done, not_and_not_right, forall_prop_of_true complete, ← contactLines_returns]
    dsimp only
    cases (List.range ((p.requestResponse.length + 39) / 40)).mapM fun i =>
        contactLine ((p.requestResponse.drop (40 * i)).take 40) with
    | error abort => exact iff_of_false nofun nofun
    | ok lines => exact iff_of_true ⟨_, rfl⟩ ⟨_, rfl⟩
  · refine iff_of_true ?_ (fun both => complete both.1)
    have more : p.continueRequest = (true, _) := if_neg complete
    rw [more]
    exact ⟨_, rfl⟩

theorem handleResponse_returns : (∃ r, p.handleResponse = .ok r) ↔
    ¬ (p.requestType = 0x02 ∧ p.requestResponse.length < 3) ∧
      ¬ (p.requestType = 0x0137 ∧ p.requestLength ≤ p.requestResponse.length ∧
        ¬ ContactLines p.requestResponse) := by
  by_cases version : p.requestType = 0x02
  · have answered : p.handleResponse = p.handleVersion := by
      unfold handleResponse
      rw [version]
      rfl
    rw [answered, handleVersion_returns, version]
    simp
  by_cases contact : p.requestType = 0x0137
  · have answered : p.handleResponse = p.handleContactInfo := by
      unfold handleResponse
      rw [contact]
      rfl
    rw [answered, handleContactInfo_returns, contact]
    simp
  refine iff_of_true ?_ ⟨fun named => version named.1, fun named => contact named.1⟩
  unfold handleResponse
  split
  case _ same => exact absurd (UInt16.toNat_inj.mp same) version
  case _ same => exact absurd (UInt16.toNat_inj.mp same) contact
  all_goals exact ⟨_, rfl⟩

/-- What an answer is added to. -/
theorem take_fields (p : ApiCommandParser) (message : EmsMessage) :
    (p.take message).requestResponse = p.requestResponse ++ message.data ∧
      ((p.take message).requestLength ≤ (p.take message).requestResponse.length ↔
      message.data = [] ∨ p.requestLength ≤ (p.requestResponse ++ message.data).length) := by
  unfold take
  by_cases last : message.data = []
  · rw [if_pos last, last, List.append_nil]
    exact ⟨rfl, iff_of_true (Nat.le_refl _) (.inl rfl)⟩
  · rw [if_neg last]
    exact ⟨rfl, (or_iff_right last).symm⟩

theorem respond_returns (p : ApiCommandParser) (message : EmsMessage) :
    (∃ r, (p.take message).respond = .ok r) ↔
    p.outputRawData = true ∨ ¬ (p.ShortVersion message ∨ p.BrokenContact message) := by
  obtain ⟨raw, type⟩ := take_kept p message
  obtain ⟨response, complete⟩ := take_fields p message
  unfold respond
  rw [raw]
  cases p.outputRawData with
  | true => exact iff_of_true ⟨_, rfl⟩ (.inl rfl)
  | false =>
      rw [if_neg Bool.false_ne_true, handleResponse_returns, or_iff_right Bool.false_ne_true, not_or,
        complete, response, type]
      rfl

/-- An answer that `onIncomingMessage` looks into: it continues an active request that is not raw. -/
def Examined (p : ApiCommandParser) (message : EmsMessage) : Prop :=
  p.activeRequest.isSome = true ∧ message.getType ≠ 0xff ∧ p.Continues message ∧
    p.outputRawData = false

/-- An answer that is examined throws if it is too short or malformed. -/
theorem onIncomingMessage_returns : (∃ r, p.onIncomingMessage message = .ok r) ↔
    ¬ (p.Examined message ∧ (p.ShortVersion message ∨ p.BrokenContact message)) := by
  unfold onIncomingMessage Examined
  by_cases idle : p.activeRequest.isNone
  · rw [if_pos idle]
    refine iff_of_true ⟨_, rfl⟩ (fun broken => ?_)
    rw [Option.isNone_iff_eq_none.mp idle] at broken
    exact Bool.false_ne_true broken.1.1
  have active : p.activeRequest.isSome = true := Option.isSome_iff_ne_none.mpr
    (fun none => idle (Option.isNone_iff_eq_none.mpr none))
  rw [if_neg idle]
  by_cases ack : message.getType = 0xff
  · rw [if_pos ack]
    exact iff_of_true ⟨_, rfl⟩ (fun broken => broken.1.2.1 ack)
  rw [if_neg ack]
  by_cases continues : p.Continues message
  · obtain ⟨source, type, offset⟩ := continues
    rw [if_neg (by simp [source, type, offset])]
    have examined : (p.activeRequest.isSome = true ∧ message.getType ≠ 0xff ∧ p.Continues message ∧
        p.outputRawData = false) ↔ p.outputRawData = false := by
      rw [and_iff_right active, and_iff_right ack, and_iff_right ⟨source, type, offset⟩]
    have answered := respond_returns p message
    rw [examined, not_and, ← Bool.not_eq_true, ← Decidable.or_iff_not_imp_left, ← answered]
    cases (p.take message).respond with
    | error abort => exact iff_of_false nofun nofun
    | ok r => exact iff_of_true ⟨_, rfl⟩ ⟨_, rfl⟩
  · refine iff_of_true ?_ (fun broken => continues broken.1.2.2.1)
    rw [if_pos]
    · exact ⟨_, rfl⟩
    · by_contra continued
      simp only [not_or, Decidable.not_not] at continued
      exact continues continued

end Answers

/-- The command interface returns normally on a line unless it is one of the two kinds that throw
    for a parser that is free, and on a telegram unless it is examined and too short or malformed. -/
theorem returns_iff (p : ApiCommandParser) :
    (∀ env request, Returns (parse env) ⟨p, request⟩ ↔
      p.activeRequest.isSome = true ∨ ¬ SpecialTime env request ∧ ¬ MalformedContact request) ∧
    ∀ message, (∃ r, p.onIncomingMessage message = .ok r) ↔
      ¬ (p.Examined message ∧ (p.ShortVersion message ∨ p.BrokenContact message)) :=
  ⟨fun _ _ => parse_returns, fun _ => onIncomingMessage_returns⟩

/-- The answer to a version request is a single byte. -/
theorem short_version_throws :
    ¬ ∀ (es : List (System.Event Nat)) (s : System Nat),
      (System.system Nat).Run (fun _ _ => True) .init es s → ∀ client, ∀ conn ∈ s.connections client,
        (∀ env request, Returns (parse env) ⟨conn.parser, request⟩) ∧
        ∀ message, ∃ r, conn.parser.onIncomingMessage message = .ok r := by
  intro returns
  have run := returns
    [.connect 0 default, .segment 0 "getversion\n".toList, .request 0 ⟨none, fun s => (none, s), 0⟩]
    _ (.ofFold rfl) 0 _ rfl
  obtain ⟨r, ok⟩ := run.2 ⟨true, [0x01], 0x88, 0x0b, 0x02, 0, 0⟩
  cases ok

end EmsCollector.ApiCommandParser
