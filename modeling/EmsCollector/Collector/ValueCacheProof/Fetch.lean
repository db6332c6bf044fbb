import EmsCollector.Collector.ApiCommandParserProof.Commands
import EmsCollector.Collector.EmsMessageProof.Consumers
import EmsCollector.Collector.ValueCacheProof.Latest

/-!
# Values under their own names

`cache fetch` prints the latest value of a key on one line, selected by the names of the subtype
and the type, and every key of the cache once if there is no selector. A type without a name is
never printed: those are the two of the error telegrams.
-/

namespace EmsCollector

open ApiCommandParser (Plain toString_plain)
open EmsMessage (telegramKinds errorKinds)

namespace CacheKey

def typeName (key : CacheKey) : String := ValueApi.getTypeName key.type

def subtypeName (key : CacheKey) : String := ValueApi.getSubTypeName key.subtype

/-- The word for the subtype in a selector. -/
def selectorWord (key : CacheKey) : String :=
  if key.subtypeName = "" then "none" else key.subtypeName

/-- The selector of a key. -/
def selector (key : CacheKey) : List String := [key.selectorWord, key.typeName]

/-- The name under which a key is printed. -/
def name (key : CacheKey) : String :=
  (if key.subtypeName = "" then "" else key.subtypeName ++ " ") ++ key.typeName

/-- The line of a key with the text of its value. -/
def line (key : CacheKey) (text : String) (timestamp : TimeT) : String :=
  key.name ++ " = " ++ text ++ " | " ++ toString timestamp

end CacheKey

def Kind.key (kind : Kind) : CacheKey := ⟨kind.type, kind.subType⟩

/-! ## The names -/

theorem typeName_not_none (key : CacheKey) : key.typeName ≠ "none" := by
  have rows : ∀ row ∈ ValueApi.typeMapping, row.2 ≠ "none" := by decide +kernel
  exact lookup_getD (P := (· ≠ "none")) (fun row member _ => rows row member) (by decide)

theorem name_plain (key : CacheKey) : Plain key.name := by
  have types : ∀ row ∈ ValueApi.typeMapping, Plain row.2 := by decide +kernel
  have subtypes : ∀ row ∈ ValueApi.subTypeMapping, Plain row.2 := by decide +kernel
  have type : Plain key.typeName := lookup_getD (fun row member _ => types row member) (by decide)
  have subtype : Plain key.subtypeName :=
    lookup_getD (fun row member _ => subtypes row member) (by decide)
  refine Plain.append ?_ type
  split
  · decide
  · exact subtype.append (by decide)

theorem line_plain (key : CacheKey) {text : String} (plain : Plain text) (timestamp : TimeT) :
    Plain (key.line text timestamp) := by
  have number : Plain (toString timestamp) := by
    cases timestamp with
    | ofNat n => exact toString_plain n
    | negSucc n => exact Plain.append (by decide) (toString_plain (n + 1))
  exact ((((name_plain key).append (by decide)).append plain).append (by decide)).append number

/-- The keys of all values with a name. -/
def namedKeys : List CacheKey :=
  telegramKinds.map Kind.key ++ [⟨.stoerung, .kessel⟩, ⟨.stoerung, .rc⟩]

theorem mem_namedKeys : ∀ kind ∈ telegramKinds ++ errorKinds, kind.key.typeName ≠ "" →
    kind.key ∈ namedKeys := by decide +kernel

/-- The values without a name have a subtype without one. -/
theorem subtype_nameless : ∀ kind ∈ telegramKinds ++ errorKinds, kind.key.typeName = "" →
    kind.key.subtypeName = "" := by decide +kernel

theorem telegramKinds_named : ∀ kind ∈ telegramKinds, kind.key.typeName ≠ "" := by decide +kernel

theorem namedKeys_name_nodup : (namedKeys.map CacheKey.name).Nodup := by decide +kernel

theorem namedKeys_selector_nodup : (namedKeys.map CacheKey.selector).Nodup := by decide +kernel

/-- No type has the name of a subtype. -/
theorem namedKeys_apart : ∀ word ∈ namedKeys.map CacheKey.selectorWord,
    word ∉ namedKeys.map CacheKey.typeName := by decide +kernel

namespace ValueCache

/-- The selector of a key selects no other one. -/
theorem matchesSelector_iff {key other : CacheKey} (inside : key ∈ namedKeys)
    (inside' : other ∈ namedKeys) :
    matchesSelector key.selector other.typeName other.subtypeName = true ↔ other = key := by
  have apart : key.selectorWord ≠ other.typeName := by
    intro same
    exact namedKeys_apart _ (List.mem_map_of_mem inside) (same ▸ List.mem_map_of_mem inside')
  have word : (key.selectorWord = other.subtypeName ∨
      key.selectorWord = "none" ∧ other.subtypeName = "") ↔ key.selectorWord = other.selectorWord := by
    have visible : key.selectorWord ≠ "" := by
      unfold CacheKey.selectorWord
      split
      · decide
      · assumption
    by_cases unnamed : other.subtypeName = ""
    · have same : other.selectorWord = "none" := if_pos unnamed
      rw [same, unnamed]
      exact ⟨fun either => either.elim (absurd · visible) And.left, fun none => .inr ⟨none, rfl⟩⟩
    · have same : other.selectorWord = other.subtypeName := if_neg unnamed
      rw [same]
      exact ⟨fun either => either.elim id (fun both => absurd both.2 unnamed), .inl⟩
  show (if key.selectorWord = other.typeName then true
    else if key.selectorWord = other.subtypeName ∨ key.selectorWord = "none" ∧ other.subtypeName = ""
      then decide (key.typeName = other.typeName) else false) = true ↔ other = key
  rw [if_neg apart]
  constructor
  · intro selected
    split at selected
    · rename_i first
      have same : key.selector = other.selector := by
        unfold CacheKey.selector
        rw [word.mp first, of_decide_eq_true selected]
      exact (List.inj_on_of_nodup_map namedKeys_selector_nodup inside inside' same).symm
    · cases selected
  · rintro rfl
    rw [if_pos (word.mpr rfl)]
    exact decide_eq_true rfl

/-! ## The output -/

/-- An entry without a name, or not selected, writes nothing. -/
theorem outputEntry_silent {selector : List String} {key : CacheKey}
    (silent : key.typeName = "" ∨ matchesSelector selector key.typeName key.subtypeName = false)
    (entry : CacheEntry) : outputEntry selector key entry = .ok "" := by
  by_cases named : key.typeName = ""
  · exact if_pos named
  · refine (if_neg named).trans (if_neg ?_)
    rw [Bool.not_eq_true]
    exact silent.resolve_left named

/-- A selected entry writes its line. -/
theorem outputEntry_line {selector : List String} {key : CacheKey} {entry : CacheEntry} {text : String}
    (named : key.typeName ≠ "")
    (selected : matchesSelector selector key.typeName key.subtypeName = true)
    (shown : ValueApi.formatValue entry.value = .ok text) :
    outputEntry selector key entry = .ok (key.line text entry.timestamp ++ "\n") := by
  refine (if_neg named).trans ((if_pos selected).trans ?_)
  rw [shown]
  rfl

/-- What the entries write, one behind the other. -/
theorem outputValues_join {c : ValueCache} {selector : List String}
    {text : CacheKey × CacheEntry → String}
    (each : ∀ e ∈ c.cache, outputEntry selector e.1 e.2 = .ok (text e)) :
    c.outputValues selector = .ok (String.join (c.cache.map text)) := by
  have behind (entries : List (CacheKey × CacheEntry)) (start : String)
      (each : ∀ e ∈ entries, outputEntry selector e.1 e.2 = .ok (text e)) :
      entries.foldlM (fun stream (e : CacheKey × CacheEntry) => do
        let text ← outputEntry selector e.1 e.2
        (.ok (stream ++ text) : Except ValueApi.FormatFault String)) start =
          .ok (start ++ String.join (entries.map text)) := by
    induction entries generalizing start with
    | nil => simp [pure, Except.pure]
    | cons e rest ih =>
        have first := each e (List.mem_cons_self ..)
        have later := ih (start ++ text e) (fun e member => each e (List.mem_cons_of_mem _ member))
        rw [List.foldlM_cons, first, List.map_cons, String.join_cons, ← String.append_assoc]
        exact later
  have whole := behind c.cache "" each
  rw [String.empty_append] at whole
  exact whole

/-- Only one entry writes. -/
theorem join_single {entries : List (CacheKey × CacheEntry)} {text : CacheKey × CacheEntry → String}
    (nodup : (entries.map Prod.fst).Nodup) {e : CacheKey × CacheEntry} (member : e ∈ entries)
    (others : ∀ other ∈ entries, other.1 ≠ e.1 → text other = "") :
    String.join (entries.map text) = text e := by
  have nothing {rest : List (CacheKey × CacheEntry)} (silent : ∀ other ∈ rest, text other = "") :
      String.join (rest.map text) = "" := by
    induction rest with
    | nil => rfl
    | cons first rest ih =>
        rw [List.map_cons, String.join_cons, silent first (List.mem_cons_self ..),
          ih (fun other member => silent other (List.mem_cons_of_mem _ member))]
        rfl
  induction entries with
  | nil => cases member
  | cons first rest ih =>
      rw [List.map_cons, List.nodup_cons] at nodup
      obtain ⟨fresh, nodup⟩ := nodup
      have later := fun other (inside : other ∈ rest) => others other (List.mem_cons_of_mem _ inside)
      rw [List.map_cons, String.join_cons]
      rcases List.mem_cons.mp member with rfl | inside
      · have silent : ∀ other ∈ rest, text other = "" := fun other inside =>
          later other inside (fun same => fresh (same ▸ List.mem_map_of_mem inside))
        rw [nothing silent, String.append_empty]
      · have different : first.1 ≠ e.1 := fun same => fresh (same ▸ List.mem_map_of_mem inside)
        rw [others first (List.mem_cons_self ..) different, String.empty_append]
        exact ih nodup inside later

/-! ## The command -/

/-- The buffer begins with `cache fetch`, and the words behind it are the selector. -/
def FetchTyped (selector : List String) (s : Session) : Prop :=
  ∃ first second, ApiCommandParser.nextWord s.request = ("cache", first) ∧
    ApiCommandParser.nextWord first = ("fetch", second) ∧
    (ApiCommandParser.tokenLoop (second.rest.length + 2) second).1.filter (· ≠ "") = selector

/-- What the cache prints for a selector, and that the command prints the same. -/
structure Prints (c : ValueCache) (selector : List String) (text : String) : Prop where
  output : c.outputValues selector = .ok text
  fetch : ∀ {env : Env} {outputValues : List String → String} {s : Session},
    env.cache = some outputValues → c.outputValues selector = .ok (outputValues selector) →
    s.parser.activeRequest = none → FetchTyped selector s →
    ∃ t, ApiCommandParser.parse env s = .ok .ok t ∧
      t.parser.effects = s.parser.effects ++ [.output text, .output "OK"]

theorem prints_of_output {c : ValueCache} {selector : List String} {text : String}
    (output : c.outputValues selector = .ok text) : c.Prints selector text := by
  refine ⟨output, ?_⟩
  rintro env outputValues s cache same idle ⟨first, second, category, cmd, words⟩
  cases output.symm.trans same
  refine ⟨⟨(s.parser.output (outputValues selector)).output "OK",
    (ApiCommandParser.tokenLoop (second.rest.length + 2) second).2⟩, ?_, ?_⟩
  · rw [ApiCommandParser.parse_word idle category]
    show ApiCommandParser.handleCacheCommand env ⟨s.parser, first⟩ = _
    unfold ApiCommandParser.handleCacheCommand
    rw [ApiCommandParser.readWord_bind, cmd, cache]
    show ApiCommandParser.handleFetch outputValues ⟨s.parser, second⟩ = _
    unfold ApiCommandParser.handleFetch
    rw [ApiCommandParser.readTokens_bind, words]
    rfl
  · show s.parser.effects ++ [_] ++ [_] = _
    rw [List.append_assoc]
    rfl

end ValueCache

/-! ## Histories -/

/-- Telegrams that were handled, each with the values it handed out and their times. -/
structure History where
  telegrams : List (EmsMessage × List (TimeT × EmsValue))
  handled : ∀ e ∈ telegrams, e.1.valueHandler = true ∧ e.1.handle = .ok (e.2.map Prod.snd)

namespace History

/-- The values, in the order in which they were handed out. -/
def values (h : History) : List (TimeT × EmsValue) := h.telegrams.flatMap Prod.snd

/-- The cache behind the history. -/
def cache (h : History) : ValueCache := ValueCache.handleValues ⟨[]⟩ h.values

/-- The latest value of a key. -/
def latest (h : History) (key : CacheKey) : Option CacheEntry := ValueCache.latest h.values key

/-- The line of the latest value of a key, and the key has one. -/
def Line (h : History) (key : CacheKey) (line : String) : Prop :=
  ∃ entry text, h.latest key = some entry ∧ ValueApi.formatValue entry.value = .ok text ∧
    line = key.line text entry.timestamp ∧ Plain line

/-- The selector of a key prints the line of its latest value, and no other line. -/
def Fetched (h : History) (key : CacheKey) : Prop :=
  ∃ line, h.Line key line ∧ h.cache.Prints key.selector (line ++ "\n")

/-- Without a selector, every key is printed once, and no two of them under the same name. -/
def Listed (h : History) : Prop :=
  ∃ (keys : List CacheKey) (line : CacheKey → String), keys.Nodup ∧
    (∀ key, key ∈ keys ↔ ∃ e ∈ h.values, e.2.key = key) ∧ (∀ key ∈ keys, h.Line key (line key)) ∧
    h.cache.Prints [] (String.join (keys.map (fun key => line key ++ "\n"))) ∧
    (keys.map CacheKey.name).Nodup

/-- Every value that was handed out is printed under its own name. -/
structure Retrievable (h : History) : Prop where
  fetched : ∀ e ∈ h.values, h.Fetched e.2.key
  listed : h.Listed

variable {h : History}

theorem cache_holds (h : History) : h.cache.Holds h.values :=
  ValueCache.holds_handleValues ValueCache.holds_empty h.values

theorem mem_values {e : TimeT × EmsValue} (member : e ∈ h.values) :
    ∃ telegram ∈ h.telegrams, ∃ values, telegram.1.handle = .ok values ∧ e.2 ∈ values := by
  obtain ⟨telegram, inside, among⟩ := List.mem_flatMap.mp member
  exact ⟨telegram, inside, _, (h.handled _ inside).2, List.mem_map_of_mem among⟩

theorem values_ofKinds {e : TimeT × EmsValue} (member : e ∈ h.values) :
    EmsMessage.OfKinds (telegramKinds ++ errorKinds) e.2 := by
  obtain ⟨telegram, -, values, ran, among⟩ := mem_values member
  exact EmsMessage.handle_kinds ran e.2 among

theorem values_oneLine {e : TimeT × EmsValue} (member : e ∈ h.values)
    (named : e.2.key.typeName ≠ "") : EmsMessage.OneLine e.2 := by
  obtain ⟨telegram, -, values, ran, among⟩ := mem_values member
  have code : ValueApi.getTypeName .stoerungsCode = "" := by decide +kernel
  have number : ValueApi.getTypeName .stoerungsNummer = "" := by decide +kernel
  refine EmsMessage.handle_oneLine ran e.2 among (fun type => ?_) (fun type => ?_)
  · exact named ((congrArg ValueApi.getTypeName type).trans code)
  · exact named ((congrArg ValueApi.getTypeName type).trans number)

/-- The text of the value of an entry. -/
def shownText (entry : CacheEntry) : String :=
  (ValueApi.formatValue entry.value).toOption.getD ""

/-- The line of an entry. -/
def lineOf (e : CacheKey × CacheEntry) : String := e.1.line (shownText e.2) e.2.timestamp

/-- What the cache holds for a name: the latest value, with a text of one line. -/
theorem cached_shown {e : CacheKey × CacheEntry} (inside : e ∈ h.cache.cache)
    (named : e.1.typeName ≠ "") : e.1 ∈ namedKeys ∧ h.latest e.1 = some e.2 ∧
      ValueApi.formatValue e.2.value = .ok (shownText e.2) ∧ Plain (shownText e.2) := by
  have last := (h.cache_holds.latest e.1 e.2).mp inside
  obtain ⟨key, member⟩ := ValueCache.latest_some last
  have ofKinds := values_ofKinds member
  obtain ⟨text, shown, plain⟩ := EmsMessage.ofKinds_shown ofKinds
  have same : shownText e.2 = text := by
    unfold shownText
    rw [shown]
    rfl
  rw [← key] at named
  have known : e.2.value.key ∈ namedKeys := mem_namedKeys _ ofKinds.mem named
  exact ⟨key ▸ known, last, same ▸ shown, same ▸ plain (values_oneLine member named)⟩

theorem line_lineOf {e : CacheKey × CacheEntry} (inside : e ∈ h.cache.cache)
    (named : e.1.typeName ≠ "") : h.Line e.1 (lineOf e) := by
  obtain ⟨-, last, shown, plain⟩ := cached_shown inside named
  exact ⟨e.2, shownText e.2, last, shown, rfl, line_plain _ plain _⟩

/-- The selector of a name prints its line and no other one. -/
theorem selector_prints {e : CacheKey × CacheEntry} (inside : e ∈ h.cache.cache)
    (named : e.1.typeName ≠ "") : h.cache.Prints e.1.selector (lineOf e ++ "\n") := by
  let text (other : CacheKey × CacheEntry) : String := if other.1 = e.1 then lineOf other ++ "\n" else ""
  have known := (cached_shown inside named).1
  have each : ∀ other ∈ h.cache.cache,
      ValueCache.outputEntry e.1.selector other.1 other.2 = .ok (text other) := by
    intro other among
    by_cases nameless : other.1.typeName = ""
    · have different : other.1 ≠ e.1 := fun same => named (same ▸ nameless)
      rw [show text other = _ from if_neg different]
      exact ValueCache.outputEntry_silent (.inl nameless) _
    · obtain ⟨known', -, shown, -⟩ := cached_shown among nameless
      have selected := ValueCache.matchesSelector_iff known known'
      by_cases same : other.1 = e.1
      · rw [show text other = _ from if_pos same]
        exact ValueCache.outputEntry_line nameless (selected.mpr same) shown
      · rw [show text other = _ from if_neg same]
        exact ValueCache.outputEntry_silent (.inr (Bool.eq_false_iff.mpr (same ∘ selected.mp))) _
  have output := ValueCache.outputValues_join each
  rw [ValueCache.join_single h.cache_holds.nodup inside (fun other _ different => if_neg different),
    if_pos rfl] at output
  exact ValueCache.prints_of_output output

/-- A key without a name is not printed. -/
theorem nameless_silent {key : CacheKey} (nameless : key.typeName = "") (none : key.subtypeName = "")
    (c : ValueCache) : c.outputValues key.selector = .ok "" := by
  have silent : ∀ e ∈ c.cache, ValueCache.outputEntry key.selector e.1 e.2 = .ok "" := by
    intro e _
    refine ValueCache.outputEntry_silent ?_ _
    by_cases named : e.1.typeName = ""
    · exact .inl named
    · refine .inr ?_
      have other : "none" ≠ e.1.typeName := (typeName_not_none e.1).symm
      unfold CacheKey.selector CacheKey.selectorWord
      rw [if_pos none, nameless]
      show (if "none" = e.1.typeName then true
        else if "none" = e.1.subtypeName ∨ "none" = "none" ∧ e.1.subtypeName = "" then
          decide ("" = e.1.typeName) else false) = false
      rw [if_neg other]
      split
      · exact decide_eq_false (Ne.symm named)
      · rfl
  have output := @ValueCache.outputValues_join c key.selector (fun _ => "") silent
  rw [output]
  congr 1
  induction c.cache with
  | nil => rfl
  | cons first rest ih => rw [List.map_cons, String.join_cons, ih]; rfl

/-- A value is printed under its own name exactly if its type has one. -/
theorem fetched_iff {e : TimeT × EmsValue} (member : e ∈ h.values) :
    h.Fetched e.2.key ↔ e.2.key.typeName ≠ "" := by
  constructor
  · rintro ⟨line, -, prints⟩ nameless
    have none : e.2.key.subtypeName = "" :=
      subtype_nameless e.2.kind (values_ofKinds member).mem nameless
    have empty := Except.ok.inj (prints.output.symm.trans (nameless_silent nameless none h.cache))
    have lengths := congrArg String.length empty
    rw [String.length_append] at lengths
    cases lengths
  · intro named
    obtain ⟨entry, last⟩ := ValueCache.latest_isSome member
    have inside := (h.cache_holds.latest e.2.key entry).mpr last
    exact ⟨_, line_lineOf inside named, selector_prints inside named⟩

/-- An error telegram hands out a value without a name. -/
theorem reported_nameless {e : EmsMessage × List (TimeT × EmsValue)} (inside : e ∈ h.telegrams)
    (error : EmsMessage.IsErrorTelegram e.1.source e.1.getType) :
    ∃ reported ∈ h.values, reported.2.key.typeName = "" := by
  obtain ⟨handler, ran⟩ := h.handled e inside
  obtain ⟨value, member, reports⟩ := EmsMessage.handle_reports error handler ran
  obtain ⟨reported, among, rfl⟩ := List.mem_map.mp member
  refine ⟨reported, List.mem_flatMap.mpr ⟨e, inside, among⟩, ?_⟩
  show ValueApi.getTypeName reported.2.type = ""
  rcases reports with type | type
  · rw [type]
    decide +kernel
  · rw [type]
    decide +kernel

/-- The other telegrams do not. -/
theorem values_named
    (noErrors : ∀ e ∈ h.telegrams, ¬ EmsMessage.IsErrorTelegram e.1.source e.1.getType)
    {e : TimeT × EmsValue} (member : e ∈ h.values) : e.2.key.typeName ≠ "" := by
  obtain ⟨telegram, inside, values, ran, among⟩ := mem_values member
  have told := EmsMessage.handle_told (noErrors telegram inside) ran e.2 among
  exact telegramKinds_named e.2.kind told.ofKinds.mem

/-- The keys of the cache, each with its line. -/
theorem listed_of_named (named : ∀ e ∈ h.values, e.2.key.typeName ≠ "") : h.Listed := by
  have named : ∀ e ∈ h.cache.cache, e.1.typeName ≠ "" := by
    intro e inside
    obtain ⟨key, member⟩ := ValueCache.latest_some ((h.cache_holds.latest e.1 e.2).mp inside)
    exact key ▸ named _ member
  let line (key : CacheKey) : String := (h.latest key).elim "" (fun entry => lineOf (key, entry))
  have lines : ∀ e ∈ h.cache.cache, line e.1 = lineOf e := by
    intro e inside
    show (h.latest e.1).elim "" _ = lineOf e
    rw [(cached_shown inside (named e inside)).2.1]
    rfl
  refine ⟨h.cache.cache.map Prod.fst, line, h.cache_holds.nodup, fun key => ?_, ?_, ?_, ?_⟩
  · constructor
    · intro member
      obtain ⟨e, inside, rfl⟩ := List.mem_map.mp member
      obtain ⟨key, member⟩ := ValueCache.latest_some ((h.cache_holds.latest e.1 e.2).mp inside)
      exact ⟨_, member, key⟩
    · rintro ⟨e, member, rfl⟩
      obtain ⟨entry, last⟩ := ValueCache.latest_isSome member
      exact List.mem_map_of_mem ((h.cache_holds.latest e.2.key entry).mpr last)
  · intro key member
    obtain ⟨e, inside, rfl⟩ := List.mem_map.mp member
    rw [lines e inside]
    exact line_lineOf inside (named e inside)
  · have same : h.cache.cache.map ((fun key => line key ++ "\n") ∘ Prod.fst) =
        h.cache.cache.map (fun e => lineOf e ++ "\n") :=
      List.map_congr_left (fun e inside => congrArg (· ++ "\n") (lines e inside))
    rw [List.map_map, same]
    refine ValueCache.prints_of_output (ValueCache.outputValues_join (fun e inside => ?_))
    obtain ⟨-, -, shown, -⟩ := cached_shown inside (named e inside)
    exact ValueCache.outputEntry_line (named e inside) rfl shown
  · refine h.cache_holds.nodup.map_on (fun key member other member' same => ?_)
    obtain ⟨e, inside, rfl⟩ := List.mem_map.mp member
    obtain ⟨e', inside', rfl⟩ := List.mem_map.mp member'
    exact List.inj_on_of_nodup_map namedKeys_name_nodup (cached_shown inside (named e inside)).1
      (cached_shown inside' (named e' inside')).1 same

/-- All values can be fetched under their names exactly if there was no error telegram. -/
theorem retrievable_iff (h : History) :
    h.Retrievable ↔ ∀ e ∈ h.telegrams, ¬ EmsMessage.IsErrorTelegram e.1.source e.1.getType := by
  constructor
  · intro retrievable e inside error
    obtain ⟨reported, member, nameless⟩ := reported_nameless inside error
    exact (fetched_iff member).mp (retrievable.fetched reported member) nameless
  · intro noErrors
    have named := fun e (member : e ∈ h.values) => values_named noErrors member
    exact ⟨fun e member => (fetched_iff member).mpr (named e member), listed_of_named named⟩

/-- The UI800 tells that there is no error. -/
def noErrorTelegram : EmsMessage where
  valueHandler := true
  data := [0x10]
  source := EmsProto.addressUI800
  dest := 0
  type := 0xbf
  extType := 0
  offset := 0

def noError : History where
  telegrams := [(noErrorTelegram,
    [(0, .ofString .stoerungsCode .none "OK"), (0, .ofString .stoerungsNummer .none "0")])]
  handled := by
    intro e member
    cases List.mem_singleton.mp member
    exact ⟨rfl, rfl⟩

/-- Its code `OK` cannot be fetched. -/
theorem noError_unretrievable : ¬ ∀ h : History, h.Retrievable := by
  intro retrievable
  have member : (0, .ofString .stoerungsCode .none "OK") ∈ noError.values := List.mem_cons_self
  have named := (fetched_iff member).mp ((retrievable noError).fetched _ member)
  exact named (by decide +kernel)

end History

end EmsCollector
