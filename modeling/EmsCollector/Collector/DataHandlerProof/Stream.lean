import EmsCollector.Collector.DataHandlerProof.Broadcast
import EmsCollector.Collector.ValueCacheProof.Fetch
import EmsCollector.Misc.Words

/-!
# Reading the data port

The lines of a data connection come as one stream of characters. For the values of telegrams it
can be taken apart again: a text is one line, and the names of types and subtypes are told apart
by their words.
-/

namespace EmsCollector

open ApiCommandParser (Plain)
open EmsMessage (telegramKinds errorKinds OfKinds OneLine)

namespace EmsMessage

/-- A value that the handling of some telegram hands out. -/
def Emitted (value : EmsValue) : Prop :=
  ∃ (m : EmsMessage) (values : List EmsValue), m.handle = .ok values ∧ value ∈ values

variable {value : EmsValue}

theorem Emitted.ofKinds (emitted : Emitted value) : OfKinds (telegramKinds ++ errorKinds) value := by
  obtain ⟨m, values, ran, member⟩ := emitted
  exact handle_kinds ran value member

/-- A value with a name is shown on one line. -/
theorem Emitted.oneLine (emitted : Emitted value) (named : value.key.typeName ≠ "") :
    OneLine value := by
  obtain ⟨m, values, ran, member⟩ := emitted
  have code : ValueApi.getTypeName .stoerungsCode = "" := by decide +kernel
  have number : ValueApi.getTypeName .stoerungsNummer = "" := by decide +kernel
  refine handle_oneLine ran value member (fun type => ?_) (fun type => ?_)
  · exact named ((congrArg ValueApi.getTypeName type).trans code)
  · exact named ((congrArg ValueApi.getTypeName type).trans number)

/-- The text of an emitted value. -/
theorem Emitted.text (emitted : Emitted value) : ∃ text, ValueApi.formatValue value = .ok text ∧
    (value.key.typeName ≠ "" → Plain text) := by
  obtain ⟨text, shown, plain⟩ := ofKinds_shown emitted.ofKinds
  exact ⟨text, shown, fun named => plain (emitted.oneLine named)⟩

end EmsMessage

open EmsMessage (Emitted)

namespace DataConnection

/-- What the line of a value says: the key and the text. -/
def shown (value : EmsValue) : Option (CacheKey × String) :=
  if value.key.typeName = "" then none
  else (ValueApi.formatValue value).toOption.map (fun text => (value.key, text))

/-- The line that says so. -/
def lineOf (entry : CacheKey × String) : String := entry.1.name ++ " " ++ entry.2

theorem valueLine_shown (value : EmsValue) :
    valueLine value = (shown value).map (fun entry => lineOf entry ++ "\n") := by
  unfold valueLine valueText shown
  by_cases nameless : value.key.typeName = ""
  · have type : ValueApi.getTypeName value.type = "" := nameless
    simp [type, nameless, Except.toOption]
  · have type : ValueApi.getTypeName value.type ≠ "" := nameless
    rw [if_neg nameless]
    simp only [if_neg type]
    cases text : ValueApi.formatValue value with
    | error fault => rfl
    | ok text => rfl

/-- An entry of the stream: a key with a name, and a text of one line. -/
structure Listed (entry : CacheKey × String) : Prop where
  key : entry.1 ∈ namedKeys
  text : Plain entry.2

theorem shown_listed {value : EmsValue} (emitted : Emitted value) {entry : CacheKey × String}
    (told : shown value = some entry) : Listed entry := by
  unfold shown at told
  split at told
  case isTrue => cases told
  rename_i named
  obtain ⟨text, formatted, plain⟩ := emitted.text
  rw [formatted] at told
  cases told
  exact ⟨mem_namedKeys _ emitted.ofKinds.mem named, plain named⟩

theorem lineOf_plain {entry : CacheKey × String} (listed : Listed entry) : Plain (lineOf entry) :=
  ((name_plain entry.1).append (by decide)).append listed.text

/-- No name has a blank in it. -/
theorem namedKeys_words : ∀ key ∈ namedKeys,
    ' ' ∉ key.typeName.toList ∧ ' ' ∉ key.subtypeName.toList := by decide +kernel

/-- The characters of a line: one word or two for the key, then the text. -/
theorem lineOf_toList (entry : CacheKey × String) : (lineOf entry).toList =
    (if entry.1.subtypeName = "" then [] else entry.1.subtypeName.toList ++ [' ']) ++
      entry.1.typeName.toList ++ ' ' :: entry.2.toList := by
  unfold lineOf CacheKey.name
  by_cases none : entry.1.subtypeName = ""
  · simp [none]
  · simp [none]

/-- The first word is the subtype of the one and the type of the other: there is no such word. -/
theorem names_apart {entry other : CacheKey × String} (listed : Listed entry) (listed' : Listed other)
    (subtype : entry.1.subtypeName ≠ "") (none : other.1.subtypeName = "") :
    lineOf entry ≠ lineOf other := by
  intro same
  have chars := congrArg String.toList same
  rw [lineOf_toList, lineOf_toList, if_neg subtype, if_pos none] at chars
  simp only [List.nil_append, List.append_assoc, List.singleton_append] at chars
  obtain ⟨words, -⟩ := separated_inj (namedKeys_words _ listed.key).2
    (namedKeys_words _ listed'.key).1 chars
  have word : entry.1.selectorWord = other.1.typeName := by
    unfold CacheKey.selectorWord
    rw [if_neg subtype]
    exact String.toList_inj.mp words
  exact namedKeys_apart _ (List.mem_map_of_mem listed.key)
    (word ▸ List.mem_map_of_mem listed'.key)

/-- Keys with the same words are the same. -/
theorem key_of_words {key other : CacheKey} (inside : key ∈ namedKeys) (inside' : other ∈ namedKeys)
    (subtype : key.subtypeName = other.subtypeName) (type : key.typeName = other.typeName) :
    key = other := by
  refine List.inj_on_of_nodup_map namedKeys_selector_nodup inside inside' ?_
  unfold CacheKey.selector CacheKey.selectorWord
  rw [subtype, type]

/-- A line tells the key and the text. -/
theorem lineOf_inj {entry other : CacheKey × String} (listed : Listed entry) (listed' : Listed other)
    (same : lineOf entry = lineOf other) : entry = other := by
  have chars := congrArg String.toList same
  rw [lineOf_toList, lineOf_toList] at chars
  by_cases none : entry.1.subtypeName = "" <;> by_cases none' : other.1.subtypeName = ""
  · rw [if_pos none, if_pos none'] at chars
    obtain ⟨type, text⟩ := separated_inj (namedKeys_words _ listed.key).1
      (namedKeys_words _ listed'.key).1 chars
    exact Prod.ext (key_of_words listed.key listed'.key (none.trans none'.symm)
      (String.toList_inj.mp type)) (String.toList_inj.mp text)
  · exact absurd same.symm (names_apart listed' listed none' none)
  · exact absurd same (names_apart listed listed' none none')
  · rw [if_neg none, if_neg none'] at chars
    simp only [List.append_assoc, List.singleton_append] at chars
    obtain ⟨subtype, chars⟩ := separated_inj (namedKeys_words _ listed.key).2
      (namedKeys_words _ listed'.key).2 chars
    obtain ⟨type, text⟩ := separated_inj (namedKeys_words _ listed.key).1
      (namedKeys_words _ listed'.key).1 chars
    exact Prod.ext (key_of_words listed.key listed'.key (String.toList_inj.mp subtype)
      (String.toList_inj.mp type)) (String.toList_inj.mp text)

/-- The lines of values, as they stand on the connection. -/
def stream (values : List EmsValue) : String :=
  String.join (values.flatMap (fun value => (valueLine value).toList))

theorem stream_toList (values : List EmsValue) : (stream values).toList =
    ((values.filterMap shown).map (fun entry => (lineOf entry).toList)).flatMap (· ++ ['\n']) := by
  unfold stream
  induction values with
  | nil => rfl
  | cons value rest ih =>
      rw [List.flatMap_cons, String.join_append, String.toList_append, ih, valueLine_shown]
      cases told : shown value with
      | none => simp [told]
      | some entry => simp [told]

theorem shown_all {values : List EmsValue} (emitted : ∀ value ∈ values, Emitted value) :
    ∀ entry ∈ values.filterMap shown, Listed entry := by
  intro entry member
  obtain ⟨value, inside, told⟩ := List.mem_filterMap.mp member
  exact shown_listed (emitted value inside) told

/-- For values of telegrams, the characters on a data connection tell all keys with a name and
    their texts, in order. -/
theorem stream_readable {values others : List EmsValue} (emitted : ∀ value ∈ values, Emitted value)
    (emitted' : ∀ value ∈ others, Emitted value) (same : stream values = stream others) :
    values.filterMap shown = others.filterMap shown := by
  have plain : ∀ {values : List EmsValue}, (∀ value ∈ values, Emitted value) →
      ∀ part ∈ (values.filterMap shown).map (fun entry => (lineOf entry).toList), '\n' ∉ part := by
    intro values emitted part member
    obtain ⟨entry, inside, rfl⟩ := List.mem_map.mp member
    exact lineOf_plain (shown_all emitted entry inside)
  have chars := congrArg String.toList same
  rw [stream_toList, stream_toList] at chars
  have lines := terminated_inj (plain emitted) (plain emitted') chars
  refine map_inj_members ?_ lines
  intro entry inside other inside' text
  exact lineOf_inj (shown_all emitted entry inside) (shown_all emitted' other inside')
    (String.toList_inj.mp text)

/-- The values of an empty list of errors have no names: only the temperature is told. -/
theorem stream_readable_unnamed :
    let outdoor : EmsValue := ⟨.istTemp, .aussen, .numeric, .numeric (123 / 10), true⟩
    let code : EmsValue := ⟨.stoerungsCode, .none, .formatted, .formatted "OK", true⟩
    [code, outdoor].filterMap shown = [outdoor].filterMap shown ∧
      [outdoor].filterMap shown = [(outdoor.key, "12.3")] := by
  intro outdoor code
  have outdoorOut : Emitted outdoor :=
    ⟨⟨true, [0x00, 0x7b], 0x88, 0, 0xd1, 0, 0⟩, _, rfl, List.mem_cons_self⟩
  have codeOut : Emitted code := ⟨⟨true, [0x00], 0x90, 0, 0xbf, 0, 0⟩, _, rfl, List.mem_cons_self⟩
  refine ⟨stream_readable ?_ ?_ ?_, by decide +kernel⟩
  · rintro value (_ | ⟨_, (_ | ⟨_, absent⟩)⟩)
    · exact codeOut
    · exact outdoorOut
    · cases absent
  · rintro value (_ | ⟨_, absent⟩)
    · exact outdoorOut
    · cases absent
  · decide +kernel

end DataConnection

end EmsCollector
