import EmsCollector.Collector.ApiCommandParserProof.Guarded
import EmsCollector.Collector.EmsMessageProof.Window
import EmsCollector.Collector.IStreamProof.Round
import EmsCollector.Collector.ValueApiProof.Decimal
import EmsCollector.Collector.ValueCache
import Mathlib

/-!
# Set and read back

A setting is written by a command, and its value comes back in a telegram of the device. The byte
that the command sends, read as the parser of the telegrams reads it and printed as values are
printed, is the argument of the command again.
-/

namespace EmsCollector.ApiCommandParser

open IStream EmsMessage Layout

/-- The request begins with the words, and the arguments stand behind them. -/
def Begins : List String → IStream → IStream → Prop
  | [], request, arguments => arguments = request
  | word :: words, request, arguments =>
      (nextWord request).1 = word ∧ Begins words (nextWord request).2 arguments

/-- The telegram carries what the command sent, and comes from where it was sent to. Bit 7 of a
    destination says whether the telegram is a read; the addresses of the devices have it set. -/
structure Repeats (m message : EmsMessage) : Prop where
  handled : m.valueHandler = true
  source : m.source = message.dest ||| 0x80
  type : m.getType = message.getType
  offset : m.offset = message.offset
  data : m.data = message.data

/-- The cache holds a valid value, and this is its text. -/
def Shows (cache : ValueCache) (key : CacheKey) (prints : String → Prop) : Prop :=
  ∃ value text, cache.getValue key = some value ∧ value.isValid = true ∧
    ValueApi.formatValue value = .ok text ∧ prints text

/-- Whatever the cache held before, it shows the value when the telegram has been handled. A single
    byte changes no other value. -/
def ReadBack (message : EmsMessage) (key : CacheKey) (prints : String → Prop) : Prop :=
  ∀ m, Repeats m message → ∃ values, m.handle = .ok values ∧
    ∀ (cache : ValueCache) (stamped : List (TimeT × EmsValue)), stamped.map Prod.snd = values →
      Shows (cache.handleValues stamped) key prints ∧
      (message.data.length = 1 → ∀ other, other ≠ key →
        (cache.handleValues stamped).getValue other = cache.getValue other)

/-- The command sends one telegram, and the value is read back from it. -/
def SetsAndReadsBack (s t : Session) (key : CacheKey) (prints : String → Prop) : Prop :=
  ∃ message, t.parser.effects = s.parser.effects ++ [.send message] ∧ ReadBack message key prints

/-- The integer that a word begins with, in the notation of C. -/
def leadingInteger (word : String) : Int :=
  let st := (Scan.run (intStep true) intStart word.toList).1
  if st.negative then -(st.result : Int) else st.result

/-- The text is a date: three numbers of digits with a hyphen between two of them. -/
def DateText (text : String) (y m d : Nat) : Prop :=
  ∃ year month day, splitDate text.toList = some (year, month, day) ∧
    Natural year y ∧ Natural month m ∧ Natural day d

/-- A setting: the words of its command, where its value is cached, what is printed for the
    arguments, and the arguments that are meant. -/
structure Setting where
  command : List String
  key : CacheKey
  Prints : IStream → String → Prop
  Covers : IStream → Prop := fun _ => True

namespace Setting

/-- The word itself is printed. -/
def word (command : List String) (type : EmsValue.ValueType) (subtype : EmsValue.SubType) : Setting where
  command
  key := ⟨type, subtype⟩
  Prints arguments text := text = (nextWord arguments).1

/-- The number is printed that is left of the argument, as a `float`, in the steps of the setting. -/
def number (multiplier : Int) (command : List String) (type : EmsValue.ValueType)
    (subtype : EmsValue.SubType) : Setting where
  command
  key := ⟨type, subtype⟩
  Prints arguments text :=
    ∃ v ∈ arguments.readFloat.1, Decimal text ((truncate (multiplier * v) : Rat) / multiplier)

/-- The count is printed. -/
def count (command : List String) (type : EmsValue.ValueType) (subtype : EmsValue.SubType) : Setting where
  command
  key := ⟨type, subtype⟩
  Prints arguments text := Decimal text (leadingInteger (nextWord arguments).1)
  Covers arguments := 0 ≤ leadingInteger (nextWord arguments).1

/-- The same date is printed. -/
def date (command : List String) (type : EmsValue.ValueType) (subtype : EmsValue.SubType) : Setting where
  command
  key := ⟨type, subtype⟩
  Prints arguments text := ∃ y m d, DateText (nextWord arguments).1 y m d ∧ DateText text y m d
  Covers arguments := ∃ y m d, DateText (nextWord arguments).1 y m d

end Setting

/-- `hk1 temporarytemp` with a number in its range; any other word switches it off. -/
def temporaryTempSetting : Setting where
  command := ["hk1", "temporarytemp"]
  key := ⟨.temporaryTemp, .hk1⟩
  Prints := (Setting.number 2 [] .temporaryTemp .hk1).Prints
  Covers arguments := ∃ v ∈ arguments.readFloat.1, 5 ≤ v ∧ v ≤ 30

/-- The settings of `hk1`. -/
def hkSettings : List Setting :=
  [.word ["hk1", "mode"] .betriebsart .hk1,
    .number 2 ["hk1", "manualtemp"] .manualTemp .hk1,
    .number 2 ["hk1", "daytemperature"] .tagTemp .hk1,
    .number 2 ["hk1", "nighttemperature"] .nachtTemp .hk1,
    temporaryTempSetting,
    .number 2 ["hk1", "boosttemp"] .boostTemp .hk1,
    .number 1 ["hk1", "boosthours"] .boostHours .hk1,
    .word ["hk1", "activateboost"] .boostActive .hk1,
    .word ["hk1", "summeropmode"] .sommerbetriebsart .hk1,
    .number 1 ["hk1", "summerwinterthreshold"] .schwelleSommerWinter .hk1,
    .number 1 ["hk1", "designtemperature"] .auslegungsTemp .hk1,
    .number 1 ["hk1", "roomtemperatureoffset"] .raumOffset .hk1]

/-- The settings of `ww`. -/
def wwSettings : List Setting :=
  [.word ["ww", "mode"] .betriebsart .ww,
    .word ["ww", "zirkmode"] .betriebsart .zirkulation,
    .number 1 ["ww", "comforttemp"] .komfortTemp .ww,
    .number 1 ["ww", "reducedtemp"] .reduzierteTemp .ww,
    .number 1 ["ww", "extratemp"] .extraTemp .ww,
    .number 1 ["ww", "extra15mins"] .extra15Mins .ww,
    .number 1 ["ww", "zirksperhour"] .zirkProStunde .zirkulation,
    .word ["ww", "extra"] .extraActive .ww]

/-- The settings of `rc`. -/
def rcSettings : List Setting :=
  [.number 1 ["rc", "mintemperature"] .minTemp .rc,
    .word ["rc", "buildingtype"] .gebaeudeArt .rc,
    .word ["rc", "outdoortempdamping"] .atDaempfung .rc]

/-- `uba schedulemaintenance`: when to remind, and the date or the count that goes with it. -/
def ubaSettings : List Setting :=
  [.word ["uba", "schedulemaintenance"] .wartungsmeldungen .kessel,
    .date ["uba", "schedulemaintenance", "bydate"] .wartungstermin .kessel,
    .count ["uba", "schedulemaintenance", "byhours"] .hektoStundenVorWartung .kessel,
    .count ["uba", "schedulemaintenance", "bymonths"] .monateVorWartung .kessel]

def settings : List Setting := hkSettings ++ wwSettings ++ rcSettings ++ ubaSettings

/-- A telegram that the device at this address answers with, and that is read by its layout alone. -/
structure Answers (dest : UInt8) (type : UInt16) : Prop where
  address : (dest &&& 0x7f) ||| 0x80 = dest
  number : ∀ offset data, (EmsMessage.send dest type offset data false).getType = type
  noError : ¬ IsErrorTelegram dest type
  noMonitor : ¬ IsMonitorTelegram dest type

theorem hkConfiguration_answers : Answers EmsProto.addressUI800 0x01b9 :=
  ⟨rfl, fun _ _ => rfl, by decide, by decide⟩

theorem hkParameter_answers : Answers EmsProto.addressUI800 0x01af :=
  ⟨rfl, fun _ _ => rfl, by decide, by decide⟩

theorem wwConfiguration_answers : Answers EmsProto.addressUI800 0x01f5 :=
  ⟨rfl, fun _ _ => rfl, by decide, by decide⟩

theorem wwParameter_answers : Answers EmsProto.addressUBA2 0xea :=
  ⟨rfl, fun _ _ => rfl, by decide, by decide⟩

theorem systemParameter_answers : Answers EmsProto.addressUI800 0x0140 :=
  ⟨rfl, fun _ _ => rfl, by decide, by decide⟩

theorem maintenanceSettings_answers : Answers EmsProto.addressUBA2 0x15 :=
  ⟨rfl, fun _ _ => rfl, by decide, by decide⟩

section ReadBack

variable {dest : UInt8} {type : UInt16} {offset : UInt8} {data : List UInt8} {key : CacheKey}
  {prints : String → Prop}

/-- The values of the telegram, by its layout; only one of them has the key. -/
theorem readBack_of_emit (answers : Answers dest type)
    {values : List EmsValue} (emitted : emit (layoutOf dest type data) offset.toNat data = values)
    (distinct : (values.map EmsValue.key).Nodup) (single : data.length = 1 → values.length = 1)
    {value : EmsValue} (member : value ∈ values) (named : value.key = key)
    (valid : value.isValid = true) {text : String} (formatted : ValueApi.formatValue value = .ok text)
    (printed : prints text) : ReadBack (.send dest type offset data false) key prints := by
  intro m repeats
  have source : m.source = dest := repeats.source.trans answers.address
  have type' : m.getType = type := repeats.type.trans (answers.number offset data)
  have handled := handle_emits repeats.handled (by rw [source, type']; exact answers.noError)
    (by rw [source, type']; exact answers.noMonitor)
  have data' : m.data = data := repeats.data
  have offset' : m.offset = offset := repeats.offset
  rw [source, type', data', offset', emitted] at handled
  refine ⟨values, handled, fun cache stamped these => ⟨?_, fun one other different => ?_⟩⟩
  · obtain ⟨entry, inside, rfl⟩ : ∃ entry ∈ stamped, entry.2 = value := by
      rw [← these] at member
      exact List.mem_map.mp member
    have keys : (stamped.map (fun entry => entry.2.key)).Nodup := by
      rw [← these, List.map_map] at distinct
      exact distinct
    have cached := ValueCache.getValue_handleValues keys inside cache
    rw [named] at cached
    exact ⟨_, _, cached, valid, formatted, printed⟩
  · refine ValueCache.getValue_handleValues_other (fun entry inside => ?_) cache
    obtain ⟨only, rfl⟩ := List.length_eq_one_iff.mp (single one)
    have same : value = only := List.mem_singleton.mp member
    have entry' : entry.2 ∈ stamped.map Prod.snd := List.mem_map_of_mem inside
    rw [these, List.mem_singleton] at entry'
    rw [entry', ← same, named]
    exact different.symm

/-- A single byte with a single value. -/
theorem readBack_of_byte (answers : Answers dest type) {value : EmsValue}
    (emitted : emit (layoutOf dest type data) offset.toNat data = [value])
    (named : value.key = key) (valid : value.isValid = true) {text : String}
    (formatted : ValueApi.formatValue value = .ok text) (printed : prints text) :
    ReadBack (.send dest type offset data false) key prints :=
  readBack_of_emit answers emitted (List.nodup_singleton _) (fun _ => rfl)
    (List.mem_singleton_self value) named valid formatted printed

end ReadBack

/-! ## Words -/

section Keyword

variable {dest : UInt8} {type : UInt16} {offset : UInt8} {p : ApiCommandParser} {request : IStream}
  {t : Session}

theorem handleKeyword_ok {words : List (String × UInt8)}
    (ran : handleKeyword dest type offset words ⟨p, request⟩ = .ok .ok t) :
    ∃ data, ((nextWord request).1, data) ∈ words ∧
      t.parser.effects = p.effects ++ [.send (.send dest type offset [data] false)] := by
  unfold handleKeyword at ran
  rw [readWord_bind] at ran
  cases found : words.lookup (nextWord request).1 with
  | none =>
      rw [found] at ran
      cases ran
  | some data =>
      rw [found] at ran
      cases ran
      exact ⟨data, mem_of_lookup found, rfl⟩

/-- Every word of a command is printed for its byte. -/
theorem keyword_setsAndReadsBack {words : List (String × UInt8)} {key : CacheKey}
    (answers : Answers dest type)
    (names : ∀ entry ∈ words, ∃ value, emit (layoutOf dest type [entry.2]) offset.toNat [entry.2] = [value] ∧
      value.key = key ∧ value.isValid = true ∧ ValueApi.formatValue value = .ok entry.1)
    (ran : handleKeyword dest type offset words ⟨p, request⟩ = .ok .ok t) :
    SetsAndReadsBack ⟨p, request⟩ t key (· = (nextWord request).1) := by
  obtain ⟨data, member, sent⟩ := handleKeyword_ok ran
  obtain ⟨value, emitted, named, valid, formatted⟩ := names _ member
  exact ⟨_, sent, readBack_of_byte answers emitted named valid formatted rfl⟩

end Keyword

/-! ## Numbers -/

/-- The byte that a number is stored in. -/
def byteOf (k : Int) : UInt8 := UInt8.ofNat (k % 256).toNat

theorem byteOf_toNat (k : Int) : ((byteOf k).toNat : Int) = k % 256 := by
  have low := Int.emod_nonneg k (show (256 : Int) ≠ 0 by decide)
  have high := Int.emod_lt_of_pos k (show (0 : Int) < 256 by decide)
  unfold byteOf
  rw [UInt8.toNat_ofNat_of_lt' (by show (k % 256).toNat < 256; omega)]
  omega

/-- A byte is read back with its sign; -128 stands for no value. -/
theorem decodeInt_signed {k : Int} (low : -127 ≤ k) (high : k ≤ 127) :
    EmsValue.decodeInt [byteOf k] true = (k, true) := by
  have byte := byteOf_toNat k
  have number : EmsValue.bigEndian [byteOf k] = (byteOf k).toNat := Nat.zero_add _
  have top : (byteOf k).toNat &&& 2 ^ 7 = ((byteOf k).toNat / 2 ^ 7 % 2) * 2 ^ 7 := by
    rw [Nat.and_two_pow, Nat.testBit_eq_decide_div_mod_eq]
    rcases Nat.mod_two_eq_zero_or_one ((byteOf k).toNat / 2 ^ 7) with zero | one
    · rw [zero]
      rfl
    · rw [one]
      rfl
  unfold EmsValue.decodeInt
  simp only [number, List.length_singleton, if_true, Nat.mul_one, Nat.reduceSub, top]
  split
  · rename_i negative
    simp only [Prod.mk.injEq, decide_eq_true_eq]
    omega
  · rename_i positive
    simp only [Prod.mk.injEq, and_true]
    omega

theorem decodeInt_unsigned {k : Int} (low : 0 ≤ k) (high : k < 255) :
    EmsValue.decodeInt [byteOf k] false = (k, true) := by
  have byte := byteOf_toNat k
  have number : EmsValue.bigEndian [byteOf k] = (byteOf k).toNat := Nat.zero_add _
  unfold EmsValue.decodeInt
  simp only [number, List.length_singleton, Bool.false_eq_true, if_false, Prod.mk.injEq,
    decide_eq_true_eq]
  omega

/-- A number in a byte, in the steps that the setting has. -/
theorem ofField_signed {k : Int} (low : -127 ≤ k) (high : k ≤ 127) {divider : Nat}
    (nonzero : divider ≠ 0) (type : EmsValue.ValueType) (subtype : EmsValue.SubType) :
    EmsValue.ofField type subtype [byteOf k] divider true [] =
      { type, subType := subtype, readingType := .numeric
        value := .numeric ((k : Rat) / ((divider : Int) : Rat)), isValid := true } := by
  unfold EmsValue.ofField
  rw [decodeInt_signed low high]
  dsimp only
  rw [if_neg nonzero]
  rfl

/-- The temporary temperature is unsigned, and two bytes stand for no value. -/
theorem ofField_temperature {k : Int} (low : 0 ≤ k) (high : k < 125) (type : EmsValue.ValueType)
    (subtype : EmsValue.SubType) :
    EmsValue.ofField type subtype [byteOf k] 2 false invalidTemperatureValues =
      { type, subType := subtype, readingType := .numeric, value := .numeric ((k : Rat) / 2)
        isValid := true } := by
  have byte := byteOf_toNat k
  have lower : (0x7d : UInt8) ≠ byteOf k := by
    intro same
    rw [← same] at byte
    have : (125 : Int) = k % 256 := byte
    omega
  have upper : (0x83 : UInt8) ≠ byteOf k := by
    intro same
    rw [← same] at byte
    have : (131 : Int) = k % 256 := byte
    omega
  unfold EmsValue.ofField
  rw [decodeInt_unsigned low (by omega)]
  simp [invalidTemperatureValues, lower, upper]

/-- A `float` times 1 or 2 is not rounded. -/
theorem product_exact {v product : Rat} {multiplier : Int} (simple : multiplier = 1 ∨ multiplier = 2)
    (float : IsFloat v) (rounded : roundToFloat (multiplier * v) = some product) :
    product = multiplier * v := by
  have exact : IsFloat (multiplier * v) := by
    rcases simple with rfl | rfl
    · simpa using float
    · exact float.double
  rw [roundToFloat_self exact] at rounded
  split at rounded
  · exact (Option.some.inj rounded).symm
  · cases rounded

theorem readFloat_isFloat {request : IStream} {v : Rat} (read : request.readFloat.1 = some v) :
    IsFloat v := by
  rw [readFloat_word] at read
  unfold finishFloat at read
  split at read
  · exact (roundToFloat_isFloat read).1
  · cases read

section Number

variable {dest : UInt8} {type : UInt16} {offset : UInt8} {p : ApiCommandParser} {request : IStream}
  {t : Session} {multiplier min max : Int}

theorem handleSingleByteValue_read :
    handleSingleByteValue dest type offset multiplier min max ⟨p, request⟩ =
      (match request.readFloat.1.bind (singleByteOf · multiplier min max) with
        | some valueByte => (do
            update (·.sendCommand dest type offset [valueByte])
            pure .ok : RequestM CommandResult)
        | none => pure .invalidArgs) ⟨p, request.readFloat.2⟩ :=
  rfl

/-- A number that is taken is sent truncated. -/
theorem handleSingleByteValue_ok (simple : multiplier = 1 ∨ multiplier = 2)
    (ran : handleSingleByteValue dest type offset multiplier min max ⟨p, request⟩ = .ok .ok t) :
    ∃ v, request.readFloat.1 = some v ∧ min * multiplier ≤ truncate (multiplier * v) ∧
      truncate (multiplier * v) ≤ max * multiplier ∧
      t.parser.effects =
        p.effects ++ [.send (.send dest type offset [byteOf (truncate (multiplier * v))] false)] := by
  rw [handleSingleByteValue_read] at ran
  cases read : request.readFloat.1 with
  | none =>
      rw [read] at ran
      cases ran
  | some v =>
      rw [read, Option.bind_some] at ran
      cases byte : singleByteOf v multiplier min max with
      | none =>
          rw [byte] at ran
          cases ran
      | some valueByte =>
          rw [byte] at ran
          cases ran
          unfold singleByteOf at byte
          cases rounded : roundToFloat (multiplier * v) with
          | none =>
              rw [rounded] at byte
              cases byte
          | some product =>
              have exact := product_exact simple (readFloat_isFloat read) rounded
              rw [rounded] at byte
              have byte : (if truncate product < min * multiplier ∨ truncate product > max * multiplier
                then none else some (byteOf (truncate product))) = some valueByte := byte
              rw [exact] at byte
              split at byte
              · cases byte
              · rename_i within
                cases byte
                exact ⟨v, rfl, by omega, by omega, rfl⟩

/-- A number in the steps of a setting is printed exactly. -/
theorem decimal_steps (simple : multiplier = 1 ∨ multiplier = 2) {k : Int} (bound : |k| < 100000) :
    Decimal (formatFloat ((k : Rat) / multiplier)) ((k : Rat) / multiplier) := by
  rcases simple with rfl | rfl
  · have read := @decimal_half (2 * k) (by rw [abs_mul]; norm_num; omega)
    have same : ((2 * k : Int) : Rat) / 2 = (k : Rat) / ((1 : Int) : Rat) := by
      push_cast
      ring
    rw [same] at read
    exact read
  · exact decimal_half (by omega)

/-- Every number that is taken is printed, in the steps of the setting. -/
theorem number_setsAndReadsBack {key : CacheKey} (simple : multiplier = 1 ∨ multiplier = 2)
    (answers : Answers dest type)
    (bounds : -128 < min * multiplier ∧ max * multiplier < 128)
    (field : ∀ k, min * multiplier ≤ k → k ≤ max * multiplier →
      emit (layoutOf dest type [byteOf k]) offset.toNat [byteOf k] =
        [{ type := key.type, subType := key.subtype, readingType := .numeric
           value := .numeric ((k : Rat) / multiplier), isValid := true }])
    (ran : handleSingleByteValue dest type offset multiplier min max ⟨p, request⟩ = .ok .ok t) :
    SetsAndReadsBack ⟨p, request⟩ t key (fun text => ∃ v ∈ request.readFloat.1,
      Decimal text ((truncate (multiplier * v) : Rat) / multiplier)) := by
  obtain ⟨small, large⟩ := bounds
  obtain ⟨v, read, low, high, sent⟩ := handleSingleByteValue_ok simple ran
  have bound : |truncate (multiplier * v)| < 100000 := by
    rw [abs_lt]
    omega
  exact ⟨_, sent, readBack_of_byte answers (field _ low high) rfl rfl rfl
    ⟨v, read, decimal_steps simple bound⟩⟩

/-- A setting of one signed byte. -/
theorem signed_setsAndReadsBack {key : CacheKey} {divider : Nat} (simple : divider = 1 ∨ divider = 2)
    (answers : Answers dest type)
    (bounds : -128 < min * (divider : Int) ∧ max * (divider : Int) < 128)
    (field : ∀ b, emit (layoutOf dest type [b]) offset.toNat [b] =
      [.ofField key.type key.subtype [b] divider true []])
    (ran : handleSingleByteValue dest type offset divider min max ⟨p, request⟩ = .ok .ok t) :
    SetsAndReadsBack ⟨p, request⟩ t key (fun text => ∃ v ∈ request.readFloat.1,
      Decimal text ((truncate ((divider : Int) * v) : Rat) / (divider : Int))) := by
  refine number_setsAndReadsBack (by omega) answers bounds ?_ ran
  intro k low high
  obtain ⟨small, large⟩ := bounds
  rw [field, ofField_signed (by omega) (by omega) (by omega)]

end Number

/-! ## The temporary temperature -/

theorem truncate_between {q : Rat} {low high : Int} (positive : 0 ≤ low) (below : low ≤ q)
    (above : q ≤ high) : low ≤ truncate q ∧ truncate q ≤ high := by
  have natural : ¬ q < 0 := by
    have : (0 : Rat) ≤ low := by exact_mod_cast positive
    linarith
  unfold truncate
  rw [if_neg natural]
  refine ⟨Rat.le_floor_iff.mpr below, ?_⟩
  exact_mod_cast (Rat.floor_le q).trans above

/-- A temperature in its range does not switch the temporary temperature off. -/
theorem handleTemporaryTemp_ok {p : ApiCommandParser} {request : IStream} {t : Session}
    (covered : ∃ v ∈ request.readFloat.1, 5 ≤ v ∧ v ≤ 30)
    (ran : handleTemporaryTemp ⟨p, request⟩ = .ok .ok t) :
    handleSingleByteValue EmsProto.addressUI800 0x01b9 8 2 5 30 ⟨p, request⟩ = .ok .ok t := by
  obtain ⟨v, read, low, high⟩ := covered
  have read : request.readFloat.1 = some v := read
  have small : |2 * v| < (2 : Rat) ^ (128 : Int) := by
    rw [abs_lt]
    constructor
    · have : (0 : Rat) < (2 : Rat) ^ (128 : Int) := by norm_num
      linarith
    · norm_num
      linarith
  have product : roundToFloat (((2 : Int) : Rat) * v) = some (2 * v) := by
    have float := roundToFloat_self (readFloat_isFloat read).double
    rw [if_pos small] at float
    exact_mod_cast float
  have between := @truncate_between (2 * v) 10 60 (by decide) (by push_cast; linarith)
    (by push_cast; linarith)
  have taken : (singleByteOf v 2 5 30).isSome = true :=
    Domain.singleByteOf_isSome.mpr ⟨2 * v, product, between.1, between.2⟩
  obtain ⟨valueByte, byte⟩ := Option.isSome_iff_exists.mp taken
  have first : handleSingleByteValue EmsProto.addressUI800 0x01b9 8 2 5 30 ⟨p, request⟩ =
      .ok .ok ⟨p.sendCommand EmsProto.addressUI800 0x01b9 8 [valueByte], request.readFloat.2⟩ := by
    rw [handleSingleByteValue_read, read, Option.bind_some, byte]
    rfl
  obtain ⟨result, u, ran', rest⟩ := bind_ok ran
  rw [first] at ran' ⊢
  cases ran'
  exact rest

/-! ## The maintenance -/

theorem decimal_toString (n : Nat) : Decimal (toString n) n := by
  have read := decimal_of_digits false (@Nat.toDigits_ne_nil n 10) (toDigits_isDigit n)
    (fun _ member => nomatch member : ∀ c ∈ ([] : List Char), c.isDigit = true)
  rw [Nat.toString_eq_ofList_toDigits]
  simpa using read

/-- The telegram of a reminder that is well-formed. -/
theorem schedule_ok {data : Option (List UInt8)} {p : ApiCommandParser} {request : IStream}
    {t : Session}
    (ran : (match data with
      | some data => (do
          update (·.sendCommand EmsProto.addressUBA2 0x15 0 data)
          pure .ok : RequestM CommandResult)
      | none => pure .invalidArgs) ⟨p, request⟩ = .ok .ok t) :
    ∃ bytes, data = some bytes ∧
      t.parser.effects = p.effects ++ [.send (.send EmsProto.addressUBA2 0x15 0 bytes false)] := by
  cases data with
  | none => cases ran
  | some bytes =>
      cases ran
      exact ⟨bytes, rfl, rfl⟩

/-- What `uba schedulemaintenance` sends: when to remind, a number of hours, a date and a number of
    months, of which only one comes from the request. -/
theorem handleScheduleMaintenance_ok {p : ApiCommandParser} {request : IStream} {t : Session}
    (ran : handleScheduleMaintenance ⟨p, request⟩ = .ok .ok t) :
    ∃ (code hours months : UInt8) (date : DateRecord),
      t.parser.effects = p.effects ++ [.send (.send EmsProto.addressUBA2 0x15 0
        [code, hours, date.day, date.month, date.year, months] false)] ∧
      ValueApi.maintenanceMessagesMapping.lookup code = some (nextWord request).1 ∧
      ((nextWord request).1 = "bydate" →
        parseHolidayEntry (nextWord (nextWord request).2).1 = some date) ∧
      ((nextWord request).1 = "byhours" →
        ∃ n ∈ ((nextWord request).2.readUnsigned true).1, n ≤ 60 ∧ hours = n.toUInt8) ∧
      ((nextWord request).1 = "bymonths" →
        ∃ n ∈ ((nextWord request).2.readUnsigned true).1, n ≤ 12 ∧ months = n.toUInt8) := by
  unfold handleScheduleMaintenance at ran
  rw [readWord_bind] at ran
  generalize nextWord request = word at ran ⊢
  obtain ⟨kind, arguments⟩ := word
  dsimp only at ran ⊢
  by_cases bydate : kind = "bydate"
  · subst bydate
    obtain ⟨bytes, built, sent⟩ := @schedule_ok
      ((arguments.readString.1.bind parseHolidayEntry).map
        (fun date : DateRecord => [2, 60, date.day, date.month, date.year, 12])) p _ t ran
    obtain ⟨date, parsed, rfl⟩ := Option.map_eq_some_iff.mp built
    obtain ⟨text, due, parsed⟩ := Option.bind_eq_some_iff.mp parsed
    refine ⟨2, 60, 12, date, sent, rfl, fun _ => ?_, fun other => absurd other (by decide),
      fun other => absurd other (by decide)⟩
    unfold nextWord
    rw [due]
    exact parsed
  rw [if_neg bydate] at ran
  by_cases byhours : kind = "byhours"
  · subst byhours
    rw [if_pos rfl] at ran
    obtain ⟨bytes, built, sent⟩ := @schedule_ok
      (((arguments.readUnsigned true).1.filter (fun n : UInt32 => n ≤ 60)).map
        (fun hours : UInt32 => [1, hours.toUInt8, 1, 1, 50, 12])) p (arguments.readUnsigned true).2 t ran
    obtain ⟨n, read, rfl⟩ := Option.map_eq_some_iff.mp built
    obtain ⟨count, bound⟩ := Option.filter_eq_some_iff.mp read
    exact ⟨1, n.toUInt8, 12, ⟨1, 1, 50⟩, sent, rfl, fun other => absurd other (by decide),
      fun _ => ⟨n, count, of_decide_eq_true bound, rfl⟩, fun other => absurd other (by decide)⟩
  rw [if_neg byhours] at ran
  by_cases bymonths : kind = "bymonths"
  · subst bymonths
    rw [if_pos rfl] at ran
    obtain ⟨bytes, built, sent⟩ := @schedule_ok
      (((arguments.readUnsigned true).1.filter (fun n : UInt32 => n ≤ 12)).map
        (fun months : UInt32 => [3, 60, 1, 1, 50, months.toUInt8])) p (arguments.readUnsigned true).2 t ran
    obtain ⟨n, read, rfl⟩ := Option.map_eq_some_iff.mp built
    obtain ⟨count, bound⟩ := Option.filter_eq_some_iff.mp read
    exact ⟨3, 60, n.toUInt8, ⟨1, 1, 50⟩, sent, rfl, fun other => absurd other (by decide),
      fun other => absurd other (by decide), fun _ => ⟨n, count, of_decide_eq_true bound, rfl⟩⟩
  rw [if_neg bymonths] at ran
  by_cases off : kind = "off"
  · subst off
    obtain ⟨bytes, built, sent⟩ := @schedule_ok (some [0, 60, 1, 1, 50, 12]) p _ t ran
    cases built
    exact ⟨0, 60, 12, ⟨1, 1, 50⟩, sent, rfl, fun other => absurd other (by decide),
      fun other => absurd other (by decide), fun other => absurd other (by decide)⟩
  · rw [if_neg off] at ran
    cases ran

/-- A count of one byte; 255 stands for no value. -/
theorem ofField_count {n : UInt32} (small : n.toNat < 255) (type : EmsValue.ValueType)
    (subtype : EmsValue.SubType) :
    EmsValue.ofField type subtype [n.toUInt8] 0 false [] =
      { type, subType := subtype, readingType := .integer, value := .integer n, isValid := true } := by
  have byte : n.toUInt8 = byteOf n.toNat := by
    apply UInt8.toNat_inj.mp
    have value := byteOf_toNat n.toNat
    rw [UInt32.toNat_toUInt8]
    omega
  have same : UInt32.ofInt n.toNat = n := by
    show UInt32.ofNat ((n.toNat : Int) % 2 ^ 32).toNat = n
    have bound := n.toNat_lt
    have whole : ((n.toNat : Int) % 2 ^ 32).toNat = n.toNat := by omega
    rw [whole, UInt32.ofNat_toNat]
  unfold EmsValue.ofField
  rw [byte, decodeInt_unsigned (by omega) (by omega)]
  simp [same]

/-- The four values of the telegram have different keys. -/
theorem maintenance_readBack {code hours months : UInt8} {date : DateRecord} {key : CacheKey}
    {prints : String → Prop} {value : EmsValue}
    (member : value ∈ [EmsValue.ofEnum .wartungsmeldungen .kessel code,
      .ofField .hektoStundenVorWartung .kessel [hours] 0 false [],
      .ofField .monateVorWartung .kessel [months] 0 false [], .ofDate .wartungstermin .kessel date])
    (named : value.key = key) (valid : value.isValid = true) {text : String}
    (formatted : ValueApi.formatValue value = .ok text) (printed : prints text) :
    ReadBack (.send EmsProto.addressUBA2 0x15 0
      [code, hours, date.day, date.month, date.year, months] false) key prints := by
  have emitted : emit (layoutOf EmsProto.addressUBA2 0x15
      [code, hours, date.day, date.month, date.year, months]) (0 : UInt8).toNat
      [code, hours, date.day, date.month, date.year, months] =
    [EmsValue.ofEnum .wartungsmeldungen .kessel code,
      .ofField .hektoStundenVorWartung .kessel [hours] 0 false [],
      .ofField .monateVorWartung .kessel [months] 0 false [],
      .ofDate .wartungstermin .kessel date] := rfl
  refine readBack_of_emit maintenanceSettings_answers emitted ?_ nofun member named valid
    formatted printed
  simp [EmsValue.ofEnum, EmsValue.ofDate, EmsValue.key]

/-- A count that is not negative is read as it is. -/
theorem count_read {request : IStream} {n : UInt32}
    (covered : 0 ≤ leadingInteger (nextWord request).1)
    (read : (request.readUnsigned true).1 = some n) : leadingInteger (nextWord request).1 = n.toNat := by
  rw [readUnsigned_word] at read
  unfold leadingInteger at covered ⊢
  obtain ⟨-, natural⟩ := Domain.finishUnsigned_some read
  dsimp only at covered ⊢
  split at covered
  · rename_i negative
    rw [natural (fun both => by omega), if_pos negative]
    omega
  · rename_i positive
    rw [natural (fun both => positive both.1), if_neg positive]

/-- A count is printed as it was given. -/
theorem count_shown {request : IStream} {n : UInt32} (covered : 0 ≤ leadingInteger (nextWord request).1)
    (read : (request.readUnsigned true).1 = some n) (small : n.toNat < 255)
    (type : EmsValue.ValueType) (subtype : EmsValue.SubType) :
    (EmsValue.ofField type subtype [n.toUInt8] 0 false []).key = ⟨type, subtype⟩ ∧
      (EmsValue.ofField type subtype [n.toUInt8] 0 false []).isValid = true ∧
      ValueApi.formatValue (.ofField type subtype [n.toUInt8] 0 false []) = .ok (toString n.toNat) ∧
      Decimal (toString n.toNat) (leadingInteger (nextWord request).1) := by
  rw [ofField_count small, count_read covered read]
  exact ⟨rfl, rfl, rfl, by exact_mod_cast decimal_toString n.toNat⟩

/-- The printed digits of a number. -/
theorem natural_formatDec (width n : Nat) : Natural (formatDec width n).toList n := by
  refine ⟨_, .inl rfl, ?_, ?_, ?_⟩
  · rw [formatDec_toList]
    exact List.append_ne_nil_of_right_ne_nil _ Nat.toDigits_ne_nil
  · rw [List.all_eq_true]
    intro c member
    simpa [Char.isDigit, Char.le_def, UInt32.le_iff_toNat_le] using formatDec_isDigit width n c member
  · have value := formatDec_value width n 0
    rw [Nat.ofDigitChars_eq_foldl, Nat.mul_zero, Nat.zero_add] at value
    simpa only [Nat.mul_comm 10] using value.symm

theorem span_hyphen {front : List Char} (numeral : ∀ c ∈ front, c.isDigit = true) (rest : List Char) :
    (front ++ '-' :: rest).span (· ≠ '-') = (front, '-' :: rest) := by
  have other : ∀ c ∈ front, (decide (c ≠ '-')) = true := by
    intro c member
    refine decide_eq_true ?_
    rintro rfl
    cases numeral _ member
  rw [List.span_eq_takeWhile_dropWhile, List.takeWhile_append_of_pos other,
    List.dropWhile_append_of_pos other]
  simp

/-- A printed date is a date. -/
theorem dateText_formatDate (year month day : UInt8) :
    DateText (ValueApi.formatDate year month day) (2000 + year.toNat) month.toNat day.toNat := by
  refine ⟨_, _, _, ?_, natural_formatDec 4 _, natural_formatDec 2 _, natural_formatDec 2 _⟩
  have text : (ValueApi.formatDate year month day).toList =
      (formatDec 4 (2000 + year.toNat)).toList ++ '-' :: ((formatDec 2 month.toNat).toList ++
        '-' :: (formatDec 2 day.toNat).toList) := by
    simp [ValueApi.formatDate]
  rw [text]
  unfold splitDate
  rw [span_hyphen (formatDec_isDigit _ _)]
  dsimp only
  rw [span_hyphen (formatDec_isDigit _ _)]

/-- A date of digits is read as it is. -/
theorem date_read {word : String} {date : DateRecord} (covered : ∃ y m d, DateText word y m d)
    (parsed : parseHolidayEntry word = some date) :
    DateText word (2000 + date.year.toNat) date.month.toNat date.day.toNat := by
  obtain ⟨y, m, d, year, month, day, split, -, -, natural⟩ := covered
  obtain ⟨year', month', day', d', split', naturalYear, naturalMonth, readDay, value, -, -, -⟩ :=
    Domain.parseHolidayEntry_some parsed
  cases split.symm.trans split'
  have naturalDay := Domain.lexicalCast_natural (Domain.natural_unsigned natural) readDay
  rw [value] at naturalDay
  exact ⟨year, month, day, split, naturalYear, naturalMonth, naturalDay⟩

/-! ## The commands -/

section Commands

variable {env : Env} {s t : Session} {arguments : IStream}

/-- The subcommand that the second word names. -/
theorem subcommand_ran {category name : String} {table : List (String × RequestM CommandResult)}
    {m : RequestM CommandResult}
    (handler : (commands env).lookup category = some (do
      let cmd ← readWord
      select cmd table))
    (entry : table.lookup name = some m) (named : Begins [category, name] s.request arguments)
    (accepted : parse env s = .ok .ok t) : m ⟨s.parser, arguments⟩ = .ok .ok t := by
  obtain ⟨first, second, rfl⟩ := named
  have ran : parseCommand env s = .ok .ok t := by
    unfold parse at accepted
    split at accepted
    · cases accepted
    · exact accepted
  unfold parseCommand at ran
  rw [readWord_bind, first] at ran
  unfold select at ran
  rw [handler, Option.getD_some, readWord_bind, second] at ran
  unfold select at ran
  rw [entry, Option.getD_some] at ran
  exact ran

theorem hk_readBack {setting : Setting} (listed : setting ∈ hkSettings)
    (named : Begins setting.command s.request arguments) (covered : setting.Covers arguments)
    (accepted : parse env s = .ok .ok t) :
    SetsAndReadsBack s t setting.key (setting.Prints arguments) := by
  have ran {name : String} {m : RequestM CommandResult} (entry : hkCommands.lookup name = some m)
      (named : Begins ["hk1", name] s.request arguments) : m ⟨s.parser, arguments⟩ = .ok .ok t :=
    subcommand_ran rfl entry named accepted
  have one : 1 = 1 ∨ 1 = 2 := .inl rfl
  have two : 2 = 1 ∨ 2 = 2 := .inr rfl
  simp only [hkSettings, List.mem_cons, List.not_mem_nil, or_false] at listed
  rcases listed with rfl | rfl | rfl | rfl | rfl | rfl | rfl | rfl | rfl | rfl | rfl | rfl
  · refine keyword_setsAndReadsBack hkConfiguration_answers ?_ (ran rfl named)
    simp only [List.mem_cons, List.not_mem_nil, or_false, forall_eq_or_imp, forall_eq]
    exact ⟨⟨_, rfl, rfl, rfl, rfl⟩, ⟨_, rfl, rfl, rfl, rfl⟩, ⟨_, rfl, rfl, rfl, rfl⟩⟩
  · exact signed_setsAndReadsBack two hkConfiguration_answers (by decide) (fun _ => rfl) (ran rfl named)
  · exact signed_setsAndReadsBack two hkConfiguration_answers (by decide) (fun _ => rfl) (ran rfl named)
  · exact signed_setsAndReadsBack two hkConfiguration_answers (by decide) (fun _ => rfl) (ran rfl named)
  · have taken := handleTemporaryTemp_ok covered (ran rfl named)
    refine number_setsAndReadsBack (.inr rfl) hkConfiguration_answers (by decide)
      (fun k low high => ?_) taken
    exact congrArg (fun value => [value]) (ofField_temperature (by omega) (by omega) _ _)
  · exact signed_setsAndReadsBack two hkConfiguration_answers (by decide) (fun _ => rfl) (ran rfl named)
  · exact signed_setsAndReadsBack one hkConfiguration_answers (by decide) (fun _ => rfl) (ran rfl named)
  · refine keyword_setsAndReadsBack hkConfiguration_answers ?_ (ran rfl named)
    simp only [List.mem_cons, List.not_mem_nil, or_false, forall_eq_or_imp, forall_eq]
    exact ⟨⟨_, rfl, rfl, rfl, rfl⟩, ⟨_, rfl, rfl, rfl, rfl⟩⟩
  · refine keyword_setsAndReadsBack hkParameter_answers ?_ (ran rfl named)
    simp only [List.mem_cons, List.not_mem_nil, or_false, forall_eq_or_imp, forall_eq]
    exact ⟨⟨_, rfl, rfl, rfl, rfl⟩, ⟨_, rfl, rfl, rfl, rfl⟩⟩
  · exact signed_setsAndReadsBack one hkParameter_answers (by decide) (fun _ => rfl) (ran rfl named)
  · exact signed_setsAndReadsBack one hkParameter_answers (by decide) (fun _ => rfl) (ran rfl named)
  · exact signed_setsAndReadsBack one hkParameter_answers (by decide) (fun _ => rfl) (ran rfl named)

theorem ww_readBack {setting : Setting} (listed : setting ∈ wwSettings)
    (named : Begins setting.command s.request arguments) (accepted : parse env s = .ok .ok t) :
    SetsAndReadsBack s t setting.key (setting.Prints arguments) := by
  have ran {name : String} {m : RequestM CommandResult} (entry : wwCommands.lookup name = some m)
      (named : Begins ["ww", name] s.request arguments) : m ⟨s.parser, arguments⟩ = .ok .ok t :=
    subcommand_ran rfl entry named accepted
  have one : 1 = 1 ∨ 1 = 2 := .inl rfl
  simp only [wwSettings, List.mem_cons, List.not_mem_nil, or_false] at listed
  rcases listed with rfl | rfl | rfl | rfl | rfl | rfl | rfl | rfl
  · refine keyword_setsAndReadsBack wwConfiguration_answers ?_ (ran rfl named)
    simp only [List.mem_cons, List.not_mem_nil, or_false, forall_eq_or_imp, forall_eq]
    exact ⟨⟨_, rfl, rfl, rfl, rfl⟩, ⟨_, rfl, rfl, rfl, rfl⟩, ⟨_, rfl, rfl, rfl, rfl⟩,
      ⟨_, rfl, rfl, rfl, rfl⟩, ⟨_, rfl, rfl, rfl, rfl⟩⟩
  · refine keyword_setsAndReadsBack wwConfiguration_answers ?_ (ran rfl named)
    simp only [List.mem_cons, List.not_mem_nil, or_false, forall_eq_or_imp, forall_eq]
    exact ⟨⟨_, rfl, rfl, rfl, rfl⟩, ⟨_, rfl, rfl, rfl, rfl⟩, ⟨_, rfl, rfl, rfl, rfl⟩,
      ⟨_, rfl, rfl, rfl, rfl⟩⟩
  · exact signed_setsAndReadsBack one wwParameter_answers (by decide) (fun _ => rfl) (ran rfl named)
  · exact signed_setsAndReadsBack one wwParameter_answers (by decide) (fun _ => rfl) (ran rfl named)
  · exact signed_setsAndReadsBack one wwParameter_answers (by decide) (fun _ => rfl) (ran rfl named)
  · exact signed_setsAndReadsBack one wwConfiguration_answers (by decide) (fun _ => rfl) (ran rfl named)
  · exact signed_setsAndReadsBack one wwParameter_answers (by decide) (fun _ => rfl) (ran rfl named)
  · refine keyword_setsAndReadsBack wwConfiguration_answers ?_ (ran rfl named)
    simp only [List.mem_cons, List.not_mem_nil, or_false, forall_eq_or_imp, forall_eq]
    exact ⟨⟨_, rfl, rfl, rfl, rfl⟩, ⟨_, rfl, rfl, rfl, rfl⟩⟩

theorem rc_readBack {setting : Setting} (listed : setting ∈ rcSettings)
    (named : Begins setting.command s.request arguments) (accepted : parse env s = .ok .ok t) :
    SetsAndReadsBack s t setting.key (setting.Prints arguments) := by
  have ran {name : String} {m : RequestM CommandResult} (entry : (rcCommands env).lookup name = some m)
      (named : Begins ["rc", name] s.request arguments) : m ⟨s.parser, arguments⟩ = .ok .ok t :=
    subcommand_ran rfl entry named accepted
  have one : 1 = 1 ∨ 1 = 2 := .inl rfl
  simp only [rcSettings, List.mem_cons, List.not_mem_nil, or_false] at listed
  rcases listed with rfl | rfl | rfl
  · exact signed_setsAndReadsBack one systemParameter_answers (by decide) (fun _ => rfl) (ran rfl named)
  · refine keyword_setsAndReadsBack systemParameter_answers ?_ (ran rfl named)
    simp only [List.mem_cons, List.not_mem_nil, or_false, forall_eq_or_imp, forall_eq]
    exact ⟨⟨_, rfl, rfl, rfl, rfl⟩, ⟨_, rfl, rfl, rfl, rfl⟩, ⟨_, rfl, rfl, rfl, rfl⟩⟩
  · refine keyword_setsAndReadsBack systemParameter_answers ?_ (ran rfl named)
    simp only [List.mem_cons, List.not_mem_nil, or_false, forall_eq_or_imp, forall_eq]
    exact ⟨⟨_, rfl, rfl, rfl, rfl⟩, ⟨_, rfl, rfl, rfl, rfl⟩⟩

theorem uba_readBack {setting : Setting} (listed : setting ∈ ubaSettings)
    (named : Begins setting.command s.request arguments) (covered : setting.Covers arguments)
    (accepted : parse env s = .ok .ok t) :
    SetsAndReadsBack s t setting.key (setting.Prints arguments) := by
  have ran {request : IStream} (named : Begins ["uba", "schedulemaintenance"] s.request request) :
      handleScheduleMaintenance ⟨s.parser, request⟩ = .ok .ok t :=
    @subcommand_ran env s t request _ _ (ubaCommands env) _ rfl rfl named accepted
  simp only [ubaSettings, List.mem_cons, List.not_mem_nil, or_false] at listed
  rcases listed with rfl | rfl | rfl | rfl
  · obtain ⟨code, hours, months, date, sent, name, -, -, -⟩ := handleScheduleMaintenance_ok (ran named)
    have formatted : ValueApi.formatValue (.ofEnum .wartungsmeldungen .kessel code) =
        .ok (nextWord arguments).1 := by
      show Except.ok ((ValueApi.maintenanceMessagesMapping.lookup code).getD _) = _
      rw [name, Option.getD_some]
    exact ⟨_, sent, maintenance_readBack (List.mem_cons_self ..) rfl rfl formatted rfl⟩
  · obtain ⟨category, kind, word, rfl⟩ := named
    obtain ⟨code, hours, months, date, sent, -, due, -, -⟩ :=
      handleScheduleMaintenance_ok (ran ⟨category, kind, rfl⟩)
    exact ⟨_, sent, maintenance_readBack (.tail _ (.tail _ (.tail _ (.head _)))) rfl rfl rfl
      ⟨_, _, _, date_read covered (due word), dateText_formatDate ..⟩⟩
  · obtain ⟨category, kind, word, rfl⟩ := named
    obtain ⟨code, hours, months, date, sent, -, -, count, -⟩ :=
      handleScheduleMaintenance_ok (ran ⟨category, kind, rfl⟩)
    obtain ⟨n, read, small, rfl⟩ := count word
    have bound : n.toNat ≤ 60 := small
    obtain ⟨named, valid, formatted, printed⟩ := count_shown covered read (by omega)
      .hektoStundenVorWartung .kessel
    exact ⟨_, sent, maintenance_readBack (.tail _ (.head _)) named valid formatted printed⟩
  · obtain ⟨category, kind, word, rfl⟩ := named
    obtain ⟨code, hours, months, date, sent, -, -, -, count⟩ :=
      handleScheduleMaintenance_ok (ran ⟨category, kind, rfl⟩)
    obtain ⟨n, read, small, rfl⟩ := count word
    have bound : n.toNat ≤ 12 := small
    obtain ⟨named, valid, formatted, printed⟩ := count_shown covered read (by omega)
      .monateVorWartung .kessel
    exact ⟨_, sent, maintenance_readBack (.tail _ (.tail _ (.head _))) named valid formatted printed⟩

/-- The value of a setting that is accepted is read back. -/
theorem setting_read_back {setting : Setting} (listed : setting ∈ settings)
    (named : Begins setting.command s.request arguments) (covered : setting.Covers arguments)
    (accepted : parse env s = .ok .ok t) :
    SetsAndReadsBack s t setting.key (setting.Prints arguments) := by
  simp only [settings, List.mem_append] at listed
  rcases listed with ((hk | ww) | rc) | uba
  · exact hk_readBack hk named covered accepted
  · exact ww_readBack ww named accepted
  · exact rc_readBack rc named accepted
  · exact uba_readBack uba named covered accepted

end Commands

/-- A parser that is free, with a line. -/
def sessionOf (line : String) : Session :=
  ⟨(default : { p : ApiCommandParser // p.Fresh }), .ofChars line.toList⟩

/-- An environment without a cache and without times. -/
def plainEnv : Env := ⟨none, fun request => (none, request), 0⟩

/-- The session after a line. -/
def after (line : String) : Session := final (parse plainEnv (sessionOf line))

/-- The line is accepted. -/
def accepts (line : String) : Bool :=
  match parse plainEnv (sessionOf line) with
  | .ok .ok _ => true
  | _ => false

theorem accepts_ran {line : String} (accepted : accepts line = true) :
    parse plainEnv (sessionOf line) = .ok .ok (after line) := by
  unfold accepts at accepted
  unfold after
  split at accepted
  · rename_i t ran
    rw [ran]
    rfl
  · cases accepted

/-- Half degrees are read back. -/
theorem manualtemp_read_back :
    SetsAndReadsBack (sessionOf "hk1 manualtemp 22.5\n") (after "hk1 manualtemp 22.5\n")
      ⟨.manualTemp, .hk1⟩
      ((Setting.number 2 ["hk1", "manualtemp"] .manualTemp .hk1).Prints (.ofChars " 22.5\n".toList)) :=
  @setting_read_back plainEnv (sessionOf "hk1 manualtemp 22.5\n") (after "hk1 manualtemp 22.5\n") _
    (.number 2 ["hk1", "manualtemp"] .manualTemp .hk1)
    (List.mem_append_left _ (List.mem_append_left _ (List.mem_append_left _ (.tail _ (.head _)))))
    ⟨rfl, rfl, rfl⟩ trivial (accepts_ran (by decide +kernel))

theorem decimal_unique {text : String} {a b : Rat} (first : Decimal text a) (second : Decimal text b) :
    a = b := by
  obtain ⟨st, read, -, rfl⟩ := first
  obtain ⟨st', read', -, rfl⟩ := second
  cases read.symm.trans read'
  rfl

/-- The word is an integer; with `anyBase` in the notation of C. -/
def Integer (anyBase : Bool) (word : String) (n : Int) : Prop :=
  ∃ st, Scan.run (IStream.intStep anyBase) IStream.intStart word.toList = (st, []) ∧
    st.wellFormed = true ∧ n = if st.negative then -(st.result : Int) else st.result

/-- What is printed when the telegram reaches an empty cache. -/
theorem SetsAndReadsBack.printed {s t : Session} {key : CacheKey} {prints : String → Prop}
    (sets : SetsAndReadsBack s t key prints) {message m : EmsMessage} {values : List EmsValue}
    (sent : t.parser.effects = s.parser.effects ++ [.send message]) (repeats : Repeats m message)
    (handled : m.handle = .ok values) {value : EmsValue} {text : String}
    (cached : (ValueCache.handleValues ⟨[]⟩ (values.map (fun v => (0, v)))).getValue key = some value)
    (formatted : ValueApi.formatValue value = .ok text) : prints text := by
  obtain ⟨message', sent', back⟩ := sets
  have same : message' = message := by
    have effects := List.append_cancel_left (sent'.symm.trans sent)
    simpa using effects
  obtain ⟨values', handled', shown⟩ := back m (same ▸ repeats)
  cases handled.symm.trans handled'
  obtain ⟨⟨value', text', cached', -, formatted', prints⟩, -⟩ :=
    shown ⟨[]⟩ (values.map (fun v => (0, v))) (by simp [Function.comp_def])
  cases cached.symm.trans cached'
  cases formatted.symm.trans formatted'
  exact prints

/-- A number just below the next step is rounded up to it when it is read as a `float`, and a count
    far below zero passes for a positive one. -/
theorem rounded_number_not_read_back :
    ¬ (∀ (env : Env) (s t : Session) (arguments : IStream) (v : Rat),
      Begins ["hk1", "manualtemp"] s.request arguments → parse env s = .ok .ok t →
      Decimal (nextWord arguments).1 v →
      SetsAndReadsBack s t ⟨.manualTemp, .hk1⟩
        (fun text => Decimal text ((truncate (2 * v) : Rat) / 2))) ∧
    ¬ (∀ (env : Env) (s t : Session) (arguments : IStream) (n : Int),
      Begins ["uba", "schedulemaintenance", "byhours"] s.request arguments →
      parse env s = .ok .ok t → Integer true (nextWord arguments).1 n →
      SetsAndReadsBack s t ⟨.hektoStundenVorWartung, .kessel⟩ (fun text => Decimal text n)) := by
  refine ⟨fun claim => ?_, fun claim => ?_⟩
  · have sets := claim plainEnv (sessionOf "hk1 manualtemp 29.99999999\n") _ _ (2999999999 / 100000000)
      ⟨rfl, rfl, rfl⟩ (accepts_ran (by decide +kernel)) ⟨_, rfl, rfl, by decide +kernel⟩
    let telegram : EmsMessage := ⟨true, [60], EmsProto.addressUI800, 0x0b, 0xff, 0x01b9, 22⟩
    have printed := @SetsAndReadsBack.printed _ _ _ _ sets
      (.send EmsProto.addressUI800 0x01b9 22 [60] false) telegram _ (by decide +kernel)
      ⟨rfl, rfl, rfl, rfl, rfl⟩ rfl _ "30" rfl (by decide +kernel)
    have different := decimal_unique printed (decimal_toString 30)
    revert different
    decide +kernel
  · have sets := claim plainEnv (sessionOf "uba schedulemaintenance byhours -4294967290\n") _ _
      (-4294967290) ⟨rfl, rfl, rfl, rfl⟩ (accepts_ran (by decide +kernel))
      ⟨_, rfl, rfl, by decide +kernel⟩
    let telegram : EmsMessage := ⟨true, [1, 6, 1, 1, 50, 12], EmsProto.addressUBA2, 0x0b, 0x15, 0, 0⟩
    have printed := @SetsAndReadsBack.printed _ _ _ _ sets
      (.send EmsProto.addressUBA2 0x15 0 [1, 6, 1, 1, 50, 12] false) telegram _ (by decide +kernel)
      ⟨rfl, rfl, rfl, rfl, rfl⟩ rfl _ "6" rfl (by decide +kernel)
    have different := decimal_unique printed (decimal_toString 6)
    revert different
    decide +kernel

end EmsCollector.ApiCommandParser
