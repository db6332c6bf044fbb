import EmsCollector.Collector.Database
import EmsCollector.Collector.ValueApiProof.Lines

/-!
# The consumers of values

The database takes a reading out of the variant by the tables for types and subtypes, and the
text of a value by its reading type. What `handle` hands out is stored the way both ask for.
-/

namespace EmsCollector

namespace EmsValue

variable {value : EmsValue}

theorem getFloat_ok (stored : value.value.readingType = .numeric) :
    ∃ number, value.getFloat = .ok number := by
  obtain ⟨type, subType, readingType, reading, isValid⟩ := value
  cases reading with
  | numeric number => exact ⟨number, rfl⟩
  | _ => cases stored

theorem getUnsigned_ok (stored : value.value.readingType = .integer) :
    ∃ number, value.getUnsigned = .ok number := by
  obtain ⟨type, subType, readingType, reading, isValid⟩ := value
  cases reading with
  | integer number => exact ⟨number, rfl⟩
  | _ => cases stored

theorem getBool_ok (stored : value.value.readingType = .boolean) :
    ∃ flag, value.getBool = .ok flag := by
  obtain ⟨type, subType, readingType, reading, isValid⟩ := value
  cases reading with
  | boolean flag => exact ⟨flag, rfl⟩
  | _ => cases stored

theorem getByte_ok (stored : value.value.readingType = .enumeration) :
    ∃ number, value.getByte = .ok number := by
  obtain ⟨type, subType, readingType, reading, isValid⟩ := value
  cases reading with
  | enumeration number => exact ⟨number, rfl⟩
  | _ => cases stored

theorem getString_ok (stored : value.value.readingType = .formatted) :
    ∃ text, value.getString = .ok text := by
  obtain ⟨type, subType, readingType, reading, isValid⟩ := value
  cases reading with
  | formatted text => exact ⟨text, rfl⟩
  | _ => cases stored

/-- The reading is stored as each matching row of the tables of the database asks for. -/
structure SuitsDatabase (value : EmsValue) : Prop where
  numeric : ∀ row ∈ Database.numericMapping, value.type = row.1 → value.subType = row.2.1 →
    value.value.readingType = .numeric
  integer : ∀ row ∈ Database.integerMapping, value.type = row.1 → value.subType = row.2.1 →
    value.value.readingType = .integer
  boolean : ∀ row ∈ Database.boolMapping, value.type = row.1 →
    row.2.1 = .none ∨ value.subType = row.2.1 → value.value.readingType = .boolean
  state : ∀ row ∈ Database.stateMapping, value.type = row.1 →
    value.value.readingType = .formatted
  opMode : value.type = .betriebsart → value.subType = .hk1 ∨ value.subType = .hk2 →
    value.value.readingType = .enumeration

/-- The database gets a reading, or none, but no exception. -/
theorem SuitsDatabase.readingOf_ok (suits : value.SuitsDatabase) :
    ∃ reading, Database.readingOf value = .ok reading := by
  unfold Database.readingOf
  split
  · exact ⟨_, rfl⟩
  · split
    · rename_i row found
      obtain ⟨member, type, subType⟩ := find_row found
      obtain ⟨number, got⟩ := getFloat_ok (suits.numeric row member type subType)
      exact ⟨_, by rw [got]; rfl⟩
    · split
      · rename_i row found
        obtain ⟨member, type, subType⟩ := find_row found
        obtain ⟨number, got⟩ := getUnsigned_ok (suits.integer row member type subType)
        exact ⟨_, by rw [got]; rfl⟩
      · split
        · rename_i row found
          obtain ⟨member, type, subType⟩ := find_row found
          obtain ⟨flag, got⟩ := getBool_ok (suits.boolean row member type subType)
          exact ⟨_, by rw [got]; rfl⟩
        · split
          · rename_i row found
            obtain ⟨member, type⟩ := find_row found
            obtain ⟨text, got⟩ := getString_ok (suits.state row member type)
            exact ⟨_, by rw [got]; rfl⟩
          · split
            · rename_i opMode
              obtain ⟨mode, got⟩ := getByte_ok (suits.opMode opMode.1 opMode.2)
              exact ⟨_, by rw [got]; rfl⟩
            · exact ⟨_, rfl⟩

/-- What the consumers of a value ask for: the database by the tables, the text by the reading
    type. Both come to an end without an exception. -/
structure Consumable (value : EmsValue) : Prop where
  suits : value.SuitsDatabase
  stored : value.value.readingType = value.readingType
  recorded : ∀ (db : Database) (rateLimit : UInt32) (now : TimeT) (queries : Queries),
    ∃ db', db.handleValue rateLimit now queries value = .ok db'
  shown : ∃ text, ValueApi.formatValue value = .ok text

end EmsValue

namespace EmsMessage

/-- The tables of the database agree with the kinds of values. -/
theorem ofKinds_suits {value : EmsValue} (ofKinds : OfKinds (telegramKinds ++ errorKinds) value) :
    value.SuitsDatabase := by
  have numeric : ∀ kind ∈ telegramKinds ++ errorKinds, ∀ row ∈ Database.numericMapping,
      kind.type = row.1 → kind.subType = row.2.1 → kind.readingType = .numeric := by decide +kernel
  have integer : ∀ kind ∈ telegramKinds ++ errorKinds, ∀ row ∈ Database.integerMapping,
      kind.type = row.1 → kind.subType = row.2.1 → kind.readingType = .integer := by decide +kernel
  have boolean : ∀ kind ∈ telegramKinds ++ errorKinds, ∀ row ∈ Database.boolMapping,
      kind.type = row.1 → row.2.1 = .none ∨ kind.subType = row.2.1 →
        kind.readingType = .boolean := by decide +kernel
  have state : ∀ kind ∈ telegramKinds ++ errorKinds, ∀ row ∈ Database.stateMapping,
      kind.type = row.1 → kind.readingType = .formatted := by decide +kernel
  have opMode : ∀ kind ∈ telegramKinds ++ errorKinds, kind.type = .betriebsart →
      kind.subType = .hk1 ∨ kind.subType = .hk2 → kind.readingType = .enumeration := by decide +kernel
  obtain ⟨mem, stored⟩ := ofKinds
  exact ⟨fun row inside type subType => stored.trans (numeric _ mem row inside type subType),
    fun row inside type subType => stored.trans (integer _ mem row inside type subType),
    fun row inside type subType => stored.trans (boolean _ mem row inside type subType),
    fun row inside type => stored.trans (state _ mem row inside type),
    fun type subType => stored.trans (opMode _ mem type subType)⟩

/-- No telegram hands out a curve or an error entry. -/
theorem ofKinds_shown {value : EmsValue} (ofKinds : OfKinds (telegramKinds ++ errorKinds) value) :
    ∃ text, ValueApi.formatValue value = .ok text ∧
      (OneLine value → ApiCommandParser.Plain text) := by
  have others : ∀ kind ∈ telegramKinds ++ errorKinds,
      kind.readingType ≠ .kennlinie ∧ kind.readingType ≠ .error := by decide +kernel
  obtain ⟨noCurve, noError⟩ := others _ ofKinds.mem
  exact ValueApi.formatValue_plain ofKinds.stored noCurve noError

variable {m : EmsMessage} {values : List EmsValue}

/-- Whatever telegram is handled, its values are stored as their consumers ask for. -/
theorem handle_consumable (ran : m.handle = .ok values) : ∀ value ∈ values, value.Consumable := by
  intro value member
  have ofKinds := handle_kinds ran value member
  have suits := ofKinds_suits ofKinds
  obtain ⟨text, shown, -⟩ := ofKinds_shown ofKinds
  obtain ⟨reading, read⟩ := suits.readingOf_ok
  refine ⟨suits, ofKinds.stored, fun db rateLimit now queries => ?_, text, shown⟩
  unfold Database.handleValue
  rw [read]
  cases reading with
  | none => exact ⟨db, rfl⟩
  | some reading => exact ⟨_, rfl⟩

/-- The UI800 tells that the first heating circuit runs in automatic mode. -/
theorem handle_consumable_opMode : (EmsValue.ofEnum .betriebsart .hk1 2).Consumable :=
  @handle_consumable
    { valueHandler := true, data := [2], source := EmsProto.addressUI800, dest := 0, type := 0xff
      extType := 0x01b9, offset := 21 }
    [.ofEnum .betriebsart .hk1 2] rfl _ (List.mem_singleton_self _)

end EmsMessage

end EmsCollector
