import EmsCollector.Collector.EmsMessageProof.Access

/-!
# Partial telegrams

A partial telegram carries the bytes `[k, k + n)` of a complete one and says so in its offset.
Its values agree with those of the complete telegram for every layout whose parsers read
relative to the offset. The error telegram and two fields of the monitor telegram are read too
far behind, so they agree only if the bytes found there decode to the same.
-/

namespace EmsCollector.EmsMessage

open Layout

/-- The header of a telegram up to its offset. -/
structure Header where
  source : UInt8
  dest : UInt8
  type : UInt8
  extType : UInt16

namespace Header

/-- The telegram with this header, as the receive constructor leaves it. -/
def telegram (h : Header) (offset : UInt8) (data : List UInt8) : EmsMessage :=
  { valueHandler := true, data, source := h.source, dest := h.dest, type := h.type,
    extType := h.extType, offset }

def getType (h : Header) : UInt16 := (h.telegram 0 []).getType

@[simp] theorem telegram_getType (h : Header) (offset : UInt8) (data : List UInt8) :
    (h.telegram offset data).getType = h.getType := rfl

end Header

/-- The partial telegram `[k, k + n)` of the content `content` is handled without leaving its
    data, hands out only values of the complete telegram, and hands out every value of every
    field that lies in the window. -/
def Agrees (h : Header) (content : List UInt8) (k : UInt8) (n : Nat) : Prop :=
  ∃ full part,
    (h.telegram 0 content).handle = .ok full ∧
    full = emit (layoutOf h.source h.getType content) 0 content ∧
    (h.telegram k (slice content k.toNat n)).handle = .ok part ∧
    (∀ v ∈ part, v ∈ full) ∧
    ∀ f ∈ layoutOf h.source h.getType content, f.Inside k.toNat n →
      ∀ v ∈ f.emit 0 content, v ∈ part

/-- The error fields `base + 7 * i` that lie in the window `[start, start + count)` and are not
    zero, each read `shift` bytes behind its place. -/
def errorGroups (base size : Nat) (content : List UInt8) (shift start count : Nat) :
    List (List UInt8) :=
  (((List.range 3).filter (fun i =>
      start ≤ base + i * 7 ∧ base + i * 7 + size ≤ start + count)).map
    (fun i => slice content (shift + (base + i * 7)) size)).filter (· ≠ List.replicate size 0)

/-- The error codes that the parser takes from the window, or with `shift` 0 the true ones. -/
def codeGroups : List UInt8 → Nat → Nat → Nat → List (List UInt8) := errorGroups 5 3

/-- The error numbers that the parser takes from the window, or with `shift` 0 the true ones. -/
def numberGroups : List UInt8 → Nat → Nat → Nat → List (List UInt8) := errorGroups 8 2

/-- The windows of an error telegram that agree with the complete one. -/
structure ErrorWindowOk (content : List UInt8) (k n : Nat) : Prop where
  reads : ¬ ErrorHazard k n
  device : k ≤ 7 → 7 < k + n → content[k]? = some 0x08 ∨ content[k]? = some 0x10 →
    content[k]? = content[0]?
  codes : codeGroups content k k n ⊆ codeGroups content 0 0 content.length
  codesFound : codeGroups content 0 k n ⊆ codeGroups content k k n
  numbers : numberGroups content k k n ⊆ numberGroups content 0 0 content.length
  numbersFound : numberGroups content 0 k n ⊆ numberGroups content k k n
  noError : codeGroups content k k n = [] → numberGroups content k k n = [] →
    codeGroups content 0 0 content.length = [] ∧ numberGroups content 0 0 content.length = []

/-- The windows of a monitor telegram that agree with the complete one. -/
structure MonitorWindowOk (content : List UInt8) (k n : Nat) : Prop where
  reads : ¬ MonitorHazard k n
  fehlerCode : k ≤ 4 → 6 ≤ k + n → slice content (k + 4) 2 = slice content 4 2
  flammeAktiv : k ≤ 19 → 21 ≤ k + n → (EmsValue.bigEndian (slice content (k + 19) 2) > 5 ↔
    EmsValue.bigEndian (slice content 19 2) > 5)

/-- The windows that agree with the complete telegram. -/
def WindowOk (source : UInt8) (type : UInt16) (content : List UInt8) (k n : Nat) : Prop :=
  (IsErrorTelegram source type → ErrorWindowOk content k n) ∧
    (IsMonitorTelegram source type → MonitorWindowOk content k n)

/-- Outside the error and monitor telegrams the parsers follow the layout at every offset. -/
theorem handle_emits {m : EmsMessage} (handler : m.valueHandler = true)
    (noError : ¬ IsErrorTelegram m.source m.getType)
    (noMonitor : ¬ IsMonitorTelegram m.source m.getType) :
    m.handle = .ok (emit (layoutOf m.source m.getType m.data) m.offset.toNat m.data) := by
  unfold handle
  rw [if_neg (by simp [handler])]
  by_cases invalid : m.source = 0 ∧ m.dest = 0 ∧ m.type = 0
  · rw [if_pos invalid, invalid.1]
    rfl
  · rw [if_neg invalid, dispatch_emits m noError noMonitor]
    rfl

/-- The layout of a telegram without error fields does not depend on its content. -/
theorem layoutOf_content {source : UInt8} {type : UInt16} (noError : ¬ IsErrorTelegram source type)
    (content content' : List UInt8) : layoutOf source type content = layoutOf source type content' := by
  unfold IsErrorTelegram at noError
  unfold layoutOf
  generalize type.toNat = t at noError ⊢
  by_cases uba2 : source = EmsProto.addressUBA2
  · simp only [uba2, if_true, true_and, true_or] at noError ⊢
    split
    all_goals first | rfl | exact absurd rfl noError
  · simp only [uba2, if_false, false_or] at noError ⊢
    by_cases ui800 : source = EmsProto.addressUI800
    · simp only [ui800, if_true, true_and] at noError ⊢
      split
      all_goals first | rfl | exact absurd rfl noError
    · simp only [ui800, if_false]

/-- The telegrams read relative to their offset agree in every window. -/
theorem agrees_of_relative {h : Header} {content : List UInt8} {k : UInt8} {n : Nat}
    (part : k.toNat + n ≤ content.length) (noError : ¬ IsErrorTelegram h.source h.getType)
    (noMonitor : ¬ IsMonitorTelegram h.source h.getType) : Agrees h content k n := by
  have whole : (h.telegram 0 content).handle =
      .ok (emit (layoutOf h.source h.getType content) 0 content) :=
    handle_emits rfl noError noMonitor
  have window : (h.telegram k (slice content k.toNat n)).handle =
      .ok (emit (layoutOf h.source h.getType (slice content k.toNat n)) k.toNat
        (slice content k.toNat n)) :=
    handle_emits rfl noError noMonitor
  rw [layoutOf_content noError _ content] at window
  exact ⟨_, _, whole, rfl, window, emit_window_subset part,
    fun f field inside v value => mem_emit_window part field inside value⟩

theorem streamWord_eq (high low : UInt8) :
    streamWord high low = toString (EmsValue.bigEndian [high, low]) := by
  simp [streamWord, EmsValue.bigEndian]

/-- A parser that reads a field at its place in the telegram, taken as an index. -/
theorem misplaced_run {α : Type} {m : EmsMessage} {offset size : Nat} {decode : List UInt8 → List EmsValue}
    {parser : ParseM α} (result : List EmsValue → α) {values : List EmsValue}
    (reads : ¬ AbsoluteRead m.offset.toNat m.data.length offset size)
    (run : offset + size ≤ m.data.length → parser values = .ok
      (result (decode (slice m.data offset size)), values ++ decode (slice m.data offset size))) :
    (if m.canAccess offset size then parser else pure (result [])) values = .ok
      (result (Field.misplaced { offset, size, decode } m.offset.toNat m.data),
        values ++ Field.misplaced { offset, size, decode } m.offset.toNat m.data) := by
  by_cases inside : m.canAccess offset size
  · have bound := (canAccess_iff m offset size).mp inside
    have range : offset + size ≤ m.data.length := by
      unfold AbsoluteRead at reads
      omega
    rw [if_pos inside, Field.misplaced_inside bound]
    exact run range
  · rw [if_neg inside, Field.misplaced_outside (fun bound => inside ((canAccess_iff m _ _).mpr bound)),
      List.append_nil]
    rfl

/-- The error code of the monitor telegram. -/
theorem parseFehlerCode_run {m : EmsMessage}
    (reads : ¬ AbsoluteRead m.offset.toNat m.data.length 4 2) (values : List EmsValue) :
    m.parseFehlerCode values =
      .ok ((), values ++ fehlerCodeField.misplaced m.offset.toNat m.data) := by
  refine misplaced_run (fun _ => ()) reads (fun range => ?_)
  rw [subscript_ok (show 4 < m.data.length by omega), subscript_ok (show 5 < m.data.length by omega)]
  simp only [slice_two range, ← streamWord_eq]
  show Except.ok ((), (values ++ [_]) ++ [_]) = _
  rw [List.append_assoc]
  rfl

theorem parseFlammeAktiv_run {m : EmsMessage}
    (reads : ¬ AbsoluteRead m.offset.toNat m.data.length 19 2) (values : List EmsValue) :
    m.parseFlammeAktiv values =
      .ok ((), values ++ flammeAktivField.misplaced m.offset.toNat m.data) := by
  refine misplaced_run (fun _ => ()) reads (fun range => ?_)
  rw [subscript_ok (show 19 < m.data.length by omega), subscript_ok (show 20 < m.data.length by omega)]
  simp only [slice_two range, EmsValue.bigEndian, List.foldl_cons, List.foldl_nil, Nat.zero_mul,
    Nat.zero_add]
  rfl

/-- The reads of the monitor telegram that heed its offset. -/
def parseRelative (m : EmsMessage) : ParseM Unit := do
  m.parseNumeric 6 1 1 .sollTemp .kessel
  m.parseTemperature 7 .istTemp .kessel
  m.parseTemperature 13 .istTemp .waermetauscher
  m.parseTemperature 17 .istTemp .ruecklauf
  m.parseNumeric 19 2 10 .flammenstrom .none
  m.parseNumeric 21 1 10 .systemdruck .none false
  m.parseInteger 40 1 .istModulation .brenner
  m.parseInteger 41 1 .sollModulation .brenner

theorem parseUBA2MonitorMessage_relative (m : EmsMessage) :
    m.parseUBA2MonitorMessage = (do m.parseRelative; m.parseFehlerCode; m.parseFlammeAktiv) := by
  simp only [parseUBA2MonitorMessage, parseRelative, bind_assoc]

theorem emits_parseRelative (m : EmsMessage) : Emits m m.parseRelative monitorFields := by
  have num {offset size divider : Nat} {type : EmsValue.ValueType}
      {subtype : EmsValue.SubType} {isSigned : Bool} {invalid : List (List UInt8)}
      (positive : 0 < size) :
      Emits m (m.parseNumeric offset size divider type subtype isSigned invalid)
        [numericField offset size divider type subtype isSigned invalid] :=
    emits_parseNumeric m positive divider type subtype isSigned invalid
  have one : 0 < 1 := by decide
  have two : 0 < 2 := by decide
  exact emits_seq (num one) (emits_seq (num two) (emits_seq (num two) (emits_seq (num two)
    (emits_seq (num two) (emits_seq (num one) (emits_seq (num one) (num one)))))))

/-- The values of the monitor telegram. -/
theorem parseUBA2MonitorMessage_run {m : EmsMessage}
    (reads : ¬ MonitorHazard m.offset.toNat m.data.length) (values : List EmsValue) :
    m.parseUBA2MonitorMessage values =
      .ok ((), values ++ (emit monitorFields m.offset.toNat m.data ++
        fehlerCodeField.misplaced m.offset.toNat m.data ++
        flammeAktivField.misplaced m.offset.toNat m.data)) := by
  rw [parseUBA2MonitorMessage_relative, bind_run (emits_parseRelative m values),
    bind_run (parseFehlerCode_run (fun h => reads (.inl h)) _),
    parseFlammeAktiv_run (fun h => reads (.inr h))]
  simp only [List.append_assoc]

theorem handle_run {h : Header} {offset : UInt8} {data : List UInt8} {values : List EmsValue}
    (source : h.source ≠ 0) (run : (h.telegram offset data).dispatch [] = .ok ((), values)) :
    (h.telegram offset data).handle = .ok values := by
  have valid : ¬ ((h.telegram offset data).source = 0 ∧ (h.telegram offset data).dest = 0 ∧
      (h.telegram offset data).type = 0) := fun invalid => source invalid.1
  have handler : (h.telegram offset data).valueHandler = true := rfl
  unfold handle
  simp only [handler, Bool.not_true, Bool.false_eq_true, if_false, if_neg valid, run]
  rfl

theorem handle_monitor {h : Header} (monitor : IsMonitorTelegram h.source h.getType)
    (offset : UInt8) {data : List UInt8} (reads : ¬ MonitorHazard offset.toNat data.length) :
    (h.telegram offset data).handle = .ok (emit monitorFields offset.toNat data ++
      fehlerCodeField.misplaced offset.toNat data ++
      flammeAktivField.misplaced offset.toNat data) := by
  have source : h.source ≠ 0 := by
    rw [monitor.1]
    decide
  have dispatched : (h.telegram offset data).dispatch =
      (h.telegram offset data).parseUBA2MonitorMessage := dispatch_monitor monitor
  apply handle_run source
  rw [dispatched]
  exact @parseUBA2MonitorMessage_run (h.telegram offset data) reads []

theorem layoutOf_monitor {source : UInt8} {type : UInt16} (monitor : IsMonitorTelegram source type)
    (content : List UInt8) : layoutOf source type content = monitorLayout := by
  obtain ⟨uba2, number⟩ := monitor
  unfold layoutOf
  simp only [uba2, number, if_true]

theorem monitorHazard_zero (size : Nat) : ¬ MonitorHazard 0 size := by
  unfold MonitorHazard AbsoluteRead
  omega

@[simp] theorem ofField_type (type : EmsValue.ValueType) (subtype : EmsValue.SubType)
    (data : List UInt8) (divider : Nat) (isSigned : Bool) (invalid : List (List UInt8)) :
    (EmsValue.ofField type subtype data divider isSigned invalid).type = type := by
  unfold EmsValue.ofField
  split
  split <;> rfl

/-- A field that is decoded as a number hands out values of its own type only. -/
theorem numericField_type {offset size divider : Nat} {type : EmsValue.ValueType}
    {subtype : EmsValue.SubType} {isSigned : Bool} {invalid : List (List UInt8)} {start : Nat}
    {cells : List UInt8} {v : EmsValue}
    (value : v ∈ (numericField offset size divider type subtype isSigned invalid).emit start cells) :
    v.type = type := by
  unfold Field.emit at value
  split at value
  · simp only [numericField, List.mem_singleton] at value
    rw [value, ofField_type]
  · cases value

/-- No relative field of the monitor telegram hands out an error code or a flame flag. -/
theorem monitorFields_type {start : Nat} {cells : List UInt8} {v : EmsValue}
    (value : v ∈ emit monitorFields start cells) :
    v.type ≠ .fehlerCode ∧ v.type ≠ .flammeAktiv := by
  simp only [monitorFields, integerField, temperatureField, emit_cons, emit_nil,
    List.append_nil, List.mem_append] at value
  rcases value with value | value | value | value | value | value | value | value
  all_goals
    rw [numericField_type value]
    exact ⟨by decide, by decide⟩

/-- The decimal digits determine the number. -/
theorem toString_injective {a b : Nat} (same : toString a = toString b) : a = b := by
  have digits := congrArg (fun s => Nat.ofDigitChars 10 s.toList 0) same
  simpa using digits

/-- The number in two bytes determines them. -/
theorem bigEndian_two_inj {a b : List UInt8} (ha : a.length = 2) (hb : b.length = 2)
    (same : EmsValue.bigEndian a = EmsValue.bigEndian b) : a = b := by
  obtain ⟨a0, a1, rfl⟩ := List.length_eq_two.mp ha
  obtain ⟨b0, b1, rfl⟩ := List.length_eq_two.mp hb
  simp only [EmsValue.bigEndian, List.foldl_cons, List.foldl_nil] at same
  have ha0 := a0.toNat_lt
  have ha1 := a1.toNat_lt
  have hb0 := b0.toNat_lt
  have hb1 := b1.toNat_lt
  have first : a0 = b0 := UInt8.toNat_inj.mp (by omega)
  have second : a1 = b1 := UInt8.toNat_inj.mp (by omega)
  rw [first, second]

/-- The values of the complete monitor telegram. -/
theorem mem_monitorLayout {content : List UInt8} {value : EmsValue}
    (member : value ∈ emit monitorLayout 0 content) : value ∈ emit monitorFields 0 content ∨
      value ∈ fehlerCodeField.decode (slice content 4 2) ∨
      value ∈ flammeAktivField.decode (slice content 19 2) := by
  simp only [monitorLayout, emit_append, emit_cons, emit_nil, List.append_nil,
    List.mem_append] at member
  rcases member with (member | member) | member
  · exact .inl member
  · unfold Field.emit at member
    split at member
    · exact .inr (.inl member)
    · cases member
  · unfold Field.emit at member
    split at member
    · exact .inr (.inr member)
    · cases member

theorem fehlerCode_of_monitor {content : List UInt8} {text : String}
    (value : EmsValue.ofString .fehlerCode .none text ∈ emit monitorLayout 0 content) :
    text = toString (EmsValue.bigEndian (slice content 4 2)) := by
  rcases mem_monitorLayout value with value | value | value
  · exact absurd rfl (monitorFields_type value).1
  · simpa [fehlerCodeField, EmsValue.ofString] using value
  · simp [flammeAktivField, EmsValue.ofString, EmsValue.ofBit] at value

theorem flammeAktiv_of_monitor {content : List UInt8} {b : UInt8}
    (value : EmsValue.ofBit .flammeAktiv .none b 0 ∈ emit monitorLayout 0 content) :
    EmsValue.ofBit .flammeAktiv .none b 0 = EmsValue.ofBit .flammeAktiv .none
      (if EmsValue.bigEndian (slice content 19 2) > 5 then 1 else 0) 0 := by
  rcases mem_monitorLayout value with value | value | value
  · exact absurd rfl (monitorFields_type value).2
  · simp [fehlerCodeField, EmsValue.ofString, EmsValue.ofBit] at value
  · exact List.mem_singleton.mp value

/-- The flame flag says whether the number in its field is above 5. -/
theorem flammeAktiv_inj {a b : Nat}
    (same : EmsValue.ofBit .flammeAktiv .none (if a > 5 then 1 else 0) 0 =
      EmsValue.ofBit .flammeAktiv .none (if b > 5 then 1 else 0) 0) : a > 5 ↔ b > 5 := by
  by_cases ha : a > 5
  · by_cases hb : b > 5
    · exact iff_of_true ha hb
    · rw [if_pos ha, if_neg hb] at same
      exact absurd same (by decide)
  · by_cases hb : b > 5
    · rw [if_neg ha, if_pos hb] at same
      exact absurd same (by decide)
    · exact iff_of_false ha hb

/-- The misplaced fields of the monitor telegram hand out the true values exactly when they
    decode to the same. -/
theorem agrees_monitor_iff {h : Header} {content : List UInt8} {k : UInt8} {n : Nat}
    (part : k.toNat + n ≤ content.length) (monitor : IsMonitorTelegram h.source h.getType) :
    Agrees h content k n ↔ MonitorWindowOk content k.toNat n := by
  have whole : (h.telegram 0 content).handle = .ok (emit monitorLayout 0 content) := by
    rw [handle_monitor monitor 0 (monitorHazard_zero _)]
    simp only [monitorLayout, emit_append, emit_cons, emit_nil, List.append_nil]
    rfl
  have length := length_slice part
  have window : ¬ MonitorHazard k.toNat n → (h.telegram k (slice content k.toNat n)).handle =
      .ok (emit monitorFields k.toNat (slice content k.toNat n) ++
        fehlerCodeField.misplaced k.toNat (slice content k.toNat n) ++
        flammeAktivField.misplaced k.toNat (slice content k.toNat n)) := by
    intro reads
    rw [← length] at reads
    exact handle_monitor monitor k reads
  constructor
  · rintro ⟨full, values, run, -, run', subset, -⟩
    have reads : ¬ MonitorHazard k.toNat n := by
      intro hazard
      have safe := (@handle_ok_iff (h.telegram k (slice content k.toNat n)) rfl).mp ⟨_, run'⟩
      exact safe (.inr ⟨monitor, by rw [← length] at hazard; exact hazard⟩)
    rw [window reads] at run'
    rw [whole] at run
    cases run
    cases run'
    unfold MonitorHazard AbsoluteRead at reads
    refine ⟨reads, fun start stop => ?_, fun start stop => ?_⟩
    · have inside : fehlerCodeField.Inside k.toNat n := ⟨start, stop⟩
      have range : fehlerCodeField.Inside k.toNat n → 4 + 2 ≤ n := fun _ => by omega
      have value := fehlerCode_of_monitor (subset (.ofString .fehlerCode .none
        (toString (EmsValue.bigEndian (slice content (k.toNat + 4) 2)))) (by
          rw [Field.misplaced_window part range, if_pos inside]
          simp [fehlerCodeField]))
      exact bigEndian_two_inj (length_slice (by omega)) (length_slice (by omega))
        (toString_injective value)
    · have inside : flammeAktivField.Inside k.toNat n := ⟨start, stop⟩
      have range : flammeAktivField.Inside k.toNat n → 19 + 2 ≤ n := fun _ => by omega
      have value := flammeAktiv_of_monitor (subset (.ofBit .flammeAktiv .none
        (if EmsValue.bigEndian (slice content (k.toNat + 19) 2) > 5 then 1 else 0) 0) (by
          rw [@Field.misplaced_window _ _ flammeAktivField _ _ _ part range, if_pos inside]
          simp [flammeAktivField]))
      exact flammeAktiv_inj value
  · rintro ⟨reads, fehlerCode, flammeAktiv⟩
    unfold MonitorHazard AbsoluteRead at reads
    have fehler : fehlerCodeField.misplaced k.toNat (slice content k.toNat n) =
        fehlerCodeField.emit k.toNat (slice content k.toNat n) := by
      refine Field.misplaced_eq_emit part (fun inside => ?_) (fun inside => ?_)
      · have bounds : k.toNat ≤ 4 ∧ 4 + 2 ≤ k.toNat + n := inside
        show 4 + 2 ≤ n
        omega
      · exact congrArg fehlerCodeField.decode (fehlerCode inside.1 inside.2)
    have flamme : flammeAktivField.misplaced k.toNat (slice content k.toNat n) =
        flammeAktivField.emit k.toNat (slice content k.toNat n) := by
      refine Field.misplaced_eq_emit part (fun inside => ?_) (fun inside => ?_)
      · have bounds : k.toNat ≤ 19 ∧ 19 + 2 ≤ k.toNat + n := inside
        show 19 + 2 ≤ n
        omega
      · have same := flammeAktiv inside.1 inside.2
        simp only [flammeAktivField, same]
    have values : (h.telegram k (slice content k.toNat n)).handle =
        .ok (emit monitorLayout k.toNat (slice content k.toNat n)) := by
      rw [window reads, fehler, flamme]
      simp only [monitorLayout, emit_append, emit_cons, emit_nil, List.append_nil]
    refine ⟨_, _, whole, by rw [layoutOf_monitor monitor], values, emit_window_subset part, ?_⟩
    intro f field inside v value
    rw [layoutOf_monitor monitor] at field
    exact mem_emit_window part field inside value

end EmsCollector.EmsMessage
