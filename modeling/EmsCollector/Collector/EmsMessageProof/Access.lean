import EmsCollector.Collector.EmsMessageProof.Fields

/-!
# Accesses to the telegram buffer

Which payloads make the receive constructor or a telegram parser leave `m_data`. The parsers
that read relative to `m_offset` never do. The parsers that index with the offset in the
telegram do when the field is inside the telegram but lies behind the end of `m_data` at that
index, the error telegram also when it has no data at all, and the constructor when a written
EMS-plus telegram stops in the middle of its type.
-/

namespace EmsCollector.EmsMessage

open Layout

/-- The parser stays inside `m_data` exactly when `P` holds, whatever was handed out before. -/
def SafeIff {α : Type} (parser : ParseM α) (P : Prop) : Prop :=
  (P → ∀ values, ∃ r, parser values = .ok r) ∧ (¬ P → ∀ values, ∃ e, parser values = .error e)

theorem SafeIff.congr {α : Type} {parser : ParseM α} {P Q : Prop} (safe : SafeIff parser P)
    (same : P ↔ Q) : SafeIff parser Q :=
  ⟨fun h => safe.1 (same.mpr h), fun h => safe.2 (fun p => h (same.mp p))⟩

theorem safeIff_pure {α : Type} (a : α) : SafeIff (pure a : ParseM α) True :=
  ⟨fun _ values => ⟨(a, values), rfl⟩, fun h => absurd trivial h⟩

theorem safeIff_handOut (value : EmsValue) : SafeIff (handOut value) True :=
  ⟨fun _ _ => ⟨_, rfl⟩, fun h => absurd trivial h⟩

theorem safeIff_of_emits {m : EmsMessage} {parser : ParseM Unit} {layout : List TelegramField}
    (emits : Emits m parser layout) : SafeIff parser True :=
  ⟨fun _ values => ⟨_, emits values⟩, fun h => absurd trivial h⟩

theorem safeIff_subscript (vec : List UInt8) (index : Nat) :
    SafeIff (liftM (subscript vec index) : ParseM UInt8) (index < vec.length) := by
  refine ⟨fun inside values => ?_, fun outside values => ?_⟩
  · exact ⟨(vec[index], values), by rw [subscript_ok inside]; rfl⟩
  · exact ⟨_, by rw [subscript_error (Nat.le_of_not_lt outside)]; rfl⟩

/-- Safety composes: the parser behind runs only if the parser before did not fault. -/
theorem safeIff_bind {α γ : Type} {p : ParseM α} {q : α → ParseM γ} {P Q : Prop}
    (first : SafeIff p P) (second : ∀ a, SafeIff (q a) Q) : SafeIff (p >>= q) (P ∧ Q) := by
  refine ⟨fun ⟨hp, hq⟩ values => ?_, fun h values => ?_⟩
  · obtain ⟨⟨a, values'⟩, run⟩ := first.1 hp values
    obtain ⟨r, run'⟩ := (second a).1 hq values'
    exact ⟨r, (bind_run run).trans run'⟩
  · by_cases hp : P
    · obtain ⟨⟨a, values'⟩, run⟩ := first.1 hp values
      obtain ⟨e, run'⟩ := (second a).2 (fun hq => h ⟨hp, hq⟩) values'
      exact ⟨e, (bind_run run).trans run'⟩
    · obtain ⟨e, run⟩ := first.2 hp values
      exact ⟨e, bind_fault run⟩

theorem safeIff_ite {α : Type} {c : Prop} [Decidable c] {p q : ParseM α} {P Q : Prop}
    (yes : SafeIff p P) (no : SafeIff q Q) :
    SafeIff (if c then p else q) (if c then P else Q) := by
  split
  · exact yes
  · exact no

/-- A field inside a telegram of `size` bytes at `offset`, read at its absolute position, is
    behind the end of the data. -/
def AbsoluteRead (offset size field count : Nat) : Prop :=
  offset ≤ field ∧ field + count ≤ offset + size ∧ size < field + count

instance (offset size field count : Nat) : Decidable (AbsoluteRead offset size field count) :=
  inferInstanceAs (Decidable (_ ∧ _ ∧ _))

/-- The telegrams that `handle` passes to `parseUI800ErrorMessage`. -/
def IsErrorTelegram (source : UInt8) (type : UInt16) : Prop :=
  (source = EmsProto.addressUBA2 ∨ source = EmsProto.addressUI800) ∧ type.toNat = 0xbf

/-- The telegrams that `handle` passes to `parseUBA2MonitorMessage`. -/
def IsMonitorTelegram (source : UInt8) (type : UInt16) : Prop :=
  source = EmsProto.addressUBA2 ∧ type.toNat = 0xe4

instance (source : UInt8) (type : UInt16) : Decidable (IsErrorTelegram source type) :=
  inferInstanceAs (Decidable (_ ∧ _))

instance (source : UInt8) (type : UInt16) : Decidable (IsMonitorTelegram source type) :=
  inferInstanceAs (Decidable (_ ∧ _))

/-- An error telegram of `size` bytes at `offset` makes its parser leave the data. -/
def ErrorHazard (offset size : Nat) : Prop :=
  size = 0 ∨ ∃ i < 3, AbsoluteRead offset size (5 + i * 7) 3 ∨
    AbsoluteRead offset size (8 + i * 7) 2

/-- A monitor telegram of `size` bytes at `offset` makes its parser leave the data. -/
def MonitorHazard (offset size : Nat) : Prop :=
  AbsoluteRead offset size 4 2 ∨ AbsoluteRead offset size 19 2

/-- A read at the absolute position behind a test with `canAccess`. -/
theorem safeIff_canAccess {α : Type} {m : EmsMessage} {field count : Nat} {parser : ParseM α}
    (a : α) (body : SafeIff parser (field + count ≤ m.data.length)) :
    SafeIff (if m.canAccess field count then parser else pure a)
      (¬ AbsoluteRead m.offset.toNat m.data.length field count) := by
  refine (safeIff_ite body (safeIff_pure a)).congr ?_
  unfold AbsoluteRead
  by_cases inside : m.canAccess field count
  · rw [if_pos inside]
    rw [canAccess_iff] at inside
    omega
  · rw [if_neg inside]
    rw [canAccess_iff] at inside
    simp only [true_iff]
    omega

theorem safeIff_parseErrorCode (m : EmsMessage) (i : Nat) :
    SafeIff (m.parseErrorCode i)
      (¬ AbsoluteRead m.offset.toNat m.data.length (5 + i * 7) 3) := by
  unfold parseErrorCode
  refine safeIff_canAccess false ((safeIff_bind (safeIff_subscript _ _) fun _ =>
    safeIff_bind (safeIff_subscript _ _) fun _ => safeIff_bind (safeIff_subscript _ _) fun _ =>
      (safeIff_ite (safeIff_bind (safeIff_handOut _) fun _ => safeIff_pure true)
        (safeIff_pure false)).congr (Q := True) (by simp)).congr ?_)
  constructor
  · intro h
    omega
  · intro h
    exact ⟨by omega, by omega, by omega, trivial⟩

theorem safeIff_parseErrorNumber (m : EmsMessage) (i : Nat) :
    SafeIff (m.parseErrorNumber i)
      (¬ AbsoluteRead m.offset.toNat m.data.length (8 + i * 7) 2) := by
  unfold parseErrorNumber
  refine safeIff_canAccess false ((safeIff_bind (safeIff_subscript _ _) fun _ =>
    safeIff_bind (safeIff_subscript _ _) fun _ =>
      (safeIff_ite (safeIff_bind (safeIff_handOut _) fun _ => safeIff_pure true)
        (safeIff_pure false)).congr (Q := True) (by simp)).congr ?_)
  constructor
  · intro h
    omega
  · intro h
    exact ⟨by omega, by omega, trivial⟩

theorem safeIff_parseErrorEntry (m : EmsMessage) (i : Nat) :
    SafeIff (m.parseErrorEntry i)
      (¬ (AbsoluteRead m.offset.toNat m.data.length (5 + i * 7) 3 ∨
        AbsoluteRead m.offset.toNat m.data.length (8 + i * 7) 2)) :=
  (safeIff_bind (safeIff_parseErrorCode m i) fun _ =>
    safeIff_bind (safeIff_parseErrorNumber m i) fun _ => safeIff_pure _).congr (by simp)

theorem safeIff_parseStoerung (m : EmsMessage) (device : UInt8) (subtype : EmsValue.SubType) :
    SafeIff (m.parseStoerung device subtype) (0 < m.data.length) :=
  (safeIff_bind (safeIff_subscript _ _) fun _ =>
    (safeIff_ite (safeIff_of_emits (emits_parseBool m 7 4 .stoerung subtype))
      (safeIff_pure ())).congr (Q := True) (by simp)).congr (by simp)

theorem safeIff_parseUI800ErrorMessage (m : EmsMessage) :
    SafeIff m.parseUI800ErrorMessage (¬ ErrorHazard m.offset.toNat m.data.length) := by
  unfold parseUI800ErrorMessage
  refine (safeIff_bind (safeIff_parseStoerung m _ _) fun _ =>
    safeIff_bind (safeIff_parseStoerung m _ _) fun _ =>
    safeIff_bind (safeIff_parseErrorEntry m 0) fun _ =>
    safeIff_bind (safeIff_parseErrorEntry m 1) fun _ =>
    safeIff_bind (safeIff_parseErrorEntry m 2) fun _ =>
      (safeIff_ite (safeIff_pure ()) (safeIff_bind (safeIff_handOut _) fun _ =>
        safeIff_handOut _)).congr (Q := True) (by simp)).congr ?_
  unfold ErrorHazard
  constructor
  · rintro ⟨data, -, first, second, third, -⟩ (empty | ⟨i, bound, hazard⟩)
    · omega
    · match i, bound with
      | 0, _ => exact first hazard
      | 1, _ => exact second hazard
      | 2, _ => exact third hazard
  · intro clear
    have data : 0 < m.data.length := Nat.pos_of_ne_zero fun empty => clear (.inl empty)
    exact ⟨data, data, fun h => clear (.inr ⟨0, by omega, h⟩),
      fun h => clear (.inr ⟨1, by omega, h⟩), fun h => clear (.inr ⟨2, by omega, h⟩), trivial⟩

theorem safeIff_parseFehlerCode (m : EmsMessage) :
    SafeIff m.parseFehlerCode (¬ AbsoluteRead m.offset.toNat m.data.length 4 2) := by
  unfold parseFehlerCode
  refine safeIff_canAccess () ((safeIff_bind (safeIff_subscript _ _) fun _ =>
    safeIff_bind (safeIff_subscript _ _) fun _ => safeIff_bind (safeIff_handOut _) fun _ =>
      safeIff_handOut _).congr ?_)
  constructor
  · intro h
    omega
  · intro h
    exact ⟨by omega, by omega, trivial, trivial⟩

theorem safeIff_parseFlammeAktiv (m : EmsMessage) :
    SafeIff m.parseFlammeAktiv (¬ AbsoluteRead m.offset.toNat m.data.length 19 2) := by
  unfold parseFlammeAktiv
  refine safeIff_canAccess () ((safeIff_bind (safeIff_subscript _ _) fun _ =>
    safeIff_bind (safeIff_subscript _ _) fun _ => safeIff_handOut _).congr ?_)
  constructor
  · intro h
    omega
  · intro h
    exact ⟨by omega, by omega, trivial⟩

/-- The monitor parser: eight relative reads, then the two absolute ones. -/
theorem safeIff_parseUBA2MonitorMessage (m : EmsMessage) :
    SafeIff m.parseUBA2MonitorMessage (¬ MonitorHazard m.offset.toNat m.data.length) := by
  unfold parseUBA2MonitorMessage
  have relative {offset size divider : Nat} {type : EmsValue.ValueType}
      {subtype : EmsValue.SubType} {isSigned : Bool} {invalid : List (List UInt8)}
      (positive : 0 < size) :
      SafeIff (m.parseNumeric offset size divider type subtype isSigned invalid) True :=
    safeIff_of_emits (emits_parseNumeric m positive divider type subtype isSigned invalid)
  refine (safeIff_bind (relative (by decide)) fun _ => safeIff_bind (relative (by decide)) fun _ =>
    safeIff_bind (relative (by decide)) fun _ => safeIff_bind (relative (by decide)) fun _ =>
    safeIff_bind (relative (by decide)) fun _ => safeIff_bind (relative (by decide)) fun _ =>
    safeIff_bind (relative (by decide)) fun _ => safeIff_bind (relative (by decide)) fun _ =>
    safeIff_bind (safeIff_parseFehlerCode m) fun _ => safeIff_parseFlammeAktiv m).congr ?_
  simp [MonitorHazard]

/-- Every other parser hands out the values of its layout. -/
theorem dispatch_emits (m : EmsMessage) (noError : ¬ IsErrorTelegram m.source m.getType)
    (noMonitor : ¬ IsMonitorTelegram m.source m.getType) :
    Emits m m.dispatch (layoutOf m.source m.getType m.data) := by
  have num {offset size divider : Nat} {type : EmsValue.ValueType}
      {subtype : EmsValue.SubType} {isSigned : Bool} {invalid : List (List UInt8)}
      (positive : 0 < size) :
      Emits m (m.parseNumeric offset size divider type subtype isSigned invalid)
        [numericField offset size divider type subtype isSigned invalid] :=
    emits_parseNumeric m positive divider type subtype isSigned invalid
  have one : 0 < 1 := by decide
  have two : 0 < 2 := by decide
  unfold dispatch layoutOf
  unfold IsErrorTelegram at noError
  unfold IsMonitorTelegram at noMonitor
  generalize m.getType.toNat = type at noError noMonitor ⊢
  by_cases uba2 : m.source = EmsProto.addressUBA2
  · simp only [uba2, if_true, true_and, true_or] at noError noMonitor ⊢
    split
    · exact emits_seq (emits_parseEnum m _ _ _) (emits_seq (num one) (emits_seq (num one)
        (emits_parseWartungstermin m)))
    · exact num two
    · exact absurd rfl noMonitor
    · exact emits_seq (num one) (emits_seq (emits_parseBool m _ _ _ _) (emits_parseBool m _ _ _ _))
    · exact emits_seq (num one) (num two)
    · exact emits_seq (num one) (emits_seq (num one) (emits_seq (num one) (num one)))
    · exact emits_pure m
    · exact absurd rfl noError
    · simpa only using emits_pure m
  · simp only [uba2, if_false, false_or] at noError ⊢
    by_cases ui800 : m.source = EmsProto.addressUI800
    · simp only [ui800, if_true, true_and] at noError ⊢
      split
      · exact emits_parseRCTimeMessage m
      · exact absurd rfl noError
      · exact emits_seq (emits_parseEnum m _ _ _) (emits_seq (emits_parseEnum m _ _ _) (emits_seq (num one)
          (emits_parseBool m _ _ _ _)))
      · exact emits_seq (num two) (emits_parseEnum m _ _ _)
      · exact emits_parseEnum m _ _ _
      · exact emits_seq (num one) (emits_seq (emits_parseEnum m _ _ _) (emits_parseBool m _ _ _ _))
      · exact emits_seq (emits_parseEnum m _ _ _) (emits_seq (num one) (emits_seq (num one)
          (emits_seq (emits_parseBool m _ _ _ _) (emits_seq (num one) (emits_seq (num one)
            (emits_seq (num one) (num one)))))))
      · exact emits_seq (num two) (emits_seq (emits_parseEnum m _ _ _) (emits_parseBool m _ _ _ _))
      · exact emits_seq (num one) (emits_seq (num one) (emits_seq (num one)
          (emits_parseEnum m _ _ _)))
      · simpa only using emits_pure m
    · simp only [ui800, if_false]
      exact emits_pure m

/-- A telegram of `size` bytes at `offset` makes `handle` leave the data. -/
def DataHazard (source : UInt8) (type : UInt16) (offset size : Nat) : Prop :=
  (IsErrorTelegram source type ∧ ErrorHazard offset size) ∨
    (IsMonitorTelegram source type ∧ MonitorHazard offset size)

theorem dispatch_error {m : EmsMessage} (error : IsErrorTelegram m.source m.getType) :
    m.dispatch = m.parseUI800ErrorMessage := by
  obtain ⟨source, type⟩ := error
  unfold dispatch
  rcases source with source | source
  · simp only [source, type, if_true]
    rfl
  · simp only [source, type, if_true]
    rfl

theorem dispatch_monitor {m : EmsMessage} (monitor : IsMonitorTelegram m.source m.getType) :
    m.dispatch = m.parseUBA2MonitorMessage := by
  obtain ⟨source, type⟩ := monitor
  unfold dispatch
  simp only [source, type, if_true]

theorem not_error_of_monitor {source : UInt8} {type : UInt16}
    (monitor : IsMonitorTelegram source type) : ¬ IsErrorTelegram source type := by
  intro error
  have same : 0xe4 = 0xbf := monitor.2.symm.trans error.2
  exact absurd same (by decide)

theorem safeIff_dispatch (m : EmsMessage) :
    SafeIff m.dispatch (¬ DataHazard m.source m.getType m.offset.toNat m.data.length) := by
  unfold DataHazard
  by_cases error : IsErrorTelegram m.source m.getType
  · have noMonitor : ¬ IsMonitorTelegram m.source m.getType :=
      fun monitor => not_error_of_monitor monitor error
    rw [dispatch_error error]
    exact (safeIff_parseUI800ErrorMessage m).congr (by simp [error, noMonitor])
  · by_cases monitor : IsMonitorTelegram m.source m.getType
    · rw [dispatch_monitor monitor]
      exact (safeIff_parseUBA2MonitorMessage m).congr (by simp [error, monitor])
    · exact (safeIff_of_emits (dispatch_emits m error monitor)).congr (by simp [error, monitor])

theorem noHazard_of_noSource (type : UInt16) (offset size : Nat) :
    ¬ DataHazard 0 type offset size := by
  rintro (⟨⟨source, -⟩, -⟩ | ⟨⟨source, -⟩, -⟩)
  · exact absurd source (by decide)
  · exact absurd source (by decide)

theorem handle_ok_iff {m : EmsMessage} (handler : m.valueHandler = true) :
    (∃ values, m.handle = .ok values) ↔
      ¬ DataHazard m.source m.getType m.offset.toNat m.data.length := by
  unfold handle
  rw [if_neg (by simp [handler])]
  by_cases invalid : m.source = 0 ∧ m.dest = 0 ∧ m.type = 0
  · rw [if_pos invalid, invalid.1]
    exact ⟨fun _ => noHazard_of_noSource _ _ _, fun _ => ⟨[], rfl⟩⟩
  · rw [if_neg invalid]
    constructor
    · rintro ⟨values, run⟩ hazard
      obtain ⟨e, fault⟩ := (safeIff_dispatch m).2 (fun safe => safe hazard) []
      rw [fault] at run
      cases run
    · intro safe
      obtain ⟨r, run⟩ := (safeIff_dispatch m).1 safe []
      exact ⟨r.2, by rw [run]; rfl⟩

/-- Where the two bytes of an EMS-plus type start behind the header. -/
def plusStart (dest : UInt8) : Nat := if dest &&& 0x80 = 0 then 0 else 1

/-- The header announces an EMS-plus type, and `size` bytes behind it are held to be enough. -/
def IsPlus (dest type : UInt8) (size : Nat) : Prop :=
  type ≥ 0xf0 ∧ (if dest &&& 0x80 = 0 then 3 else 2) ≤ size

instance (dest type : UInt8) (size : Nat) : Decidable (IsPlus dest type size) :=
  inferInstanceAs (Decidable (_ ∧ _))

/-- The EMS-plus type of a telegram, 0 if it has none. -/
def plusType (dest type : UInt8) (rest : List UInt8) : UInt16 :=
  if IsPlus dest type rest.length then
    ((rest.getD (plusStart dest) 0).toUInt16 <<< 8) |||
      (rest.getD (plusStart dest + 1) 0).toUInt16
  else 0

/-- The type of a telegram. -/
def wireType (dest type : UInt8) (rest : List UInt8) : UInt16 :=
  if plusType dest type rest ≠ 0 then plusType dest type rest else type.toUInt16

/-- The number of data bytes of a telegram. -/
def wireSize (dest type : UInt8) (size : Nat) : Nat :=
  if IsPlus dest type size then size - 2 else size

/-- A written EMS-plus telegram stops in the middle of its type. -/
def Truncated (dest type : UInt8) (size : Nat) : Prop :=
  type ≥ 0xf0 ∧ dest &&& 0x80 ≠ 0 ∧ size = 2

/-- The payloads that make the constructor or `handle` leave the buffer. -/
def WireHazard : List UInt8 → Prop
  | source :: dest :: type :: offset :: rest =>
      Truncated dest type rest.length ∨
        DataHazard source (wireType dest type rest) offset.toNat (wireSize dest type rest.length)
  | _ => False

theorem receive_truncated {source dest type offset : UInt8} {rest : List UInt8}
    (truncated : Truncated dest type rest.length) :
    receive (source :: dest :: type :: offset :: rest) = .error (.subscript 2 2) := by
  obtain ⟨plus, written, size⟩ := truncated
  obtain ⟨b0, b1, rfl⟩ := List.length_eq_two.mp size
  simp [receive, written, plus, subscript]
  rfl

/-- A payload without a complete header is handled as a telegram without source. -/
theorem short_ok {b : List UInt8} (short : b.length < 4) :
    ∃ m values, receive b = .ok m ∧ m.handle = .ok values := by
  match b, short with
  | [], _ => exact ⟨_, [], rfl, rfl⟩
  | [_], _ => exact ⟨_, [], rfl, rfl⟩
  | [_, _], _ => exact ⟨_, [], rfl, rfl⟩
  | [_, _, _], _ => exact ⟨_, [], rfl, rfl⟩

theorem getType_plain {dest type : UInt8} {rest : List UInt8}
    (plain : ¬ IsPlus dest type rest.length) : wireType dest type rest = type.toUInt16 := by
  simp [wireType, plusType, plain]

theorem isPlus_size {dest type : UInt8} {size : Nat} (plus : IsPlus dest type size)
    (complete : ¬ Truncated dest type size) : plusStart dest + 2 ≤ size := by
  obtain ⟨high, enough⟩ := plus
  unfold Truncated at complete
  unfold plusStart
  by_cases read : dest &&& 0x80 = 0
  · rw [if_pos read] at enough ⊢
    omega
  · rw [if_neg read] at enough ⊢
    have more : size ≠ 2 := fun two => complete ⟨high, read, two⟩
    omega

theorem isPlus_iff {source dest type offset : UInt8} {rest : List UInt8} :
    (type ≥ 0xf0 ∧ (source :: dest :: type :: offset :: rest).length ≥
      (if dest &&& 0x80 = 0 then 7 else 6)) ↔ IsPlus dest type rest.length := by
  unfold IsPlus
  by_cases read : dest &&& 0x80 = 0
  · simp [read]
  · simp [read]

theorem receive_plus {source dest type offset : UInt8} {rest : List UInt8}
    (plus : IsPlus dest type rest.length) :
    receive (source :: dest :: type :: offset :: rest) = (do
      let high ← subscript rest (plusStart dest)
      let low ← subscript rest (plusStart dest + 1)
      let data ← eraseRange rest (plusStart dest) 2
      .ok ⟨true, data, source, dest, type, (high.toUInt16 <<< 8) ||| low.toUInt16, offset⟩) := by
  simp only [receive, decide_eq_true_eq, plusStart]
  rw [if_pos (isPlus_iff.mpr plus)]

theorem receive_plain {source dest type offset : UInt8} {rest : List UInt8}
    (plain : ¬ IsPlus dest type rest.length) :
    receive (source :: dest :: type :: offset :: rest) =
      .ok ⟨true, rest, source, dest, type, 0, offset⟩ := by
  simp only [receive, decide_eq_true_eq]
  rw [if_neg (fun h => plain (isPlus_iff.mp h))]

/-- What the constructor makes of a payload with a complete header. -/
theorem receive_ok (source offset : UInt8) {dest type : UInt8} {rest : List UInt8}
    (complete : ¬ Truncated dest type rest.length) :
    ∃ m, receive (source :: dest :: type :: offset :: rest) = .ok m ∧ m.valueHandler = true ∧
      m.source = source ∧ m.getType = wireType dest type rest ∧ m.offset = offset ∧
      m.data.length = wireSize dest type rest.length := by
  by_cases plus : IsPlus dest type rest.length
  · have size := isPlus_size plus complete
    refine ⟨⟨true, rest.take (plusStart dest) ++ rest.drop (plusStart dest + 2), source, dest,
      type, plusType dest type rest, offset⟩, ?_, rfl, rfl, rfl, rfl, ?_⟩
    · rw [receive_plus plus]
      simp only [subscript_ok (show plusStart dest < rest.length by omega),
        subscript_ok (show plusStart dest + 1 < rest.length by omega), eraseRange, if_pos size,
        plusType, if_pos plus, List.getD_eq_getElem?_getD]
      rw [List.getElem?_eq_getElem (show plusStart dest < rest.length by omega),
        List.getElem?_eq_getElem (show plusStart dest + 1 < rest.length by omega)]
      rfl
    · simp only [wireSize, if_pos plus, List.length_append, List.length_take, List.length_drop]
      omega
  · refine ⟨⟨true, rest, source, dest, type, 0, offset⟩, ?_, rfl, rfl, ?_, rfl, ?_⟩
    · exact receive_plain plus
    · rw [getType_plain plus]
      rfl
    · rw [wireSize, if_neg plus]

/-- Constructing a telegram from a payload and handling it stays inside the buffer exactly for
    the payloads without a hazard. -/
theorem access_inRange_iff (b : List UInt8) :
    (∃ m values, receive b = .ok m ∧ m.handle = .ok values) ↔ ¬ WireHazard b := by
  match b with
  | source :: dest :: type :: offset :: rest =>
      unfold WireHazard
      by_cases truncated : Truncated dest type rest.length
      · rw [receive_truncated truncated]
        constructor
        · rintro ⟨m, values, run, -⟩
          cases run
        · intro safe
          exact absurd (Or.inl truncated) safe
      · obtain ⟨m, run, handler, hsource, htype, hoffset, hsize⟩ :=
          receive_ok source offset truncated
        have handled := handle_ok_iff handler
        rw [hsource, htype, hoffset, hsize] at handled
        simp only [run, Except.ok.injEq, truncated, false_or, ← handled]
        constructor
        · rintro ⟨m', values, rfl, value⟩
          exact ⟨values, value⟩
        · rintro ⟨values, value⟩
          exact ⟨m, values, rfl, value⟩
  | [] => exact iff_of_true (short_ok (by decide)) not_false
  | [_] => exact iff_of_true (short_ok (by simp)) not_false
  | [_, _] => exact iff_of_true (short_ok (by simp)) not_false
  | [_, _, _] => exact iff_of_true (short_ok (by simp)) not_false

/-- An error telegram without data: the parser reads `m_data[0]`. -/
theorem empty_error_telegram :
    ¬ ∀ b : List UInt8, b.length ≤ 255 →
      ∃ m values, receive b = .ok m ∧ m.handle = .ok values := by
  intro safe
  obtain ⟨m, values, run, handled⟩ := safe [0x90, 0x0b, 0xbf, 0x00] (by decide)
  cases run
  exact nomatch handled

end EmsCollector.EmsMessage
