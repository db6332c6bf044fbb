import EmsCollector.Collector.ApiCommandParserProof.DataLines
import EmsCollector.Collector.EmsMessageProof.Access
import EmsCollector.Misc.HandedOut

/-!
# The kinds of values

What `handle` hands out, whatever the telegram holds: the types and subtypes of the values, each
with the way its reading is stored.
-/

namespace EmsCollector

/-- The reading type that stands for a case of the variant. -/
def EmsValue.Reading.readingType : EmsValue.Reading → EmsValue.ReadingType
  | numeric _ => .numeric
  | integer _ => .integer
  | boolean _ => .boolean
  | enumeration _ => .enumeration
  | kennlinie _ => .kennlinie
  | error .. => .error
  | date _ => .date
  | systemTime _ => .systemTime
  | formatted _ => .formatted

/-- The type and subtype of a value, and how its reading is stored. -/
structure Kind where
  type : EmsValue.ValueType
  subType : EmsValue.SubType
  readingType : EmsValue.ReadingType
  deriving DecidableEq, Repr

def EmsValue.kind (value : EmsValue) : Kind := ⟨value.type, value.subType, value.readingType⟩

namespace EmsMessage

open ApiCommandParser (Plain toString_plain)

/-- The values of all telegrams but the error telegrams. -/
def telegramKinds : List Kind :=
  [⟨.wartungsmeldungen, .kessel, .enumeration⟩, ⟨.hektoStundenVorWartung, .kessel, .integer⟩,
    ⟨.monateVorWartung, .kessel, .integer⟩, ⟨.wartungstermin, .kessel, .date⟩,
    ⟨.istTemp, .aussen, .numeric⟩, ⟨.sollTemp, .kessel, .numeric⟩, ⟨.istTemp, .kessel, .numeric⟩,
    ⟨.istTemp, .waermetauscher, .numeric⟩, ⟨.istTemp, .ruecklauf, .numeric⟩,
    ⟨.flammenstrom, .none, .numeric⟩, ⟨.systemdruck, .none, .numeric⟩,
    ⟨.istModulation, .brenner, .integer⟩, ⟨.sollModulation, .brenner, .integer⟩,
    ⟨.fehlerCode, .none, .formatted⟩, ⟨.serviceCode, .none, .formatted⟩,
    ⟨.flammeAktiv, .none, .boolean⟩, ⟨.istModulation, .kesselPumpe, .integer⟩,
    ⟨.dreiWegeVentilAufWW, .none, .boolean⟩, ⟨.zirkulationAktiv, .none, .boolean⟩,
    ⟨.sollTemp, .ww, .numeric⟩, ⟨.istTemp, .ww, .numeric⟩, ⟨.komfortTemp, .ww, .numeric⟩,
    ⟨.zirkProStunde, .zirkulation, .numeric⟩, ⟨.extraTemp, .ww, .numeric⟩,
    ⟨.reduzierteTemp, .ww, .numeric⟩, ⟨.systemZeit, .none, .systemTime⟩,
    ⟨.betriebsart, .ww, .enumeration⟩, ⟨.betriebsart, .zirkulation, .enumeration⟩,
    ⟨.extra15Mins, .ww, .numeric⟩, ⟨.extraActive, .ww, .boolean⟩,
    ⟨.extraRemainingMins, .ww, .numeric⟩, ⟨.betriebszustand, .ww, .enumeration⟩,
    ⟨.betriebszustand, .zirkulation, .enumeration⟩, ⟨.minTemp, .rc, .numeric⟩,
    ⟨.gebaeudeArt, .rc, .enumeration⟩, ⟨.atDaempfung, .rc, .boolean⟩,
    ⟨.betriebsart, .hk1, .enumeration⟩, ⟨.temporaryTemp, .hk1, .numeric⟩,
    ⟨.manualTemp, .hk1, .numeric⟩, ⟨.boostActive, .hk1, .boolean⟩, ⟨.boostHours, .hk1, .numeric⟩,
    ⟨.boostTemp, .hk1, .numeric⟩, ⟨.nachtTemp, .hk1, .numeric⟩, ⟨.tagTemp, .hk1, .numeric⟩,
    ⟨.boostRemainingMins, .hk1, .numeric⟩, ⟨.betriebszustand, .hk1, .enumeration⟩,
    ⟨.sommerbetrieb, .hk1, .boolean⟩, ⟨.raumOffset, .hk1, .numeric⟩,
    ⟨.auslegungsTemp, .hk1, .numeric⟩, ⟨.schwelleSommerWinter, .hk1, .numeric⟩,
    ⟨.sommerbetriebsart, .hk1, .enumeration⟩]

/-- The values of the error telegrams. -/
def errorKinds : List Kind :=
  [⟨.stoerung, .kessel, .boolean⟩, ⟨.stoerung, .rc, .boolean⟩, ⟨.stoerungsCode, .none, .formatted⟩,
    ⟨.stoerungsNummer, .none, .formatted⟩]

/-- A value of one of the kinds, with a reading that is stored as its kind says. -/
structure OfKinds (kinds : List Kind) (value : EmsValue) : Prop where
  mem : value.kind ∈ kinds
  stored : value.value.readingType = value.readingType

/-- A text in the value is one line. -/
def OneLine (value : EmsValue) : Prop := ∀ text, value.value = .formatted text → Plain text

section Parsers

variable {P : EmsValue → Prop} {type : EmsValue.ValueType} {subtype : EmsValue.SubType}

theorem handOut_hands {value : EmsValue} (good : P value) : HandsOut P (handOut value) := by
  rintro earlier _ all ⟨⟩
  exact ⟨[value], rfl, fun a member => List.mem_singleton.mp member ▸ good⟩

theorem parseEnum_hands (m : EmsMessage) (offset : Nat) (good : ∀ b, P (.ofEnum type subtype b)) :
    HandsOut P (m.parseEnum offset type subtype) :=
  .ite (.bind (.lift _) (fun b => handOut_hands (good b))) (.pure ())

theorem parseNumeric_hands (m : EmsMessage) (offset size divider : Nat) (isSigned : Bool)
    (invalidValues : List (List UInt8))
    (good : ∀ field, P (.ofField type subtype field divider isSigned invalidValues)) :
    HandsOut P (m.parseNumeric offset size divider type subtype isSigned invalidValues) :=
  .ite (.bind (.lift _) (fun field => handOut_hands (good field))) (.pure ())

theorem parseBool_hands (m : EmsMessage) (offset : Nat) (bit : UInt8)
    (good : ∀ b, P (.ofBit type subtype b bit)) : HandsOut P (m.parseBool offset bit type subtype) :=
  .ite (.bind (.lift _) (fun _ => handOut_hands (good _))) (.pure ())

theorem parseWartungstermin_hands (m : EmsMessage)
    (good : ∀ record, P (.ofDate .wartungstermin .kessel record)) : HandsOut P m.parseWartungstermin := by
  refine .ite (.bind (.lift _) (fun field => ?_)) (.pure ())
  cases DateRecord.read field with
  | none => exact .pure ()
  | some record => exact handOut_hands (good record)

theorem parseRCTimeMessage_hands (m : EmsMessage)
    (good : ∀ record, P (.ofSystemTime .systemZeit .none record)) :
    HandsOut P m.parseRCTimeMessage := by
  refine .ite (.bind (.lift _) (fun field => ?_)) (.pure ())
  cases SystemTimeRecord.read field with
  | none => exact .pure ()
  | some record => exact handOut_hands (good record)

theorem parseFehlerCode_hands (m : EmsMessage)
    (number : ∀ high low, P (.ofString .fehlerCode .none (streamWord high low)))
    (service : P (.ofString .serviceCode .none "--")) : HandsOut P m.parseFehlerCode :=
  .ite (.bind (.lift _) (fun high => .bind (.lift _) (fun low =>
    .bind (handOut_hands (number high low)) (fun _ => handOut_hands service)))) (.pure ())

theorem parseFlammeAktiv_hands (m : EmsMessage)
    (good : ∀ b, P (.ofBit .flammeAktiv .none b 0)) : HandsOut P m.parseFlammeAktiv :=
  .ite (.bind (.lift _) (fun _ => .bind (.lift _) (fun _ => handOut_hands (good _)))) (.pure ())

theorem parseStoerung_hands (m : EmsMessage) (device : UInt8)
    (good : ∀ b, P (.ofBit .stoerung subtype b 4)) : HandsOut P (m.parseStoerung device subtype) :=
  .bind (.lift _) (fun _ => .ite (parseBool_hands m 7 4 good) (.pure ()))

theorem parseErrorCode_hands (m : EmsMessage) (i : Nat)
    (code : ∀ text, P (.ofString .stoerungsCode .none text)) : HandsOut P (m.parseErrorCode i) :=
  .ite (.bind (.lift _) (fun _ => .bind (.lift _) (fun _ => .bind (.lift _) (fun _ =>
    .ite (.bind (handOut_hands (code _)) (fun _ => .pure true)) (.pure false))))) (.pure false)

theorem parseErrorNumber_hands (m : EmsMessage) (i : Nat)
    (number : ∀ text, P (.ofString .stoerungsNummer .none text)) : HandsOut P (m.parseErrorNumber i) :=
  .ite (.bind (.lift _) (fun _ => .bind (.lift _) (fun _ =>
    .ite (.bind (handOut_hands (number _)) (fun _ => .pure true)) (.pure false)))) (.pure false)

theorem parseErrorEntry_hands (m : EmsMessage) (i : Nat)
    (code : ∀ text, P (.ofString .stoerungsCode .none text))
    (number : ∀ text, P (.ofString .stoerungsNummer .none text)) : HandsOut P (m.parseErrorEntry i) :=
  .bind (parseErrorCode_hands m i code) (fun _ => .bind (parseErrorNumber_hands m i number)
    (fun _ => .pure _))

end Parsers

/-- The values of the telegrams that are no error telegrams. -/
structure Told (value : EmsValue) : Prop where
  ofKinds : OfKinds telegramKinds value
  oneLine : OneLine value

section Told

variable {type : EmsValue.ValueType} {subtype : EmsValue.SubType}

theorem ofField_kind (data : List UInt8) (divider : Nat) (isSigned : Bool)
    (invalidValues : List (List UInt8)) :
    let value := EmsValue.ofField type subtype data divider isSigned invalidValues
    value.kind = ⟨type, subtype, if divider = 0 then .integer else .numeric⟩ ∧
      value.value.readingType = value.readingType ∧ OneLine value := by
  unfold EmsValue.ofField
  by_cases whole : divider = 0
  · simp only [if_pos whole]
    exact ⟨rfl, rfl, nofun⟩
  · simp only [if_neg whole]
    exact ⟨rfl, rfl, nofun⟩

theorem told_field {divider : Nat}
    (mem : ⟨type, subtype, if divider = 0 then .integer else .numeric⟩ ∈ telegramKinds)
    (isSigned : Bool) (invalidValues : List (List UInt8)) (data : List UInt8) :
    Told (.ofField type subtype data divider isSigned invalidValues) := by
  obtain ⟨kind, stored, oneLine⟩ := @ofField_kind type subtype data divider isSigned invalidValues
  exact ⟨⟨kind ▸ mem, stored⟩, oneLine⟩

theorem told_enum (mem : ⟨type, subtype, .enumeration⟩ ∈ telegramKinds) (b : UInt8) :
    Told (.ofEnum type subtype b) := ⟨⟨mem, rfl⟩, nofun⟩

theorem told_bit (mem : ⟨type, subtype, .boolean⟩ ∈ telegramKinds) (bit b : UInt8) :
    Told (.ofBit type subtype b bit) := ⟨⟨mem, rfl⟩, nofun⟩

theorem told_string (mem : ⟨type, subtype, .formatted⟩ ∈ telegramKinds) {text : String}
    (line : Plain text) : Told (.ofString type subtype text) := by
  refine ⟨⟨mem, rfl⟩, ?_⟩
  rintro _ ⟨⟩
  exact line

end Told

theorem parseUBA2MonitorMessage_told (m : EmsMessage) : HandsOut Told m.parseUBA2MonitorMessage := by
  refine .bind (parseNumeric_hands m _ _ _ _ _ (told_field (by decide) _ _)) (fun _ => .bind
    (parseNumeric_hands m _ _ _ _ _ (told_field (by decide) _ _)) (fun _ => .bind
    (parseNumeric_hands m _ _ _ _ _ (told_field (by decide) _ _)) (fun _ => .bind
    (parseNumeric_hands m _ _ _ _ _ (told_field (by decide) _ _)) (fun _ => .bind
    (parseNumeric_hands m _ _ _ _ _ (told_field (by decide) _ _)) (fun _ => .bind
    (parseNumeric_hands m _ _ _ _ _ (told_field (by decide) _ _)) (fun _ => .bind
    (parseNumeric_hands m _ _ _ _ _ (told_field (by decide) _ _)) (fun _ => .bind
    (parseNumeric_hands m _ _ _ _ _ (told_field (by decide) _ _)) (fun _ => .bind
    (parseFehlerCode_hands m (fun high low => ?_) ?_) (fun _ => parseFlammeAktiv_hands m ?_)))))))))
  · exact told_string (by decide) (toString_plain _)
  · exact told_string (by decide) (by decide)
  · exact told_bit (by decide) 0

/-- Every other parser. -/
theorem dispatch_told (m : EmsMessage) (noError : ¬ IsErrorTelegram m.source m.getType) :
    HandsOut Told m.dispatch := by
  have enum {offset : Nat} {type : EmsValue.ValueType} {subtype : EmsValue.SubType}
      (mem : ⟨type, subtype, .enumeration⟩ ∈ telegramKinds) :
      HandsOut Told (m.parseEnum offset type subtype) := parseEnum_hands m offset (told_enum mem)
  have num {offset size divider : Nat} {type : EmsValue.ValueType} {subtype : EmsValue.SubType}
      {isSigned : Bool} {invalid : List (List UInt8)}
      (mem : ⟨type, subtype, if divider = 0 then .integer else .numeric⟩ ∈ telegramKinds) :
      HandsOut Told (m.parseNumeric offset size divider type subtype isSigned invalid) :=
    parseNumeric_hands m offset size divider isSigned invalid (told_field mem _ _)
  have bool {offset : Nat} {bit : UInt8} {type : EmsValue.ValueType} {subtype : EmsValue.SubType}
      (mem : ⟨type, subtype, .boolean⟩ ∈ telegramKinds) :
      HandsOut Told (m.parseBool offset bit type subtype) := parseBool_hands m offset bit (told_bit mem bit)
  unfold dispatch
  unfold IsErrorTelegram at noError
  generalize m.getType.toNat = type at noError ⊢
  by_cases uba2 : m.source = EmsProto.addressUBA2
  · simp only [uba2, if_true, true_and, true_or] at noError ⊢
    split
    · have date : (⟨.wartungstermin, .kessel, .date⟩ : Kind) ∈ telegramKinds := by decide
      exact .bind (enum (by decide)) (fun _ => .bind (num (by decide)) (fun _ =>
        .bind (num (by decide)) (fun _ => parseWartungstermin_hands m
          (fun record => ⟨⟨date, rfl⟩, nofun⟩))))
    · exact num (by decide)
    · exact parseUBA2MonitorMessage_told m
    · exact .bind (num (by decide)) (fun _ => .bind (bool (by decide)) (fun _ => bool (by decide)))
    · exact .bind (num (by decide)) (fun _ => num (by decide))
    · exact .bind (num (by decide)) (fun _ => .bind (num (by decide)) (fun _ =>
        .bind (num (by decide)) (fun _ => num (by decide))))
    · exact .pure ()
    · exact absurd rfl noError
    · exact .pure ()
  · simp only [uba2, if_false, false_or] at noError ⊢
    by_cases ui800 : m.source = EmsProto.addressUI800
    · simp only [ui800, if_true, true_and] at noError ⊢
      split
      · have time : (⟨.systemZeit, .none, .systemTime⟩ : Kind) ∈ telegramKinds := by decide
        exact parseRCTimeMessage_hands m (fun record => ⟨⟨time, rfl⟩, nofun⟩)
      · exact absurd rfl noError
      · exact .bind (enum (by decide)) (fun _ => .bind (enum (by decide)) (fun _ =>
          .bind (num (by decide)) (fun _ => bool (by decide))))
      · exact .bind (num (by decide)) (fun _ => enum (by decide))
      · exact enum (by decide)
      · exact .bind (num (by decide)) (fun _ => .bind (enum (by decide)) (fun _ => bool (by decide)))
      · exact .bind (enum (by decide)) (fun _ => .bind (num (by decide)) (fun _ =>
          .bind (num (by decide)) (fun _ => .bind (bool (by decide)) (fun _ =>
          .bind (num (by decide)) (fun _ => .bind (num (by decide)) (fun _ =>
          .bind (num (by decide)) (fun _ => num (by decide))))))))
      · exact .bind (num (by decide)) (fun _ => .bind (enum (by decide)) (fun _ => bool (by decide)))
      · exact .bind (num (by decide)) (fun _ => .bind (num (by decide)) (fun _ =>
          .bind (num (by decide)) (fun _ => enum (by decide))))
      · exact .pure ()
    · simp only [ui800, if_false]
      exact .pure ()

/-- The error telegrams. -/
theorem parseUI800ErrorMessage_kinds (m : EmsMessage) :
    HandsOut (OfKinds errorKinds) m.parseUI800ErrorMessage := by
  have flag {subtype : EmsValue.SubType} (mem : ⟨.stoerung, subtype, .boolean⟩ ∈ errorKinds)
      (device : UInt8) : HandsOut (OfKinds errorKinds) (m.parseStoerung device subtype) :=
    parseStoerung_hands m device (fun b => ⟨mem, rfl⟩)
  have code (text : String) : OfKinds errorKinds (.ofString .stoerungsCode .none text) :=
    have mem : (⟨.stoerungsCode, .none, .formatted⟩ : Kind) ∈ errorKinds := by decide
    ⟨mem, rfl⟩
  have number (text : String) : OfKinds errorKinds (.ofString .stoerungsNummer .none text) :=
    have mem : (⟨.stoerungsNummer, .none, .formatted⟩ : Kind) ∈ errorKinds := by decide
    ⟨mem, rfl⟩
  have entry (i : Nat) := parseErrorEntry_hands m i code number
  exact .bind (flag (by decide) _) (fun _ => .bind (flag (by decide) _) (fun _ =>
    .bind (entry 0) (fun _ => .bind (entry 1) (fun _ => .bind (entry 2) (fun _ =>
      .ite (.pure ()) (.bind (handOut_hands (code _)) (fun _ => handOut_hands (number _))))))))

/-- The values of an error: its code and its number. -/
def Reports (value : EmsValue) : Prop :=
  value.type = .stoerungsCode ∨ value.type = .stoerungsNummer

theorem parseErrorCode_reports {m : EmsMessage} {i : Nat} {earlier all : List EmsValue}
    (ran : m.parseErrorCode i earlier = .ok (true, all)) : ∃ value ∈ all, Reports value := by
  unfold parseErrorCode at ran
  split at ran
  · obtain ⟨c0, first, -, ran⟩ := stateBind_ok ran
    obtain ⟨c1, second, -, ran⟩ := stateBind_ok ran
    obtain ⟨c2, third, -, ran⟩ := stateBind_ok ran
    split at ran
    · cases ran
      exact ⟨_, List.mem_append_right _ (List.mem_singleton_self _), .inl rfl⟩
    · cases ran
  · cases ran

theorem parseErrorNumber_reports {m : EmsMessage} {i : Nat} {earlier all : List EmsValue}
    (ran : m.parseErrorNumber i earlier = .ok (true, all)) : ∃ value ∈ all, Reports value := by
  unfold parseErrorNumber at ran
  split at ran
  · obtain ⟨high, first, -, ran⟩ := stateBind_ok ran
    obtain ⟨low, second, -, ran⟩ := stateBind_ok ran
    split at ran
    · cases ran
      exact ⟨_, List.mem_append_right _ (List.mem_singleton_self _), .inr rfl⟩
    · cases ran
  · cases ran

/-- A computation keeps what was handed out before it. -/
theorem kept_member {β : Type} {parser : ParseM β} (hands : HandsOut (fun _ => True) parser)
    {earlier all : List EmsValue} {b : β} (ran : parser earlier = .ok (b, all)) {value : EmsValue}
    (member : value ∈ earlier) : value ∈ all := by
  obtain ⟨more, rfl, -⟩ := hands _ _ _ ran
  exact List.mem_append_left _ member

theorem parseErrorEntry_reports {m : EmsMessage} {i : Nat} {earlier all : List EmsValue}
    (ran : m.parseErrorEntry i earlier = .ok (true, all)) : ∃ value ∈ all, Reports value := by
  obtain ⟨code, middle, first, ran⟩ := stateBind_ok ran
  obtain ⟨number, last, second, ran⟩ := stateBind_ok ran
  obtain ⟨found, rfl⟩ := Prod.mk.inj (Except.ok.inj ran)
  rcases (Bool.or_eq_true _ _).mp found with rfl | rfl
  · obtain ⟨value, member, reports⟩ := parseErrorCode_reports first
    exact ⟨value, kept_member (parseErrorNumber_hands m i (fun _ => trivial)) second member, reports⟩
  · exact parseErrorNumber_reports second

/-- Every error telegram reports something. -/
theorem parseUI800ErrorMessage_reports {m : EmsMessage} {earlier all : List EmsValue}
    (ran : m.parseUI800ErrorMessage earlier = .ok ((), all)) : ∃ value ∈ all, Reports value := by
  obtain ⟨-, s₁, -, ran⟩ := stateBind_ok ran
  obtain ⟨-, s₂, -, ran⟩ := stateBind_ok ran
  obtain ⟨first, s₃, entry₀, ran⟩ := stateBind_ok ran
  obtain ⟨second, s₄, entry₁, ran⟩ := stateBind_ok ran
  obtain ⟨third, s₅, entry₂, ran⟩ := stateBind_ok ran
  have kept {i : Nat} {b : Bool} {earlier all : List EmsValue}
      (ran : m.parseErrorEntry i earlier = .ok (b, all)) {value : EmsValue} (member : value ∈ earlier) :
      value ∈ all :=
    kept_member (parseErrorEntry_hands m i (fun _ => trivial) (fun _ => trivial)) ran member
  by_cases found : (first || second || third) = true
  · rw [if_pos found] at ran
    cases ran
    rw [Bool.or_eq_true, Bool.or_eq_true] at found
    rcases found with (rfl | rfl) | rfl
    · obtain ⟨value, member, reports⟩ := parseErrorEntry_reports entry₀
      exact ⟨value, kept entry₂ (kept entry₁ member), reports⟩
    · obtain ⟨value, member, reports⟩ := parseErrorEntry_reports entry₁
      exact ⟨value, kept entry₂ member, reports⟩
    · exact parseErrorEntry_reports entry₂
  · rw [if_neg found] at ran
    cases ran
    exact ⟨_, List.mem_append_right _ (List.mem_singleton_self _), .inr rfl⟩

variable {m : EmsMessage} {values : List EmsValue}

/-- What comes of the dispatch. -/
theorem handle_hands {P : EmsValue → Prop} (hands : HandsOut P m.dispatch)
    (ran : m.handle = .ok values) : ∀ value ∈ values, P value := by
  unfold handle at ran
  split at ran
  · cases ran
    exact fun _ member => absurd member List.not_mem_nil
  · split at ran
    · cases ran
      exact fun _ member => absurd member List.not_mem_nil
    · cases run : m.dispatch [] with
      | error e =>
          rw [run] at ran
          cases ran
      | ok s =>
          rw [run] at ran
          cases ran
          obtain ⟨more, all, members⟩ := hands _ _ _ run
          rw [all]
          exact members

/-- An error telegram that is handled reports something. -/
theorem handle_reports (error : IsErrorTelegram m.source m.getType) (handler : m.valueHandler = true)
    (ran : m.handle = .ok values) : ∃ value ∈ values, Reports value := by
  have known : ¬ (m.source = 0 ∧ m.dest = 0 ∧ m.type = 0) := by
    rintro ⟨none, -, -⟩
    rcases error.1 with source | source
    · cases none.symm.trans source
    · cases none.symm.trans source
  unfold handle at ran
  rw [handler, if_neg (by decide), if_neg known, dispatch_error error] at ran
  cases run : m.parseUI800ErrorMessage [] with
  | error e =>
      rw [run] at ran
      cases ran
  | ok s =>
      rw [run] at ran
      cases ran
      exact parseUI800ErrorMessage_reports run

theorem handle_told (noError : ¬ IsErrorTelegram m.source m.getType) (ran : m.handle = .ok values) :
    ∀ value ∈ values, Told value := handle_hands (dispatch_told m noError) ran

/-- Only the code of an error can be more than one line. -/
theorem handle_oneLine (ran : m.handle = .ok values) : ∀ value ∈ values,
    value.type ≠ .stoerungsCode → value.type ≠ .stoerungsNummer → OneLine value := by
  intro value member noCode noNumber
  by_cases error : IsErrorTelegram m.source m.getType
  · have hands : HandsOut (OfKinds errorKinds) m.dispatch := by
      rw [dispatch_error error]
      exact parseUI800ErrorMessage_kinds m
    obtain ⟨mem, stored⟩ := handle_hands hands ran value member
    have flags : ∀ kind ∈ errorKinds, kind.type ≠ .stoerungsCode → kind.type ≠ .stoerungsNummer →
        kind.readingType = .boolean := by decide
    intro text formatted
    rw [formatted] at stored
    cases stored.trans (flags _ mem noCode noNumber)
  · exact (handle_told error ran value member).oneLine

/-- All values are of the kinds. -/
theorem handle_kinds (ran : m.handle = .ok values) :
    ∀ value ∈ values, OfKinds (telegramKinds ++ errorKinds) value := by
  by_cases error : IsErrorTelegram m.source m.getType
  · refine handle_hands ?_ ran
    rw [dispatch_error error]
    exact (parseUI800ErrorMessage_kinds m).mono
      (fun value kind => ⟨List.mem_append_right _ kind.mem, kind.stored⟩)
  · intro value member
    obtain ⟨⟨mem, stored⟩, -⟩ := handle_told error ran value member
    exact ⟨List.mem_append_left _ mem, stored⟩

end EmsMessage

end EmsCollector
