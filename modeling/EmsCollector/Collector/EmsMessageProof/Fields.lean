import EmsCollector.Collector.EmsMessage
import EmsCollector.Misc.Layout

/-!
# The telegram layouts

For every telegram that `handle` dispatches on, the fields its parser reads. A parser that
reads relative to `m_offset` hands out the values of the fields inside the telegram, whatever
its offset. The error code and flame flag of the monitor telegram and the error telegram are
read at absolute positions, so for them this holds at offset 0 only.
-/

namespace EmsCollector.EmsMessage

open Layout

/-- A field of a telegram. -/
abbrev TelegramField := Field UInt8 EmsValue

/-- The parser hands out the values of the layout, whatever was handed out before. -/
def Emits (m : EmsMessage) (parser : ParseM Unit) (layout : List TelegramField) : Prop :=
  ∀ values, parser values = .ok ((), values ++ emit layout m.offset.toNat m.data)

theorem canAccess_iff (m : EmsMessage) (offset size : Nat) :
    m.canAccess offset size = true ↔
      m.offset.toNat ≤ offset ∧ offset + size ≤ m.offset.toNat + m.data.length := by
  simp [canAccess]

/-- A parser that stays inside the data passes on what it has handed out. -/
theorem bind_run {α γ : Type} {p : ParseM α} {q : α → ParseM γ} {values values' : List EmsValue}
    {a : α} (run : p values = .ok (a, values')) : (p >>= q) values = q a values' := by
  show (p values >>= fun s => q s.1 s.2) = _
  rw [run]
  rfl

theorem bind_fault {α γ : Type} {p : ParseM α} {q : α → ParseM γ} {values : List EmsValue}
    {e : Fault} (run : p values = .error e) : (p >>= q) values = .error e := by
  show (p values >>= fun s => q s.1 s.2) = _
  rw [run]
  rfl

theorem emits_pure (m : EmsMessage) : Emits m (pure ()) [] := by
  intro values
  simp [pure, StateT.pure, Except.pure]

theorem emits_seq {m : EmsMessage} {p q : ParseM Unit} {front back : List TelegramField}
    (first : Emits m p front) (second : Emits m q back) :
    Emits m (do p; q) (front ++ back) := by
  intro values
  rw [bind_run (first values), second, emit_append, List.append_assoc]

/-- A field that is not inside the telegram adds nothing. -/
theorem emits_outside {m : EmsMessage} {f : TelegramField}
    (outside : ¬ f.Inside m.offset.toNat m.data.length) : Emits m (pure ()) [f] := by
  intro values
  simp [pure, StateT.pure, Except.pure, Field.emit, outside]

/-- A field inside the telegram, read and handed out. -/
theorem emits_inside {m : EmsMessage} {f : TelegramField} {parser : ParseM Unit}
    (inside : f.Inside m.offset.toNat m.data.length)
    (run : ∀ values, parser values =
      .ok ((), values ++ f.decode (slice m.data (f.offset - m.offset.toNat) f.size))) :
    Emits m parser [f] := by
  intro values
  rw [run]
  simp [Field.emit, inside]

/-- A parser that reads its field if the telegram has it. -/
theorem emits_field {m : EmsMessage} {offset size : Nat} {decode : List UInt8 → List EmsValue}
    {parser : ParseM Unit}
    (run : m.offset.toNat ≤ offset → offset + size ≤ m.offset.toNat + m.data.length → ∀ values,
      parser values = .ok ((), values ++ decode (slice m.data (offset - m.offset.toNat) size))) :
    Emits m (if m.canAccess offset size then parser else pure ()) [{ offset, size, decode }] := by
  by_cases inside : m.canAccess offset size
  · have bound := (canAccess_iff m offset size).mp inside
    rw [if_pos inside]
    exact emits_inside bound (run bound.1 bound.2)
  · rw [if_neg inside]
    exact emits_outside (fun bound => inside ((canAccess_iff m offset size).mpr bound))

theorem subscript_ok {vec : List UInt8} {index : Nat} (h : index < vec.length) :
    subscript vec index = .ok vec[index] := by
  simp [subscript, h]

theorem subscript_error {vec : List UInt8} {index : Nat} (h : vec.length ≤ index) :
    subscript vec index = .error (.subscript index vec.length) := by
  simp [subscript, List.getElem?_eq_none h]

theorem bytesAt_ok {vec : List UInt8} {index count : Nat} (h : index + count ≤ vec.length)
    (positive : 0 < count) : bytesAt vec index count = .ok (slice vec index count) := by
  unfold bytesAt slice
  rw [if_pos (by omega), if_pos h]

theorem slice_one {vec : List UInt8} {index : Nat} (h : index < vec.length) :
    slice vec index 1 = [vec[index]] := by
  rw [slice, List.drop_eq_getElem_cons h]
  rfl

theorem slice_two {vec : List UInt8} {index : Nat} (h : index + 1 < vec.length) :
    slice vec index 2 = [vec[index], vec[index + 1]] := by
  rw [slice, List.drop_eq_getElem_cons (show index < vec.length by omega),
    List.drop_eq_getElem_cons h]
  rfl

theorem slice_three {vec : List UInt8} {index : Nat} (h : index + 2 < vec.length) :
    slice vec index 3 = [vec[index], vec[index + 1], vec[index + 2]] := by
  rw [slice, List.drop_eq_getElem_cons (show index < vec.length by omega),
    List.drop_eq_getElem_cons (show index + 1 < vec.length by omega),
    List.drop_eq_getElem_cons h]
  rfl

/-- The field of `parseEnum`. -/
def enumField (offset : Nat) (type : EmsValue.ValueType) (subtype : EmsValue.SubType) :
    TelegramField :=
  { offset, size := 1, decode := fun field => field.map (EmsValue.ofEnum type subtype) }

/-- The field of `parseNumeric`. -/
def numericField (offset size divider : Nat) (type : EmsValue.ValueType)
    (subtype : EmsValue.SubType) (isSigned : Bool := true)
    (invalidValues : List (List UInt8) := []) : TelegramField :=
  { offset, size
    decode := fun field => [EmsValue.ofField type subtype field divider isSigned invalidValues] }

/-- The field of `parseInteger`. -/
def integerField (offset size : Nat) (type : EmsValue.ValueType) (subtype : EmsValue.SubType) :
    TelegramField :=
  numericField offset size 0 type subtype false

/-- The field of `parseTemperature`. -/
def temperatureField (offset : Nat) (type : EmsValue.ValueType) (subtype : EmsValue.SubType) :
    TelegramField :=
  numericField offset 2 10 type subtype true invalidTemperatureValues

/-- The field of `parseBool`. -/
def boolField (offset : Nat) (bit : UInt8) (type : EmsValue.ValueType)
    (subtype : EmsValue.SubType) : TelegramField :=
  { offset, size := 1
    decode := fun field => field.map (fun b => EmsValue.ofBit type subtype b bit) }

/-- The maintenance date. -/
def wartungsterminField : TelegramField :=
  { offset := 2, size := 3
    decode := fun field =>
      (DateRecord.read field).toList.map (EmsValue.ofDate .wartungstermin .kessel) }

/-- The system time. -/
def systemZeitField : TelegramField :=
  { offset := 0, size := 8
    decode := fun field =>
      (SystemTimeRecord.read field).toList.map (EmsValue.ofSystemTime .systemZeit .none) }

theorem emits_parseEnum (m : EmsMessage) (offset : Nat) (type : EmsValue.ValueType)
    (subtype : EmsValue.SubType) :
    Emits m (m.parseEnum offset type subtype) [enumField offset type subtype] := by
  refine emits_field (fun begins ends values => ?_)
  have range : offset - m.offset.toNat < m.data.length := by omega
  simp only [slice_one range, subscript_ok range]
  rfl

theorem emits_parseNumeric (m : EmsMessage) {offset size : Nat} (positive : 0 < size)
    (divider : Nat) (type : EmsValue.ValueType) (subtype : EmsValue.SubType) (isSigned : Bool)
    (invalidValues : List (List UInt8)) :
    Emits m (m.parseNumeric offset size divider type subtype isSigned invalidValues)
      [numericField offset size divider type subtype isSigned invalidValues] := by
  refine emits_field (fun begins ends values => ?_)
  have range : offset - m.offset.toNat + size ≤ m.data.length := by omega
  simp only [bytesAt_ok range positive]
  rfl

theorem emits_parseBool (m : EmsMessage) (offset : Nat) (bit : UInt8)
    (type : EmsValue.ValueType) (subtype : EmsValue.SubType) :
    Emits m (m.parseBool offset bit type subtype) [boolField offset bit type subtype] := by
  refine emits_field (fun begins ends values => ?_)
  have range : offset - m.offset.toNat < m.data.length := by omega
  simp only [bytesAt_ok (Nat.succ_le_of_lt range) Nat.one_pos, slice_one range]
  rfl

theorem emits_parseWartungstermin (m : EmsMessage) :
    Emits m m.parseWartungstermin [wartungsterminField] := by
  refine emits_field (fun begins ends values => ?_)
  have range : 2 - m.offset.toNat + 2 < m.data.length := by omega
  have bytes : 2 - m.offset.toNat + 3 ≤ m.data.length := by omega
  simp only [bytesAt_ok bytes (Nat.succ_pos 2), slice_three range]
  rfl

theorem slice_eight {vec : List UInt8} (h : 8 ≤ vec.length) :
    ∃ b0 b1 b2 b3 b4 b5 b6 b7, slice vec 0 8 = [b0, b1, b2, b3, b4, b5, b6, b7] := by
  match vec, h with
  | b0 :: b1 :: b2 :: b3 :: b4 :: b5 :: b6 :: b7 :: _, _ =>
      exact ⟨b0, b1, b2, b3, b4, b5, b6, b7, rfl⟩

theorem emits_parseRCTimeMessage (m : EmsMessage) :
    Emits m m.parseRCTimeMessage [systemZeitField] := by
  refine emits_field (fun begins ends values => ?_)
  have range : 0 + 8 ≤ m.data.length := by omega
  obtain ⟨b0, b1, b2, b3, b4, b5, b6, b7, bytes⟩ := slice_eight (by omega : 8 ≤ m.data.length)
  simp only [bytesAt_ok range (Nat.succ_pos 7), Nat.zero_sub, bytes]
  rfl

/-- The fields of the monitor telegram that are read relative to the offset. -/
def monitorFields : List TelegramField :=
  [numericField 6 1 1 .sollTemp .kessel, temperatureField 7 .istTemp .kessel,
    temperatureField 13 .istTemp .waermetauscher, temperatureField 17 .istTemp .ruecklauf,
    numericField 19 2 10 .flammenstrom .none, numericField 21 1 10 .systemdruck .none false,
    integerField 40 1 .istModulation .brenner, integerField 41 1 .sollModulation .brenner]

/-- The error code of the monitor telegram; the service code always goes with it. -/
def fehlerCodeField : TelegramField :=
  { offset := 4, size := 2
    decode := fun bytes => [.ofString .fehlerCode .none (toString (EmsValue.bigEndian bytes)),
      .ofString .serviceCode .none "--"] }

/-- The flame flag of the monitor telegram. -/
def flammeAktivField : TelegramField :=
  { offset := 19, size := 2
    decode := fun bytes =>
      [.ofBit .flammeAktiv .none (if EmsValue.bigEndian bytes > 5 then 1 else 0) 0] }

def monitorLayout : List TelegramField := monitorFields ++ [fehlerCodeField] ++ [flammeAktivField]

/-- The code of an error, as it is handed out. -/
def codeValue (bytes : List UInt8) : EmsValue := .ofString .stoerungsCode .none (streamChars bytes)

/-- The number of an error, as it is handed out. -/
def numberValue (bytes : List UInt8) : EmsValue :=
  .ofString .stoerungsNummer .none (toString (EmsValue.bigEndian bytes))

/-- One of the fields of the `i`-th error; zero bytes say that there is no such error. -/
def errorField (base size : Nat) (value : List UInt8 → EmsValue) (i : Nat) : TelegramField :=
  { offset := base + i * 7, size
    decode := fun bytes => if bytes = List.replicate size 0 then [] else [value bytes] }

/-- The code of the `i`-th error. -/
def errorCodeField : Nat → TelegramField := errorField 5 3 codeValue

/-- The number of the `i`-th error. -/
def errorNumberField : Nat → TelegramField := errorField 8 2 numberValue

def errorFields : List TelegramField :=
  (List.range 3).flatMap (fun i => [errorCodeField i, errorNumberField i])

/-- The values that stand for the absence of errors. -/
def noErrorValues : List EmsValue :=
  [.ofString .stoerungsCode .none "OK", .ofString .stoerungsNummer .none "0"]

/-- The bytes that say there is no error: all the error fields present in `content`. -/
def noErrorField (content : List UInt8) : TelegramField :=
  { offset := min content.length 5, size := min content.length 24 - 5,
    decode := fun _ => noErrorValues }

/-- The fault flag of a device in byte 7, which counts if byte 0 names the device. -/
def stoerungField (device : UInt8) (subtype : EmsValue.SubType) : TelegramField :=
  { offset := 0, size := 8
    decode := fun bytes =>
      if bytes[0]? = some device then
        bytes[7]?.toList.map (fun b => EmsValue.ofBit .stoerung subtype b 4)
      else [] }

/-- The error telegram with the complete content `content`. -/
def errorLayout (content : List UInt8) : List TelegramField :=
  [stoerungField 0x08 .kessel, stoerungField 0x10 .rc] ++ errorFields ++
    if emit errorFields 0 content = [] then [noErrorField content] else []

/-- The layout of every telegram that `handle` dispatches on. -/
def layoutOf (source : UInt8) (type : UInt16) (content : List UInt8) : List TelegramField :=
  if source = EmsProto.addressUBA2 then
    match type.toNat with
    | 0x15 => [enumField 0 .wartungsmeldungen .kessel,
        integerField 1 1 .hektoStundenVorWartung .kessel,
        integerField 5 1 .monateVorWartung .kessel, wartungsterminField]
    | 0xd1 => [temperatureField 0 .istTemp .aussen]
    | 0xe4 => monitorLayout
    | 0xe5 => [integerField 25 1 .istModulation .kesselPumpe,
        boolField 26 5 .dreiWegeVentilAufWW .none, boolField 2 7 .zirkulationAktiv .none]
    | 0xe9 => [numericField 0 1 1 .sollTemp .ww, temperatureField 1 .istTemp .ww]
    | 0xea => [numericField 6 1 1 .komfortTemp .ww, numericField 11 1 1 .zirkProStunde .zirkulation,
        numericField 16 1 1 .extraTemp .ww, numericField 18 1 1 .reduzierteTemp .ww]
    | 0xbf => errorLayout content
    | _ => []
  else if source = EmsProto.addressUI800 then
    match type.toNat with
    | 0x06 => [systemZeitField]
    | 0xbf => errorLayout content
    | 0x01f5 => [enumField 2 .betriebsart .ww, enumField 3 .betriebsart .zirkulation,
        numericField 10 1 1 .extra15Mins .ww, boolField 11 0 .extraActive .ww]
    | 0x021d => [numericField 4 2 1 .extraRemainingMins .ww, enumField 8 .betriebszustand .ww]
    | 0x00e7 => [enumField 0 .betriebszustand .zirkulation]
    | 0x0140 => [numericField 10 1 1 .minTemp .rc, enumField 9 .gebaeudeArt .rc,
        boolField 8 1 .atDaempfung .rc]
    | 0x01b9 => [enumField 21 .betriebsart .hk1,
        numericField 8 1 2 .temporaryTemp .hk1 false invalidTemperatureValues,
        numericField 22 1 2 .manualTemp .hk1, boolField 23 0 .boostActive .hk1,
        numericField 24 1 1 .boostHours .hk1, numericField 25 1 2 .boostTemp .hk1,
        numericField 4 1 2 .nachtTemp .hk1, numericField 2 1 2 .tagTemp .hk1]
    | 0x01a5 => [numericField 41 2 1 .boostRemainingMins .hk1, enumField 10 .betriebszustand .hk1,
        boolField 2 4 .sommerbetrieb .hk1]
    | 0x01af => [numericField 2 1 1 .raumOffset .hk1, numericField 5 1 1 .auslegungsTemp .hk1,
        numericField 6 1 1 .schwelleSommerWinter .hk1, enumField 7 .sommerbetriebsart .hk1]
    | _ => []
  else
    []

end EmsCollector.EmsMessage
