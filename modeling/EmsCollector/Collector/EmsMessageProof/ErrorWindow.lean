import EmsCollector.Collector.EmsMessageProof.Window

/-!
# Partial error telegrams

The error telegram tests whether a field is present with the offset in the telegram and then
uses that offset as an index into the data, and it takes the device from the first byte of the
data. Which values it hands out for a window, and which windows agree with the complete
telegram.
-/

namespace EmsCollector.EmsMessage

open Layout

theorem three_nonzero (c0 c1 c2 : UInt8) :
    c0 ||| c1 ||| c2 > 0 ↔ [c0, c1, c2] ≠ List.replicate 3 0 := by
  simp [UInt8.pos_iff_ne_zero, UInt8.or_eq_zero_iff, List.replicate]

theorem two_nonzero (high low : UInt8) : high ||| low > 0 ↔ [high, low] ≠ List.replicate 2 0 := by
  simp [UInt8.pos_iff_ne_zero, UInt8.or_eq_zero_iff, List.replicate]

/-- A value is handed out unless its bytes are zero, and the result says whether it was. -/
theorem handOut_nonzero {nonzero : Prop} [Decidable nonzero] {value : EmsValue} {size : Nat}
    {bytes : List UInt8} (test : nonzero ↔ bytes ≠ List.replicate size 0) (values : List EmsValue) :
    (if nonzero then (do handOut value; pure true) else pure false : ParseM Bool) values =
      .ok (!(if bytes = List.replicate size 0 then [] else [value]).isEmpty,
        values ++ if bytes = List.replicate size 0 then [] else [value]) := by
  by_cases some : nonzero
  · rw [if_pos some, if_neg (test.mp some)]
    rfl
  · rw [if_neg some, if_pos (Decidable.not_not.mp (mt test.mpr some)), List.append_nil]
    rfl

theorem parseErrorCode_run {m : EmsMessage} {i : Nat}
    (reads : ¬ AbsoluteRead m.offset.toNat m.data.length (5 + i * 7) 3) (values : List EmsValue) :
    m.parseErrorCode i values =
      .ok (!((errorCodeField i).misplaced m.offset.toNat m.data).isEmpty,
        values ++ (errorCodeField i).misplaced m.offset.toNat m.data) := by
  refine misplaced_run (fun emitted => !emitted.isEmpty) reads (fun range => ?_)
  rw [subscript_ok (show 5 + i * 7 < m.data.length by omega),
    subscript_ok (show 6 + i * 7 < m.data.length by omega),
    subscript_ok (show 7 + i * 7 < m.data.length by omega)]
  have second : 6 + i * 7 = 5 + i * 7 + 1 := by omega
  have third : 7 + i * 7 = 5 + i * 7 + 2 := by omega
  simp only [slice_three range, second, third]
  exact handOut_nonzero (three_nonzero _ _ _) values

theorem parseErrorNumber_run {m : EmsMessage} {i : Nat}
    (reads : ¬ AbsoluteRead m.offset.toNat m.data.length (8 + i * 7) 2) (values : List EmsValue) :
    m.parseErrorNumber i values =
      .ok (!((errorNumberField i).misplaced m.offset.toNat m.data).isEmpty,
        values ++ (errorNumberField i).misplaced m.offset.toNat m.data) := by
  refine misplaced_run (fun emitted => !emitted.isEmpty) reads (fun range => ?_)
  rw [subscript_ok (show 8 + i * 7 < m.data.length by omega),
    subscript_ok (show 9 + i * 7 < m.data.length by omega)]
  have second : 9 + i * 7 = 8 + i * 7 + 1 := by omega
  simp only [slice_two range, second, streamWord_eq]
  exact handOut_nonzero (two_nonzero _ _) values

theorem not_isEmpty_append (a b : List EmsValue) :
    (!(a ++ b).isEmpty) = (!a.isEmpty || !b.isEmpty) := by
  cases a with
  | nil => simp
  | cons v rest => simp

/-- The values of the `i`-th error as the parser finds it. -/
def errorEntry (i start : Nat) (cells : List UInt8) : List EmsValue :=
  (errorCodeField i).misplaced start cells ++ (errorNumberField i).misplaced start cells

theorem parseErrorEntry_run {m : EmsMessage} {i : Nat} (bound : i < 3)
    (reads : ¬ ErrorHazard m.offset.toNat m.data.length) (values : List EmsValue) :
    m.parseErrorEntry i values = .ok (!(errorEntry i m.offset.toNat m.data).isEmpty,
      values ++ errorEntry i m.offset.toNat m.data) := by
  have code := @parseErrorCode_run m i (fun h => reads (.inr ⟨i, bound, .inl h⟩)) values
  have number := @parseErrorNumber_run m i (fun h => reads (.inr ⟨i, bound, .inr h⟩))
    (values ++ (errorCodeField i).misplaced m.offset.toNat m.data)
  unfold parseErrorEntry errorEntry
  rw [bind_run code, bind_run number, List.append_assoc]
  rw [not_isEmpty_append]
  rfl

/-- The fault flag of a device: its byte is read relative to the offset, the device is taken from
    the first byte of the data. -/
def stoerungAt (device : UInt8) (subtype : EmsValue.SubType) (start : Nat) (cells : List UInt8) :
    List EmsValue :=
  if cells[0]? = some device then (boolField 7 4 .stoerung subtype).emit start cells else []

theorem parseStoerung_run {m : EmsMessage} (device : UInt8) (subtype : EmsValue.SubType)
    (data : 0 < m.data.length) (values : List EmsValue) :
    m.parseStoerung device subtype values =
      .ok ((), values ++ stoerungAt device subtype m.offset.toNat m.data) := by
  unfold parseStoerung stoerungAt
  rw [subscript_ok data, List.getElem?_eq_getElem data]
  show (if _ then _ else _ : ParseM Unit) values = _
  by_cases same : m.data[0] = device
  · rw [if_pos same, if_pos (by rw [same]), emits_parseBool]
    simp only [emit_cons, emit_nil, List.append_nil]
  · rw [if_neg same, if_neg (by simpa using same), List.append_nil]
    rfl

/-- The errors as the parser finds them. -/
def errorsAt (start : Nat) (cells : List UInt8) : List EmsValue :=
  (List.range 3).flatMap (fun i => errorEntry i start cells)

/-- The values of the error telegram. -/
def errorValues (start : Nat) (cells : List UInt8) : List EmsValue :=
  stoerungAt 0x08 .kessel start cells ++ stoerungAt 0x10 .rc start cells ++
    errorsAt start cells ++ if errorsAt start cells = [] then noErrorValues else []

theorem parseUI800ErrorMessage_run {m : EmsMessage}
    (reads : ¬ ErrorHazard m.offset.toNat m.data.length) (values : List EmsValue) :
    m.parseUI800ErrorMessage values =
      .ok ((), values ++ errorValues m.offset.toNat m.data) := by
  have data : 0 < m.data.length := Nat.pos_of_ne_zero (fun empty => reads (.inl empty))
  unfold parseUI800ErrorMessage errorValues
  rw [bind_run (parseStoerung_run _ _ data _), bind_run (parseStoerung_run _ _ data _),
    bind_run (parseErrorEntry_run (by decide) reads _),
    bind_run (parseErrorEntry_run (by decide) reads _),
    bind_run (parseErrorEntry_run (by decide) reads _)]
  have errors : errorsAt m.offset.toNat m.data = errorEntry 0 m.offset.toNat m.data ++
      errorEntry 1 m.offset.toNat m.data ++ errorEntry 2 m.offset.toNat m.data := by
    simp [errorsAt, List.range_succ]
  rw [errors]
  by_cases none : errorEntry 0 m.offset.toNat m.data ++ errorEntry 1 m.offset.toNat m.data ++
      errorEntry 2 m.offset.toNat m.data = []
  · rw [if_pos none]
    simp only [List.append_eq_nil_iff] at none
    rw [none.1.1, none.1.2, none.2]
    simp only [List.append_nil, List.append_assoc]
    show Except.ok ((), (_ ++ [_]) ++ [_]) = _
    simp only [List.append_assoc]
    rfl
  · rw [if_neg none]
    have found : (!(errorEntry 0 m.offset.toNat m.data).isEmpty ||
        !(errorEntry 1 m.offset.toNat m.data).isEmpty ||
        !(errorEntry 2 m.offset.toNat m.data).isEmpty) = true := by
      simp only [List.append_eq_nil_iff, not_and_or] at none
      simpa [or_assoc] using none
    rw [if_pos found]
    simp only [List.append_nil, List.append_assoc]
    rfl

theorem mem_errorGroups {base size : Nat} {content : List UInt8} {shift start count : Nat}
    {bytes : List UInt8} : bytes ∈ errorGroups base size content shift start count ↔
      ∃ i < 3, (start ≤ base + i * 7 ∧ base + i * 7 + size ≤ start + count) ∧
        slice content (shift + (base + i * 7)) size = bytes ∧ bytes ≠ List.replicate size 0 := by
  simp only [errorGroups, List.mem_filter, List.mem_map, List.mem_range, decide_eq_true_eq]
  constructor
  · rintro ⟨⟨i, ⟨bound, inside⟩, rfl⟩, nonzero⟩
    exact ⟨i, bound, inside, rfl, nonzero⟩
  · rintro ⟨i, bound, inside, rfl, nonzero⟩
    exact ⟨⟨i, ⟨bound, inside⟩, rfl⟩, nonzero⟩

/-- The values of the error fields in a window are those of the groups read from it. -/
theorem mem_misplaced_errorField {base size : Nat} {value : List UInt8 → EmsValue} {i start count : Nat}
    {content : List UInt8} {v : EmsValue} (part : start + count ≤ content.length)
    (reads : start ≤ base + i * 7 ∧ base + i * 7 + size ≤ start + count → base + i * 7 + size ≤ count) :
    v ∈ (errorField base size value i).misplaced start (slice content start count) ↔
      ∃ bytes, (start ≤ base + i * 7 ∧ base + i * 7 + size ≤ start + count) ∧
        slice content (start + (base + i * 7)) size = bytes ∧ bytes ≠ List.replicate size 0 ∧
        value bytes = v := by
  rw [Field.misplaced_window part reads]
  by_cases inside : (errorField base size value i).Inside start count
  · rw [if_pos inside]
    simp only [errorField] at inside ⊢
    by_cases zero : slice content (start + (base + i * 7)) size = List.replicate size 0
    · rw [if_pos zero]
      constructor
      · intro h
        cases h
      · rintro ⟨bytes, -, same, nonzero, -⟩
        exact absurd (same ▸ zero) nonzero
    · rw [if_neg zero, List.mem_singleton]
      constructor
      · rintro rfl
        exact ⟨_, inside, rfl, zero, rfl⟩
      · rintro ⟨bytes, -, rfl, -, rfl⟩
        rfl
  · rw [if_neg inside]
    constructor
    · intro h
      cases h
    · rintro ⟨bytes, bounds, -⟩
      exact absurd bounds inside

/-- The errors found in a window, as groups of bytes. -/
theorem mem_errorsAt {start count : Nat} {content : List UInt8} {v : EmsValue}
    (part : start + count ≤ content.length) (reads : ¬ ErrorHazard start count) :
    v ∈ errorsAt start (slice content start count) ↔
      (∃ bytes ∈ codeGroups content start start count, codeValue bytes = v) ∨
        ∃ bytes ∈ numberGroups content start start count, numberValue bytes = v := by
  have code {i : Nat} (bound : i < 3) := @mem_misplaced_errorField 5 3 codeValue i start count
    content v part (fun inside => by
      have safe : ¬ AbsoluteRead start count (5 + i * 7) 3 := fun h => reads (.inr ⟨i, bound, .inl h⟩)
      unfold AbsoluteRead at safe
      omega)
  have number {i : Nat} (bound : i < 3) := @mem_misplaced_errorField 8 2 numberValue i start count
    content v part (fun inside => by
      have safe : ¬ AbsoluteRead start count (8 + i * 7) 2 := fun h => reads (.inr ⟨i, bound, .inr h⟩)
      unfold AbsoluteRead at safe
      omega)
  simp only [errorsAt, List.mem_flatMap, List.mem_range, errorEntry, List.mem_append, codeGroups,
    numberGroups, mem_errorGroups]
  constructor
  · rintro ⟨i, bound, value | value⟩
    · obtain ⟨bytes, inside, same, nonzero, rfl⟩ := (code bound).mp value
      exact .inl ⟨bytes, ⟨i, bound, inside, same, nonzero⟩, rfl⟩
    · obtain ⟨bytes, inside, same, nonzero, rfl⟩ := (number bound).mp value
      exact .inr ⟨bytes, ⟨i, bound, inside, same, nonzero⟩, rfl⟩
  · rintro (⟨bytes, ⟨i, bound, inside, same, nonzero⟩, value⟩ |
      ⟨bytes, ⟨i, bound, inside, same, nonzero⟩, value⟩)
    · exact ⟨i, bound, .inl ((code bound).mpr ⟨bytes, inside, same, nonzero, value⟩)⟩
    · exact ⟨i, bound, .inr ((number bound).mpr ⟨bytes, inside, same, nonzero, value⟩)⟩

theorem byteChar_injective {a b : UInt8} (same : Char.ofNat a.toNat = Char.ofNat b.toNat) :
    a = b := by
  have valid (c : UInt8) : (Char.ofNat c.toNat).toNat = c.toNat := by
    have bound := c.toNat_lt
    have small : Nat.isValidChar c.toNat := .inl (by omega)
    unfold Char.ofNat
    rw [dif_pos small]
    rfl
  exact UInt8.toNat_inj.mp (by rw [← valid a, ← valid b, same])

theorem codeValue_injective {a b : List UInt8} (same : codeValue a = codeValue b) : a = b := by
  simp only [codeValue, EmsValue.ofString, streamChars, EmsValue.mk.injEq,
    EmsValue.Reading.formatted.injEq, true_and, and_true] at same
  exact List.map_injective_iff.mpr (fun _ _ => byteChar_injective) (String.ofList_injective same)

theorem numberValue_injective {a b : List UInt8} (ha : a.length = 2) (hb : b.length = 2)
    (same : numberValue a = numberValue b) : a = b := by
  simp only [numberValue, EmsValue.ofString, EmsValue.mk.injEq,
    EmsValue.Reading.formatted.injEq, true_and, and_true] at same
  exact bigEndian_two_inj ha hb (toString_injective same)

/-- Three characters are not "OK". -/
theorem codeValue_ne_ok {bytes : List UInt8} (three : bytes.length = 3) :
    codeValue bytes ≠ .ofString .stoerungsCode .none "OK" := by
  intro same
  simp only [codeValue, EmsValue.ofString, streamChars, EmsValue.mk.injEq,
    EmsValue.Reading.formatted.injEq, true_and, and_true] at same
  have length := congrArg String.length same
  rw [String.length_ofList, List.length_map, three] at length
  exact absurd length (by decide)

/-- The number of an error is not zero. -/
theorem numberValue_ne_zero {bytes : List UInt8} (two : bytes.length = 2)
    (nonzero : bytes ≠ List.replicate 2 0) :
    numberValue bytes ≠ .ofString .stoerungsNummer .none "0" := by
  intro same
  exact nonzero (numberValue_injective two rfl same)

theorem mem_stoerungAt {device : UInt8} {subtype : EmsValue.SubType} {start count : Nat}
    {content : List UInt8} {v : EmsValue} (part : start + count ≤ content.length)
    (data : 0 < count) : v ∈ stoerungAt device subtype start (slice content start count) ↔
      content[start]? = some device ∧ (start ≤ 7 ∧ 7 < start + count) ∧
        v ∈ (boolField 7 4 .stoerung subtype).emit 0 content := by
  unfold stoerungAt
  rw [getElem?_slice data, Nat.add_zero]
  by_cases same : content[start]? = some device
  · rw [if_pos same]
    by_cases inside : (boolField 7 4 .stoerung subtype).Inside start count
    · rw [Field.emit_window part inside]
      exact ⟨fun value => ⟨same, inside, value⟩, fun ⟨_, _, value⟩ => value⟩
    · rw [Field.emit_outside part inside]
      exact ⟨fun value => absurd value List.not_mem_nil,
        fun ⟨_, bounds, _⟩ => absurd bounds inside⟩
  · rw [if_neg same]
    exact ⟨fun value => absurd value List.not_mem_nil, fun ⟨first, _⟩ => absurd first same⟩

theorem stoerungAt_type {device : UInt8} {subtype : EmsValue.SubType} {start : Nat}
    {cells : List UInt8} {v : EmsValue} (value : v ∈ stoerungAt device subtype start cells) :
    v.type = .stoerung ∧ v.subType = subtype := by
  unfold stoerungAt at value
  split at value
  · unfold Field.emit at value
    split at value
    · obtain ⟨b, -, rfl⟩ := List.mem_map.mp value
      exact ⟨rfl, rfl⟩
    · cases value
  · cases value

/-- Where a value of the error telegram comes from. -/
theorem mem_errorValues {start : Nat} {cells : List UInt8} {v : EmsValue} :
    v ∈ errorValues start cells ↔ v ∈ stoerungAt 0x08 .kessel start cells ∨
      v ∈ stoerungAt 0x10 .rc start cells ∨ v ∈ errorsAt start cells ∨
      (errorsAt start cells = [] ∧ v ∈ noErrorValues) := by
  unfold errorValues
  by_cases none : errorsAt start cells = []
  · simp [none]
  · simp [none]

theorem errorsAt_eq_nil {start count : Nat} {content : List UInt8}
    (part : start + count ≤ content.length) (reads : ¬ ErrorHazard start count) :
    errorsAt start (slice content start count) = [] ↔
      codeGroups content start start count = [] ∧ numberGroups content start start count = [] := by
  simp only [List.eq_nil_iff_forall_not_mem, mem_errorsAt part reads]
  constructor
  · intro none
    exact ⟨fun bytes group => none _ (.inl ⟨bytes, group, rfl⟩),
      fun bytes group => none _ (.inr ⟨bytes, group, rfl⟩)⟩
  · rintro ⟨codes, numbers⟩ v (⟨bytes, group, -⟩ | ⟨bytes, group, -⟩)
    · exact codes bytes group
    · exact numbers bytes group

theorem codeValue_mem {start count : Nat} {content bytes : List UInt8}
    (part : start + count ≤ content.length) (reads : ¬ ErrorHazard start count)
    (three : bytes.length = 3) :
    codeValue bytes ∈ errorValues start (slice content start count) ↔
      bytes ∈ codeGroups content start start count := by
  rw [mem_errorValues, mem_errorsAt part reads]
  constructor
  · rintro (value | value | (⟨other, group, same⟩ | ⟨other, group, same⟩) | ⟨-, value⟩)
    · exact absurd (stoerungAt_type value).1 (by simp [codeValue, EmsValue.ofString])
    · exact absurd (stoerungAt_type value).1 (by simp [codeValue, EmsValue.ofString])
    · rwa [← codeValue_injective same]
    · simp [codeValue, numberValue, EmsValue.ofString] at same
    · rcases List.mem_pair.mp value with same | same
      · exact absurd same (codeValue_ne_ok three)
      · simp [codeValue, EmsValue.ofString] at same
  · intro group
    exact .inr (.inr (.inl (.inl ⟨bytes, group, rfl⟩)))

theorem errorGroups_length {base size start count shift : Nat} {content bytes : List UInt8}
    (part : ∀ i < 3, start ≤ base + i * 7 ∧ base + i * 7 + size ≤ start + count →
      shift + (base + i * 7) + size ≤ content.length)
    (group : bytes ∈ errorGroups base size content shift start count) :
    bytes.length = size ∧ bytes ≠ List.replicate size 0 := by
  obtain ⟨i, bound, inside, rfl, nonzero⟩ := mem_errorGroups.mp group
  exact ⟨length_slice (part i bound inside), nonzero⟩

/-- The codes and numbers that the parser takes from a window have their full length. -/
theorem groups_length {start count : Nat} {content bytes : List UInt8}
    (part : start + count ≤ content.length) (reads : ¬ ErrorHazard start count) :
    (bytes ∈ codeGroups content start start count → bytes.length = 3) ∧
      (bytes ∈ numberGroups content start start count →
        bytes.length = 2 ∧ bytes ≠ List.replicate 2 0) := by
  constructor
  · intro group
    refine (errorGroups_length (fun i bound inside => ?_) group).1
    have safe : ¬ AbsoluteRead start count (5 + i * 7) 3 := fun h => reads (.inr ⟨i, bound, .inl h⟩)
    unfold AbsoluteRead at safe
    omega
  · intro group
    refine errorGroups_length (fun i bound inside => ?_) group
    have safe : ¬ AbsoluteRead start count (8 + i * 7) 2 := fun h => reads (.inr ⟨i, bound, .inr h⟩)
    unfold AbsoluteRead at safe
    omega

theorem numberValue_mem {start count : Nat} {content bytes : List UInt8}
    (part : start + count ≤ content.length) (reads : ¬ ErrorHazard start count)
    (two : bytes.length = 2) (nonzero : bytes ≠ List.replicate 2 0) :
    numberValue bytes ∈ errorValues start (slice content start count) ↔
      bytes ∈ numberGroups content start start count := by
  rw [mem_errorValues, mem_errorsAt part reads]
  constructor
  · rintro (value | value | (⟨other, group, same⟩ | ⟨other, group, same⟩) | ⟨-, value⟩)
    · exact absurd (stoerungAt_type value).1 (by simp [numberValue, EmsValue.ofString])
    · exact absurd (stoerungAt_type value).1 (by simp [numberValue, EmsValue.ofString])
    · simp [codeValue, numberValue, EmsValue.ofString] at same
    · have length := ((groups_length part reads).2 group).1
      rwa [← numberValue_injective length two same]
    · rcases List.mem_pair.mp value with same | same
      · simp [numberValue, EmsValue.ofString] at same
      · exact absurd same (numberValue_ne_zero two nonzero)
  · intro group
    exact .inr (.inr (.inl (.inr ⟨bytes, group, rfl⟩)))

/-- "OK" is handed out exactly when the parser finds neither a code nor a number. -/
theorem ok_mem {start count : Nat} {content : List UInt8} (part : start + count ≤ content.length)
    (reads : ¬ ErrorHazard start count) :
    EmsValue.ofString .stoerungsCode .none "OK" ∈ errorValues start (slice content start count) ↔
      codeGroups content start start count = [] ∧ numberGroups content start start count = [] := by
  rw [mem_errorValues, ← errorsAt_eq_nil part reads]
  constructor
  · rintro (value | value | value | ⟨none, -⟩)
    · exact absurd (stoerungAt_type value).1 (by simp [EmsValue.ofString])
    · exact absurd (stoerungAt_type value).1 (by simp [EmsValue.ofString])
    · rcases (mem_errorsAt part reads).mp value with ⟨bytes, group, same⟩ | ⟨bytes, group, same⟩
      · exact absurd same (codeValue_ne_ok ((groups_length part reads).1 group))
      · simp [numberValue, EmsValue.ofString] at same
    · exact none
  · intro none
    exact .inr (.inr (.inr ⟨none, List.mem_cons_self⟩))

theorem handle_error {h : Header} (error : IsErrorTelegram h.source h.getType) (offset : UInt8)
    {data : List UInt8} (reads : ¬ ErrorHazard offset.toNat data.length) :
    (h.telegram offset data).handle = .ok (errorValues offset.toNat data) := by
  have source : h.source ≠ 0 := by
    rcases error.1 with same | same
    · rw [same]
      decide
    · rw [same]
      decide
  have dispatched : (h.telegram offset data).dispatch =
      (h.telegram offset data).parseUI800ErrorMessage := dispatch_error error
  apply handle_run source
  rw [dispatched]
  exact @parseUI800ErrorMessage_run (h.telegram offset data) reads []

theorem layoutOf_error {source : UInt8} {type : UInt16} (error : IsErrorTelegram source type)
    (content : List UInt8) : layoutOf source type content = errorLayout content := by
  obtain ⟨device, number⟩ := error
  unfold layoutOf
  rcases device with device | device
  · simp only [device, number, if_true]
  · simp only [device, number, if_true]
    rfl

theorem errorHazard_zero {size : Nat} (data : 0 < size) : ¬ ErrorHazard 0 size := by
  rintro (empty | ⟨i, -, hazard⟩)
  · omega
  · unfold AbsoluteRead at hazard
    omega

/-- At offset 0 the fault flag is the one of the layout. -/
theorem stoerungField_emit (device : UInt8) (subtype : EmsValue.SubType) (content : List UInt8) :
    (stoerungField device subtype).emit 0 content = stoerungAt device subtype 0 content := by
  unfold stoerungAt
  by_cases long : 7 < content.length
  · have field : (stoerungField device subtype).Inside 0 content.length :=
      ⟨Nat.zero_le _, by show 0 + 8 ≤ 0 + content.length; omega⟩
    have flag : (boolField 7 4 .stoerung subtype).Inside 0 content.length :=
      ⟨Nat.zero_le _, by show 7 + 1 ≤ 0 + content.length; omega⟩
    unfold Field.emit
    rw [if_pos field, if_pos flag]
    simp only [stoerungField, boolField, slice_one long, getElem?_slice (show 0 < 8 by decide),
      getElem?_slice (show 7 < 8 by decide), List.getElem?_eq_getElem long]
    rfl
  · have field : ¬ (stoerungField device subtype).Inside 0 content.length := by
      rintro ⟨-, stop⟩
      have bound : 0 + 8 ≤ 0 + content.length := stop
      omega
    have flag : ¬ (boolField 7 4 .stoerung subtype).Inside 0 content.length := by
      rintro ⟨-, stop⟩
      have bound : 7 + 1 ≤ 0 + content.length := stop
      omega
    unfold Field.emit
    rw [if_neg field, if_neg flag, ite_self]

theorem errorFields_emit (content : List UInt8) : emit errorFields 0 content = errorsAt 0 content := by
  simp [errorFields, errorsAt, errorEntry, List.range_succ]

theorem noErrorField_emit (content : List UInt8) :
    (noErrorField content).emit 0 content = noErrorValues := by
  unfold Field.emit
  rw [if_pos ⟨Nat.zero_le _, by simp only [noErrorField]; omega⟩]
  rfl

/-- At offset 0 the error telegram hands out the values of its layout. -/
theorem errorLayout_emit (content : List UInt8) :
    emit (errorLayout content) 0 content = errorValues 0 content := by
  unfold errorLayout errorValues
  rw [errorFields_emit]
  by_cases none : errorsAt 0 content = []
  · simp [none, errorFields_emit, stoerungField_emit, noErrorField_emit]
  · simp [none, errorFields_emit, stoerungField_emit]

/-- A complete error telegram with the values of its errors: those of the groups at their true
    places. -/
theorem mem_errorField_emit {base size : Nat} {value : List UInt8 → EmsValue} {i : Nat}
    {content : List UInt8} {v : EmsValue}
    (emitted : v ∈ (errorField base size value i).emit 0 content) :
    slice content (base + i * 7) size ≠ List.replicate size 0 ∧
      value (slice content (base + i * 7) size) = v := by
  unfold Field.emit at emitted
  split at emitted
  · simp only [errorField, Nat.sub_zero] at emitted
    split at emitted
    · cases emitted
    · next nonzero => exact ⟨nonzero, (List.mem_singleton.mp emitted).symm⟩
  · cases emitted

theorem errorField_emit {base size : Nat} {value : List UInt8 → EmsValue} {i : Nat}
    {content : List UInt8} (present : base + i * 7 + size ≤ content.length)
    (nonzero : slice content (base + i * 7) size ≠ List.replicate size 0) :
    value (slice content (base + i * 7) size) ∈ (errorField base size value i).emit 0 content := by
  have inside : (errorField base size value i).Inside 0 content.length :=
    ⟨Nat.zero_le _, by simpa [errorField] using present⟩
  unfold Field.emit
  rw [if_pos inside]
  simp only [errorField, Nat.sub_zero, if_neg nonzero, List.mem_singleton]

theorem mem_errorLayout {content : List UInt8} {f : TelegramField} :
    f ∈ errorLayout content ↔ f = stoerungField 0x08 .kessel ∨ f = stoerungField 0x10 .rc ∨
      (∃ i < 3, f = errorCodeField i ∨ f = errorNumberField i) ∨
      (errorsAt 0 content = [] ∧ f = noErrorField content) := by
  unfold errorLayout
  rw [errorFields_emit]
  by_cases none : errorsAt 0 content = []
  · simp [none, errorFields]
  · simp [none, errorFields]

/-- A fault flag among the values of an error telegram is that of the device it names. -/
theorem stoerung_of_mem {start count : Nat} {content : List UInt8} {v : EmsValue}
    (part : start + count ≤ content.length) (reads : ¬ ErrorHazard start count)
    (value : v ∈ errorValues start (slice content start count)) (flag : v.type = .stoerung) :
    (v.subType = .kessel ∧ content[start]? = some 0x08) ∨
      (v.subType = .rc ∧ content[start]? = some 0x10) := by
  have data : 0 < count := Nat.pos_of_ne_zero (fun empty => reads (.inl empty))
  rcases mem_errorValues.mp value with value | value | value | ⟨-, value⟩
  · exact .inl ⟨(stoerungAt_type value).2, ((mem_stoerungAt part data).mp value).1⟩
  · exact .inr ⟨(stoerungAt_type value).2, ((mem_stoerungAt part data).mp value).1⟩
  · rcases (mem_errorsAt part reads).mp value with ⟨bytes, -, rfl⟩ | ⟨bytes, -, rfl⟩
    · simp [codeValue, EmsValue.ofString] at flag
    · simp [numberValue, EmsValue.ofString] at flag
  · rcases List.mem_pair.mp value with rfl | rfl
    · simp [EmsValue.ofString] at flag
    · simp [EmsValue.ofString] at flag

/-- A device whose flag lies in the window and whose number stands at its start hands out the
    flag. -/
theorem stoerung_mem {device : UInt8} {subtype : EmsValue.SubType} {start count : Nat}
    {content : List UInt8} (part : start + count ≤ content.length)
    (first : content[start]? = some device) (inside : start ≤ 7 ∧ 7 < start + count) :
    ∃ b, EmsValue.ofBit .stoerung subtype b 4 ∈
      stoerungAt device subtype start (slice content start count) := by
  have long : 7 < content.length := by omega
  refine ⟨content[7], (mem_stoerungAt part (by omega)).mpr ⟨first, inside, ?_⟩⟩
  have field : (boolField 7 4 .stoerung subtype).Inside 0 content.length :=
    ⟨Nat.zero_le _, by show 7 + 1 ≤ 0 + content.length; omega⟩
  unfold Field.emit
  rw [if_pos field]
  simp [boolField, slice_one long]

/-- Agreement forces the displaced bytes to say what the complete telegram says. -/
theorem errorWindowOk_of_agrees {content : List UInt8} {k n : Nat} (part : k + n ≤ content.length)
    (reads : ¬ ErrorHazard k n)
    (subset : ∀ v ∈ errorValues k (slice content k n),
      v ∈ errorValues 0 (slice content 0 content.length))
    (found : ∀ f ∈ errorLayout content, f.Inside k n →
      ∀ v ∈ f.emit 0 content, v ∈ errorValues k (slice content k n)) :
    ErrorWindowOk content k n := by
  have count : 0 < n := Nat.pos_of_ne_zero (fun empty => reads (.inl empty))
  have wholeReads : ¬ ErrorHazard 0 content.length := errorHazard_zero (by omega)
  have wholePart : 0 + content.length ≤ content.length := by omega
  refine ⟨reads, ?device, ?codes, ?codesFound, ?numbers, ?numbersFound, ?noError⟩
  case device =>
    intro start stop device
    rcases device with first | first
    · obtain ⟨b, value⟩ := @stoerung_mem _ .kessel _ _ _ part first ⟨start, stop⟩
      have whole := subset _ (mem_errorValues.mpr (.inl value))
      rcases stoerung_of_mem wholePart wholeReads whole rfl with ⟨-, same⟩ | ⟨other, -⟩
      · rw [first, same]
      · simp [EmsValue.ofBit] at other
    · obtain ⟨b, value⟩ := @stoerung_mem _ .rc _ _ _ part first ⟨start, stop⟩
      have whole := subset _ (mem_errorValues.mpr (.inr (.inl value)))
      rcases stoerung_of_mem wholePart wholeReads whole rfl with ⟨other, -⟩ | ⟨-, same⟩
      · simp [EmsValue.ofBit] at other
      · rw [first, same]
  case codes =>
    intro bytes group
    have three := (groups_length part reads).1 group
    exact (codeValue_mem wholePart wholeReads three).mp
      (subset _ ((codeValue_mem part reads three).mpr group))
  case codesFound =>
    intro bytes group
    obtain ⟨i, bound, inside, rfl, nonzero⟩ := mem_errorGroups.mp group
    rw [Nat.zero_add] at nonzero ⊢
    have field : errorCodeField i ∈ errorLayout content :=
      mem_errorLayout.mpr (.inr (.inr (.inl ⟨i, bound, .inl rfl⟩)))
    have value := found _ field inside _ (errorField_emit (by omega) nonzero)
    exact (codeValue_mem part reads (length_slice (by omega))).mp value
  case numbers =>
    intro bytes group
    obtain ⟨two, nonzero⟩ := (groups_length part reads).2 group
    exact (numberValue_mem wholePart wholeReads two nonzero).mp
      (subset _ ((numberValue_mem part reads two nonzero).mpr group))
  case numbersFound =>
    intro bytes group
    obtain ⟨i, bound, inside, rfl, nonzero⟩ := mem_errorGroups.mp group
    rw [Nat.zero_add] at nonzero ⊢
    have field : errorNumberField i ∈ errorLayout content :=
      mem_errorLayout.mpr (.inr (.inr (.inl ⟨i, bound, .inr rfl⟩)))
    have value := found _ field inside _ (errorField_emit (by omega) nonzero)
    exact (numberValue_mem part reads (length_slice (by omega)) nonzero).mp value
  case noError =>
    intro codes numbers
    exact (ok_mem wholePart wholeReads).mp (subset _ ((ok_mem part reads).mpr ⟨codes, numbers⟩))

/-- The values of a window are values of the complete telegram. -/
theorem errorValues_subset {content : List UInt8} {k n : Nat} (part : k + n ≤ content.length)
    (ok : ErrorWindowOk content k n) : ∀ v ∈ errorValues k (slice content k n),
      v ∈ errorValues 0 (slice content 0 content.length) := by
  have count : 0 < n := Nat.pos_of_ne_zero (fun empty => ok.reads (.inl empty))
  have wholeReads : ¬ ErrorHazard 0 content.length := errorHazard_zero (by omega)
  have wholePart : 0 + content.length ≤ content.length := by omega
  intro v value
  apply mem_errorValues.mpr
  rcases mem_errorValues.mp value with value | value | value | ⟨none, value⟩
  · obtain ⟨first, inside, flag⟩ := (mem_stoerungAt part count).mp value
    have same := ok.device inside.1 inside.2 (.inl first)
    exact .inl ((mem_stoerungAt wholePart (by omega)).mpr
      ⟨same ▸ first, ⟨by omega, by omega⟩, flag⟩)
  · obtain ⟨first, inside, flag⟩ := (mem_stoerungAt part count).mp value
    have same := ok.device inside.1 inside.2 (.inr first)
    exact .inr (.inl ((mem_stoerungAt wholePart (by omega)).mpr
      ⟨same ▸ first, ⟨by omega, by omega⟩, flag⟩))
  · refine .inr (.inr (.inl ((mem_errorsAt wholePart wholeReads).mpr ?_)))
    rcases (mem_errorsAt part ok.reads).mp value with ⟨bytes, group, rfl⟩ | ⟨bytes, group, rfl⟩
    · exact .inl ⟨bytes, ok.codes group, rfl⟩
    · exact .inr ⟨bytes, ok.numbers group, rfl⟩
  · obtain ⟨codes, numbers⟩ := (errorsAt_eq_nil part ok.reads).mp none
    have clear := ok.noError codes numbers
    exact .inr (.inr (.inr ⟨(errorsAt_eq_nil wholePart wholeReads).mpr clear, value⟩))

/-- A window hands out the values of every field inside it. -/
theorem errorValues_found {content : List UInt8} {k n : Nat} (part : k + n ≤ content.length)
    (ok : ErrorWindowOk content k n) : ∀ f ∈ errorLayout content, f.Inside k n →
      ∀ v ∈ f.emit 0 content, v ∈ errorValues k (slice content k n) := by
  have count : 0 < n := Nat.pos_of_ne_zero (fun empty => ok.reads (.inl empty))
  have wholeReads : ¬ ErrorHazard 0 content.length := errorHazard_zero (by omega)
  have wholePart : 0 + content.length ≤ content.length := by omega
  have flag {device : UInt8} {subtype : EmsValue.SubType} {v : EmsValue}
      (inside : (stoerungField device subtype).Inside k n)
      (value : v ∈ (stoerungField device subtype).emit 0 content) :
      v ∈ stoerungAt device subtype k (slice content k n) := by
    obtain ⟨start, stop⟩ := inside
    have start : k ≤ 0 := start
    have stop : 0 + 8 ≤ k + n := stop
    rw [stoerungField_emit, ← slice_zero_length content] at value
    obtain ⟨first, -, value⟩ := (mem_stoerungAt wholePart (by omega)).mp value
    obtain rfl : k = 0 := by omega
    exact (mem_stoerungAt part count).mpr ⟨first, ⟨by omega, by omega⟩, value⟩
  intro f field inside v value
  apply mem_errorValues.mpr
  rcases mem_errorLayout.mp field with rfl | rfl | ⟨i, bound, rfl | rfl⟩ | ⟨none, rfl⟩
  · exact .inl (flag inside value)
  · exact .inr (.inl (flag inside value))
  · refine .inr (.inr (.inl ((mem_errorsAt part ok.reads).mpr (.inl ?_))))
    obtain ⟨nonzero, rfl⟩ := mem_errorField_emit value
    exact ⟨_, ok.codesFound (mem_errorGroups.mpr ⟨i, bound, inside, by rw [Nat.zero_add],
      nonzero⟩), rfl⟩
  · refine .inr (.inr (.inl ((mem_errorsAt part ok.reads).mpr (.inr ?_))))
    obtain ⟨nonzero, rfl⟩ := mem_errorField_emit value
    exact ⟨_, ok.numbersFound (mem_errorGroups.mpr ⟨i, bound, inside, by rw [Nat.zero_add],
      nonzero⟩), rfl⟩
  · rw [← slice_zero_length content] at none
    obtain ⟨codes, numbers⟩ := (errorsAt_eq_nil wholePart wholeReads).mp none
    have noCodes := List.subset_nil.mp (codes ▸ ok.codes)
    have noNumbers := List.subset_nil.mp (numbers ▸ ok.numbers)
    rw [noErrorField_emit] at value
    exact .inr (.inr (.inr ⟨(errorsAt_eq_nil part ok.reads).mpr ⟨noCodes, noNumbers⟩, value⟩))

/-- A window of an error telegram agrees with the complete one exactly if what the parser finds
    at the displaced places says the same. -/
theorem agrees_error_iff {h : Header} {content : List UInt8} {k : UInt8} {n : Nat}
    (part : k.toNat + n ≤ content.length) (error : IsErrorTelegram h.source h.getType) :
    Agrees h content k n ↔ ErrorWindowOk content k.toNat n := by
  have length := length_slice part
  have whole (data : 0 < content.length) :
      (h.telegram 0 content).handle = .ok (errorValues 0 content) :=
    handle_error error 0 (errorHazard_zero data)
  have window (reads : ¬ ErrorHazard k.toNat n) :
      (h.telegram k (slice content k.toNat n)).handle =
        .ok (errorValues k.toNat (slice content k.toNat n)) :=
    handle_error error k (by rwa [← length] at reads)
  constructor
  · rintro ⟨full, values, run, -, run', subset, found⟩
    have reads : ¬ ErrorHazard k.toNat n := by
      intro hazard
      have safe := (@handle_ok_iff (h.telegram k (slice content k.toNat n)) rfl).mp ⟨_, run'⟩
      exact safe (.inl ⟨error, by rw [← length] at hazard; exact hazard⟩)
    have count : 0 < n := Nat.pos_of_ne_zero (fun empty => reads (.inl empty))
    rw [window reads] at run'
    rw [whole (by omega)] at run
    cases run
    cases run'
    rw [layoutOf_error error] at found
    exact errorWindowOk_of_agrees part reads (by rwa [slice_zero_length]) found
  · intro ok
    have count : 0 < n := Nat.pos_of_ne_zero (fun empty => ok.reads (.inl empty))
    refine ⟨_, _, whole (by omega), by rw [layoutOf_error error, errorLayout_emit], window ok.reads,
      ?_, ?_⟩
    · have subset := errorValues_subset part ok
      rwa [slice_zero_length] at subset
    · rw [layoutOf_error error]
      exact errorValues_found part ok

/-- For every telegram, every content and every window of it: the partial telegram agrees with
    the complete one exactly if the window is one of those described by `WindowOk`. -/
theorem partial_agrees_iff (h : Header) (content : List UInt8) (k : UInt8) (n : Nat)
    (part : k.toNat + n ≤ content.length) :
    Agrees h content k n ↔ WindowOk h.source h.getType content k.toNat n := by
  unfold WindowOk
  by_cases error : IsErrorTelegram h.source h.getType
  · have noMonitor : ¬ IsMonitorTelegram h.source h.getType :=
      fun monitor => not_error_of_monitor monitor error
    rw [agrees_error_iff part error]
    exact ⟨fun ok => ⟨fun _ => ok, fun monitor => absurd monitor noMonitor⟩, fun ok => ok.1 error⟩
  · by_cases monitor : IsMonitorTelegram h.source h.getType
    · rw [agrees_monitor_iff part monitor]
      exact ⟨fun ok => ⟨fun h => absurd h error, fun _ => ok⟩, fun ok => ok.2 monitor⟩
    · exact iff_of_true (agrees_of_relative part error monitor)
        ⟨fun h => absurd h error, fun h => absurd h monitor⟩

/-- The bytes `[6, 9)` of a monitor telegram: the two temperatures of the boiler. -/
theorem partial_agrees_temperatures :
    Agrees ⟨0x88, 0x08, 0xe4, 0⟩ [0, 0, 0, 0, 0x12, 0x34, 60, 0x01, 0xf4] 6 3 := by
  refine (partial_agrees_iff _ _ _ _ (by decide)).mpr
    ⟨fun error => absurd error.2 (by decide), fun _ => ⟨?_, fun start => ?_, fun _ stop => ?_⟩⟩
  · unfold MonitorHazard
    decide
  · exact absurd start (by decide)
  · exact absurd stop (by decide)

/-- The first five bytes of a telegram that reports the error "A01" report "OK". -/
theorem partial_error_reports_ok :
    ¬ ∀ (h : Header) (content : List UInt8) (k : UInt8) (n : Nat),
      k.toNat + n ≤ content.length → Agrees h content k n := by
  intro agrees
  have window := agrees ⟨0x90, 0x08, 0xbf, 0⟩ [0x08, 0, 0, 0, 0, 0x41, 0x30, 0x31] 0 5 (by decide)
  have ok := (agrees_error_iff (by decide) ⟨.inr rfl, rfl⟩).mp window
  have clear := ok.noError (by decide) (by decide)
  exact absurd clear.1 (by decide)

end EmsCollector.EmsMessage
