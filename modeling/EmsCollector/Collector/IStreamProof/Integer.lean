import EmsCollector.Collector.IStream

/-!
# Integers in the notation of C

A leading zero makes an octal number of an integer, and a leading `0x` a hexadecimal one. An
integer that is neither is a decimal number.
-/

namespace EmsCollector.IStream

/-- A base that an integer can have. -/
def KnownBase (anyBase : Bool) (base : Nat) : Prop :=
  base = 10 ∨ anyBase = true ∧ (base = 8 ∨ base = 16)

theorem IntState.digit_some {st st' : IntState} {c : Char} (taken : st.digit c = some st') :
    ∃ value, digitValue st.base c = some value ∧
      st' = { st with phase := .digits, digits := st.digits + 1,
                      result := st.result * st.base + value } := by
  obtain ⟨value, read, rfl⟩ := Option.map_eq_some_iff.mp taken
  exact ⟨value, read, rfl⟩

/-- A leading zero, a prefix, or a digit. -/
theorem IntState.zero_some {anyBase : Bool} {st st' : IntState} {c : Char}
    (taken : st.zero anyBase c = some st') :
    (c = '0' ∧ st' = { st with phase := .zeros, foundZero := true,
                               base := if anyBase then 8 else st.base,
                               digits := if (if anyBase then 8 else st.base) = 8 then 0
                                 else st.digits + 1 }) ∨
      ((anyBase = true ∨ st.base = 16) ∧ st'.base = 16) ∨ st.digit c = some st' := by
  unfold IntState.zero at taken
  split at taken
  · rename_i leading
    cases taken
    exact .inl ⟨leading.1, rfl⟩
  · split at taken
    · rename_i marked
      cases taken
      exact .inr (.inl ⟨marked.2.2, rfl⟩)
    · exact .inr (.inr taken)

/-- A step is a sign, one of the above, or a digit. -/
theorem intStep_some {anyBase : Bool} {st st' : IntState} {c : Char}
    (taken : intStep anyBase st c = some st') :
    (st.phase = .sign ∧ (c = '-' ∨ c = '+') ∧
        st' = { st with phase := .zeros, negative := c = '-' }) ∨
      (st.phase = .sign ∧ ¬ (c = '-' ∨ c = '+') ∧ st.zero anyBase c = some st') ∨
      (st.phase = .zeros ∧ st.zero anyBase c = some st') ∨
      (st.phase = .digits ∧ st.digit c = some st') := by
  unfold intStep at taken
  split at taken
  · rename_i sign
    split at taken
    · rename_i signed
      cases taken
      exact .inl ⟨sign, signed, rfl⟩
    · rename_i unsigned
      exact .inr (.inl ⟨sign, unsigned, taken⟩)
  · rename_i zeros
    exact .inr (.inr (.inl ⟨zeros, taken⟩))
  · rename_i digits
    exact .inr (.inr (.inr ⟨digits, taken⟩))

/-- A step keeps the base, or sets one of the others. -/
theorem intStep_base {anyBase : Bool} {st st' : IntState} {c : Char}
    (taken : intStep anyBase st c = some st') :
    st'.base = st.base ∨ (anyBase = true ∧ st'.base = 8) ∨
      ((anyBase = true ∨ st.base = 16) ∧ st'.base = 16) := by
  have digit (read : st.digit c = some st') : st'.base = st.base := by
    obtain ⟨value, -, rfl⟩ := IntState.digit_some read
    rfl
  have zero (read : st.zero anyBase c = some st') :
      st'.base = st.base ∨ (anyBase = true ∧ st'.base = 8) ∨
        ((anyBase = true ∨ st.base = 16) ∧ st'.base = 16) := by
    rcases IntState.zero_some read with ⟨-, rfl⟩ | marked | read
    · cases anyBase with
      | false => exact .inl rfl
      | true => exact .inr (.inl ⟨rfl, rfl⟩)
    · exact .inr (.inr marked)
    · exact .inl (digit read)
  rcases intStep_some taken with ⟨-, -, rfl⟩ | ⟨-, -, read⟩ | ⟨-, read⟩ | ⟨-, read⟩
  · exact .inl rfl
  · exact zero read
  · exact zero read
  · exact .inl (digit read)

/-- An integer has one of the known bases. -/
theorem run_knownBase (anyBase : Bool) (chars : List Char) :
    KnownBase anyBase (Scan.run (intStep anyBase) intStart chars).1.base := by
  refine Scan.run_invariant (P := fun st : IntState => KnownBase anyBase st.base) ?_ (.inl rfl) chars
  intro st c st' taken known
  rcases intStep_base taken with same | ⟨any, octal⟩ | ⟨marked, hexadecimal⟩
  · show KnownBase anyBase st'.base
    rw [same]
    exact known
  · exact .inr ⟨any, .inl octal⟩
  · refine .inr ⟨?_, .inr hexadecimal⟩
    rcases known with decimal | ⟨any, -⟩
    · exact marked.resolve_right (by rw [decimal]; decide)
    · exact any

/-- A decimal number was never anything else. -/
theorem run_decimal {anyBase : Bool} {st : IntState} {chars : List Char}
    (decimal : (Scan.run (intStep anyBase) st chars).1.base = 10) : st.base = 10 := by
  by_contra other
  refine Scan.run_invariant (P := fun st : IntState => st.base ≠ 10) ?_ other chars decimal
  intro st c st' taken other
  rcases intStep_base taken with same | ⟨-, octal⟩ | ⟨-, hexadecimal⟩
  · rw [same]
    exact other
  · rw [octal]
    decide
  · rw [hexadecimal]
    decide

/-- An integer and a floating point number that have read the same digits. -/
structure Agrees (st : IntState) (number : FloatState) : Prop where
  phase : number.phase = if st.phase = .sign then .sign else .mantissa
  negative : number.negative = st.negative
  mantissa : number.mantissa = st.result
  digits : number.digits ≠ 0 ↔ st.wellFormed = true
  leading : st.phase ≠ .digits → st.result = 0
  integral : number.point = false ∧ number.scale = 0 ∧ number.exponentNegative = false ∧
    number.exponent = 0

theorem agrees_start : Agrees intStart floatStart :=
  ⟨rfl, rfl, rfl, by decide, fun _ => rfl, rfl, rfl, rfl, rfl⟩

/-- The floating point extraction takes a digit before the point. -/
theorem floatStep_digit {number : FloatState} {c : Char} {value : Nat}
    (read : digitValue 10 c = some value) (integral : number.point = false)
    (phase : number.phase = .sign ∨ number.phase = .mantissa) :
    floatStep number c = some { number with phase := .mantissa,
                                            mantissa := number.mantissa * 10 + value,
                                            digits := number.digits + 1 } := by
  have digit : number.mantissaChar c = some { number with phase := .mantissa,
                                                          mantissa := number.mantissa * 10 + value,
                                                          digits := number.digits + 1 } := by
    unfold FloatState.mantissaChar
    rw [read, integral]
    rfl
  have unsigned : ¬ (c = '-' ∨ c = '+') := by
    rintro (rfl | rfl)
    · cases (read : none = some value)
    · cases (read : none = some value)
  unfold floatStep
  rcases phase with sign | mantissa
  · rw [sign]
    exact (if_neg unsigned).trans digit
  · rw [mantissa]
    exact digit

/-- Both extractions take a character of a decimal integer alike. -/
theorem agrees_step {anyBase : Bool} {st st' : IntState} {number : FloatState} {c : Char}
    (agrees : Agrees st number) (decimal : st.base = 10) (taken : intStep anyBase st c = some st')
    (decimal' : st'.base = 10) :
    ∃ number', floatStep number c = some number' ∧ Agrees st' number' := by
  have phase : number.phase = .sign ∨ number.phase = .mantissa := by
    rw [agrees.phase]
    split
    · exact .inl rfl
    · exact .inr rfl
  have digit (read : st.digit c = some st') :
      ∃ number', floatStep number c = some number' ∧ Agrees st' number' := by
    obtain ⟨value, digit, rfl⟩ := IntState.digit_some read
    rw [decimal] at digit
    refine ⟨_, floatStep_digit digit agrees.integral.1 phase, rfl, agrees.negative, ?_, ?_,
      fun leading => absurd rfl leading, agrees.integral⟩
    · show number.mantissa * 10 + value = st.result * st.base + value
      rw [agrees.mantissa, decimal]
    · exact iff_of_true (Nat.succ_ne_zero _) (by simp [IntState.wellFormed])
  have zero (early : st.phase ≠ .digits) (read : st.zero anyBase c = some st') :
      ∃ number', floatStep number c = some number' ∧ Agrees st' number' := by
    rcases IntState.zero_some read with ⟨rfl, rfl⟩ | ⟨-, hexadecimal⟩ | read
    · have digit : digitValue 10 '0' = some 0 := rfl
      refine ⟨_, floatStep_digit digit agrees.integral.1 phase, rfl, agrees.negative, ?_, ?_,
        fun _ => agrees.leading early, agrees.integral⟩
      · show number.mantissa * 10 + 0 = st.result
        rw [agrees.mantissa, agrees.leading early]
      · exact iff_of_true (Nat.succ_ne_zero _) (by simp [IntState.wellFormed])
    · exact absurd (hexadecimal.symm.trans decimal') (by decide)
    · exact digit read
  rcases intStep_some taken with ⟨sign, signed, rfl⟩ | ⟨sign, -, read⟩ | ⟨zeros, read⟩ | ⟨-, read⟩
  · have start : number.phase = .sign := by rw [agrees.phase, if_pos sign]
    refine ⟨{ number with phase := .mantissa, negative := c = '-' }, ?_, rfl, rfl, agrees.mantissa,
      agrees.digits, fun _ => agrees.leading (by rw [sign]; decide), agrees.integral⟩
    unfold floatStep
    rw [start]
    exact if_pos signed
  · exact zero (by rw [sign]; decide) read
  · exact zero (by rw [zeros]; decide) read
  · exact digit read

/-- A decimal integer is read by both extractions alike. -/
theorem run_agrees {anyBase : Bool} {st st' : IntState} {number : FloatState} {chars : List Char}
    (agrees : Agrees st number) (read : Scan.run (intStep anyBase) st chars = (st', []))
    (decimal : st'.base = 10) :
    ∃ number', Scan.run floatStep number chars = (number', []) ∧ Agrees st' number' := by
  induction chars generalizing st number with
  | nil =>
      cases read
      exact ⟨number, rfl, agrees⟩
  | cons c rest ih =>
      have before : st.base = 10 := @run_decimal _ _ (c :: rest) (by rw [read]; exact decimal)
      unfold Scan.run at read ⊢
      cases next : intStep anyBase st c with
      | none =>
          rw [next] at read
          cases read
      | some middle =>
          rw [next] at read
          have read : Scan.run (intStep anyBase) middle rest = (st', []) := read
          have between : middle.base = 10 := run_decimal (by rw [read]; exact decimal)
          obtain ⟨number', taken, agrees'⟩ := agrees_step agrees before next between
          rw [taken]
          exact ih agrees' read

/-- A decimal integer is the number that the floating point extraction reads. -/
theorem decimal_value {anyBase : Bool} {st : IntState} {chars : List Char}
    (read : Scan.run (intStep anyBase) intStart chars = (st, [])) (decimal : st.base = 10)
    (formed : st.wellFormed = true) :
    ∃ number, Scan.run floatStep floatStart chars = (number, []) ∧ number.wellFormed = true ∧
      number.value = if st.negative then -(st.result : Rat) else st.result := by
  obtain ⟨number, same, agrees⟩ := run_agrees agrees_start read decimal
  have digits := agrees.digits.mpr formed
  obtain ⟨-, scale, positive, exponent⟩ := agrees.integral
  refine ⟨number, same, ?_, ?_⟩
  · have formed' : decide (number.digits ≠ 0) = true := decide_eq_true digits
    unfold FloatState.wellFormed
    rw [agrees.phase]
    by_cases sign : st.phase = .sign
    · rw [if_pos sign]
      exact formed'
    · rw [if_neg sign]
      exact formed'
  · unfold FloatState.value
    rw [agrees.negative, agrees.mantissa, scale, positive, exponent]
    split <;> simp

end EmsCollector.IStream
