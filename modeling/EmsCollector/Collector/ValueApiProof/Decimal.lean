import EmsCollector.Collector.ApiCommandParserProof.Domain
import EmsCollector.Collector.IStreamProof.Round
import EmsCollector.Collector.ValueApi

/-!
# Printed numbers

A number that needs at most six digits is printed exactly: what is read back from its text is the
number itself.
-/

namespace EmsCollector

namespace IStream

theorem digitValue_isDigit {c : Char} (digit : c.isDigit = true) :
    digitValue 10 c = some (c.toNat - '0'.toNat) := by
  have bounds : '0' ≤ c ∧ c ≤ '9' := by
    simpa [Char.isDigit, Char.le_def, UInt32.le_iff_toNat_le] using digit
  have value : c.toNat - '0'.toNat < 10 := by
    have high : c.toNat ≤ '9'.toNat := bounds.2
    have nine : '9'.toNat = '0'.toNat + 9 := rfl
    omega
  unfold digitValue
  rw [if_pos bounds]
  exact if_pos value

/-- The state behind digits of the mantissa. -/
def FloatState.readDigits (st : FloatState) (chars : List Char) : FloatState :=
  { st with phase := .mantissa, mantissa := Nat.ofDigitChars 10 chars st.mantissa
            digits := st.digits + chars.length
            scale := if st.point then st.scale + chars.length else st.scale }

theorem floatStep_isDigit {st : FloatState} (start : st.phase = .sign ∨ st.phase = .mantissa)
    {c : Char} (digit : c.isDigit = true) : floatStep st c = some (st.readDigits [c]) := by
  have read : st.mantissaChar c = some (st.readDigits [c]) := by
    unfold FloatState.mantissaChar FloatState.readDigits
    rw [digitValue_isDigit digit]
    simp [Nat.ofDigitChars_cons, Nat.mul_comm]
  unfold floatStep
  rcases start with sign | mantissa
  · have noSign : ¬ (c = '-' ∨ c = '+') := by
      rintro (rfl | rfl) <;> cases digit
    rw [sign]
    simp only [if_neg noSign, read]
  · rw [mantissa]
    exact read

theorem run_digits {st : FloatState} (mantissa : st.phase = .mantissa) {chars : List Char}
    (numeral : ∀ c ∈ chars, c.isDigit = true) :
    Scan.run floatStep st chars = (st.readDigits chars, []) := by
  induction chars generalizing st with
  | nil =>
      obtain ⟨⟩ := st
      cases mantissa
      simp [Scan.run, FloatState.readDigits]
  | cons c rest ih =>
      unfold Scan.run
      rw [floatStep_isDigit (.inr mantissa) (numeral c (List.mem_cons_self ..))]
      have rest' := @ih (st.readDigits [c]) rfl (fun d member => numeral d (List.mem_cons_of_mem _ member))
      refine rest'.trans ?_
      unfold FloatState.readDigits
      cases st.point <;> simp [Nat.ofDigitChars_cons, Nat.add_assoc, Nat.add_comm 1]

theorem run_first_digits {st : FloatState} (start : st.phase = .sign ∨ st.phase = .mantissa)
    {chars : List Char} (nonempty : chars ≠ []) (numeral : ∀ c ∈ chars, c.isDigit = true) :
    Scan.run floatStep st chars = (st.readDigits chars, []) := by
  have mantissa := @run_digits { st with phase := .mantissa } rfl chars numeral
  cases chars with
  | nil => exact absurd rfl nonempty
  | cons c rest =>
      have digit := numeral c (List.mem_cons_self ..)
      unfold Scan.run at mantissa ⊢
      rw [floatStep_isDigit (.inr rfl) digit] at mantissa
      rw [floatStep_isDigit start digit]
      exact mantissa

end IStream

namespace ApiCommandParser

open IStream

/-- A sign, digits, and digits behind a point. -/
theorem decimal_of_digits (negative : Bool) {whole fraction : List Char} (nonempty : whole ≠ [])
    (numeral : ∀ c ∈ whole, c.isDigit = true) (numeral' : ∀ c ∈ fraction, c.isDigit = true) :
    Decimal ((if negative then "-" else "") ++ (String.ofList whole ++
        (if fraction = [] then "" else "." ++ String.ofList fraction)))
      ((if negative then -1 else 1) *
        ((Nat.ofDigitChars 10 (whole ++ fraction) 0 : Nat) / 10 ^ fraction.length)) := by
  let signed : FloatState :=
    { floatStart with negative, phase := if negative then .mantissa else .sign }
  have signedPhase : signed.phase = .sign ∨ signed.phase = .mantissa := by
    cases negative
    · exact .inl rfl
    · exact .inr rfl
  have sign (rest : List Char) : Scan.run floatStep floatStart
      ((if negative then "-" else "").toList ++ rest) = Scan.run floatStep signed rest := by
    cases negative <;> rfl
  have mantissa := run_first_digits signedPhase nonempty numeral
  have integral (rest : List Char) : Scan.run floatStep signed (whole ++ rest) =
      Scan.run floatStep (signed.readDigits whole) rest := by
    rw [Scan.run_append_exhausted (by rw [mantissa]), mantissa]
  have length : whole.length ≠ 0 := by simpa using nonempty
  by_cases none : fraction = []
  · refine ⟨signed.readDigits whole, ?_, ?_, ?_⟩
    · simp only [none, if_true, String.toList_append, String.toList_ofList]
      rw [sign, integral]
      rfl
    · simpa [FloatState.readDigits, FloatState.wellFormed, signed, floatStart] using nonempty
    · simp [FloatState.readDigits, FloatState.value, signed, floatStart, none]
  · let pointed : FloatState := { signed.readDigits whole with point := true }
    have point (rest : List Char) : Scan.run floatStep (signed.readDigits whole) ('.' :: rest) =
        Scan.run floatStep pointed rest := rfl
    refine ⟨pointed.readDigits fraction, ?_, ?_, ?_⟩
    · simp only [none, if_false, String.toList_append, String.toList_ofList]
      rw [sign, integral, show ".".toList ++ fraction = '.' :: fraction from rfl, point]
      exact run_digits rfl numeral'
    · simp [FloatState.readDigits, FloatState.wellFormed, pointed, signed, floatStart, length]
    · simp [FloatState.readDigits, FloatState.value, pointed, signed, floatStart,
        Nat.ofDigitChars_append, div_eq_mul_inv]

theorem toDigits_isDigit (n : Nat) : ∀ c ∈ Nat.toDigits 10 n, c.isDigit = true :=
  fun _ => Nat.isDigit_of_mem_toDigits (by decide) (by decide)

theorem formatDec_toList (width n : Nat) : (formatDec width n).toList =
    List.replicate (width - (Nat.toDigits 10 n).length) '0' ++ Nat.toDigits 10 n := by
  simp [formatDec, ← String.length_toList]

theorem formatDec_isDigit (width n : Nat) : ∀ c ∈ (formatDec width n).toList, c.isDigit = true := by
  intro c member
  rw [formatDec_toList, List.mem_append] at member
  rcases member with zero | digit
  · rw [List.eq_of_mem_replicate zero]
    rfl
  · exact toDigits_isDigit n c digit

theorem formatDec_value (width n start : Nat) :
    Nat.ofDigitChars 10 (formatDec width n).toList start =
      10 ^ (formatDec width n).toList.length * start + n := by
  rw [Nat.ofDigitChars_eq_ofDigitChars_zero, formatDec_toList, Nat.ofDigitChars_append]
  simp

theorem formatDec_length {width n : Nat} (positive : 0 < width) (fits : n < 10 ^ width) :
    (formatDec width n).toList.length = width := by
  have length : (Nat.toDigits 10 n).length ≤ width :=
    (Nat.length_toDigits_le_iff (by decide) positive).mpr fits
  rw [formatDec_toList]
  simp only [List.length_append, List.length_replicate]
  omega

/-- The zeros at the end of a fraction do not count. -/
theorem decimal_formatFixed (negative : Bool) (digits decimals : Nat) :
    Decimal ((if negative then "-" else "") ++ formatFixed digits decimals)
      ((if negative then -1 else 1) * (digits / 10 ^ decimals)) := by
  let padded := (formatDec decimals (digits % 10 ^ decimals)).toList
  let fraction := padded.rdropWhile (· = '0')
  have numeral : ∀ c ∈ fraction, c.isDigit = true := fun c member =>
    formatDec_isDigit _ _ c ((List.rdropWhile_prefix _ _).subset member)
  have read := decimal_of_digits negative (@Nat.toDigits_ne_nil (digits / 10 ^ decimals) 10)
    (toDigits_isDigit (digits / 10 ^ decimals)) numeral
  obtain ⟨zeros, split⟩ : ∃ zeros, padded = fraction ++ List.replicate zeros '0' := by
    refine ⟨(padded.rtakeWhile (· = '0')).length, ?_⟩
    rw [← List.eq_replicate_of_mem (fun c member => by simpa using List.mem_rtakeWhile_imp member)]
    exact (List.rdropWhile_append_rtakeWhile ..).symm
  have value : 10 ^ padded.length * (digits / 10 ^ decimals) + digits % 10 ^ decimals =
      10 ^ zeros * Nat.ofDigitChars 10 (Nat.toDigits 10 (digits / 10 ^ decimals) ++ fraction) 0 := by
    calc 10 ^ padded.length * (digits / 10 ^ decimals) + digits % 10 ^ decimals
        = Nat.ofDigitChars 10 padded (digits / 10 ^ decimals) := (formatDec_value ..).symm
      _ = Nat.ofDigitChars 10 (Nat.toDigits 10 (digits / 10 ^ decimals) ++ padded) 0 := by
        rw [Nat.ofDigitChars_append, Nat.ofDigitChars_ten_toDigits]
      _ = _ := by
        rw [split, ← List.append_assoc, Nat.ofDigitChars_append, Nat.ofDigitChars_replicate_zero]
  have whole : (10 ^ padded.length * (digits / 10 ^ decimals) + digits % 10 ^ decimals) *
      10 ^ decimals = 10 ^ padded.length * digits := by
    rcases Nat.eq_zero_or_pos decimals with rfl | positive
    · simp [Nat.mod_one]
    · have length : padded.length = decimals :=
        formatDec_length positive (Nat.mod_lt _ (Nat.pow_pos (by decide)))
      rw [length, Nat.div_add_mod, Nat.mul_comm]
  have length : padded.length = fraction.length + zeros := by rw [split]; simp
  rw [value, length, Nat.pow_add, Nat.mul_assoc, Nat.mul_comm (10 ^ fraction.length), Nat.mul_assoc] at whole
  have whole := Nat.eq_of_mul_eq_mul_left (Nat.pow_pos (by decide)) whole
  have same : ((digits : Rat) / 10 ^ decimals) =
      (Nat.ofDigitChars 10 (Nat.toDigits 10 (digits / 10 ^ decimals) ++ fraction) 0 : Nat) /
        10 ^ fraction.length := by
    rw [div_eq_div_iff (by positivity) (by positivity), mul_comm (digits : Rat)]
    exact_mod_cast whole.symm
  rw [same]
  exact read

/-- A number of at most six digits is not rounded. -/
theorem significantDigits_whole {a : Rat} {n : Nat}
    (whole : a = n * (10 : Rat) ^ (Int.log 10 a - 5)) :
    significantDigits a = (n, Int.log 10 a) := by
  have ten : (0 : Rat) < 10 := by norm_num
  have power := zpow_pos ten (Int.log 10 a - 5)
  have digits : a / (10 : Rat) ^ (Int.log 10 a - 5) = (n : Int) := by
    rw [div_eq_iff power.ne']
    exact_mod_cast whole
  have bound : n < 10 ^ 6 := by
    have high : a < (10 : Rat) ^ (Int.log 10 a + 1) := Int.lt_zpow_succ_log_self (by decide) a
    have split : (10 : Rat) ^ (Int.log 10 a + 1) = 10 ^ 6 * (10 : Rat) ^ (Int.log 10 a - 5) := by
      rw [show Int.log 10 a + 1 = 6 + (Int.log 10 a - 5) by omega, zpow_add₀ ten.ne']
      norm_num
    rw [split] at high
    conv at high => lhs; rw [whole]
    exact_mod_cast lt_of_mul_lt_mul_right high power.le
  unfold significantDigits
  dsimp only
  rw [digits, roundHalfEven_intCast, Int.toNat_natCast, if_neg bound.ne]

theorem decimal_zero : Decimal (formatFloat 0) 0 := by
  have text : formatFixed 0 0 = formatFloat 0 := by decide
  have read := decimal_formatFixed false 0 0
  rw [text] at read
  simpa using read

/-- A number of at most six digits is printed exactly. -/
theorem decimal_formatFloat {q : Rat} {n : Nat} (low : -4 ≤ Int.log 10 |q|)
    (high : Int.log 10 |q| < 6) (whole : |q| = n * (10 : Rat) ^ (Int.log 10 |q| - 5)) :
    Decimal (formatFloat q) q := by
  by_cases zero : q = 0
  · rw [zero]
    exact decimal_zero
  have ten : (10 : Rat) ≠ 0 := by norm_num
  have read := decimal_formatFixed (decide (q < 0)) n (5 - Int.log 10 |q|).toNat
  have size : ((n : Rat) / 10 ^ (5 - Int.log 10 |q|).toNat) = |q| := by
    conv => rhs; rw [whole]
    rw [← zpow_natCast, Int.toNat_of_nonneg (by omega), div_eq_mul_inv, ← zpow_neg]
    congr 2
    omega
  have sign : (if decide (q < 0) = true then (-1 : Rat) else 1) * |q| = q := by
    by_cases negative : q < 0
    · simp [negative, abs_of_neg negative]
    · simp [negative, abs_of_nonneg (not_lt.mp negative)]
  rw [size, sign] at read
  unfold formatFloat
  rw [if_neg zero, significantDigits_whole whole]
  simpa [low, high] using read

/-- Halves are printed exactly. -/
theorem decimal_half {k : Int} (bound : |k| < 200000) :
    Decimal (formatFloat ((k : Rat) / 2)) ((k : Rat) / 2) := by
  by_cases zero : k = 0
  · simpa [zero] using decimal_zero
  have ten : (10 : Rat) ≠ 0 := by norm_num
  have half : |(k : Rat) / 2| = |(k : Rat)| / 2 := by rw [abs_div, abs_two]
  have positive : 0 < |(k : Rat) / 2| := abs_pos.mpr (div_ne_zero (by exact_mod_cast zero) two_ne_zero)
  have low : -1 ≤ Int.log 10 |(k : Rat) / 2| := by
    rw [← Int.zpow_le_iff_le_log (by decide) positive, half]
    have one : (1 : Rat) ≤ |(k : Rat)| := by exact_mod_cast Int.one_le_abs zero
    norm_num
    linarith
  have high : Int.log 10 |(k : Rat) / 2| < 5 := by
    rw [← Int.lt_zpow_iff_log_lt (by decide) positive, half]
    have small : |(k : Rat)| < 200000 := by exact_mod_cast bound
    norm_num
    linarith
  refine @decimal_formatFloat _ (k.natAbs * 5 * 10 ^ (4 - Int.log 10 |(k : Rat) / 2|).toNat)
    (by omega) (by omega) ?_
  conv => lhs; rw [half]
  push_cast
  rw [← zpow_natCast, Int.toNat_of_nonneg (by omega), mul_assoc, ← zpow_add₀ ten,
    show 4 - Int.log 10 |(k : Rat) / 2| + (Int.log 10 |(k : Rat) / 2| - 5) = -1 by omega]
  norm_num
  ring

end ApiCommandParser

end EmsCollector
