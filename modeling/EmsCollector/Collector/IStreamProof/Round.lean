import EmsCollector.Collector.IStream
import Mathlib

/-!
# Numbers that a `float` holds

A `float` is a multiple of a power of two by at most 24 bits. Rounding a number gives such a
multiple, and rounding it once more changes nothing.
-/

namespace EmsCollector.IStream

/-- An integer of at most 24 bits times a power of two that is not too small. -/
def IsFloat (q : Rat) : Prop :=
  ∃ k e : Int, |k| ≤ 2 ^ 24 ∧ -149 ≤ e ∧ q = k * (2 : Rat) ^ e

theorem roundHalfEven_intCast (n : Int) : roundHalfEven n = n := by
  unfold roundHalfEven
  simp

/-- Rounding moves a number to a neighbouring integer. -/
theorem roundHalfEven_between (q : Rat) {low high : Int} (below : low ≤ q) (above : q ≤ high) :
    low ≤ roundHalfEven q ∧ roundHalfEven q ≤ high := by
  have floor : low ≤ q.floor := Rat.le_floor_iff.mpr below
  have floor' : q.floor ≤ high := by
    have := Rat.floor_le q
    exact_mod_cast this.trans above
  unfold roundHalfEven
  dsimp only
  split
  · exact ⟨floor, floor'⟩
  · rename_i up
    refine ⟨by omega, ?_⟩
    by_contra beyond
    have whole : q.floor = high := by omega
    have exact : q = q.floor := le_antisymm (by rw [whole]; exact above) (Rat.floor_le q)
    refine up (.inl ?_)
    rw [← exact]
    norm_num

/-- The quotient of two numbers lies between two powers of two. -/
theorem log2_quotient {n d : Nat} (num : n ≠ 0) (den : d ≠ 0) :
    (2 : Rat) ^ ((Nat.log2 n : Int) - Nat.log2 d - 1) ≤ (n : Rat) / d ∧
      (n : Rat) / d < (2 : Rat) ^ ((Nat.log2 n : Int) - Nat.log2 d + 1) := by
  have two : (0 : Rat) < 2 := by norm_num
  have positive : (0 : Rat) < d := by exact_mod_cast Nat.pos_of_ne_zero den
  have numLow : (2 : Rat) ^ (Nat.log2 n : Int) ≤ n := by exact_mod_cast Nat.log2_self_le num
  have numHigh : (n : Rat) < (2 : Rat) ^ ((Nat.log2 n : Int) + 1) := by
    exact_mod_cast Nat.lt_log2_self
  have denLow : (2 : Rat) ^ (Nat.log2 d : Int) ≤ d := by exact_mod_cast Nat.log2_self_le den
  have denHigh : (d : Rat) < (2 : Rat) ^ ((Nat.log2 d : Int) + 1) := by
    exact_mod_cast Nat.lt_log2_self
  constructor
  · rw [le_div_iff₀ positive]
    calc (2 : Rat) ^ ((Nat.log2 n : Int) - Nat.log2 d - 1) * d
        ≤ (2 : Rat) ^ ((Nat.log2 n : Int) - Nat.log2 d - 1) *
          (2 : Rat) ^ ((Nat.log2 d : Int) + 1) :=
          mul_le_mul_of_nonneg_left denHigh.le (zpow_nonneg two.le _)
      _ = (2 : Rat) ^ (Nat.log2 n : Int) := by
        rw [← zpow_add₀ two.ne']
        congr 1
        omega
      _ ≤ n := numLow
  · rw [div_lt_iff₀ positive]
    calc (n : Rat) < (2 : Rat) ^ ((Nat.log2 n : Int) + 1) := numHigh
      _ = (2 : Rat) ^ ((Nat.log2 n : Int) - Nat.log2 d + 1) * (2 : Rat) ^ (Nat.log2 d : Int) := by
        rw [← zpow_add₀ two.ne']
        congr 1
        omega
      _ ≤ (2 : Rat) ^ ((Nat.log2 n : Int) - Nat.log2 d + 1) * d :=
        mul_le_mul_of_nonneg_left denLow (zpow_nonneg two.le _)

/-- A positive number lies between two powers of two. -/
theorem log2Floor_spec {a : Rat} (positive : 0 < a) :
    (2 : Rat) ^ log2Floor a ≤ a ∧ a < (2 : Rat) ^ (log2Floor a + 1) := by
  have num : 0 < a.num := Rat.num_pos.mpr positive
  have quotient : (a.num.toNat : Rat) / a.den = a := by
    have same : (a.num.toNat : Rat) = a.num := by
      exact_mod_cast congrArg (fun n : Int => (n : Rat)) (Int.toNat_of_nonneg num.le)
    rw [same, Rat.num_div_den]
  obtain ⟨below, above⟩ := @log2_quotient a.num.toNat a.den (by omega) a.den_nz
  rw [quotient] at below above
  unfold log2Floor
  dsimp only
  split
  · rename_i reached
    exact ⟨reached, above⟩
  · rename_i missed
    rw [Int.sub_add_cancel]
    exact ⟨below, not_le.mp missed⟩

/-- The exponent that `roundToFloat` uses leaves 24 bits. -/
theorem abs_div_le {q : Rat} (nonzero : q ≠ 0) {exponent : Int}
    (large : log2Floor |q| - 23 ≤ exponent) : |q / (2 : Rat) ^ exponent| ≤ 2 ^ 24 := by
  have two : (0 : Rat) < 2 := by norm_num
  rw [abs_div, abs_of_pos (zpow_pos two exponent), div_le_iff₀ (zpow_pos two exponent)]
  calc |q| ≤ (2 : Rat) ^ (log2Floor |q| + 1) := (log2Floor_spec (abs_pos.mpr nonzero)).2.le
    _ ≤ (2 : Rat) ^ (24 + exponent) := zpow_le_zpow_right₀ (by norm_num) (by omega)
    _ = 2 ^ 24 * (2 : Rat) ^ exponent := by
      rw [zpow_add₀ two.ne']
      norm_num

theorem roundToFloat_isFloat {q v : Rat} (rounded : roundToFloat q = some v) :
    IsFloat v ∧ |v| < (2 : Rat) ^ (128 : Int) := by
  unfold roundToFloat at rounded
  split at rounded
  · cases rounded
    exact ⟨⟨0, 0, by norm_num, by norm_num, by norm_num⟩, by norm_num⟩
  · rename_i nonzero
    dsimp only at rounded
    split at rounded
    · rename_i fits
      cases rounded
      have bits := abs_le.mp (abs_div_le nonzero (le_max_right (-149) (log2Floor |q| - 23)))
      have between := @roundHalfEven_between (q / (2 : Rat) ^ max (-149) (log2Floor |q| - 23))
        (-2 ^ 24) (2 ^ 24) (by exact_mod_cast bits.1) (by exact_mod_cast bits.2)
      exact ⟨⟨_, _, abs_le.mpr between, le_max_left _ _, rfl⟩, fits⟩
    · cases rounded

/-- A `float` is rounded to itself. -/
theorem roundToFloat_self {v : Rat} (float : IsFloat v) :
    roundToFloat v = if |v| < (2 : Rat) ^ (128 : Int) then some v else none := by
  unfold roundToFloat
  by_cases zero : v = 0
  · rw [if_pos zero, zero, abs_zero, if_pos (by norm_num)]
  rw [if_neg zero]
  dsimp only
  obtain ⟨k, e, bits, small, rfl⟩ := float
  have two : (0 : Rat) < 2 := by norm_num
  have low := (log2Floor_spec (abs_pos.mpr zero)).1
  generalize log2Floor |(k : Rat) * (2 : Rat) ^ e| = l at low ⊢
  -- The quotient by the power of two is an integer.
  have whole : ∃ n : Int, (k : Rat) * (2 : Rat) ^ e / (2 : Rat) ^ max (-149) (l - 23) = n := by
    have power : (2 : Rat) ^ max (-149) (l - 23) ≠ 0 := (zpow_pos two _).ne'
    by_cases fine : max (-149) (l - 23) ≤ e
    · obtain ⟨j, shift⟩ := Int.eq_ofNat_of_zero_le (show 0 ≤ e - max (-149) (l - 23) by omega)
      refine ⟨k * 2 ^ j, ?_⟩
      rw [div_eq_iff power]
      push_cast
      rw [← zpow_natCast, mul_assoc, ← zpow_add₀ two.ne']
      congr 2
      omega
    · have coarse : max (-149) (l - 23) = l - 23 := by omega
      have bits' : |(k : Rat)| ≤ 2 ^ 24 := by exact_mod_cast bits
      rw [abs_mul, abs_of_pos (zpow_pos two e)] at low
      have bound : (2 : Rat) ^ l ≤ (2 : Rat) ^ (24 + e) := by
        calc (2 : Rat) ^ l ≤ |(k : Rat)| * (2 : Rat) ^ e := low
          _ ≤ 2 ^ 24 * (2 : Rat) ^ e := mul_le_mul_of_nonneg_right bits' (zpow_pos two e).le
          _ = (2 : Rat) ^ (24 + e) := by
            rw [zpow_add₀ two.ne']
            norm_num
      have next : l = 24 + e := by
        have := (zpow_le_zpow_iff_right₀ (by norm_num : (1 : Rat) < 2)).mp bound
        omega
      -- Only the powers of two at the end of the range are left.
      have full : |(k : Rat)| = 2 ^ 24 := by
        refine le_antisymm bits' ?_
        rw [next, zpow_add₀ two.ne'] at low
        exact le_of_mul_le_mul_right (by norm_num at low ⊢; exact low) (zpow_pos two e)
      have half : (2 : Rat) ^ e / (2 : Rat) ^ max (-149) (l - 23) = 1 / 2 := by
        rw [coarse, next, ← zpow_sub₀ two.ne', show e - (24 + e - 23) = -1 by omega]
        norm_num
      rw [mul_div_assoc, half]
      rcases abs_eq (by norm_num : (0 : Rat) ≤ 2 ^ 24) |>.mp full with positive | negative
      · exact ⟨2 ^ 23, by rw [positive]; norm_num⟩
      · exact ⟨-2 ^ 23, by rw [negative]; norm_num⟩
  obtain ⟨n, whole⟩ := whole
  rw [whole, roundHalfEven_intCast]
  have back : (n : Rat) * (2 : Rat) ^ max (-149) (l - 23) = k * (2 : Rat) ^ e := by
    rw [← whole, div_mul_cancel₀ _ (zpow_pos two _).ne']
  rw [back]

theorem IsFloat.double {v : Rat} (float : IsFloat v) : IsFloat (2 * v) := by
  obtain ⟨k, e, bits, small, rfl⟩ := float
  refine ⟨k, e + 1, bits, by omega, ?_⟩
  rw [zpow_add_one₀ two_ne_zero]
  ring

end EmsCollector.IStream
