import Mathlib

/-!
# Records of one size

A sequence of bytes that holds one record behind the other, the last of which may not be complete.
What arrives later adds records behind those that are complete already.
-/

universe u

/-- The complete records of `size` elements each. -/
def records {α : Type u} (size : Nat) (bytes : List α) : List (List α) :=
  (List.range (bytes.length / size)).map fun i => (bytes.drop (size * i)).take size

section Records

variable {α : Type u} {size : Nat}

@[simp] theorem length_records (size : Nat) (bytes : List α) :
    (records size bytes).length = bytes.length / size := by
  simp [records]

theorem records_short {bytes : List α} (short : bytes.length < size) : records size bytes = [] := by
  rw [← List.length_eq_zero_iff, length_records]
  exact Nat.div_eq_of_lt short

theorem records_cons (positive : 0 < size) {bytes : List α} (enough : size ≤ bytes.length) :
    records size bytes = bytes.take size :: records size (bytes.drop size) := by
  have one_more : bytes.length / size = (bytes.length - size) / size + 1 :=
    Nat.div_eq_sub_div positive enough
  unfold records
  rw [one_more, List.range_succ_eq_map, List.map_cons, List.map_map, List.length_drop]
  simp only [Nat.mul_zero, List.drop_zero, List.drop_drop]
  congr 1
  apply List.map_congr_left
  intro i _
  simp only [Function.comp_apply, Nat.mul_succ, Nat.add_comm]

/-- The records of two parts: those of the first part, and what follows them. -/
theorem records_append (positive : 0 < size) (front back : List α) :
    records size (front ++ back) = records size front ++
      records size ((front ++ back).drop (size * (records size front).length)) := by
  generalize count : (records size front).length = n
  induction n generalizing front with
  | zero =>
      rw [List.length_eq_zero_iff.mp count, Nat.mul_zero, List.drop_zero, List.nil_append]
  | succ n ih =>
      have enough : size ≤ front.length := by
        by_contra short
        rw [records_short (Nat.lt_of_not_le short)] at count
        cases count
      rw [records_cons positive enough, List.length_cons] at count
      have first : size ≤ (front ++ back).length := by
        rw [List.length_append]
        omega
      have split : (front ++ back).drop size = front.drop size ++ back :=
        List.drop_append_of_le_length enough
      have head : (front ++ back).take size = front.take size :=
        List.take_append_of_le_length enough
      rw [records_cons positive first, records_cons positive enough, split, head,
        ih (front.drop size) (Nat.succ.inj count), List.cons_append, Nat.mul_succ, Nat.add_comm,
        ← List.drop_drop, split]

theorem records_prefix (positive : 0 < size) (front back : List α) :
    records size front <+: records size (front ++ back) := by
  rw [records_append positive]
  exact List.prefix_append _ _

end Records
