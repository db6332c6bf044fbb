import Mathlib

/-!
# Ring buffers with a read and a write position

A ring of `capacity` cells is read from `read` up to `write`, wrapping at the end. Equal
positions mean an empty ring, so at most `capacity - 1` cells may be in use. `contents` is the
queue the ring stands for: writing a cell appends to it, advancing the read position removes
its head.
-/

namespace Ring

variable {α : Type*}

/-- The position behind `index`. -/
def next (capacity index : Nat) : Nat := if capacity ≤ index + 1 then 0 else index + 1

/-- The number of cells from `read` up to `write`. -/
def used (capacity read write : Nat) : Nat :=
  if read ≤ write then write - read else capacity - (read - write)

/-- The queue held in the cells from `read` up to `write`. -/
def contents (capacity : Nat) (cells : Nat → α) (read write : Nat) : List α :=
  (List.range (used capacity read write)).map (fun i => cells ((read + i) % capacity))

variable {capacity read write : Nat} {cells : Nat → α}

theorem next_lt (positive : 0 < capacity) (index : Nat) : next capacity index < capacity := by
  unfold next
  split <;> omega

theorem used_lt (hr : read < capacity) (hw : write < capacity) :
    used capacity read write < capacity := by
  unfold used
  split <;> omega

theorem used_eq_zero_iff (hr : read < capacity) :
    used capacity read write = 0 ↔ write = read := by
  unfold used
  split <;> omega

theorem used_next_write (hr : read < capacity) (hw : write < capacity)
    (room : used capacity read write + 1 < capacity) :
    used capacity read (next capacity write) = used capacity read write + 1 := by
  unfold used next at *
  split_ifs at * <;> omega

theorem used_next_read (hr : read < capacity) (hw : write < capacity) (busy : write ≠ read) :
    used capacity read write = used capacity (next capacity read) write + 1 := by
  unfold used next
  split_ifs <;> omega

@[simp] theorem length_contents :
    (contents capacity cells read write).length = used capacity read write := by
  simp [contents]

theorem contents_eq_nil_iff (hr : read < capacity) :
    contents capacity cells read write = [] ↔ write = read := by
  rw [← List.length_eq_zero_iff, length_contents, used_eq_zero_iff hr]

/-- The write position is `used` cells behind the read position. -/
theorem add_used_mod (hr : read < capacity) (hw : write < capacity) :
    (read + used capacity read write) % capacity = write := by
  unfold used
  split
  · rw [Nat.mod_eq_of_lt (by omega)]
    omega
  · rw [show read + (capacity - (read - write)) = write + capacity by omega,
      Nat.add_mod_right, Nat.mod_eq_of_lt hw]

/-- Distinct cells of the queue lie at distinct positions. -/
theorem add_mod_ne_write (hr : read < capacity) (hw : write < capacity) {i : Nat}
    (inside : i < used capacity read write) : (read + i) % capacity ≠ write := by
  have bound := used_lt hr hw
  unfold used at inside bound
  by_cases wrap : read + i < capacity
  · rw [Nat.mod_eq_of_lt wrap]
    split at inside <;> omega
  · rw [Nat.mod_eq_sub_mod (by omega), Nat.mod_eq_of_lt (by omega)]
    split at inside <;> omega

/-- Writing at the write position and moving it on appends to the queue. -/
theorem contents_push (hr : read < capacity) (hw : write < capacity)
    (room : used capacity read write + 1 < capacity) {cells' : Nat → α} {x : α}
    (written : cells' write = x) (kept : ∀ i, i ≠ write → cells' i = cells i) :
    contents capacity cells' read (next capacity write) =
      contents capacity cells read write ++ [x] := by
  unfold contents
  rw [used_next_write hr hw room, List.range_succ, List.map_append, List.map_singleton,
    add_used_mod hr hw, written]
  congr 1
  apply List.map_congr_left
  intro i member
  exact kept _ (add_mod_ne_write hr hw (List.mem_range.mp member))

/-- Moving the read position on removes the head of the queue. -/
theorem contents_pop (hr : read < capacity) (hw : write < capacity) (busy : write ≠ read) :
    contents capacity cells read write =
      cells read :: contents capacity cells (next capacity read) write := by
  unfold contents
  rw [used_next_read hr hw busy, List.range_succ_eq_map, List.map_cons, List.map_map]
  congr 1
  · rw [Nat.add_zero, Nat.mod_eq_of_lt hr]
  · apply List.map_congr_left
    intro i _
    have step : (read + (i + 1)) % capacity = (next capacity read + i) % capacity := by
      unfold next
      split
      · rw [show read + (i + 1) = 0 + i + capacity by omega, Nat.add_mod_right]
      · congr 1
        omega
    simp only [Function.comp, Nat.succ_eq_add_one, step]

end Ring
