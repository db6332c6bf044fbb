import Mathlib

/-!
# Records read through a window

A record is a sequence of cells; its layout is a list of fields, each with its place and the
values it decodes to. Of a record only a window may be present: the cells from `start` on. A
field is read when it lies inside the window, and then from the same cells as in the whole
record, so a window yields no value that the whole record does not.
-/

namespace Layout

variable {β ν : Type*}

/-- `count` cells from `start` on. -/
def slice (cells : List β) (start count : Nat) : List β := (cells.drop start).take count

/-- A field of a record. -/
structure Field (β ν : Type*) where
  offset : Nat
  size : Nat
  decode : List β → List ν

/-- The field lies inside the window of `count` cells from `start` on. -/
abbrev Field.Inside (f : Field β ν) (start count : Nat) : Prop :=
  start ≤ f.offset ∧ f.offset + f.size ≤ start + count

/-- The values of a field in the window `cells` that starts at `start`. -/
def Field.emit (f : Field β ν) (start : Nat) (cells : List β) : List ν :=
  if f.Inside start cells.length then f.decode (slice cells (f.offset - start) f.size) else []

/-- The values of all fields, in the order of the layout. -/
def emit (layout : List (Field β ν)) (start : Nat) (cells : List β) : List ν :=
  layout.flatMap (fun f => f.emit start cells)

@[simp] theorem emit_nil (start : Nat) (cells : List β) :
    emit ([] : List (Field β ν)) start cells = [] := rfl

@[simp] theorem emit_cons (f : Field β ν) (layout : List (Field β ν)) (start : Nat)
    (cells : List β) : emit (f :: layout) start cells = f.emit start cells ++ emit layout start cells :=
  rfl

@[simp] theorem emit_append (front back : List (Field β ν)) (start : Nat) (cells : List β) :
    emit (front ++ back) start cells = emit front start cells ++ emit back start cells := by
  simp [emit]

theorem length_slice {cells : List β} {start count : Nat} (inside : start + count ≤ cells.length) :
    (slice cells start count).length = count := by
  simp only [slice, List.length_take, List.length_drop]
  omega

theorem slice_slice {cells : List β} {start count i n : Nat} (inside : i + n ≤ count) :
    slice (slice cells start count) i n = slice cells (start + i) n := by
  unfold slice
  rw [List.drop_take, List.take_take, List.drop_drop, Nat.min_eq_left (by omega)]

@[simp] theorem slice_zero_length (cells : List β) : slice cells 0 cells.length = cells := by
  simp [slice]

theorem getElem?_slice {cells : List β} {start count i : Nat} (inside : i < count) :
    (slice cells start count)[i]? = cells[start + i]? := by
  simp [slice, inside]

/-- Inside the window a field has the values it has in the whole record. -/
theorem Field.emit_window {f : Field β ν} {record : List β} {start count : Nat}
    (part : start + count ≤ record.length) (inside : f.Inside start count) :
    f.emit start (slice record start count) = f.emit 0 record := by
  unfold Field.emit
  rw [length_slice part, if_pos inside, if_pos ⟨Nat.zero_le _, by omega⟩,
    slice_slice (by omega)]
  congr 2
  omega

theorem Field.emit_outside {f : Field β ν} {record : List β} {start count : Nat}
    (part : start + count ≤ record.length) (outside : ¬ f.Inside start count) :
    f.emit start (slice record start count) = [] := by
  unfold Field.emit
  rw [length_slice part, if_neg outside]

/-- A window yields only values of the whole record. -/
theorem emit_window_subset {layout : List (Field β ν)} {record : List β} {start count : Nat}
    (part : start + count ≤ record.length) :
    ∀ v ∈ emit layout start (slice record start count), v ∈ emit layout 0 record := by
  intro v member
  obtain ⟨f, field, emitted⟩ := List.mem_flatMap.mp member
  by_cases inside : f.Inside start count
  · rw [Field.emit_window part inside] at emitted
    exact List.mem_flatMap.mpr ⟨f, field, emitted⟩
  · rw [Field.emit_outside part inside] at emitted
    cases emitted

/-- A window yields every value of every field inside it. -/
theorem mem_emit_window {layout : List (Field β ν)} {record : List β} {start count : Nat}
    (part : start + count ≤ record.length) {f : Field β ν} (field : f ∈ layout)
    (inside : f.Inside start count) {v : ν} (value : v ∈ f.emit 0 record) :
    v ∈ emit layout start (slice record start count) := by
  refine List.mem_flatMap.mpr ⟨f, field, ?_⟩
  rwa [Field.emit_window part inside]

/-- The values of a field whose place in the record is taken for its place in the window. -/
def Field.misplaced (f : Field β ν) (start : Nat) (cells : List β) : List ν :=
  if f.Inside start cells.length then f.decode (slice cells f.offset f.size) else []

@[simp] theorem Field.misplaced_zero (f : Field β ν) (cells : List β) :
    f.misplaced 0 cells = f.emit 0 cells := rfl

theorem Field.misplaced_inside {f : Field β ν} {start : Nat} {cells : List β}
    (inside : f.Inside start cells.length) :
    f.misplaced start cells = f.decode (slice cells f.offset f.size) := if_pos inside

theorem Field.misplaced_outside {f : Field β ν} {start : Nat} {cells : List β}
    (outside : ¬ f.Inside start cells.length) : f.misplaced start cells = [] := if_neg outside

/-- A misplaced field that still lies in the window is read `start` cells too far behind. -/
theorem Field.misplaced_window {f : Field β ν} {record : List β} {start count : Nat}
    (part : start + count ≤ record.length) (reads : f.Inside start count → f.offset + f.size ≤ count) :
    f.misplaced start (slice record start count) =
      if f.Inside start count then f.decode (slice record (start + f.offset) f.size) else [] := by
  unfold Field.misplaced
  rw [length_slice part]
  by_cases inside : f.Inside start count
  · rw [if_pos inside, if_pos inside, slice_slice (reads inside)]
  · rw [if_neg inside, if_neg inside]

/-- A misplaced field does no harm if the cells it is read from decode to the same values. -/
theorem Field.misplaced_eq_emit {f : Field β ν} {record : List β} {start count : Nat}
    (part : start + count ≤ record.length) (reads : f.Inside start count → f.offset + f.size ≤ count)
    (same : f.Inside start count → f.decode (slice record (start + f.offset) f.size) =
      f.decode (slice record f.offset f.size)) :
    f.misplaced start (slice record start count) = f.emit start (slice record start count) := by
  rw [Field.misplaced_window part reads]
  by_cases inside : f.Inside start count
  · rw [if_pos inside, Field.emit_window part inside, same inside]
    unfold Field.emit
    rw [if_pos ⟨Nat.zero_le _, by omega⟩]
    rfl
  · rw [if_neg inside, Field.emit_outside part inside]

end Layout
