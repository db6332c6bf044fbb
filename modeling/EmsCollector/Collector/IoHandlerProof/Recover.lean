import EmsCollector.Collector.IoHandler
import Mathlib

/-!
# Recovery of the frame decoder

The decoder compares `m_pos` with `m_length` only after the increment, so it counts a payload
down to its end for every length but 0. `Inv` is what holds of the members as long as no frame
announces the length 0.
-/

namespace EmsCollector.IoHandler

/-- The decoder's members agree with the partial frame they stand for. -/
structure Inv (h : IoHandler) : Prop where
  size : h.data.length ≤ 255
  data : h.state = .data →
    h.pos = h.data.length ∧ h.data.length < h.length ∧ h.checkSum = checkSumOf h.data
  empty : h.state = .syncing ∨ h.state = .length → h.data = []

/-- No byte of the stream is a length byte 0. -/
def NoZeroLength (h : IoHandler) (stream : List UInt8) : Prop :=
  ∀ before rest, stream = before ++ 0 :: rest → (readComplete h before).1.state ≠ .length

/-- The invariant holds behind every part of the stream, and outside `Syncing` the decoder is
    back in `Syncing` after at most 257 more bytes. -/
def Recovers (h : IoHandler) (stream : List UInt8) : Prop :=
  ∀ before rest, stream = before ++ rest →
    Inv (readComplete h before).1 ∧
      ((readComplete h before).1.state ≠ .syncing → 257 ≤ rest.length →
        ∃ n ≤ 257, (readComplete h (before ++ rest.take n)).1.state = .syncing)

/-- `Inv` with the bound that the length byte puts on the payload. -/
structure Bounded (h : IoHandler) : Prop where
  inv : Inv h
  length : h.state = .data → h.length ≤ 255

theorem bounded_fresh {h : IoHandler} (fresh : h.Fresh) : Bounded h := by
  obtain ⟨state, pos, data⟩ := fresh
  exact ⟨⟨by simp [data], by simp [state], fun _ => data⟩, by simp [state]⟩

/-- What one byte preserves, unless it is a length byte 0. -/
theorem bounded_handleByte {h : IoHandler} {b : UInt8} (bounded : Bounded h)
    (nonzero : h.state = .length → b ≠ 0) : Bounded (handleByte h b).1 := by
  obtain ⟨⟨size, data, empty⟩, length⟩ := bounded
  cases state : h.state with
  | syncing =>
      have none := empty (.inl state)
      simp only [handleByte, state]
      split_ifs <;> exact ⟨⟨size, by simp, fun _ => none⟩, by simp⟩
  | length =>
      have none := empty (.inr state)
      have positive : 0 < b.toNat := by
        have := nonzero state
        rw [Nat.pos_iff_ne_zero]
        intro zero
        exact this (UInt8.toNat_inj.mp zero)
      have := b.toNat_lt
      simp only [handleByte, state]
      exact ⟨⟨size, by simp [none, positive], by simp⟩, fun _ => by simp; omega⟩
  | data =>
      obtain ⟨pos, short, sum⟩ := data state
      have bound := length state
      simp only [handleByte, state]
      by_cases last : h.pos + 1 = h.length
      · exact ⟨⟨by simp; omega, by simp [last], by simp [last]⟩, by simp [last]⟩
      · refine ⟨⟨by simp; omega, fun _ => ⟨by simp [pos], by simp; omega, ?_⟩, by simp [last]⟩,
          fun _ => bound⟩
        simp [sum, checkSumOf_append_singleton]
  | checksum =>
      simp only [handleByte, state]
      exact ⟨⟨by simp, by simp, by simp⟩, by simp⟩

theorem noZeroLength_append {h : IoHandler} {before rest : List UInt8}
    (nonzero : NoZeroLength h (before ++ rest)) :
    NoZeroLength (readComplete h before).1 rest := by
  rintro more last rfl
  have := nonzero (before ++ more) last (by simp)
  rwa [readComplete_append] at this

theorem noZeroLength_cons {h : IoHandler} {b : UInt8} {rest : List UInt8}
    (nonzero : NoZeroLength h (b :: rest)) :
    (h.state = .length → b ≠ 0) ∧ NoZeroLength (handleByte h b).1 rest := by
  refine ⟨?_, @noZeroLength_append h [b] rest nonzero⟩
  rintro state rfl
  exact nonzero [] rest rfl state

theorem bounded_readComplete {h : IoHandler} (bounded : Bounded h) {stream : List UInt8}
    (nonzero : NoZeroLength h stream) : Bounded (readComplete h stream).1 := by
  induction stream generalizing h with
  | nil => exact bounded
  | cons b rest ih =>
      obtain ⟨here, later⟩ := noZeroLength_cons nonzero
      exact ih (bounded_handleByte bounded here) later

/-- How many bytes the decoder is away from `Syncing` at most. -/
def toSync (h : IoHandler) : Nat :=
  match h.state with
  | .syncing => 0
  | .length => 257
  | .data => h.length - h.pos + 1
  | .checksum => 1

theorem toSync_le {h : IoHandler} (bounded : Bounded h) : toSync h ≤ 257 := by
  cases state : h.state with
  | data =>
      have := bounded.length state
      simp only [toSync, state]
      omega
  | _ => simp [toSync, state]

theorem toSync_handleByte {h : IoHandler} {b : UInt8} (bounded : Bounded h)
    (busy : h.state ≠ .syncing) : toSync (handleByte h b).1 < toSync h := by
  cases state : h.state with
  | syncing => exact absurd state busy
  | length =>
      have := b.toNat_lt
      simp only [handleByte, toSync, state]
      omega
  | data =>
      obtain ⟨pos, short, -⟩ := bounded.inv.data state
      by_cases last : h.pos + 1 = h.length
      · simp [handleByte, toSync, state, last]
        omega
      · simp [handleByte, toSync, state, last]
        omega
  | checksum => simp [handleByte, toSync, state]

/-- From any state outside `Syncing` the measure runs down to `Syncing`. -/
theorem syncing_within {h : IoHandler} (bounded : Bounded h) {rest : List UInt8}
    (nonzero : NoZeroLength h rest) (long : toSync h ≤ rest.length) :
    ∃ n ≤ toSync h, (readComplete h (rest.take n)).1.state = .syncing := by
  induction rest generalizing h with
  | nil =>
      refine ⟨0, Nat.zero_le _, ?_⟩
      have done : toSync h = 0 := by simpa using long
      cases state : h.state <;> simp [toSync, state] at done ⊢
  | cons b rest ih =>
      by_cases idle : h.state = .syncing
      · exact ⟨0, Nat.zero_le _, by simpa using idle⟩
      · obtain ⟨here, later⟩ := noZeroLength_cons nonzero
        have less := toSync_handleByte (b := b) bounded idle
        obtain ⟨n, bound, synced⟩ := ih (bounded_handleByte bounded here) later
          (by simp at long; omega)
        exact ⟨n + 1, by omega, by simpa [readComplete_cons] using synced⟩

theorem recovers_of_noZeroLength {h : IoHandler} (fresh : h.Fresh) {stream : List UInt8}
    (nonzero : NoZeroLength h stream) : Recovers h stream := by
  rintro before rest rfl
  have clean : NoZeroLength h before := by
    rintro first last rfl
    exact nonzero first (last ++ rest) (by simp)
  have bounded := bounded_readComplete (bounded_fresh fresh) clean
  refine ⟨bounded.inv, fun _ long => ?_⟩
  obtain ⟨n, bound, synced⟩ := syncing_within bounded (noZeroLength_append nonzero)
    (Nat.le_trans (toSync_le bounded) long)
  refine ⟨n, Nat.le_trans bound (toSync_le bounded), ?_⟩
  rwa [readComplete_append]

theorem noZeroLength_of_recovers {h : IoHandler} {stream : List UInt8}
    (recovers : Recovers h stream) : NoZeroLength h stream := by
  rintro before rest rfl state
  obtain ⟨inv, -⟩ := recovers (before ++ [0]) rest (by simp)
  rw [readComplete_append] at inv
  have short := (inv.data (by simp [readComplete_cons, handleByte, state])).2.1
  simp [readComplete_cons, handleByte, state] at short

/-- A decoder recovers along exactly those streams that announce no payload of length 0. -/
theorem recovers_iff_noZeroLength (h : IoHandler) (fresh : h.Fresh) (stream : List UInt8) :
    Recovers h stream ↔ NoZeroLength h stream :=
  ⟨noZeroLength_of_recovers, recovers_of_noZeroLength fresh⟩

theorem recovers_one_frame : Recovers (start 0 0) ([0x07] ++ frame [0x08, 0x0b]) := by
  refine (recovers_iff_noZeroLength (start 0 0) (start_fresh 0 0) _).mpr ?_
  intro before rest split
  have bytes : (0 : UInt8) ∈ [0x07] ++ frame [0x08, 0x0b] := by rw [split]; simp
  exact absurd bytes (by decide)

/-- In state `Data` with nothing left to count, the equality test never holds again. -/
theorem data_forever {h : IoHandler} (state : h.state = .data) (past : h.length ≤ h.pos)
    (bytes : List UInt8) : (readComplete h bytes).1.state = .data := by
  induction bytes generalizing h with
  | nil => exact state
  | cons b rest ih =>
      have open' : h.pos + 1 ≠ h.length := by omega
      rw [readComplete_cons]
      apply ih
      · simp [handleByte, state, open']
      · simp [handleByte, state]
        omega

/-- The length byte 0: the invariant is broken at once, and no continuation leads back. -/
theorem zeroLength_never_recovers :
    ¬ Recovers (start 0 0) ([0xaa, 0x55, 0x00] ++ List.replicate 257 0x00) ∧
      ∀ bytes, (readComplete (start 0 0) ([0xaa, 0x55, 0x00] ++ bytes)).1.state = .data := by
  refine ⟨fun recovers => ?_, fun bytes => ?_⟩
  · obtain ⟨inv, -⟩ := recovers [0xaa, 0x55, 0x00] _ rfl
    exact absurd (inv.data rfl).2.1 (by decide)
  · rw [readComplete_append]
    exact data_forever rfl (by decide) bytes

end EmsCollector.IoHandler
