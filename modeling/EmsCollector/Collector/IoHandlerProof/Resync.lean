import EmsCollector.Collector.IoHandler
import Mathlib

/-!
# Resynchronisation on a noisy line

In state `Syncing` the decoder holds one bit, `m_pos`, and a second `AA` clears it again. A run
of `AA` bytes before the header therefore leaves it set or clear by the parity of the run, and
behind an odd run the header itself is missed.
-/

namespace EmsCollector.IoHandler

/-- In `noise` followed by the header `AA 55`, the first adjacent pair `AA 55` is the header. -/
def HeaderFirst (noise : List UInt8) : Prop :=
  ∀ i, (noise ++ [0xaa, 0x55])[i]? = some 0xaa → (noise ++ [0xaa, 0x55])[i + 1]? = some 0x55 →
    noise.length ≤ i

/-- The length of the run of `AA` bytes that ends `noise`. -/
def trailingSync (noise : List UInt8) : Nat := (noise.reverse.takeWhile (· == 0xaa)).length

/-- The bytes on the line: every frame behind the noise that precedes it. -/
def noisyStream (pairs : List (List UInt8 × List UInt8)) : List UInt8 :=
  pairs.flatMap (fun pair => pair.1 ++ frame pair.2)

/-- The pairs the resynchronisation law speaks of. -/
def Admissible (pair : List UInt8 × List UInt8) : Prop :=
  HeaderFirst pair.1 ∧ 1 ≤ pair.2.length ∧ pair.2.length ≤ 255

/-- Every payload is delivered by the time its frame is complete, in order and alone, however
    the stream falls into reads. -/
def Resynchronises (h : IoHandler) (pairs : List (List UInt8 × List UInt8)) : Prop :=
  ∀ k ≤ pairs.length, ∀ reads : List (List UInt8), reads.flatten = noisyStream (pairs.take k) →
    (readAll h reads).2 = (pairs.take k).map Prod.snd

theorem headerFirst_pair {noise : List UInt8} (first : HeaderFirst noise) {i : Nat}
    (sync : noise[i]? = some 0xaa) : noise[i + 1]? ≠ some 0x55 := by
  intro next
  have inside : i + 1 < noise.length := by
    by_contra outside
    rw [List.getElem?_eq_none (by omega)] at next
    cases next
  have := first i (by rw [List.getElem?_append_left (by omega), sync])
    (by rw [List.getElem?_append_left inside, next])
  omega

theorem headerFirst_init {noise : List UInt8} {b : UInt8} (first : HeaderFirst (noise ++ [b])) :
    HeaderFirst noise := by
  intro i sync next
  by_contra inside
  by_cases last : i + 1 < noise.length
  · refine headerFirst_pair first (i := i) ?_ ?_
    · rwa [List.getElem?_append_left (by omega), ← List.getElem?_append_left (by omega)]
    · rwa [List.getElem?_append_left (by omega), ← List.getElem?_append_left (by omega)]
  · have : i + 1 = noise.length := by omega
    simp [this] at next

@[simp] theorem trailingSync_nil : trailingSync [] = 0 := rfl

theorem trailingSync_append (noise : List UInt8) (b : UInt8) :
    trailingSync (noise ++ [b]) = if b = 0xaa then trailingSync noise + 1 else 0 := by
  by_cases sync : b = 0xaa <;> simp [trailingSync, sync]

theorem last_of_trailingSync {noise : List UInt8} (run : 0 < trailingSync noise) :
    noise[noise.length - 1]? = some 0xaa := by
  induction noise using List.reverseRecOn with
  | nil => simp at run
  | append_singleton noise b _ =>
      by_cases sync : b = 0xaa
      · simp [sync]
      · simp [trailingSync_append, sync] at run

/-- Noise without a header delivers nothing and leaves in `m_pos` the parity of its last run. -/
theorem readComplete_noise (h : IoHandler) (fresh : h.Fresh) (noise : List UInt8)
    (first : HeaderFirst noise) :
    (readComplete h noise).2 = [] ∧ (readComplete h noise).1.state = .syncing ∧
      (readComplete h noise).1.data = [] ∧
      (readComplete h noise).1.pos = trailingSync noise % 2 := by
  induction noise using List.reverseRecOn with
  | nil => exact ⟨rfl, fresh.1, fresh.2.2, fresh.2.1⟩
  | append_singleton noise b ih =>
      obtain ⟨quiet, state, data, pos⟩ := ih (headerFirst_init first)
      rw [readComplete_append, trailingSync_append]
      generalize (readComplete h noise).1 = h' at state data pos
      by_cases sync : b = 0xaa
      · rcases Nat.mod_two_eq_zero_or_one (trailingSync noise) with even | odd
        · simp [readComplete_cons, handleByte, quiet, state, data, pos, sync, even]
          omega
        · simp [readComplete_cons, handleByte, quiet, state, data, pos, sync, odd]
          omega
      · have noHeader : ¬ (h'.pos = 1 ∧ b = 0x55) := by
          rintro ⟨atOne, second⟩
          have run : 0 < trailingSync noise := by omega
          have long : noise ≠ [] := by
            rintro rfl
            simp at run
          have := List.length_pos_iff.mpr long
          refine headerFirst_pair first (i := noise.length - 1) ?_ ?_
          · rw [List.getElem?_append_left (by omega)]
            exact last_of_trailingSync run
          · rw [show noise.length - 1 + 1 = noise.length by omega]
            simp [second]
        simp [readComplete_cons, handleByte, quiet, state, data, sync, noHeader]

/-- The bytes of an unfinished frame that the decoder has behind it. -/
def consumed (h : IoHandler) : Nat :=
  match h.state with
  | .syncing => h.pos + h.data.length
  | .length => 2 + h.data.length
  | .data | .checksum => 3 + h.data.length

theorem consumed_handleByte (h : IoHandler) (b : UInt8) :
    consumed (handleByte h b).1 ≤ consumed h + 1 := by
  cases state : h.state with
  | syncing =>
      by_cases first : h.pos = 0 ∧ b = 0xaa
      · simp [handleByte, consumed, state, first]
        omega
      · by_cases second : h.pos = 1 ∧ b = 0x55
        · simp [handleByte, consumed, state, second]
          omega
        · simp only [handleByte, consumed, state, first, second, if_false]
          omega
  | length =>
      simp only [handleByte, consumed, state]
      omega
  | data =>
      by_cases last : h.pos + 1 = h.length <;>
        simp [handleByte, consumed, state, last] <;> omega
  | checksum => simp [handleByte, consumed, state]

theorem handleByte_payload_length {h : IoHandler} {b : UInt8} {p : List UInt8}
    (delivered : (handleByte h b).2 = some p) : p.length + 4 = consumed h + 1 := by
  cases state : h.state with
  | syncing =>
      simp only [handleByte, state] at delivered
      split_ifs at delivered
  | length => simp [handleByte, state] at delivered
  | data => simp [handleByte, state] at delivered
  | checksum =>
      simp only [handleByte, state, Option.ite_none_right_eq_some, Option.some.injEq] at delivered
      rw [← delivered.2]
      simp only [consumed, state]
      omega

/-- A delivered payload has the four bytes of its frame around it. -/
theorem readComplete_payload_length (h : IoHandler) (bytes : List UInt8) :
    ∀ p ∈ (readComplete h bytes).2, p.length + 4 ≤ consumed h + bytes.length := by
  induction bytes generalizing h with
  | nil => simp
  | cons b rest ih =>
      intro p member
      rw [readComplete_cons] at member
      rcases List.mem_append.mp member with now | later
      · have := handleByte_payload_length (Option.mem_toList.mp now)
        simp only [List.length_cons]
        omega
      · have := ih _ p later
        have := consumed_handleByte h b
        simp only [List.length_cons]
        omega

/-- Behind an even run the frame is delivered. -/
theorem readComplete_noisy_frame (h : IoHandler) (fresh : h.Fresh)
    (pair : List UInt8 × List UInt8) (admissible : Admissible pair)
    (even : trailingSync pair.1 % 2 = 0) :
    (readComplete h (pair.1 ++ frame pair.2)).1.Fresh ∧
      (readComplete h (pair.1 ++ frame pair.2)).2 = [pair.2] := by
  obtain ⟨quiet, state, data, pos⟩ := readComplete_noise h fresh pair.1 admissible.1
  have fresh' : (readComplete h pair.1).1.Fresh := ⟨state, pos.trans even, data⟩
  have delivered := readComplete_frame _ fresh' pair.2 admissible.2.1 admissible.2.2
  rw [readComplete_append, quiet]
  exact ⟨delivered.1, by simpa using delivered.2⟩

/-- Behind an odd run the header is missed, and what is left of the frame is too short to
    hold its payload. -/
theorem readComplete_missed_frame (h : IoHandler) (fresh : h.Fresh)
    (pair : List UInt8 × List UInt8) (admissible : Admissible pair)
    (odd : trailingSync pair.1 % 2 = 1) :
    (readComplete h (pair.1 ++ frame pair.2)).2 ≠ [pair.2] := by
  intro delivered
  obtain ⟨quiet, state, data, pos⟩ := readComplete_noise h fresh pair.1 admissible.1
  have split : frame pair.2 = [0xaa, 0x55] ++
      (UInt8.ofNat pair.2.length :: pair.2 ++ [checkSumOf pair.2]) := by simp [frame]
  have missed : readComplete (readComplete h pair.1).1 [0xaa, 0x55] =
      ({ (readComplete h pair.1).1 with pos := 0 }, []) := by
    simp [readComplete_cons, handleByte, state, pos, odd]
  rw [readComplete_append, quiet, split, readComplete_append, missed] at delivered
  have member : pair.2 ∈ (readComplete { (readComplete h pair.1).1 with pos := 0 }
      (UInt8.ofNat pair.2.length :: pair.2 ++ [checkSumOf pair.2])).2 := by
    simp only [List.nil_append] at delivered
    rw [delivered]
    exact List.mem_singleton_self _
  have short := readComplete_payload_length _ _ _ member
  simp only [consumed, state, data, List.cons_append, List.length_nil, List.length_cons,
    List.length_append] at short
  omega

theorem readComplete_noisyStream (h : IoHandler) (fresh : h.Fresh)
    (pairs : List (List UInt8 × List UInt8)) (admissible : ∀ pair ∈ pairs, Admissible pair)
    (even : ∀ pair ∈ pairs, trailingSync pair.1 % 2 = 0) :
    (readComplete h (noisyStream pairs)).1.Fresh ∧
      (readComplete h (noisyStream pairs)).2 = pairs.map Prod.snd := by
  induction pairs generalizing h with
  | nil => exact ⟨fresh, rfl⟩
  | cons pair pairs ih =>
      obtain ⟨fresh', first⟩ := readComplete_noisy_frame h fresh pair
        (admissible pair (by simp)) (even pair (by simp))
      obtain ⟨last, rest⟩ := ih _ fresh' (fun p hp => admissible p (by simp [hp]))
        (fun p hp => even p (by simp [hp]))
      rw [noisyStream, List.flatMap_cons, readComplete_append, first]
      exact ⟨last, by rw [List.map_cons, ← rest]; rfl⟩

theorem resynchronises_init {h : IoHandler} {pairs : List (List UInt8 × List UInt8)}
    {pair : List UInt8 × List UInt8} (all : Resynchronises h (pairs ++ [pair])) :
    Resynchronises h pairs := by
  intro k bound reads split
  have := all k (by simp; omega) reads
  rw [List.take_append_of_le_length bound] at this
  exact this split

theorem even_of_resynchronises (h : IoHandler) (fresh : h.Fresh)
    (pairs : List (List UInt8 × List UInt8)) (admissible : ∀ pair ∈ pairs, Admissible pair)
    (all : Resynchronises h pairs) : ∀ pair ∈ pairs, trailingSync pair.1 % 2 = 0 := by
  induction pairs using List.reverseRecOn with
  | nil => simp
  | append_singleton pairs pair ih =>
      have before : ∀ p ∈ pairs, Admissible p := fun p hp => admissible p (by simp [hp])
      have even := ih before (resynchronises_init all)
      obtain ⟨fresh', first⟩ := readComplete_noisyStream h fresh pairs before even
      intro p member
      rcases List.mem_append.mp member with old | new
      · exact even p old
      · obtain rfl : p = pair := by simpa using new
        have whole := all (pairs ++ [p]).length (Nat.le_refl _) [noisyStream (pairs ++ [p])]
          (by rw [List.take_length]; simp)
        rw [readAll_eq_readComplete] at whole
        simp only [List.flatten_cons, List.flatten_nil, List.append_nil, List.take_length,
          noisyStream, List.flatMap_append, List.flatMap_cons, List.flatMap_nil,
          readComplete_append, List.map_append, List.map_cons, List.map_nil] at whole
        change (readComplete h (noisyStream pairs)).2 ++ _ = _ at whole
        rw [first] at whole
        have last : (readComplete (readComplete h (noisyStream pairs)).1
            (p.1 ++ frame p.2)).2 = [p.2] := by
          rw [readComplete_append]
          exact List.append_cancel_left whole
        rcases Nat.mod_two_eq_zero_or_one (trailingSync p.1) with even | odd
        · exact even
        · exact absurd last (readComplete_missed_frame _ fresh' p (admissible p (by simp)) odd)

/-- The frames are recovered one by one exactly when every noise ends in an even number of
    `AA` bytes. -/
theorem resynchronises_iff (h : IoHandler) (fresh : h.Fresh)
    (pairs : List (List UInt8 × List UInt8)) (admissible : ∀ pair ∈ pairs, Admissible pair) :
    Resynchronises h pairs ↔ ∀ pair ∈ pairs, trailingSync pair.1 % 2 = 0 := by
  refine ⟨even_of_resynchronises h fresh pairs admissible, ?_⟩
  intro even k _ reads split
  rw [readAll_eq_readComplete, split]
  exact (readComplete_noisyStream h fresh (pairs.take k)
    (fun p hp => admissible p (List.mem_of_mem_take hp))
    (fun p hp => even p (List.mem_of_mem_take hp))).2

theorem resynchronises_two : Admissible ([0x12, 0xaa, 0xaa], [0x08, 0x0b]) ∧
    Resynchronises (start 0 0) [([0x12, 0xaa, 0xaa], [0x08, 0x0b])] := by
  have admissible : Admissible ([0x12, 0xaa, 0xaa], [0x08, 0x0b]) := by
    refine ⟨fun i sync next => ?_, by decide, by decide⟩
    rcases i with _ | _ | _ | i <;> simp at sync next ⊢
  exact ⟨admissible, (resynchronises_iff (start 0 0) (start_fresh 0 0) _
    (by simpa using admissible)).mpr (by decide)⟩

/-- One stray `AA` before the header: the frame is lost. -/
theorem header_missed_behind_sync : Admissible ([0xaa], [0x01]) ∧
    (readAll (start 0 0) [noisyStream [([0xaa], [0x01])]]).2 ≠ [[0x01]] := by
  refine ⟨⟨fun i sync next => ?_, by decide, by decide⟩, by decide⟩
  rcases i with _ | i <;> simp at sync next ⊢

end EmsCollector.IoHandler
