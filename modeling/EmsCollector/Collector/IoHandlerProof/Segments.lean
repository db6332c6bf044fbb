import EmsCollector.Collector.IoHandlerProof.Resync

/-!
# The segments behind the delivered payloads

The decoder keeps no byte of the header or of the length, only what follows from them:
`m_state`, `m_pos`, `m_length` and `m_checkSum`. `Open` reads these members back as the frame
that is being received, and the invariant is that this frame ends the stream seen so far.
-/

namespace EmsCollector.IoHandler

/-- `payloads` are the payloads of complete frames in `stream`: the stream is cut into the
    frames, in order, with noise before each of them and `tail` behind the last. -/
def Segmented (stream : List UInt8) (payloads : List (List UInt8)) (tail : List UInt8) : Prop :=
  ∃ pairs, stream = noisyStream pairs ++ tail ∧ payloads = pairs.map Prod.snd ∧
    ∀ pair ∈ pairs, 1 ≤ pair.2.length ∧ pair.2.length ≤ 255

/-- The members stand for the unfinished frame `part`. A frame of length 0 is never finished:
    `m_pos` is counted up before it is compared with `m_length`. -/
inductive Open : IoHandler → List UInt8 → Prop where
  | idle (h : IoHandler) (state : h.state = .syncing) (data : h.data = []) (pos : h.pos ≠ 1) :
      Open h []
  | sync (h : IoHandler) (state : h.state = .syncing) (data : h.data = []) (pos : h.pos = 1) :
      Open h [0xaa]
  | length (h : IoHandler) (state : h.state = .length) (data : h.data = []) :
      Open h [0xaa, 0x55]
  | data (n : UInt8) (got : List UInt8) (short : got.length < n.toNat ∨ n = 0) :
      Open (dataState n.toNat got) ([0xaa, 0x55, n] ++ got)
  | checksum (payload : List UInt8) (nonempty : 1 ≤ payload.length)
      (short : payload.length ≤ 255) :
      Open (checksumState payload) ([0xaa, 0x55, UInt8.ofNat payload.length] ++ payload)

theorem open_fresh {h : IoHandler} (fresh : h.Fresh) : Open h [] := by
  obtain ⟨state, pos, data⟩ := fresh
  exact .idle h state data (by simp [pos])

theorem segmented_nil (tail : List UInt8) : Segmented tail [] tail :=
  ⟨[], rfl, rfl, by simp⟩

/-- Bytes of the tail may be counted as noise. -/
theorem segmented_snoc {stream tail : List UInt8} {payloads : List (List UInt8)}
    (segmented : Segmented stream payloads tail) (b : UInt8) :
    Segmented (stream ++ [b]) payloads (tail ++ [b]) := by
  obtain ⟨pairs, rfl, rfl, sizes⟩ := segmented
  exact ⟨pairs, by simp, rfl, sizes⟩

/-- A complete frame at the end of the tail is one more segment. -/
theorem segmented_frame {stream noise p : List UInt8} {payloads : List (List UInt8)}
    (segmented : Segmented stream payloads (noise ++ frame p)) (nonempty : 1 ≤ p.length)
    (short : p.length ≤ 255) : Segmented stream (payloads ++ [p]) [] := by
  obtain ⟨pairs, rfl, rfl, sizes⟩ := segmented
  refine ⟨pairs ++ [(noise, p)], by simp [noisyStream], by simp, ?_⟩
  intro pair member
  rcases List.mem_append.mp member with old | new
  · exact sizes pair old
  · obtain rfl : pair = (noise, p) := by simpa using new
    exact ⟨nonempty, short⟩

/-- What one byte does to the frame that is being received: it ends no frame and the frame
    that is open behind it ends in it, or it completes the frame that is delivered. -/
theorem open_handleByte {h : IoHandler} {part : List UInt8} (opened : Open h part) (b : UInt8) :
    ((handleByte h b).2 = none ∧
        ∃ part', Open (handleByte h b).1 part' ∧ part' <:+ part ++ [b]) ∨
      ∃ p, (handleByte h b).2 = some p ∧ Open (handleByte h b).1 [] ∧ part ++ [b] = frame p ∧
        1 ≤ p.length ∧ p.length ≤ 255 := by
  cases opened with
  | idle _ state data pos =>
      refine .inl ?_
      by_cases first : h.pos = 0 ∧ b = 0xaa
      · obtain ⟨zero, rfl⟩ := first
        refine ⟨by simp [handleByte, state, zero], [0xaa], ?_, List.suffix_rfl⟩
        exact .sync _ (by simp [handleByte, state, zero]) (by simp [handleByte, state, zero, data])
          (by simp [handleByte, state, zero])
      · refine ⟨by simp [handleByte, state, first, pos], [], ?_, List.nil_suffix⟩
        exact .idle _ (by simp [handleByte, state, first, pos])
          (by simp [handleByte, state, first, pos, data])
          (by simp [handleByte, state, first, pos])
  | sync _ state data pos =>
      refine .inl ?_
      by_cases second : b = 0x55
      · subst second
        refine ⟨by simp [handleByte, state, pos], [0xaa, 0x55], ?_, List.suffix_rfl⟩
        exact .length _ (by simp [handleByte, state, pos]) (by simp [handleByte, state, pos, data])
      · refine ⟨by simp [handleByte, state, pos, second], [], ?_, List.nil_suffix⟩
        exact .idle _ (by simp [handleByte, state, pos, second])
          (by simp [handleByte, state, pos, second, data])
          (by simp [handleByte, state, pos, second])
  | length _ state data =>
      refine .inl ⟨by simp [handleByte, state], [0xaa, 0x55, b], ?_, List.suffix_rfl⟩
      have started : (handleByte h b).1 = dataState b.toNat [] := by
        simp [handleByte, state, data, dataState]
      rw [started]
      refine .data b [] ?_
      by_cases zero : b = 0
      · exact .inr zero
      · refine .inl (Nat.pos_of_ne_zero fun none => zero ?_)
        exact UInt8.toNat_inj.mp none
  | data n got short =>
      refine .inl ?_
      rw [handleByte_dataState]
      refine ⟨rfl, [0xaa, 0x55, n] ++ (got ++ [b]), ?_, by simp⟩
      by_cases last : got.length + 1 = n.toNat
      · have size : n = UInt8.ofNat (got ++ [b]).length := by simp [last]
        have := n.toNat_lt
        rw [if_pos last, size]
        exact .checksum _ (by simp) (by simp; omega)
      · rw [if_neg last]
        refine .data n _ (short.imp_left fun less => ?_)
        simp
        omega
  | checksum payload nonempty short =>
      by_cases sum : checkSumOf payload = b
      · refine .inr ⟨payload, by simp [handleByte, checksumState, sum], ?_, ?_, nonempty, short⟩
        · exact open_fresh ⟨rfl, rfl, rfl⟩
        · simp [frame, sum]
      · refine .inl ⟨by simp [handleByte, checksumState, sum], [], ?_, List.nil_suffix⟩
        exact open_fresh ⟨rfl, rfl, rfl⟩

/-- The frame that is being received ends the stream, behind the segments delivered so far. -/
def Tracks (h : IoHandler) (stream : List UInt8) (payloads : List (List UInt8)) : Prop :=
  ∃ noise part, Open h part ∧ Segmented stream payloads (noise ++ part)

theorem tracks_handleByte {h : IoHandler} {stream : List UInt8} {payloads : List (List UInt8)}
    (tracks : Tracks h stream payloads) (b : UInt8) :
    Tracks (handleByte h b).1 (stream ++ [b]) (payloads ++ (handleByte h b).2.toList) := by
  obtain ⟨noise, part, opened, segmented⟩ := tracks
  have extended := segmented_snoc segmented b
  rw [List.append_assoc] at extended
  rcases open_handleByte opened b with ⟨quiet, part', opened', suffix⟩ |
      ⟨p, delivered, opened', complete, nonempty, short⟩
  · obtain ⟨dropped, split⟩ := suffix
    rw [← split, ← List.append_assoc] at extended
    rw [quiet]
    exact ⟨noise ++ dropped, part', opened', by simpa using extended⟩
  · rw [complete] at extended
    rw [delivered]
    exact ⟨[], [], opened', segmented_frame extended nonempty short⟩

/-- Every run of the decoder keeps track of the stream behind it. -/
theorem tracks_readComplete {h : IoHandler} {stream : List UInt8} {payloads : List (List UInt8)}
    (tracks : Tracks h stream payloads) (bytes : List UInt8) :
    Tracks (readComplete h bytes).1 (stream ++ bytes)
      (payloads ++ (readComplete h bytes).2) := by
  induction bytes generalizing h stream payloads with
  | nil => simpa using tracks
  | cons b rest ih =>
      have next := ih (tracks_handleByte tracks b)
      simpa [readComplete_cons] using next

/-- Whatever the stream and its split into reads, the delivered payloads are those of disjoint
    complete frames of the stream in their order, and another split delivers the same. -/
theorem delivered_segments (h : IoHandler) (fresh : h.Fresh) (reads : List (List UInt8)) :
    (∃ tail, Segmented reads.flatten (readAll h reads).2 tail) ∧
      ∀ reads' : List (List UInt8), reads'.flatten = reads.flatten →
        (readAll h reads').2 = (readAll h reads).2 := by
  constructor
  · have start : Tracks h [] [] := ⟨[], [], open_fresh fresh, segmented_nil []⟩
    obtain ⟨noise, part, -, segmented⟩ := tracks_readComplete start reads.flatten
    rw [readAll_eq_readComplete]
    exact ⟨noise ++ part, by simpa using segmented⟩
  · intro reads' same
    rw [readAll_eq_readComplete, readAll_eq_readComplete, same]

theorem delivered_segments_two :
    (∃ tail, Segmented [0x07, 0xaa, 0x55, 0x01, 0xaa, 0xaa, 0xaa]
        (readAll (start 0 0) [[0x07, 0xaa, 0x55, 0x01], [0xaa, 0xaa, 0xaa]]).2 tail) ∧
      ∀ reads' : List (List UInt8),
        reads'.flatten = [0x07, 0xaa, 0x55, 0x01, 0xaa, 0xaa, 0xaa] →
        (readAll (start 0 0) reads').2 =
          (readAll (start 0 0) [[0x07, 0xaa, 0x55, 0x01], [0xaa, 0xaa, 0xaa]]).2 :=
  delivered_segments (start 0 0) (start_fresh 0 0) [[0x07, 0xaa, 0x55, 0x01], [0xaa, 0xaa, 0xaa]]

end EmsCollector.IoHandler
