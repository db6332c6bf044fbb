import EmsCollector.Framer.Link

/-!
# Which bus frames are forwarded

A bus frame is what arrives between two frame errors. The interrupt keeps the first
`RECV_BUF_SIZE` bytes of it and drops the rest, and at the end of the frame `recv_pos` does not
tell a frame that fills the buffer from a longer one.
-/

namespace EmsCollector.Framer

namespace Link

/-- What has arrived since the last frame error; nothing is known before the first. -/
def receiveByte (frame : Option (List UInt8)) : Event → Option (List UInt8)
  | .uart true _ => some []
  | .uart false data => frame.map (· ++ [data])
  | .main => frame

/-- The bus frame that is being received behind `events`, in its full length. -/
def busFrame (events : List Event) : Option (List UInt8) := events.foldl receiveByte none

/-- The buffer holds the front of the bus frame. -/
structure Buffered (f : Framer) (frame : Option (List UInt8)) : Prop where
  inBounds : f.InBounds
  valid : f.recvValid = frame.isSome
  bytes : ∀ bytes, frame = some bytes → f.received = bytes.take recvBufSize

/-- A longer frame leaves the buffer full. -/
theorem Buffered.full {f : Framer} {frame : Option (List UInt8)} {bytes : List UInt8}
    (buffered : Buffered f frame) (some : frame = some bytes) (long : recvBufSize < bytes.length) :
    f.recvPos = 64 := by
  have length := length_received buffered.inBounds
  rw [buffered.bytes bytes some, List.length_take_of_le (Nat.le_of_lt long)] at length
  exact UInt8.toNat_inj.mp length.symm

theorem start_buffered : Buffered Framer.start none :=
  ⟨start_inBounds, rfl, by intro bytes wrong; cases wrong⟩

theorem storeByte_received {f f' : Framer} {data : UInt8} (h : f.InBounds)
    (stored : f.storeByte data = some f') :
    f'.recvValid = f.recvValid ∧ f'.received = (f.received ++ [data]).take recvBufSize := by
  have size : recvBufSize = 64 := rfl
  have length := length_received h
  unfold storeByte at stored
  by_cases room : f.recvPos < 64
  · have room' : f.recvPos.toNat < 64 := UInt8.lt_iff_toNat_lt.mp room
    have sum : (f.recvPos + 1).toNat = f.recvPos.toNat + 1 := by
      rw [UInt8.toNat_add]
      have : (1 : UInt8).toNat = 1 := rfl
      omega
    rw [if_pos room, dif_pos (by omega)] at stored
    cases stored
    refine ⟨rfl, ?_⟩
    rw [List.take_of_length_le (by simp [length]; omega)]
    simp only [received, sum, Vector.toList_set]
    rw [List.take_add_one, List.take_set_of_le (Nat.le_refl _)]
    simp [room']
  · have full : f.recvPos.toNat = 64 := by
      have recv := h.recv
      have past : ¬ f.recvPos.toNat < 64 := fun less => room (UInt8.lt_iff_toNat_lt.mpr less)
      omega
    rw [if_neg room] at stored
    cases stored
    refine ⟨rfl, ?_⟩
    rw [List.take_append_of_le_length (by omega), List.take_of_length_le (by omega)]

/-- What one character does to the buffer, and what it queues. -/
theorem isrReceive_buffered {f f' : Framer} {queued : Option (List UInt8)}
    {frame : Option (List UInt8)} {frameError : Bool} {data : UInt8} (buffered : Buffered f frame)
    (received : f.isrReceive frameError data = some (f', queued)) :
    Buffered f' (receiveByte frame (.uart frameError data)) ∧
      ∀ q, queued = some q ↔ frameError = true ∧ ∃ bytes, frame = some bytes ∧
        bytes.take recvBufSize = q ++ [calcChecksum q] ∧ 1 ≤ q.length ∧
        f.enoughTxSpace (f.recvPos - 1) = true := by
  obtain ⟨h, valid, bytes⟩ := buffered
  obtain ⟨g, queued', accepted, pushed, -⟩ := isrReceive_pushed h frameError data
  rw [received] at accepted
  obtain ⟨rfl, rfl⟩ := Prod.mk.inj (Option.some.inj accepted)
  have queues := isrReceive_queued h received
  unfold isrReceive receive at received
  cases frame with
  | none =>
      rw [valid] at received queues
      refine ⟨?_, fun q => by rw [queues q]; simp⟩
      cases frameError with
      | false =>
          cases received
          exact ⟨h, valid, by intro bytes wrong; cases wrong⟩
      | true =>
          cases received
          refine ⟨pushed.inBounds, rfl, ?_⟩
          rintro bytes ⟨⟩
          rfl
  | some frame =>
      rw [valid] at received queues
      refine ⟨?_, fun q => by rw [queues q, bytes frame rfl]; simp⟩
      cases frameError with
      | false =>
          obtain ⟨stored, done, received⟩ := Option.bind_eq_some_iff.mp received
          obtain ⟨stored, kept, rfl⟩ := Option.map_eq_some_iff.mp done
          cases received
          obtain ⟨still, longer⟩ := storeByte_received h kept
          refine ⟨pushed.inBounds, still.trans valid, ?_⟩
          rintro bytes' ⟨⟩
          rw [longer, bytes frame rfl]
          by_cases short : frame.length ≤ recvBufSize
          · rw [List.take_of_length_le short]
          · have long : (frame.take recvBufSize).length = recvBufSize := by simp; omega
            rw [List.take_append_of_le_length (by omega), List.take_append_of_le_length (by omega),
              List.take_take, Nat.min_self]
      | true =>
          obtain ⟨⟨ended, queued'⟩, -, received⟩ := Option.bind_eq_some_iff.mp received
          cases received
          refine ⟨pushed.inBounds, rfl, ?_⟩
          rintro bytes' ⟨⟩
          rfl

/-- One event: the buffer keeps holding the front of the bus frame, and what is queued is the
    payload of a checked front, at a frame error and with room in the ring. -/
theorem step_buffered {s s' : Link} {frame : Option (List UInt8)} {event : Event}
    (buffered : Buffered s.framer frame) (inv : s.Inv) (stepped : s.step event = some s') :
    Buffered s'.framer (receiveByte frame event) ∧
      ∀ q, s'.accepted = s.accepted ++ [q] ↔ (∃ data, event = .uart true data) ∧
        ∃ bytes, frame = some bytes ∧ bytes.take recvBufSize = q ++ [calcChecksum q] ∧
          1 ≤ q.length ∧ s.framer.enoughTxSpace (s.framer.recvPos - 1) = true := by
  cases event with
  | uart frameError data =>
      obtain ⟨⟨f', queued⟩, received, rest⟩ := Option.bind_eq_some_iff.mp stepped
      cases rest
      obtain ⟨buffered', forwarded⟩ := isrReceive_buffered buffered received
      refine ⟨buffered', fun q => ?_⟩
      have appended : s.accepted ++ queued.toList = s.accepted ++ [q] ↔ queued = some q := by
        cases queued <;> simp
      rw [appended, forwarded q]
      simp
  | main =>
      obtain ⟨⟨f', pc', byte⟩, moved, rest⟩ := Option.bind_eq_some_iff.mp stepped
      cases rest
      have kept : f'.recvBuffer = s.framer.recvBuffer ∧ f'.recvPos = s.framer.recvPos ∧
          f'.recvValid = s.framer.recvValid := by
        cases pc : s.pc with
        | test =>
            rw [pc] at moved
            cases moved
            exact ⟨rfl, rfl, rfl⟩
        | write =>
            rw [pc] at moved
            obtain ⟨byte, -, same⟩ := Option.bind_eq_some_iff.mp moved
            cases same
            exact ⟨rfl, rfl, rfl⟩
        | advance =>
            rw [pc] at moved
            cases moved
            exact ⟨rfl, rfl, rfl⟩
      obtain ⟨after, again, inv'⟩ := step_inv inv .main
      rw [stepped] at again
      obtain rfl := Option.some.inj again
      refine ⟨⟨inv'.inBounds, kept.2.2.trans buffered.valid, ?_⟩, by simp⟩
      intro bytes same
      rw [← buffered.bytes bytes same]
      simp only [received, kept]

/-- In every run the buffer holds the front of the bus frame. -/
theorem run_buffered (events : List Event) :
    ∃ s, start.run events = some s ∧ s.Inv ∧ Buffered s.framer (busFrame events) := by
  induction events using List.reverseRecOn with
  | nil => exact ⟨start, rfl, start_inv, start_buffered⟩
  | append_singleton events event ih =>
      obtain ⟨s, reached, inv, buffered⟩ := ih
      obtain ⟨s', stepped, inv'⟩ := step_inv inv event
      refine ⟨s', ?_, inv', ?_⟩
      · unfold run at reached ⊢
        rw [List.foldlM_append, reached]
        simpa using stepped
      · have next := (step_buffered buffered inv stepped).1
        simpa [busFrame] using next

/-- No access leaves the buffers, and whenever a payload is queued, the event is a frame error
    and the data bytes since the frame error before it are the payload and its checksum. -/
def ForwardsChecked (events : List Event) : Prop :=
  (start.run events).isSome ∧
    ∀ before event after s s' q, events = before ++ event :: after →
      start.run before = some s → s.step event = some s' → s'.accepted = s.accepted ++ [q] →
      (∃ data, event = .uart true data) ∧ busFrame before = some (q ++ [calcChecksum q]) ∧
        1 ≤ q.length

/-- When a bus frame ends that is longer than the buffer, the byte at the end of the buffer is
    not the checksum of the bytes before it, or the ring has no room for them. -/
def OverrunsFail (events : List Event) : Prop :=
  ∀ before data after s bytes, events = before ++ .uart true data :: after →
    start.run before = some s → busFrame before = some bytes → recvBufSize < bytes.length →
    bytes[recvBufSize - 1]? = some (calcChecksum (bytes.take (recvBufSize - 1))) →
    s.framer.enoughTxSpace 63 = false

/-- The framer forwards complete, checked frames only along exactly those runs in which no
    frame longer than the buffer has a front that passes the check. -/
theorem forwardsChecked_iff (events : List Event) :
    ForwardsChecked events ↔ OverrunsFail events := by
  have size : recvBufSize = 64 := rfl
  constructor
  · rintro ⟨-, checked⟩ before data after s bytes split run frame long sum
    by_contra room
    obtain ⟨s₀, run₀, inv, buffered⟩ := run_buffered before
    obtain rfl : s₀ = s := Option.some.inj (run₀.symm.trans run)
    obtain ⟨s', stepped, -⟩ := step_inv inv (.uart true data)
    have front : bytes.take recvBufSize =
        bytes.take (recvBufSize - 1) ++ [calcChecksum (bytes.take (recvBufSize - 1))] := by
      rw [show recvBufSize = recvBufSize - 1 + 1 from rfl, List.take_add_one]
      simp only [Nat.add_sub_cancel, sum, Option.toList_some]
    have full := buffered.full frame long
    have queued := (step_buffered buffered inv stepped).2 (bytes.take (recvBufSize - 1))
    have accepted := queued.mpr ⟨⟨data, rfl⟩, bytes, frame, front, by simp; omega, by
      rw [full]
      simpa using room⟩
    obtain ⟨-, whole, -⟩ := checked before _ after s₀ s' _ split run stepped accepted
    rw [frame, ← front] at whole
    have shorter := congrArg List.length (Option.some.inj whole)
    rw [List.length_take_of_le (Nat.le_of_lt long)] at shorter
    omega
  · intro fails
    obtain ⟨s, run, -⟩ := run_buffered events
    refine ⟨by rw [run]; rfl, ?_⟩
    intro before event after s s' q split run stepped accepted
    obtain ⟨s₀, run₀, inv, buffered⟩ := run_buffered before
    obtain rfl : s₀ = s := Option.some.inj (run₀.symm.trans run)
    obtain ⟨⟨data, rfl⟩, bytes, frame, front, nonempty, room⟩ :=
      ((step_buffered buffered inv stepped).2 q).mp accepted
    refine ⟨⟨data, rfl⟩, ?_, nonempty⟩
    by_cases short : bytes.length ≤ recvBufSize
    · rw [frame, ← front, List.take_of_length_le short]
    · have long := Nat.not_le.mp short
      have length := congrArg List.length front
      rw [List.length_take_of_le (Nat.le_of_lt long), List.length_append,
        List.length_singleton] at length
      have last : q.length = recvBufSize - 1 := by omega
      have payload : bytes.take (recvBufSize - 1) = q := calc
        bytes.take (recvBufSize - 1) = (bytes.take recvBufSize).take (recvBufSize - 1) := by
          rw [List.take_take]
          rfl
        _ = q := by rw [front, ← last, List.take_left]
      have sum : bytes[recvBufSize - 1]? = some (calcChecksum (bytes.take (recvBufSize - 1))) := by
        rw [payload, ← List.getElem?_take_of_lt (show recvBufSize - 1 < recvBufSize by omega), front,
          ← last, List.getElem?_concat_length]
      have full := buffered.full frame long
      have none := fails before data after s₀ bytes split run frame long sum
      rw [full] at room
      rw [show (63 : UInt8) = 64 - 1 from rfl, room] at none
      cases none

/-- A frame error, 65 bytes and a frame error. -/
def overrun : List Event :=
  .uart true 0x00 :: List.replicate 65 (.uart false 0x00)

/-- The first 64 of 65 zero bytes pass the check, and 63 of them are forwarded. -/
theorem overrun_forwarded : ¬ ForwardsChecked (overrun ++ [.uart true 0x00]) := by
  rintro ⟨-, checked⟩
  let s := (start.run overrun).get (by decide +kernel)
  let s' := (s.step (.uart true 0x00)).get (by decide +kernel)
  have run : start.run overrun = some s := (Option.some_get _).symm
  have stepped : s.step (.uart true 0x00) = some s' := (Option.some_get _).symm
  have accepted : s'.accepted = s.accepted ++ [List.replicate 63 0x00] := by decide +kernel
  obtain ⟨-, frame, -⟩ := checked overrun _ [] s s' _ rfl run stepped accepted
  exact absurd frame (by decide +kernel)

end Link

end EmsCollector.Framer
