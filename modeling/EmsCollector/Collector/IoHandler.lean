import EmsCollector.Misc.Run

/-!
# The frame decoder

`IoHandler::readComplete` (`collector/IoHandler.cpp:42-111`) feeds every received byte to a
four-state machine. A frame on the serial line is `AA 55`, a length byte, that many payload
bytes and the xor of the payload; `SendingSerialHandler::sendMessageImpl`
(`collector/SendingSerialHandler.cpp:31-61`) writes the same frame in the other direction.
-/

namespace EmsCollector

/-- `IoHandler::State` (`collector/IoHandler.h:67-72`). -/
inductive IoHandler.State where
  | syncing
  | length
  | data
  | checksum
  deriving DecidableEq, Repr

/-- The decoder's members (`collector/IoHandler.h:74-77`). `m_pos` and `m_length` are `size_t`;
    `m_pos` never exceeds the number of stored bytes, so it does not wrap. -/
structure IoHandler where
  state : IoHandler.State
  pos : Nat
  length : Nat
  checkSum : UInt8
  data : List UInt8
  deriving DecidableEq, Repr

namespace IoHandler

/-- What the constructor establishes (`collector/IoHandler.cpp:27-40`); `m_length` and
    `m_checkSum` are left uninitialised. -/
def Fresh (h : IoHandler) : Prop :=
  h.state = .syncing ∧ h.pos = 0 ∧ h.data = []

/-- A constructed decoder with given garbage in the uninitialised members. -/
def start (length : Nat) (checkSum : UInt8) : IoHandler :=
  { state := .syncing, pos := 0, length := length, checkSum := checkSum, data := [] }

theorem start_fresh (length : Nat) (checkSum : UInt8) : (start length checkSum).Fresh :=
  ⟨rfl, rfl, rfl⟩

/-- One turn of the loop in `readComplete` (`collector/IoHandler.cpp:64-108`). The second
    component is the payload from which an `EmsMessage` is built, if the byte completes one. -/
def handleByte (h : IoHandler) (dataByte : UInt8) : IoHandler × Option (List UInt8) :=
  match h.state with
  | .syncing =>
      if h.pos = 0 ∧ dataByte = 0xaa then
        ({ h with pos := 1 }, none)
      else if h.pos = 1 ∧ dataByte = 0x55 then
        ({ h with state := .length, pos := 0 }, none)
      else
        ({ h with pos := 0 }, none)
  | .length =>
      ({ h with state := .data, pos := 0, length := dataByte.toNat, checkSum := 0 }, none)
  | .data =>
      let pos := h.pos + 1
      ({ h with
          data := h.data ++ [dataByte]
          checkSum := h.checkSum ^^^ dataByte
          pos := pos
          state := if pos = h.length then .checksum else .data }, none)
  | .checksum =>
      ({ h with data := [], state := .syncing, pos := 0 },
        if h.checkSum = dataByte then some h.data else none)

/-- `readComplete` without an error: the loop over `m_recvBuffer[0 .. bytesTransferred)`. -/
def readComplete (h : IoHandler) : List UInt8 → IoHandler × List (List UInt8)
  | [] => (h, [])
  | dataByte :: rest =>
      let (h', payload) := handleByte h dataByte
      let (h'', payloads) := readComplete h' rest
      (h'', payload.toList ++ payloads)

/-- One completed read after the other. -/
def readAll (h : IoHandler) : List (List UInt8) → IoHandler × List (List UInt8)
  | [] => (h, [])
  | recvBuffer :: reads =>
      let (h', payloads) := readComplete h recvBuffer
      let (h'', more) := readAll h' reads
      (h'', payloads ++ more)

/-- The xor of a byte sequence, as both ends of the line compute it. -/
def checkSumOf (bytes : List UInt8) : UInt8 := bytes.foldl (· ^^^ ·) 0

/-- The bytes `sendMessageImpl` writes for `sendData`
    (`collector/SendingSerialHandler.cpp:43-47`). -/
def frame (sendData : List UInt8) : List UInt8 :=
  [0xaa, 0x55, UInt8.ofNat sendData.length] ++ sendData ++ [checkSumOf sendData]

@[simp] theorem readComplete_nil (h : IoHandler) : readComplete h [] = (h, []) := rfl

theorem readComplete_cons (h : IoHandler) (b : UInt8) (rest : List UInt8) :
    readComplete h (b :: rest) =
      ((readComplete (handleByte h b).1 rest).1,
        (handleByte h b).2.toList ++ (readComplete (handleByte h b).1 rest).2) := rfl

theorem readComplete_append (h : IoHandler) (xs ys : List UInt8) :
    readComplete h (xs ++ ys) =
      ((readComplete (readComplete h xs).1 ys).1,
        (readComplete h xs).2 ++ (readComplete (readComplete h xs).1 ys).2) := by
  induction xs generalizing h with
  | nil => simp
  | cons x xs ih => simp [readComplete_cons, ih]

/-- How the stream falls into reads does not matter: the state is carried over. -/
theorem readAll_eq_readComplete (h : IoHandler) (reads : List (List UInt8)) :
    readAll h reads = readComplete h reads.flatten := by
  induction reads generalizing h with
  | nil => rfl
  | cons recvBuffer reads ih =>
      rw [List.flatten_cons, readComplete_append, ← ih]
      rfl

@[simp] theorem checkSumOf_nil : checkSumOf [] = 0 := rfl

theorem checkSumOf_append_singleton (xs : List UInt8) (b : UInt8) :
    checkSumOf (xs ++ [b]) = checkSumOf xs ^^^ b := by
  simp [checkSumOf]

/-- In the state after the length byte `n`, with `got` of the payload already stored. -/
def dataState (n : Nat) (got : List UInt8) : IoHandler :=
  { state := .data, pos := got.length, length := n, checkSum := checkSumOf got, data := got }

/-- The state behind the last payload byte. -/
def checksumState (payload : List UInt8) : IoHandler :=
  { state := .checksum, pos := payload.length, length := payload.length,
    checkSum := checkSumOf payload, data := payload }

theorem handleByte_dataState (n : Nat) (got : List UInt8) (b : UInt8) :
    handleByte (dataState n got) b =
      (if got.length + 1 = n then checksumState (got ++ [b]) else dataState n (got ++ [b]),
        none) := by
  by_cases last : got.length + 1 = n
  · subst last
    simp [handleByte, dataState, checksumState, checkSumOf_append_singleton]
  · simp [handleByte, dataState, last, checkSumOf_append_singleton]

/-- The body of a frame: the remaining payload bytes take the decoder to the checksum. -/
theorem readComplete_payload (n : Nat) (got rest : List UInt8) (more : rest ≠ [])
    (size : got.length + rest.length = n) :
    readComplete (dataState n got) rest = (checksumState (got ++ rest), []) := by
  induction rest generalizing got with
  | nil => exact absurd rfl more
  | cons b rest ih =>
      rw [readComplete_cons, handleByte_dataState]
      by_cases last : rest = []
      · subst last
        have complete : got.length + 1 = n := by simpa using size
        simp [complete]
      · have open' : got.length + 1 ≠ n := by
          have := List.length_pos_iff.mpr last
          simp at size
          omega
        rw [if_neg open', ih (got ++ [b]) last (by simp at size ⊢; omega)]
        simp

/-- A frame with a payload of 1 to 255 bytes, met at position 0 of the sync pattern, is
    delivered and leaves the decoder where a fresh one starts. -/
theorem readComplete_frame (h : IoHandler) (fresh : h.Fresh) (p : List UInt8)
    (nonempty : 1 ≤ p.length) (short : p.length ≤ 255) :
    (readComplete h (frame p)).1.Fresh ∧ (readComplete h (frame p)).2 = [p] := by
  obtain ⟨state, pos, data⟩ := fresh
  have size : (UInt8.ofNat p.length).toNat = p.length := by
    rw [UInt8.toNat_ofNat']
    omega
  have header : readComplete h [0xaa, 0x55, UInt8.ofNat p.length] =
      (dataState p.length [], []) := by
    simp [readComplete_cons, handleByte, state, pos, data, dataState, size]
  have body : readComplete (dataState p.length []) p = (checksumState p, []) := by
    have := readComplete_payload p.length [] p (by rintro rfl; simp at nonempty) (by simp)
    simpa using this
  rw [frame, readComplete_append, readComplete_append, header, body]
  simp [readComplete_cons, handleByte, checksumState, Fresh]

/-- Frames in a row are delivered in order. -/
theorem readComplete_frames (h : IoHandler) (fresh : h.Fresh) (payloads : List (List UInt8))
    (sizes : ∀ p ∈ payloads, 1 ≤ p.length ∧ p.length ≤ 255) :
    (readComplete h (payloads.flatMap frame)).2 = payloads := by
  induction payloads generalizing h with
  | nil => rfl
  | cons p payloads ih =>
      obtain ⟨nonempty, short⟩ := sizes p (by simp)
      obtain ⟨fresh', delivered⟩ := readComplete_frame h fresh p nonempty short
      rw [List.flatMap_cons, readComplete_append, delivered,
        ih _ fresh' (fun q hq => sizes q (by simp [hq]))]
      rfl

/-- What has been delivered stays delivered. -/
theorem readComplete_prefix (h : IoHandler) {received stream : List UInt8}
    (part : received <+: stream) :
    (readComplete h received).2 <+: (readComplete h stream).2 := by
  obtain ⟨rest, rfl⟩ := part
  rw [readComplete_append]
  exact List.prefix_append _ _

end IoHandler

end EmsCollector
