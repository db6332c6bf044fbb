import EmsCollector.Collector.EmsMessage
import EmsCollector.Collector.IoHandler
import Mathlib

/-!
# From the send constructor to the receive constructor

`SendingSerialHandler::sendMessageImpl` (`collector/SendingSerialHandler.cpp:31-61`) writes a
telegram as one frame. `getSendData` lays out the header, the receive constructor takes it
apart: both tell classic from EMS-plus telegrams by the type byte and reads from writes by bit 7
of the destination, but the receive constructor calls `isRead` what `getSendData` calls a write.
-/

namespace EmsCollector

/-- `sendMessageImpl`: the bytes written to the serial port, none unless it is `active`. -/
def sendMessageImpl (active : Bool) (m : EmsMessage) : Except Fault (List UInt8) := do
  let sendData ← m.getSendData false
  .ok (if active then IoHandler.frame sendData else [])

/-- The arguments of the send constructor: some data, which fits into a frame with every header,
    and a single byte, the length, where an answer is expected. -/
structure Outgoing where
  dest : UInt8
  type : UInt16
  offset : UInt8
  data : List UInt8
  expectResponse : Bool
  nonempty : data ≠ []
  short : data.length ≤ 248
  length : expectResponse = true → data.length = 1

/-- The telegram that is sent. -/
def Outgoing.message (o : Outgoing) : EmsMessage :=
  .send o.dest o.type o.offset o.data o.expectResponse

/-- The telegram that arrives. -/
def Outgoing.arrived (o : Outgoing) : EmsMessage := { o.message with valueHandler := true }

/-- What the other end makes of a telegram. -/
structure Received (o : Outgoing) (m : EmsMessage) : Prop where
  source : m.source = 0x8b
  address : m.dest &&& 0x7f = o.dest &&& 0x7f
  direction : m.dest &&& 0x80 ≠ 0 ↔ o.expectResponse = true
  type : m.getType = o.type
  offset : m.offset = o.offset
  data : m.data = o.data

namespace EmsMessage

/-- The two bytes of a type give the type. -/
theorem join_bytes (w : UInt16) :
    ((w >>> 8).toUInt8.toUInt16 <<< 8) ||| (w &&& 0xff).toUInt8.toUInt16 = w := by
  have low : (w &&& 0xff).toUInt8 = w.toUInt8 := by
    rw [UInt16.toUInt8_and]
    exact UInt8.and_neg_one
  have bound := w.toNat_lt
  apply UInt16.toNat_inj.mp
  simp only [low, UInt16.toNat_or, UInt16.toNat_shiftLeft, UInt8.toNat_toUInt16,
    UInt16.toNat_toUInt8, UInt16.toNat_shiftRight]
  have high : w.toNat >>> 8 % 2 ^ 8 = w.toNat / 256 := by
    rw [Nat.shiftRight_eq_div_pow]
    omega
  show (w.toNat >>> 8 % 2 ^ 8) <<< 8 % 2 ^ 16 ||| w.toNat % 2 ^ 8 = w.toNat
  rw [high, Nat.mod_eq_of_lt (a := (w.toNat / 256) <<< 8) (by rw [Nat.shiftLeft_eq]; omega),
    ← Nat.shiftLeft_add_eq_or_of_lt (by omega), Nat.shiftLeft_eq]
  omega

theorem and_or_right (a b c : UInt8) : (a ||| b) &&& c = a &&& c ||| b &&& c := by
  apply UInt8.eq_of_toBitVec_eq
  exact BitVec.and_or_distrib_right

theorem address_read (dest : UInt8) : (dest ||| 0x80) &&& 0x7f = dest &&& 0x7f := by
  rw [and_or_right, show (0x80 : UInt8) &&& 0x7f = 0 from rfl, UInt8.or_zero]

theorem address_write (dest : UInt8) : (dest &&& 0x7f) &&& 0x7f = dest &&& 0x7f := by
  rw [UInt8.and_assoc, UInt8.and_self]

/-- A read of an EMS-plus type: the length stands before the type. -/
theorem getSendData_plus_read {m : EmsMessage} {length : UInt8} (plus : m.type ≥ 0xf0)
    (read : m.dest &&& 0x80 = 0x80) (single : m.data = [length]) :
    m.getSendData false = .ok [EmsProto.addressPC, m.dest, m.type, m.offset, length,
      (m.extType >>> 8).toUInt8, (m.extType &&& 0xff).toUInt8] := by
  simp [getSendData, plus, read, single, subscript]
  rfl

/-- A write of an EMS-plus type: the data stands behind the type. -/
theorem getSendData_plus_write {m : EmsMessage} (plus : m.type ≥ 0xf0)
    (write : m.dest &&& 0x80 = 0) :
    m.getSendData false = .ok (EmsProto.addressPC :: m.dest :: m.type :: m.offset ::
      (m.extType >>> 8).toUInt8 :: (m.extType &&& 0xff).toUInt8 :: m.data) := by
  simp [getSendData, plus, write]

theorem getSendData_classic {m : EmsMessage} (classic : ¬ m.type ≥ 0xf0) :
    m.getSendData false = .ok (EmsProto.addressPC :: m.dest :: m.type :: m.offset :: m.data) := by
  simp only [getSendData, if_neg classic]
  rfl

/-- The receive constructor on a read of an EMS-plus type. -/
theorem receive_plus_read {dest type offset : UInt8} (plus : type ≥ 0xf0)
    (read : dest &&& 0x80 = 0x80) (source length high low : UInt8) :
    receive [source, dest, type, offset, length, high, low] =
      .ok { valueHandler := true, data := [length], source, dest, type
            extType := (high.toUInt16 <<< 8) ||| low.toUInt16, offset } := by
  simp [receive, plus, read, subscript, eraseRange]
  rfl

/-- On a write of an EMS-plus type, which has at least seven bytes. -/
theorem receive_plus_write {dest type offset : UInt8} (plus : type ≥ 0xf0)
    (write : dest &&& 0x80 = 0) (source high low : UInt8) {data : List UInt8} (some_data : data ≠ []) :
    receive (source :: dest :: type :: offset :: high :: low :: data) =
      .ok { valueHandler := true, data, source, dest, type
            extType := (high.toUInt16 <<< 8) ||| low.toUInt16, offset } := by
  have size : 1 ≤ data.length := List.length_pos_iff.mpr some_data
  simp [receive, plus, write, subscript, eraseRange, size]
  rfl

theorem receive_classic {type : UInt8} (classic : ¬ type ≥ 0xf0) (source dest offset : UInt8)
    (data : List UInt8) :
    receive (source :: dest :: type :: offset :: data) =
      .ok { valueHandler := true, data, source, dest, type, extType := 0, offset } := by
  simp [receive, classic]

end EmsMessage

namespace Outgoing

open EmsMessage

variable (o : Outgoing)

theorem message_read (read : o.expectResponse = true) :
    o.message.dest &&& 0x80 = 0x80 ∧ ∃ length, o.message.data = [length] := by
  have dest : o.message.dest = o.dest ||| 0x80 := if_pos read
  rw [dest]
  exact ⟨direction_read o.dest, List.length_eq_one_iff.mp (o.length read)⟩

theorem message_write (write : o.expectResponse = false) : o.message.dest &&& 0x80 = 0 := by
  have dest : o.message.dest = o.dest &&& 0x7f := if_neg (by rw [write]; exact Bool.false_ne_true)
  rw [dest]
  exact direction_write o.dest

/-- A type from `0xf0` on goes out as `0xff` with the extended type, any other one as it is. -/
theorem message_type :
    o.message.type ≥ 0xf0 ∧ o.message.extType = o.type ∧ o.type ≠ 0 ∨
      ¬ o.message.type ≥ 0xf0 ∧ o.message.extType = 0 ∧ o.message.type.toUInt16 = o.type := by
  unfold message send
  by_cases plus : o.type ≥ 0xf0
  · left
    have notClassic : ¬ o.type < 0xf0 := UInt16.not_lt.mpr plus
    have positive : o.type ≠ 0 := by
      intro zero
      rw [zero] at plus
      exact absurd plus (by decide)
    simp [plus, notClassic, positive]
  · right
    have classic : o.type < 0xf0 := UInt16.not_le.mp plus
    have small : o.type.toNat < 240 := UInt16.lt_iff_toNat_lt.mp classic
    have back : o.type.toUInt8.toUInt16 = o.type := by
      apply UInt16.toNat_inj.mp
      rw [UInt8.toNat_toUInt16, UInt16.toNat_toUInt8]
      omega
    refine ⟨?_, if_neg plus, ?_⟩
    · rw [if_pos classic, ge_iff_le, UInt8.le_iff_toNat_le, UInt16.toNat_toUInt8]
      show ¬ 240 ≤ o.type.toNat % 2 ^ 8
      omega
    · rw [if_pos classic]
      exact back

theorem message_getType : o.message.getType = o.type := by
  unfold getType
  rcases message_type o with ⟨-, extType, positive⟩ | ⟨-, extType, type⟩
  · rw [extType, if_pos positive]
  · rw [extType, type]
    exact if_neg (fun differs => differs rfl)

/-- The receive constructor undoes `getSendData`, in each of the header layouts. -/
theorem receive_getSendData :
    ∃ sendData, o.message.getSendData false = .ok sendData ∧
      1 ≤ sendData.length ∧ sendData.length ≤ 255 ∧
      receive sendData = .ok o.arrived := by
  have short : o.message.data.length ≤ 248 := o.short
  have nonempty : o.message.data ≠ [] := o.nonempty
  rcases message_type o with ⟨plus, -, -⟩ | ⟨classic, extType, -⟩
  · cases direction : o.expectResponse with
    | true =>
        obtain ⟨read, length, single⟩ := message_read o direction
        refine ⟨_, getSendData_plus_read plus read single, ?_, ?_, ?_⟩
        · simp
        · simp
        · rw [receive_plus_read plus read, join_bytes, ← single]
          rfl
    | false =>
        have write := message_write o direction
        refine ⟨_, getSendData_plus_write plus write, ?_, ?_, ?_⟩
        · simp
        · simp only [List.length_cons]
          omega
        · rw [receive_plus_write plus write _ _ _ nonempty, join_bytes]
          rfl
  · refine ⟨_, getSendData_classic classic, ?_, ?_, ?_⟩
    · simp
    · simp only [List.length_cons]
      omega
    · rw [receive_classic classic, ← extType]
      rfl

/-- What arrives is what was given to the send constructor. -/
theorem arrived_received : Received o o.arrived where
  source := rfl
  address := by
    show (if o.expectResponse then o.dest ||| 0x80 else o.dest &&& 0x7f) &&& 0x7f = _
    split
    · exact address_read o.dest
    · exact address_write o.dest
  direction := by
    show o.message.dest &&& 0x80 ≠ 0 ↔ _
    cases direction : o.expectResponse with
    | true =>
        obtain ⟨read, -⟩ := message_read o direction
        rw [read]
        exact ⟨fun _ => rfl, fun _ => by decide⟩
    | false =>
        rw [message_write o direction]
        exact ⟨fun differs => absurd rfl differs, nofun⟩
  type := message_getType o
  offset := rfl
  data := rfl

/-- The frames of one telegram after the other. -/
theorem frames_written (messages : List Outgoing) :
    ∃ payloads : List (List UInt8), messages.mapM (fun o => sendMessageImpl true o.message) =
        .ok (payloads.map IoHandler.frame) ∧
      (∀ p ∈ payloads, 1 ≤ p.length ∧ p.length ≤ 255) ∧
      payloads.mapM receive = .ok (messages.map arrived) := by
  induction messages with
  | nil => exact ⟨[], rfl, nofun, rfl⟩
  | cons o rest ih =>
      obtain ⟨payloads, written, sizes, taken⟩ := ih
      obtain ⟨sendData, laidOut, nonempty, short, undone⟩ := receive_getSendData o
      have frame : sendMessageImpl true o.message = .ok (IoHandler.frame sendData) := by
        unfold sendMessageImpl
        rw [laidOut]
        rfl
      refine ⟨sendData :: payloads, ?_, List.forall_mem_cons.mpr ⟨⟨nonempty, short⟩, sizes⟩, ?_⟩
      · rw [List.mapM_cons, frame, written]
        rfl
      · rw [List.mapM_cons, undone, taken]
        rfl

/-- The other end of a serial line takes the frames apart, in whatever reads it gets them. -/
theorem frames_arrive (messages : List Outgoing) :
    ∃ frames, messages.mapM (fun o => sendMessageImpl true o.message) = .ok frames ∧
      ∀ (h : IoHandler) (reads : List (List UInt8)), h.Fresh → reads.flatten = frames.flatten →
        ∃ received, (h.readAll reads).2.mapM receive = .ok received ∧
          List.Forall₂ Received messages received := by
  obtain ⟨payloads, written, sizes, taken⟩ := frames_written messages
  refine ⟨payloads.map IoHandler.frame, written, fun h reads fresh stream => ?_⟩
  have decoded : (h.readAll reads).2 = payloads := by
    rw [IoHandler.readAll_eq_readComplete, stream, ← List.flatMap_def,
      IoHandler.readComplete_frames h fresh _ sizes]
  refine ⟨messages.map arrived, decoded ▸ taken, ?_⟩
  rw [List.forall₂_map_right_iff]
  exact List.forall₂_same.mpr fun o _ => arrived_received o

end Outgoing

namespace IoHandler

/-- For every list of telegrams, `sendMessageImpl` writes a frame for each, and a fresh decoder
    that gets these frames in whatever reads takes them for the same telegrams in order. -/
theorem wire_roundTrip {h : IoHandler} (fresh : h.Fresh) (messages : List Outgoing) :
    ∃ frames, messages.mapM (fun o => sendMessageImpl true o.message) = .ok frames ∧
      ∀ reads : List (List UInt8), reads.flatten = frames.flatten →
        ∃ received, (h.readAll reads).2.mapM EmsMessage.receive = .ok received ∧
          List.Forall₂ Received messages received := by
  obtain ⟨frames, written, arrive⟩ := Outgoing.frames_arrive messages
  exact ⟨frames, written, fun reads stream => arrive h reads fresh stream⟩

/-- A classic read and an EMS-plus write, read byte by byte. -/
theorem wire_roundTrip_bytewise :
    let read : Outgoing :=
      { dest := 0x10, type := 0x02, offset := 0, data := [3], expectResponse := true
        nonempty := nofun, short := by decide, length := fun _ => rfl }
    let write : Outgoing :=
      { dest := 0x10, type := 0x1b9, offset := 2, data := [40, 41], expectResponse := false
        nonempty := nofun, short := by decide, length := nofun }
    ∃ frames, [read, write].mapM (fun o => sendMessageImpl true o.message) = .ok frames ∧
      frames = [[0xaa, 0x55, 5, 0x8b, 0x90, 0x02, 0, 3, 0x1a],
        [0xaa, 0x55, 8, 0x8b, 0x10, 0xff, 2, 1, 0xb9, 40, 41, 0xdf]] ∧
      ∃ received, ((start 0 0).readAll (frames.flatten.map fun b => [b])).2.mapM
          EmsMessage.receive = .ok received ∧
        List.Forall₂ Received [read, write] received := by
  intro read write
  obtain ⟨frames, written, decoded⟩ := wire_roundTrip (start_fresh 0 0) [read, write]
  refine ⟨frames, written, ?_, decoded _ ?_⟩
  · exact Except.ok.inj (written.symm.trans (by decide))
  · rw [← List.flatMap_def, List.flatMap_singleton']

end IoHandler

end EmsCollector
