import EmsCollector.Framer.Main
import EmsCollector.Collector.IoHandler

/-!
# The transmit ring

What the firmware's buffer routines do to the queue that `tx_buffer` stands for, and that the
8-bit space computation of `enough_tx_space` reserves one byte more than a frame takes.
-/

namespace EmsCollector.Framer

/-- The cells of `tx_buffer`. -/
def txCell (f : Framer) (index : Nat) : UInt8 := f.txBuffer[index]?.getD 0

/-- The bytes waiting in the ring. -/
def ring (f : Framer) : List UInt8 :=
  Ring.contents transmitBufSize f.txCell f.txReadPos.toNat f.txWritePos.toNat

/-- The positions point into their buffers, `recv_pos` at most behind the end of its own. -/
structure InBounds (f : Framer) : Prop where
  recv : f.recvPos.toNat ≤ recvBufSize
  write : f.txWritePos.toNat < transmitBufSize
  read : f.txReadPos.toNat < transmitBufSize

theorem start_inBounds : start.InBounds := ⟨by decide, by decide, by decide⟩

/-- `f'` is `f` with `bytes` appended to the ring. -/
structure Pushed (f : Framer) (bytes : List UInt8) (f' : Framer) : Prop where
  inBounds : f'.InBounds
  ring : f'.ring = f.ring ++ bytes
  readPos : f'.txReadPos = f.txReadPos

theorem Pushed.trans {f g k : Framer} {xs ys : List UInt8} (first : Pushed f xs g)
    (second : Pushed g ys k) : Pushed f (xs ++ ys) k where
  inBounds := second.inBounds
  ring := by rw [second.ring, first.ring, List.append_assoc]
  readPos := second.readPos.trans first.readPos

theorem length_ring (f : Framer) :
    f.ring.length = Ring.used transmitBufSize f.txReadPos.toNat f.txWritePos.toNat :=
  Ring.length_contents

/-- Equal positions mean an empty ring. -/
theorem ring_eq_nil_iff {f : Framer} (h : f.InBounds) :
    f.ring = [] ↔ f.txWritePos = f.txReadPos := by
  unfold ring
  rw [Ring.contents_eq_nil_iff h.read, UInt8.toNat_inj]

/-- Both positions are advanced by the same wrapping increment. -/
theorem toNat_advance {pos : UInt8} (h : pos.toNat < transmitBufSize) :
    (if pos + 1 ≥ 250 then 0 else pos + 1).toNat = Ring.next transmitBufSize pos.toNat := by
  have size : transmitBufSize = 250 := rfl
  have sum : (pos + 1).toNat = pos.toNat + 1 := by
    rw [UInt8.toNat_add]
    have : (1 : UInt8).toNat = 1 := rfl
    omega
  unfold Ring.next
  by_cases wrap : pos + 1 ≥ 250
  · have : 250 ≤ pos.toNat + 1 := by
      rw [← sum]
      exact UInt8.le_iff_toNat_le.mp wrap
    rw [if_pos wrap, if_pos this]
    rfl
  · have : ¬ 250 ≤ pos.toNat + 1 := by
      rw [← sum]
      exact fun le => wrap (UInt8.le_iff_toNat_le.mpr le)
    rw [if_neg wrap, if_neg this, sum]

theorem copyToTxBuffer_pushed {f : Framer} (h : f.InBounds) (data : UInt8)
    (room : f.ring.length + 1 < transmitBufSize) :
    ∃ f', f.copyToTxBuffer data = some f' ∧ Pushed f [data] f' := by
  unfold copyToTxBuffer
  rw [dif_pos h.write]
  refine ⟨_, rfl, ⟨⟨h.recv, ?_, h.read⟩, ?_, rfl⟩⟩
  · simp only [toNat_advance h.write]
    exact Ring.next_lt (by decide) _
  · unfold ring
    simp only [toNat_advance h.write]
    apply Ring.contents_push h.read h.write (by rwa [← length_ring])
    · simp [txCell, h.write]
    · intro i other
      simp [txCell, Ne.symm other]

theorem copyAll_pushed {f : Framer} (h : f.InBounds) (bytes : List UInt8)
    (room : f.ring.length + bytes.length < transmitBufSize) :
    ∃ f', f.copyAll bytes = some f' ∧ Pushed f bytes f' := by
  induction bytes generalizing f with
  | nil => exact ⟨f, rfl, ⟨h, by simp, rfl⟩⟩
  | cons data bytes ih =>
      obtain ⟨g, copied, first⟩ := copyToTxBuffer_pushed h data (by simp at room ⊢; omega)
      obtain ⟨k, rest, second⟩ := ih first.inBounds
        (by rw [first.ring]; simp at room ⊢; omega)
      refine ⟨k, ?_, first.trans second⟩
      unfold copyAll at rest ⊢
      rw [List.foldlM_cons, copied]
      exact rest

/-- Both routines together write the frame the collector's decoder expects. -/
theorem txFrame_pushed {f : Framer} (h : f.InBounds) (payload : List UInt8)
    (room : f.ring.length + payload.length + 4 < transmitBufSize) :
    ∃ f' f'', f.startTxFrame = some f' ∧ f'.addTxData payload = some f'' ∧
      Pushed f (IoHandler.frame payload) f'' := by
  obtain ⟨f1, sync, p1⟩ := copyAll_pushed h [0xaa, 0x55] (by simp; omega)
  obtain ⟨f2, len, p2⟩ := copyToTxBuffer_pushed p1.inBounds (UInt8.ofNat payload.length)
    (by rw [p1.ring]; simp; omega)
  obtain ⟨f3, body, p3⟩ := copyAll_pushed p2.inBounds payload
    (by rw [p2.ring, p1.ring]; simp; omega)
  obtain ⟨f4, csum, p4⟩ := copyToTxBuffer_pushed p3.inBounds (payload.foldl (· ^^^ ·) 0)
    (by rw [p3.ring, p2.ring, p1.ring]; simp; omega)
  refine ⟨f1, f4, sync, ?_, ?_⟩
  · unfold addTxData
    simp only [len, body, csum, Option.bind_eq_bind, Option.bind_some]
  · have all := ((p1.trans p2).trans p3).trans p4
    simpa [IoHandler.frame, IoHandler.checkSumOf] using all

/-- The 8-bit computation is exact: there is enough space when the frame and one byte more fit,
    so that the write position cannot catch up with the read position. -/
theorem enoughTxSpace_iff {f : Framer} (h : f.InBounds) {needed : UInt8}
    (short : needed.toNat ≤ 250) :
    f.enoughTxSpace needed = true ↔ f.ring.length + needed.toNat + 5 ≤ transmitBufSize := by
  have hr := h.read
  have hw := h.write
  have size : transmitBufSize = 250 := rfl
  have sum : (needed + 5).toNat = needed.toNat + 5 := by
    rw [UInt8.toNat_add]
    have : (5 : UInt8).toNat = 5 := rfl
    omega
  unfold enoughTxSpace
  rw [length_ring]
  unfold Ring.used
  by_cases ahead : f.txWritePos ≥ f.txReadPos
  · have ahead' : f.txReadPos.toNat ≤ f.txWritePos.toNat := UInt8.le_iff_toNat_le.mp ahead
    simp only [ahead, ahead', if_true, decide_eq_true_eq, ge_iff_le, UInt8.le_iff_toNat_le, sum,
      UInt8.toNat_ofNat']
    omega
  · have ahead' : ¬ f.txReadPos.toNat ≤ f.txWritePos.toNat :=
      fun le => ahead (UInt8.le_iff_toNat_le.mpr le)
    simp only [ahead, ahead', if_false, decide_eq_true_eq, ge_iff_le, UInt8.le_iff_toNat_le, sum,
      UInt8.toNat_ofNat']
    omega

end EmsCollector.Framer
