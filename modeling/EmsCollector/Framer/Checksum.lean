import EmsCollector.Framer.Frames
import EmsCollector.Misc.Checksum

/-!
# What the bus checksum detects

One turn of `calc_checksum` is a rotation with a conditional xor, followed by the xor of the
byte. The first part is a permutation of the bytes and keeps the parity of the bits, because
`0x18`, the mask `0xc` behind the shift, has two bits.
-/

namespace EmsCollector.Framer

/-- The number of bits set in a byte. -/
def popCount (b : UInt8) : Nat := b.toBitVec.cpop.toNat

/-- The number of bits in which two words of bytes differ. -/
def bitFlips : List UInt8 → List UInt8 → Nat := Checksum.flips (fun b c => popCount (b ^^^ c))

/-- The turn of `calc_checksum` read backwards, without the byte. -/
def crcUnstep (crc : UInt8) : UInt8 :=
  if crc &&& 1 ≠ 0 then ((crc ^^^ 0x18) >>> 1) ||| 0x80 else crc >>> 1

theorem crcStep_eq (crc byte : UInt8) : crcStep crc byte = crcStep crc 0 ^^^ byte := by
  simp [crcStep]

theorem cpopNatRec_xor {w : Nat} (x y : BitVec w) (n : Nat) :
    (x ^^^ y).cpopNatRec n 0 % 2 = (x.cpopNatRec n 0 + y.cpopNatRec n 0) % 2 := by
  induction n with
  | zero => rfl
  | succ n ih =>
      simp only [BitVec.cpopNatRec_succ, Nat.zero_add, BitVec.getLsbD_xor]
      rw [BitVec.cpopNatRec_eq, BitVec.cpopNatRec_eq (x.getLsbD n).toNat,
        BitVec.cpopNatRec_eq (y.getLsbD n).toNat]
      cases x.getLsbD n <;> cases y.getLsbD n <;> simp <;> omega

theorem popCount_xor (b c : UInt8) :
    popCount (b ^^^ c) % 2 = (popCount b + popCount c) % 2 := by
  simp only [popCount, UInt8.toBitVec_xor, BitVec.toNat_cpop]
  exact cpopNatRec_xor b.toBitVec c.toBitVec 8

/-- A statement about a byte is one about 256 numbers. -/
theorem all_bytes {P : UInt8 → Prop} (all : ∀ n : Fin 256, P (UInt8.ofNat n)) (b : UInt8) :
    P b := by
  have here := all ⟨b.toNat, b.toNat_lt⟩
  rwa [UInt8.ofNat_toNat] at here

theorem crcUnstep_crcStep (crc : UInt8) : crcUnstep (crcStep crc 0) = crc := by
  revert crc
  exact all_bytes (by decide +kernel)

theorem popCount_crcStep_zero (crc : UInt8) : popCount (crcStep crc 0) % 2 = popCount crc % 2 := by
  revert crc
  exact all_bytes (by decide +kernel)

theorem crcStep_state (byte : UInt8) {crc crc' : UInt8}
    (equal : crcStep crc byte = crcStep crc' byte) : crc = crc' := by
  rw [crcStep_eq crc, crcStep_eq crc', UInt8.xor_left_inj] at equal
  rw [← crcUnstep_crcStep crc, equal, crcUnstep_crcStep]

theorem crcStep_byte (crc : UInt8) {byte byte' : UInt8}
    (equal : crcStep crc byte = crcStep crc byte') : byte = byte' := by
  rwa [crcStep_eq crc, crcStep_eq crc byte', UInt8.xor_right_inj] at equal

theorem popCount_crcStep (crc byte : UInt8) :
    popCount (crcStep crc byte) % 2 = (popCount crc + popCount byte) % 2 := by
  have shifted := popCount_crcStep_zero crc
  rw [crcStep_eq, popCount_xor]
  omega

/-- A frame that does not end in its checksum is not forwarded. -/
theorem endOfFrame_rejects {f : Framer} (h : f.InBounds) {buffer : List UInt8} {crc : UInt8}
    (arrived : f.received = buffer ++ [crc]) (wrong : calcChecksum buffer ≠ crc) :
    ∃ f', f.endOfFrame = some (f', none) := by
  obtain ⟨f', queued, ended, -⟩ := endOfFrame_pushed h
  cases queued with
  | none => exact ⟨f', ended⟩
  | some q =>
      obtain ⟨front, -⟩ := (endOfFrame_queued h ended q).mp rfl
      obtain ⟨rfl, sum⟩ := List.append_inj' (arrived.symm.trans front) rfl
      exact absurd (List.singleton_inj.mp sum).symm wrong

/-- Every change of one byte and every change of an odd number of bits, in the buffer or in the
    checksum behind it, is detected, so the interrupt rejects the frame. -/
theorem corruption_detected (buffer buffer' : List UInt8) (crc : UInt8)
    (same : buffer.length = buffer'.length)
    (corrupted : Checksum.distance (buffer ++ [calcChecksum buffer]) (buffer' ++ [crc]) = 1 ∨
      bitFlips (buffer ++ [calcChecksum buffer]) (buffer' ++ [crc]) % 2 = 1) :
    calcChecksum buffer' ≠ crc ∧
      ∀ f : Framer, f.InBounds → f.received = buffer' ++ [crc] →
        ∃ f', f.endOfFrame = some (f', none) := by
  have detected : calcChecksum buffer' ≠ crc := by
    rcases corrupted with single | odd
    · exact Checksum.detects_single (fun b s t => crcStep_state b) (fun s b c => crcStep_byte s)
        same single
    · exact Checksum.detects_odd popCount_xor popCount_crcStep same odd
  exact ⟨detected, fun f h arrived => endOfFrame_rejects h arrived detected⟩

theorem corruption_detected_two : calcChecksum [0x08, 0x0c] ≠ 0x18 ∧
    ∀ f : Framer, f.InBounds → f.received = [0x08, 0x0c] ++ [0x18] →
      ∃ f', f.endOfFrame = some (f', none) :=
  corruption_detected [0x08, 0x0b] [0x08, 0x0c] 0x18 rfl (.inr (by decide))

end EmsCollector.Framer
