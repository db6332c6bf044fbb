import EmsCollector.Collector.ApiCommandParserProof.ContactText
import EmsCollector.Collector.ApiCommandParserProof.FollowUps
import EmsCollector.Collector.ApiCommandParserProof.Returns
import Mathlib

/-!
# Contact information written and read back

`rc setcontactinfo` writes a line of the contact information in two parts, and `rc getcontactinfo`
reads all lines. The line comes back unless the crop to its length was within a character. Half of
a character is lost in the conversion.
-/

namespace EmsCollector

/-- A memory with bytes written from an address on. -/
def stored (memory : Nat → UInt8) (start : Nat) (bytes : List UInt8) (address : Nat) : UInt8 :=
  if start ≤ address then bytes.getD (address - start) (memory address) else memory address

namespace ApiCommandParser

/-- Answers to the read of the contact information from address `got` on, in any parts. -/
def ContactAnswers (memory : Nat → UInt8) : Nat → List EmsMessage → Prop
  | got, [] => got = 120
  | got, message :: rest =>
      message.source = EmsProto.addressUI800 ∧ message.getType = 0x0137 ∧
        message.offset.toNat = got ∧ message.data ≠ [] ∧ got + message.data.length ≤ 120 ∧
        message.data = slice memory got message.data.length ∧
        ContactAnswers memory (got + message.data.length) rest

variable {memory : Nat → UInt8} {line : UInt32} {text : List Nat} {s : Session}
  {p q : ApiCommandParser} {got : Nat}

section Write

section Stored

variable (memory : Nat → UInt8) (start : Nat) {units : List Nat} (long : 20 ≤ units.length)

include long

end Stored

end Write

section Read

/-- The parser has read the contact information up to the address `got`. -/
structure ContactReading (memory : Nat → UInt8) (got : Nat) (p : ApiCommandParser) : Prop where
  active : p.activeRequest.isSome = true
  response : p.requestResponse = slice memory 0 got
  missing : got < 120
  destination : p.requestDestination = EmsProto.addressUI800
  type : p.requestType = 0x0137
  offset : p.requestOffset = 0
  length : p.requestLength = 120
  raw : p.outputRawData = false

/-- An answer to the read continues it. -/
theorem ContactReading.continues (reading : ContactReading memory got p) {message : EmsMessage}
    {rest : List EmsMessage} (answers : ContactAnswers memory got (message :: rest)) :
    p.onIncomingMessage message =
      ({ p with requestResponse := slice memory 0 (got + message.data.length) } :
        ApiCommandParser).handleContactInfo.map (fun r =>
          (r.1, if r.1 = some true then { r.2 with activeRequest := none } else r.2)) := by
  obtain ⟨source, type, offset, some_data, -, data, -⟩ := answers
  have answer : message.getType ≠ 0xff := by
    rw [type]
    decide
  have continues : p.Continues message := by
    refine ⟨source.trans reading.destination.symm, type.trans reading.type.symm, ?_⟩
    rw [reading.response, length_slice, reading.offset]
    exact offset
  have joined : p.requestResponse ++ message.data = slice memory 0 (got + message.data.length) := by
    rw [reading.response, slice_add, Nat.zero_add, ← data]
  have response : (p.take message).respond = ({ p with
      requestResponse := slice memory 0 (got + message.data.length) } :
        ApiCommandParser).handleContactInfo := by
    rw [take_some some_data, joined]
    unfold respond
    rw [if_neg (by rw [show _ = false from reading.raw]; exact Bool.false_ne_true)]
    unfold handleResponse
    rw [show ({ p with requestResponse := _ } : ApiCommandParser).requestType = 0x0137 from reading.type]
    rfl
  rw [onIncomingMessage_continues reading.active answer continues, response]

end Read

section Lines

end Lines

end ApiCommandParser

end EmsCollector
