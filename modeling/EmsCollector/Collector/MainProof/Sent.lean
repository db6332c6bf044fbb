import EmsCollector.Collector.CommandHandlerProof.Sendable
import EmsCollector.Collector.MainProof.Ports
import EmsCollector.Collector.TcpHandler

/-!
# What a session sends

The way from the command port to the heating: the telegrams that a session transmits are laid out
by its handler, and the other end of the line gets them all.
-/

namespace EmsCollector

/-- Without the address of the sender, the layout is the same. -/
theorem EmsMessage.getSendData_omit (m : EmsMessage) :
    m.getSendData false = (m.getSendData true).map (EmsProto.addressPC :: ·) := by
  unfold getSendData
  dsimp only
  split
  · split
    · cases subscript m.data 0 with
      | error fault => rfl
      | ok length => rfl
    · rfl
  · rfl

namespace Outgoing

open EmsMessage

/-- The other end of a serial line takes the frames apart, in whatever reads it gets them. -/
def FramesArrive (messages : List Outgoing) : Prop :=
  ∃ frames, messages.mapM (fun o => sendMessageImpl true o.message) = .ok frames ∧
    ∀ (h : IoHandler) (reads : List (List UInt8)), h.Fresh → reads.flatten = frames.flatten →
      ∃ received, (h.readAll reads).2.mapM receive = .ok received ∧
        List.Forall₂ Received messages received

/-- What is written to a socket is taken apart, once the address of the PC is put in front. -/
def WriteArrives (o : Outgoing) : Prop :=
  ∃ bytes received, TcpHandler.sendMessageImpl o.message = .ok bytes ∧
    receive (EmsProto.addressPC :: bytes) = .ok received ∧ Received o received

theorem writeArrives (o : Outgoing) : o.WriteArrives := by
  obtain ⟨sendData, laidOut, -, -, undone⟩ := receive_getSendData o
  rw [getSendData_omit] at laidOut
  unfold WriteArrives TcpHandler.sendMessageImpl
  cases written : o.message.getSendData true with
  | error fault =>
      rw [written] at laidOut
      cases laidOut
  | ok bytes =>
      rw [written] at laidOut
      cases laidOut
      exact ⟨bytes, o.arrived, rfl, undone, arrived_received o⟩

end Outgoing

namespace Collector

variable {κ δ : Type} [DecidableEq κ] [DecidableEq δ] {w : Surroundings} {setup : Setup}
  {c c' : Collector κ δ}

/-- Whatever the clients of a session ask for and whatever comes from the bus, laying out the
    telegrams that it transmits never fails, and the other end of the line gets the device, the
    direction, the type, the offset and the data of each, in order: from the frames of the serial
    handler, and from the writes of the TCP handler. -/
theorem sent_arrives {ok : Collector κ δ → Event κ δ → Prop}
    (lasts : ∀ c e, ok c e → e.within = true) {length : Nat} {checkSum : UInt8}
    (begun : c.session = some (.new setup length checkSum)) {es : List (Event κ δ)}
    (run : (system w setup κ δ).Run ok c es c') (sends : setup.target.sends = true) :
    ∃ session commands outgoing, c'.session = some session ∧ session.commands = some commands ∧
      commands.sender.sent = outgoing.map Outgoing.message ∧
      Outgoing.FramesArrive outgoing ∧ ∀ o ∈ outgoing, o.WriteArrives := by
  obtain ⟨session, serves⟩ := serves_run lasts begun run
  obtain ⟨commands, there⟩ := Option.isSome_iff_exists.mp (serves.sends.trans sends)
  have all := System.run_allSendable (serves.commands commands there)
  have sendable : commands.sender.sent ∈ Set.range (List.map Outgoing.message) := by
    rw [Set.range_list_map]
    exact all.sender.sent
  obtain ⟨outgoing, same⟩ := sendable
  exact ⟨session, commands, outgoing, serves.current, there, same.symm,
    Outgoing.frames_arrive outgoing, fun o _ => o.writeArrives⟩

/-- A client connects and asks for the version of the boiler. -/
def versionAsked : List (Event Unit Unit) :=
  [.commands (.connect () default), .commands (.segment () "getversion\n".toList),
    .commands (.request () ⟨none, fun s => (none, s), 0⟩)]

/-- A read of three bytes goes out. -/
theorem sent_arrives_asked :
    ∃ (commands : System Unit) (outgoing : List Outgoing),
      commands.sender.sent = [.send 0x08 0x02 0 [3] true] ∧
      commands.sender.sent = outgoing.map Outgoing.message ∧ Outgoing.FramesArrive outgoing := by
  let setup : Setup := ⟨.txSerial, false⟩
  let last := (versionAsked.foldlM
    (fun (c : Collector Unit Unit) e => if e.within = true then step counted setup c e else none)
    (start setup offline 0 0)).get (by decide +kernel)
  have run : (system counted setup Unit Unit).Run (fun _ e => e.within = true)
      (start setup offline 0 0) versionAsked last := .ofFold (Option.some_get (by decide +kernel)).symm
  obtain ⟨session, commands, outgoing, current, there, same, arrive, -⟩ :=
    sent_arrives (fun _ _ within => within) rfl run rfl
  have telegrams : ∀ session ∈ last.session, ∀ commands ∈ session.commands,
      commands.sender.sent = [.send 0x08 0x02 0 [3] true] := by decide +kernel
  exact ⟨commands, outgoing, telegrams session current commands there, same, arrive⟩

end Collector

end EmsCollector
