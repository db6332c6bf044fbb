import EmsCollector.Collector.MainProof.Ports
import EmsCollector.Framer.Link

/-!
# From the bus to the stores

The framer and the collector on one line, each at its own pace: what the bus brings, the
interrupts, the main loop of the framer, the reads of the collector and its ports come in any
order. The stores get the values of the payloads that the framer has accepted.
-/

namespace EmsCollector

/-- The framer, the collector, and how many of the bytes on the line have been read. -/
structure Installation (κ δ : Type) where
  link : Framer.Link
  collector : Collector κ δ
  taken : Nat

namespace Installation

variable {κ δ : Type} [DecidableEq κ] [DecidableEq δ]

inductive Event (κ δ : Type) where
  | framer (e : Framer.Link.Event)
  | collector (e : Collector.Event κ δ)

/-- A read of the collector takes the next bytes from the line. -/
def step (w : Surroundings) (setup : Setup) (s : Installation κ δ) :
    Event κ δ → Option (Installation κ δ)
  | .framer e => (s.link.step e).map fun link => { s with link }
  | .collector e =>
      if e.bytes <+: s.link.serial.drop s.taken then
        (s.collector.step w setup e).map fun collector =>
          { s with collector, taken := s.taken + e.bytes.length }
      else none

/-- The installation as a transition system. -/
def system (w : Surroundings) (setup : Setup) (κ δ : Type) [DecidableEq κ] [DecidableEq δ] :
    LTS (Installation κ δ) (Event κ δ) := .ofOption (step w setup)

/-- The framer is switched on, and the program is started. -/
def start (setup : Setup) (database : Database) (length : Nat) (checkSum : UInt8) :
    Installation κ δ :=
  { link := .start, collector := .start setup database length checkSum, taken := 0 }

/-- The session of the collector goes on. -/
def Event.within : Event κ δ → Bool
  | .framer _ => true
  | .collector e => e.within

end Installation

namespace Framer.Link

/-- What is on the line stays there. -/
theorem step_serial {s s' : Link} {e : Event} (next : s.step e = some s') :
    s.serial <+: s'.serial := by
  cases e with
  | uart frameError data =>
      obtain ⟨⟨framer, queued⟩, -, next⟩ := Option.bind_eq_some_iff.mp next
      cases next
      exact List.prefix_rfl
  | main =>
      obtain ⟨⟨framer, pc, byte⟩, -, next⟩ := Option.bind_eq_some_iff.mp next
      cases next
      exact List.prefix_append _ _

end Framer.Link

namespace Installation

open Collector (Serves arrival arrivals arrivals_traced bytesOf bytesOf_snoc payloads stored
  payloadValues pcMessage)

variable {κ δ : Type} [DecidableEq κ] [DecidableEq δ] {w : Surroundings} {setup : Setup}
  {begun : Stores} {s s' : Installation κ δ}

/-- The session of the collector has read the first bytes of the line. -/
structure Inv (w : Surroundings) (setup : Setup) (begun : Stores) (s : Installation κ δ) : Prop where
  link : s.link.Inv
  behind : s.taken ≤ s.link.serial.length
  serves : ∃ (es : List (Collector.Event κ δ)) (session : Handlers κ δ),
    Serves w setup begun es s.collector session ∧ bytesOf es = s.link.serial.take s.taken

theorem step_inv {e : Event κ δ} (inv : s.Inv w setup begun) (within : e.within = true)
    (next : s.step w setup e = some s') : s'.Inv w setup begun := by
  obtain ⟨link, behind, es, session, serves, bytes⟩ := inv
  cases e with
  | framer e =>
      obtain ⟨after, stepped, next⟩ := Option.map_eq_some_iff.mp next
      cases next
      obtain ⟨after', stepped', link'⟩ := Framer.Link.step_inv link e
      obtain rfl := Option.some.inj (stepped.symm.trans stepped')
      have more := Framer.Link.step_serial stepped
      refine ⟨link', behind.trans more.length_le, es, session, serves, ?_⟩
      show bytesOf es = after.serial.take s.taken
      obtain ⟨rest, split⟩ := more
      rw [bytes, ← split, List.take_append_of_le_length behind]
  | collector e =>
      simp only [step] at next
      split at next
      case isFalse => cases next
      rename_i onLine
      obtain ⟨after, stepped, next⟩ := Option.map_eq_some_iff.mp next
      cases next
      obtain ⟨session', serves'⟩ := Collector.serves_step serves within stepped
      obtain ⟨rest, split⟩ := onLine
      have room : s.taken + e.bytes.length ≤ s.link.serial.length := by
        have lengths := congrArg List.length split
        rw [List.length_append, List.length_drop] at lengths
        omega
      refine ⟨link, room, es ++ [e], session', serves', ?_⟩
      show bytesOf (es ++ [e]) = s.link.serial.take (s.taken + e.bytes.length)
      rw [bytesOf_snoc, bytes, List.take_add, ← split, List.take_left]

/-- As long as its session lasts, the database and the cache of the collector have taken the values
    of the first payloads that the framer has accepted, in order, and the scheduler, if there is one,
    has come where it is by a run of the command port in which the telegrams for the PC among these
    payloads arrive, in order and no others; of all of them, once the framer has sent what it has
    queued and the collector has read it. -/
theorem stores_follow_bus {database : Database} {length : Nat} {checkSum : UInt8}
    {es : List (Event κ δ)}
    (run : (system w setup κ δ).Run (fun _ e => e.within = true)
      (start setup database length checkSum) es s) :
    ∃ n session, s.collector.session = some session ∧
      s.collector.stores =
        stored w ⟨database, ⟨[]⟩, 0⟩ ((s.link.accepted.take n).flatMap payloadValues) ∧
      session.telegrams = ((s.link.accepted.take n).filterMap pcMessage).length ∧
      (∀ commands, session.commands = some commands →
        ∃ steps, (System.system κ).Run (fun _ _ => True) .init steps commands ∧
          steps.filterMap arrival = arrivals w (s.link.accepted.take n)) ∧
      (s.link.framer.txWritePos = s.link.framer.txReadPos → s.taken = s.link.serial.length →
        s.link.accepted.length ≤ n) := by
  have inv : s.Inv w setup ⟨database, ⟨[]⟩, 0⟩ := by
    refine run.invariant ⟨Framer.Link.start_inv, Nat.zero_le _, [], _, .new rfl rfl, rfl⟩ ?_
    exact fun _ _ _ inv within next => step_inv inv within next
  obtain ⟨link, behind, es, session, serves, bytes⟩ := inv
  have decoded := Framer.Link.decoded_of_inv link (.start 0 0) (IoHandler.start_fresh 0 0)
    [s.link.serial] (List.flatten_singleton ..)
  rw [IoHandler.readAll_eq_readComplete, List.flatten_singleton] at decoded
  have first : payloads (bytesOf es) <+: s.link.accepted := by
    rw [bytes]
    exact (IoHandler.readComplete_prefix _ (List.take_prefix ..)).trans decoded.1
  have some' := List.prefix_iff_eq_take.mp first
  refine ⟨(payloads (bytesOf es)).length, session, serves.current, ?_, ?_, fun commands there => ?_,
    fun drained all => ?_⟩
  · rw [← some']
    exact serves.stores
  · rw [← some']
    exact serves.telegrams
  · rw [← some']
    exact ⟨_, serves.commands commands there, arrivals_traced _ es⟩
  · have whole : payloads (bytesOf es) = s.link.accepted := by
      rw [bytes, all, List.take_length]
      exact decoded.2 drained
    rw [whole]

/-- A telegram with an outdoor temperature on the bus. The collector begins to read its frame while
    the framer is still sending it. -/
def relayed : List (Event Unit Unit) :=
  .framer (.uart true 0x00) ::
    ([0x88, 0x00, 0xd1, 0x00, 0x00, 0x7b, 0x35].map fun b => .framer (.uart false b)) ++
    [.framer (.uart true 0x00)] ++ List.replicate 12 (.framer .main) ++
    [.collector (.read [0xaa, 0x55, 0x06])] ++ List.replicate 18 (.framer .main) ++
    [.collector (.read [0x88, 0x00, 0xd1, 0x00, 0x00, 0x7b, 0x22])]

/-- The temperature reaches the cache. -/
theorem stores_follow_bus_relayed :
    ∃ s : Installation Unit Unit, s.collector.stores.cache =
      ValueCache.handleValue ⟨[]⟩ 0 ⟨.istTemp, .aussen, .numeric, .numeric (123 / 10), true⟩ := by
  let setup : Setup := ⟨.serial, true⟩
  let last := (relayed.foldlM
    (fun (s : Installation Unit Unit) e =>
      if e.within = true then step Collector.counted setup s e else none)
    (start setup Collector.offline 0 0)).get (by decide +kernel)
  have run : (system Collector.counted setup Unit Unit).Run (fun _ e => e.within = true)
      (start setup Collector.offline 0 0) relayed last :=
    .ofFold (Option.some_get (by decide +kernel)).symm
  obtain ⟨n, session, -, stores, -, -, all⟩ := stores_follow_bus run
  have accepted : last.link.accepted = [[0x88, 0x00, 0xd1, 0x00, 0x00, 0x7b]] := by decide +kernel
  have whole := all (by decide +kernel) (by decide +kernel)
  refine ⟨last, ?_⟩
  rw [stores, List.take_of_length_le whole, accepted]
  decide +kernel

end Installation

end EmsCollector
