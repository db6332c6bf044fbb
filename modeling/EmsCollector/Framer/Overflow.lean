import EmsCollector.Framer.Frames
import EmsCollector.Misc.Backlog
import EmsCollector.Misc.Trace

/-!
# When the ring overflows

A checked frame is dropped without a sign if the ring has no room for it. The ring is a queue that
the frames fill and that the main loop serves, which takes three steps to send a byte. So no frame
is dropped exactly if no stretch of the events brings more than the main loop can send meanwhile,
and what fits into the ring.
-/

namespace EmsCollector.Framer

namespace Link

/-- The payload of a bus frame whose kept bytes end with their checksum. -/
def checkedFront (bytes : List UInt8) : Option (List UInt8) :=
  let front := bytes.take recvBufSize
  if 2 ≤ front.length ∧ front.getLast? = some (calcChecksum front.dropLast) then some front.dropLast
  else none

theorem checkedFront_iff {bytes q : List UInt8} : checkedFront bytes = some q ↔
    bytes.take recvBufSize = q ++ [calcChecksum q] ∧ 1 ≤ q.length := by
  unfold checkedFront
  dsimp only
  rcases List.eq_nil_or_concat' (bytes.take recvBufSize) with none' | ⟨payload, last, split⟩
  · rw [none']
    simp
  rw [split, List.getLast?_append_of_ne_nil _ (by simp), List.dropLast_concat]
  simp only [List.getLast?_singleton, Option.some.injEq, List.length_append, List.length_singleton]
  constructor
  · intro checked
    split at checked
    case isFalse => cases checked
    rename_i sound
    cases checked
    exact ⟨by rw [sound.2], by omega⟩
  · rintro ⟨same, nonempty⟩
    obtain ⟨rfl, checksum⟩ := List.append_inj' same rfl
    rw [if_pos ⟨by omega, List.singleton_inj.mp checksum⟩]

/-- The payload that a character completes, if it passes the check. -/
def checkedBy (before : List Event) : Event → List (List UInt8)
  | .uart true _ => ((busFrame before).bind checkedFront).toList
  | .uart false _ | .main => []

/-- The payloads that pass the check. -/
def checked (events : List Event) : List (List UInt8) := Trace.traced checkedBy events

/-- The bytes that the frame of a payload takes on the serial line. -/
def frameSize (payload : List UInt8) : Nat := payload.length + 4

/-- The bytes of all checked frames. -/
def load (events : List Event) : Nat := ((checked events).map frameSize).sum

/-- The steps of the main loop among the events. -/
def mains (events : List Event) : Nat := (events.filter (fun e => e matches .main)).length

/-- What an event brings and what it serves, in steps of the main loop. -/
def roundOf (before : List Event) : Event → Backlog.Round
  | .uart frameError data =>
      (3 * ((checkedBy before (.uart frameError data)).map frameSize).sum, 0)
  | .main => (0, 1)

def rounds (events : List Event) : List Backlog.Round :=
  Trace.traced (fun before e => [roundOf before e]) events

theorem checked_snoc (events : List Event) (e : Event) :
    checked (events ++ [e]) = checked events ++ checkedBy events e := Trace.traced_snoc events e

theorem rounds_snoc (events : List Event) (e : Event) :
    rounds (events ++ [e]) = rounds events ++ [roundOf events e] := Trace.traced_snoc events e

theorem length_rounds (events : List Event) : (rounds events).length = events.length := by
  induction events using List.reverseRecOn with
  | nil => rfl
  | append_singleton events e ih =>
      rw [rounds_snoc, List.length_append, List.length_append, ih]
      rfl

theorem arrivals_rounds (events : List Event) :
    Backlog.arrivals (rounds events) = 3 * load events := by
  induction events using List.reverseRecOn with
  | nil => rfl
  | append_singleton events e ih =>
      unfold load at ih ⊢
      rw [rounds_snoc, Backlog.arrivals_snoc, ih, checked_snoc, List.map_append, List.sum_append,
        Nat.mul_add]
      cases e with
      | uart frameError data => rfl
      | main => rfl

theorem services_rounds (events : List Event) : Backlog.services (rounds events) = mains events := by
  induction events using List.reverseRecOn with
  | nil => rfl
  | append_singleton events e ih =>
      unfold mains at ih ⊢
      rw [rounds_snoc, Backlog.services_snoc, ih, List.filter_append, List.length_append]
      cases e with
      | uart frameError data => rfl
      | main => rfl

/-- How far the ring is from being empty: three steps for each byte, less those that have been
    taken for the first. -/
def remaining (s : Link) : Nat :=
  match s.pc with
  | .test => 3 * s.framer.ring.length
  | .write => 3 * s.framer.ring.length - 1
  | .advance => 3 * s.framer.ring.length - 2

/-- The advance of the read position takes a byte from the ring. -/
theorem advance_ring {f : Framer} (h : f.InBounds) (busy : f.ring ≠ []) :
    f.ring.length = ({ f with
      txReadPos := if f.txReadPos + 1 ≥ 250 then 0 else f.txReadPos + 1 } : Framer).ring.length + 1 := by
  rw [ring_eq_cons h busy, List.length_cons]
  simp only [ring, toNat_advance h.read]
  rfl

/-- A step of the main loop comes nearer to the empty ring. -/
theorem main_remaining {s s' : Link} (inv : s.Inv) (next : s.step .main = some s') :
    s'.remaining = s.remaining - 1 ∧ s'.accepted = s.accepted := by
  obtain ⟨⟨framer, pc, byte⟩, moved, next⟩ := Option.bind_eq_some_iff.mp next
  cases next
  refine ⟨?_, rfl⟩
  unfold remaining
  cases at' : s.pc with
  | test =>
      rw [at'] at moved
      cases moved
      dsimp only
      by_cases has : s.framer.txWritePos ≠ s.framer.txReadPos
      · rw [if_pos has]
      · rw [if_neg has, (ring_eq_nil_iff inv.inBounds).mpr (not_not.mp has)]
        rfl
  | write =>
      rw [at'] at moved
      obtain ⟨byte', -, same⟩ := Option.bind_eq_some_iff.mp moved
      cases same
      dsimp only
      omega
  | advance =>
      have shorter := advance_ring inv.inBounds (inv.busy (by rw [at']; decide))
      rw [at'] at moved
      cases moved
      dsimp only
      rw [shorter]
      exact (by omega : ∀ n, 3 * n = 3 * (n + 1) - 2 - 1) _

/-- What a character does: the payload that it completes is queued if there is room for it. -/
theorem uart_queued {s s' : Link} {before : List Event} {frameError : Bool} {data : UInt8}
    (inv : s.Inv) (buffered : Buffered s.framer (busFrame before))
    (next : s.step (.uart frameError data) = some s') :
    ∃ queued : Option (List UInt8), s'.accepted = s.accepted ++ queued.toList ∧ s'.pc = s.pc ∧
      s'.framer.ring.length = s.framer.ring.length + (queued.toList.map frameSize).sum ∧
      ∀ q, queued = some q ↔ q ∈ checkedBy before (.uart frameError data) ∧
        s.framer.ring.length + frameSize q < transmitBufSize := by
  obtain ⟨⟨f', queued⟩, received, next⟩ := Option.bind_eq_some_iff.mp next
  cases next
  obtain ⟨f'', queued', received', pushed, -⟩ := isrReceive_pushed inv.inBounds frameError data
  cases received.symm.trans received'
  obtain ⟨-, forwarded⟩ := isrReceive_buffered buffered received
  refine ⟨queued, rfl, rfl, ?_, fun q => ?_⟩
  · show f'.ring.length = _
    rw [pushed.ring, List.length_append]
    cases queued with
    | none => rfl
    | some q => simp [frameSize, IoHandler.frame]
  · rw [forwarded q]
    have size : recvBufSize = 64 := rfl
    -- with the checksum, the buffer holds one byte more than the payload
    have room {bytes : List UInt8} (frame : busFrame before = some bytes)
        (front : bytes.take recvBufSize = q ++ [calcChecksum q]) :
        s.framer.enoughTxSpace (s.framer.recvPos - 1) = true ↔
          s.framer.ring.length + frameSize q < transmitBufSize := by
      have length := length_received inv.inBounds
      have recv := inv.inBounds.recv
      rw [buffered.bytes bytes frame, front, List.length_append, List.length_singleton] at length
      have positive : 1 ≤ s.framer.recvPos := by
        rw [UInt8.le_iff_toNat_le]
        show 1 ≤ s.framer.recvPos.toNat
        omega
      have strip : (s.framer.recvPos - 1).toNat = q.length := by
        rw [UInt8.toNat_sub_of_le _ _ positive, ← length]
        rfl
      rw [enoughTxSpace_iff inv.inBounds (by omega), strip]
      unfold frameSize
      omega
    constructor
    · rintro ⟨rfl, bytes, frame, front, nonempty, space⟩
      refine ⟨?_, (room frame front).mp space⟩
      unfold checkedBy
      rw [frame, Option.bind_some, checkedFront_iff.mpr ⟨front, nonempty⟩]
      exact List.mem_singleton_self q
    · rintro ⟨complete, space⟩
      cases frameError with
      | false => cases complete
      | true =>
          obtain ⟨bytes, frame, passes⟩ := Option.bind_eq_some_iff.mp (Option.mem_toList.mp complete)
          obtain ⟨front, nonempty⟩ := checkedFront_iff.mp passes
          exact ⟨rfl, bytes, frame, front, nonempty, (room frame front).mpr space⟩

/-- The ring holds the bytes that are still to be sent. -/
theorem ring_remaining {s : Link} (inv : s.Inv) :
    s.framer.ring.length = (s.remaining + 2) / 3 := by
  unfold remaining
  cases pc : s.pc with
  | test =>
      dsimp only
      omega
  | write =>
      have some' := List.length_pos_iff.mpr (inv.busy (by rw [pc]; decide))
      dsimp only
      omega
  | advance =>
      have some' := List.length_pos_iff.mpr (inv.busy (by rw [pc]; decide))
      dsimp only
      omega

/-- A character makes the ring longer by the frame that it queues. -/
theorem remaining_grows {s s' : Link} (inv : s.Inv) {n : Nat} (pc : s'.pc = s.pc)
    (longer : s'.framer.ring.length = s.framer.ring.length + n) :
    s'.remaining = s.remaining + 3 * n := by
  unfold remaining
  rw [pc, longer]
  cases at' : s.pc with
  | test =>
      dsimp only
      omega
  | write =>
      have some' := List.length_pos_iff.mpr (inv.busy (by rw [at']; decide))
      dsimp only
      omega
  | advance =>
      have some' := List.length_pos_iff.mpr (inv.busy (by rw [at']; decide))
      dsimp only
      omega

/-- As long as the frames fit, all are queued and the ring is at the level of the queue; afterwards
    there is one less. -/
structure Follows (events : List Event) (s : Link) : Prop where
  inv : s.Inv
  buffered : Buffered s.framer (busFrame events)
  fits : Backlog.Fits 747 (rounds events) →
    s.accepted = checked events ∧ s.remaining = Backlog.level (rounds events)
  drops : ¬ Backlog.Fits 747 (rounds events) → s.accepted.length < (checked events).length

/-- At most one payload is complete. -/
theorem checkedBy_cases (before : List Event) (frameError : Bool) (data : UInt8) :
    checkedBy before (.uart frameError data) = [] ∨
      ∃ q, checkedBy before (.uart frameError data) = [q] := by
  cases frameError with
  | false => exact .inl rfl
  | true =>
      show ((busFrame before).bind checkedFront).toList = [] ∨
        ∃ q, ((busFrame before).bind checkedFront).toList = [q]
      cases (busFrame before).bind checkedFront with
      | none => exact .inl rfl
      | some q => exact .inr ⟨q, rfl⟩

theorem follows_main {events : List Event} {s s' : Link} (follows : Follows events s)
    (next : s.step .main = some s') (inv' : s'.Inv)
    (buffered' : Buffered s'.framer (busFrame (events ++ [.main]))) :
    Follows (events ++ [.main]) s' := by
  obtain ⟨nearer, accepted⟩ := main_remaining follows.inv next
  have same : checked (events ++ [.main]) = checked events :=
    (checked_snoc events .main).trans (List.append_nil _)
  have fits_iff : Backlog.Fits 747 (rounds (events ++ [.main])) ↔ Backlog.Fits 747 (rounds events) := by
    rw [rounds_snoc, Backlog.Fits.snoc_iff]
    exact ⟨And.left, fun fits => ⟨fits, fits.level_le⟩⟩
  refine ⟨inv', buffered', fun fits => ?_, fun exceeds => ?_⟩
  · obtain ⟨all, level⟩ := follows.fits (fits_iff.mp fits)
    refine ⟨by rw [accepted, all, same], ?_⟩
    rw [nearer, level, rounds_snoc, Backlog.level_snoc]
    rfl
  · rw [accepted, same]
    exact follows.drops (fun fits => exceeds (fits_iff.mpr fits))

theorem follows_uart {events : List Event} {s s' : Link} {frameError : Bool} {data : UInt8}
    (follows : Follows events s) (next : s.step (.uart frameError data) = some s') (inv' : s'.Inv)
    (buffered' : Buffered s'.framer (busFrame (events ++ [.uart frameError data]))) :
    Follows (events ++ [.uart frameError data]) s' := by
  obtain ⟨queued, accepted, pc, longer, queues⟩ := uart_queued follows.inv follows.buffered next
  have ring := ring_remaining follows.inv
  have remains := remaining_grows follows.inv pc longer
  have grown := checked_snoc events (.uart frameError data)
  have arrival : roundOf events (.uart frameError data) =
      (3 * ((checkedBy events (.uart frameError data)).map frameSize).sum, 0) := rfl
  have level : Backlog.level (rounds (events ++ [.uart frameError data])) =
      Backlog.level (rounds events) +
        3 * ((checkedBy events (.uart frameError data)).map frameSize).sum := by
    rw [rounds_snoc, Backlog.level_snoc, arrival]
    rfl
  have fits_iff : Backlog.Fits 747 (rounds (events ++ [.uart frameError data])) ↔
      Backlog.Fits 747 (rounds events) ∧ Backlog.level (rounds events) +
        3 * ((checkedBy events (.uart frameError data)).map frameSize).sum ≤ 747 := by
    rw [rounds_snoc, Backlog.Fits.snoc_iff, arrival]
  rcases checkedBy_cases events frameError data with none' | ⟨q, complete⟩
  · obtain rfl : queued = none := by
      rw [Option.eq_none_iff_forall_not_mem]
      intro q some'
      have member := ((queues q).mp some').1
      rw [none'] at member
      cases member
    rw [none'] at grown level fits_iff
    rw [List.append_nil] at grown
    rw [Option.toList_none, List.append_nil] at accepted
    refine ⟨inv', buffered', fun fits => ?_, fun exceeds => ?_⟩
    · obtain ⟨all, before⟩ := follows.fits (fits_iff.mp fits).1
      exact ⟨by rw [accepted, all, grown], by rw [remains, before, level]; rfl⟩
    · rw [accepted, grown]
      exact follows.drops (fun fits => exceeds (fits_iff.mpr ⟨fits, fits.level_le⟩))
  · rw [complete] at grown level fits_iff queues
    have size : ([q].map frameSize).sum = frameSize q := by simp
    rw [size] at level fits_iff
    have capacity : transmitBufSize = 250 := rfl
    by_cases room : s.framer.ring.length + frameSize q < transmitBufSize
    · obtain rfl : queued = some q := (queues q).mpr ⟨List.mem_singleton_self q, room⟩
      rw [Option.toList_some] at accepted remains
      refine ⟨inv', buffered', fun fits => ?_, fun exceeds => ?_⟩
      · obtain ⟨all, before⟩ := follows.fits (fits_iff.mp fits).1
        exact ⟨by rw [accepted, all, grown], by rw [remains, before, level, size]⟩
      · rw [accepted, grown, List.length_append, List.length_append]
        refine Nat.add_lt_add_right (follows.drops fun fits => exceeds (fits_iff.mpr ⟨fits, ?_⟩)) _
        rw [← (follows.fits fits).2]
        omega
    · obtain rfl : queued = none := by
        rw [Option.eq_none_iff_forall_not_mem]
        intro other some'
        obtain ⟨member, space⟩ := (queues other).mp some'
        cases List.mem_singleton.mp member
        exact room space
      rw [Option.toList_none, List.append_nil] at accepted
      refine ⟨inv', buffered', fun fits => ?_, fun _ => ?_⟩
      · obtain ⟨before, below⟩ := fits_iff.mp fits
        rw [← (follows.fits before).2] at below
        omega
      · rw [accepted, grown, List.length_append, List.length_singleton]
        by_cases before : Backlog.Fits 747 (rounds events)
        · rw [(follows.fits before).1]
          exact Nat.lt_succ_self _
        · exact Nat.lt_succ_of_lt (follows.drops before)

theorem run_follows (events : List Event) :
    ∃ s, start.run events = some s ∧ Follows events s := by
  induction events using List.reverseRecOn with
  | nil =>
      refine ⟨start, rfl, start_inv, start_buffered, fun _ => ⟨rfl, rfl⟩, fun exceeds => ?_⟩
      exact absurd (fun before round rest split => by simp [rounds] at split) exceeds
  | append_singleton events e ih =>
      obtain ⟨s, reached, follows⟩ := ih
      obtain ⟨s', stepped, inv'⟩ := step_inv follows.inv e
      have buffered' : Buffered s'.framer (busFrame (events ++ [e])) := by
        have next := (step_buffered follows.buffered follows.inv stepped).1
        simpa [busFrame] using next
      refine ⟨s', ?_, ?_⟩
      · unfold Link.run at reached ⊢
        rw [List.foldlM_append, reached]
        simpa using stepped
      · cases e with
        | uart frameError data => exact follows_uart follows stepped inv' buffered'
        | main => exact follows_main follows stepped inv' buffered'

/-- The first rounds are those of the first events. -/
theorem rounds_split {events : List Event} {first rest : List Backlog.Round}
    (split : rounds events = first ++ rest) :
    ∃ before after, events = before ++ after ∧ rounds before = first := by
  refine ⟨events.take first.length, events.drop first.length, (List.take_append_drop ..).symm, ?_⟩
  have part : rounds (events.take first.length) <+: rounds events :=
    Trace.traced_prefix (List.take_prefix ..)
  have whole := congrArg List.length split
  rw [length_rounds, List.length_append] at whole
  rw [List.prefix_iff_eq_take.mp part, length_rounds, List.length_take,
    Nat.min_eq_left (by omega), split, List.take_left]

theorem mains_append (before stretch : List Event) :
    mains (before ++ stretch) = mains before + mains stretch := by
  unfold mains
  rw [List.filter_append, List.length_append]

/-- No stretch of the events brings more bytes than the main loop can send meanwhile, and 249 that
    find room in the ring. -/
def Bearable (events : List Event) : Prop :=
  ∀ before stretch rest, events = before ++ stretch ++ rest →
    3 * load (before ++ stretch) ≤ 3 * load before + mains stretch + 3 * 249

/-- In terms of the rounds. -/
theorem bearable_iff (events : List Event) : Bearable events ↔
    ∀ first busy rest, rounds events = first ++ busy ++ rest →
      Backlog.arrivals busy ≤ Backlog.services busy + 747 := by
  have between {before stretch : List Event} {first busy : List Backlog.Round}
      (before' : rounds before = first) (whole : rounds (before ++ stretch) = first ++ busy) :
      3 * load (before ++ stretch) = 3 * load before + Backlog.arrivals busy ∧
        mains stretch = Backlog.services busy := by
    have arrivals := arrivals_rounds (before ++ stretch)
    have services := services_rounds (before ++ stretch)
    have front := arrivals_rounds before
    have front' := services_rounds before
    rw [whole, Backlog.arrivals_append] at arrivals
    rw [whole, Backlog.services_append, mains_append] at services
    rw [before'] at front front'
    omega
  constructor
  · intro bearable first busy rest split
    obtain ⟨whole, after, rfl, both⟩ := rounds_split split
    obtain ⟨before, stretch, rfl, front⟩ := rounds_split both
    obtain ⟨load, mains⟩ := between front both
    have bound := bearable before stretch after rfl
    omega
  · intro stretches before stretch rest split
    obtain ⟨busy, both⟩ : rounds before <+: rounds (before ++ stretch) :=
      Trace.traced_prefix (List.prefix_append _ _)
    obtain ⟨after, whole⟩ : rounds (before ++ stretch) <+: rounds events :=
      Trace.traced_prefix ⟨rest, split.symm⟩
    obtain ⟨load, mains⟩ := between rfl both.symm
    have bound := stretches (rounds before) busy after (by rw [both, whole])
    omega

/-- An event brings something or serves, but not both. -/
theorem rounds_cases {events : List Event} {round : Backlog.Round} (member : round ∈ rounds events) :
    round.1 = 0 ∨ round.2 = 0 := by
  obtain ⟨before, e, -, -, same⟩ := Trace.mem_traced.mp member
  cases List.mem_singleton.mp same
  cases e with
  | uart frameError data => exact .inr rfl
  | main => exact .inl rfl

theorem fits_iff_bearable (events : List Event) :
    Backlog.Fits 747 (rounds events) ↔ Bearable events := by
  rw [Backlog.fits_iff, bearable_iff]
  constructor
  · intro fits first busy rest split
    rcases List.eq_nil_or_concat' busy with rfl | ⟨busy, last, rfl⟩
    · exact Nat.zero_le _
    · have bound := fits first busy last rest (by rw [split]; simp)
      rw [Backlog.arrivals_snoc, Backlog.services_snoc]
      omega
  · intro stretches first busy round rest split
    have shorter := stretches first busy (round :: rest) split
    have longer := stretches first (busy ++ [round]) rest (by rw [split]; simp)
    rw [Backlog.arrivals_snoc, Backlog.services_snoc] at longer
    rcases rounds_cases (by rw [split]; simp : round ∈ rounds events) with nothing | nothing
    · omega
    · omega

/-- For every sequence of characters on the bus, in any interleaving with the steps of the main
    loop, all checked frames are queued exactly if the traffic is bearable. -/
theorem none_dropped_iff (events : List Event) :
    ∃ s, start.run events = some s ∧ (s.accepted = checked events ↔ Bearable events) := by
  obtain ⟨s, run, follows⟩ := run_follows events
  refine ⟨s, run, ?_⟩
  rw [← fits_iff_bearable]
  constructor
  · intro all
    by_contra exceeds
    exact Nat.lt_irrefl _ (all ▸ follows.drops exceeds)
  · exact fun fits => (follows.fits fits).1

/-- A frame with a payload of 62 bytes. -/
def longFrame : List Event :=
  List.replicate 63 (.uart false 0x00) ++ [.uart true 0x00]

/-- Without a step of the main loop, the fourth one does not fit. -/
example : ((start.run (.uart true 0x00 :: (longFrame ++ longFrame ++ longFrame ++ longFrame))).map
    (fun s => s.accepted.length)) = some 3 := by decide +kernel

end Link

end EmsCollector.Framer
