import EmsCollector.Framer.TxRing

/-!
# From the bus to the collector

The firmware with its main loop, and the serial line behind it, as one system: a received
character runs the interrupt to its end, and between two interrupts the main loop takes single
steps. What the collector's frame decoder makes of the line is what the interrupt accepted.
-/

namespace EmsCollector.Framer

/-- The payload an interrupt queues fits the frame format, and its frame is all that is added to
    the ring. -/
theorem endOfFrame_pushed {f : Framer} (h : f.InBounds) :
    ∃ f' queued, f.endOfFrame = some (f', queued) ∧
      Pushed f (queued.toList.flatMap IoHandler.frame) f' ∧
      ∀ p ∈ queued, 1 ≤ p.length ∧ p.length ≤ 63 := by
  unfold endOfFrame
  by_cases long : f.recvPos > 1
  case neg =>
    rw [if_neg long]
    exact ⟨f, none, rfl, ⟨h, by simp, rfl⟩, by simp⟩
  have size : recvBufSize = 64 := rfl
  have recv := h.recv
  have long' : 1 < f.recvPos.toNat := UInt8.lt_iff_toNat_lt.mp long
  have strip : (f.recvPos - 1).toNat = f.recvPos.toNat - 1 :=
    UInt8.toNat_sub_of_le _ _ (Nat.le_of_lt long')
  rw [if_pos long]
  generalize hg : ({ f with recvPos := f.recvPos - 1 } : Framer) = g
  have gPos : g.recvPos.toNat = f.recvPos.toNat - 1 := by rw [← hg]; exact strip
  have gBounds : g.InBounds := ⟨by omega, by rw [← hg]; exact h.write, by rw [← hg]; exact h.read⟩
  have gRing : g.ring = f.ring := by rw [← hg]; rfl
  have gRead : g.txReadPos = f.txReadPos := by rw [← hg]
  have bytes : g.recvBytes g.recvPos = some (g.recvBuffer.toList.take g.recvPos.toNat) := by
    unfold recvBytes
    rw [if_pos (by omega)]
  have inside : g.recvPos.toNat < recvBufSize := by omega
  simp only [bytes, Vector.getElem?_eq_getElem inside, Option.bind_eq_bind, Option.bind_some]
  generalize hp : g.recvBuffer.toList.take g.recvPos.toNat = payload
  have length : payload.length = g.recvPos.toNat := by rw [← hp]; simp; omega
  split
  next accepted =>
    have room := (enoughTxSpace_iff gBounds (by omega)).mp accepted.2
    obtain ⟨f1, f2, sync, data, pushed⟩ := txFrame_pushed gBounds payload (by omega)
    refine ⟨f2, some payload, by simp [sync, data], ?_, ?_⟩
    · refine ⟨pushed.inBounds, ?_, pushed.readPos.trans gRead⟩
      rw [pushed.ring, gRing]
      simp
    · rintro p ⟨⟩
      omega
  next => exact ⟨g, none, rfl, ⟨gBounds, by simp [gRing], gRead⟩, by simp⟩

/-- What the interrupt has kept of the current bus frame. -/
def received (f : Framer) : List UInt8 := f.recvBuffer.toList.take f.recvPos.toNat

theorem length_received {f : Framer} (h : f.InBounds) : f.received.length = f.recvPos.toNat := by
  have recv := h.recv
  simp [received]
  omega

/-- The payload that is queued at the end of a frame is what the buffer holds in front of its
    own checksum, provided there is room. -/
theorem endOfFrame_queued {f f' : Framer} {queued : Option (List UInt8)} (h : f.InBounds)
    (ended : f.endOfFrame = some (f', queued)) (q : List UInt8) :
    queued = some q ↔ f.received = q ++ [calcChecksum q] ∧ 1 ≤ q.length ∧
      f.enoughTxSpace (f.recvPos - 1) = true := by
  have length := length_received h
  unfold endOfFrame at ended
  by_cases long : f.recvPos > 1
  case neg =>
    rw [if_neg long] at ended
    cases ended
    have short : f.recvPos.toNat ≤ 1 := by
      by_contra more
      exact long (UInt8.lt_iff_toNat_lt.mpr (Nat.not_le.mp more))
    constructor
    · intro wrong
      cases wrong
    · rintro ⟨split, nonempty, -⟩
      rw [split, List.length_append, List.length_singleton] at length
      omega
  have recv := h.recv
  have long' : 1 < f.recvPos.toNat := UInt8.lt_iff_toNat_lt.mp long
  obtain ⟨n, pos⟩ : ∃ n, f.recvPos.toNat = n + 1 := ⟨f.recvPos.toNat - 1, by omega⟩
  have strip : (f.recvPos - 1).toNat = n := by
    rw [UInt8.toNat_sub_of_le f.recvPos 1 (Nat.le_of_lt long'), pos]
    rfl
  have inside : n < recvBufSize := by omega
  have split : f.received = f.recvBuffer.toList.take n ++ [f.recvBuffer[n]] := by
    rw [received, pos, List.take_add_one]
    simp [inside]
  rw [if_pos long] at ended
  simp only [recvBytes, strip, Nat.le_of_lt inside, if_true,
    Vector.getElem?_eq_getElem inside, Option.bind_eq_bind, Option.bind_some] at ended
  rw [split]
  generalize f.recvBuffer.toList.take n = payload at ended split
  generalize f.recvBuffer[n] = last at ended split
  rw [split, List.length_append, List.length_singleton] at length
  split at ended
  next accepted =>
    obtain ⟨f₁, -, ended⟩ := Option.bind_eq_some_iff.mp ended
    obtain ⟨f₂, -, ended⟩ := Option.bind_eq_some_iff.mp ended
    cases ended
    constructor
    · rintro ⟨⟩
      exact ⟨by rw [accepted.1], by omega, accepted.2⟩
    · rintro ⟨same, -, -⟩
      rw [(List.append_inj' same rfl).1]
  next refused =>
    cases ended
    constructor
    · intro wrong
      cases wrong
    · rintro ⟨same, -, room⟩
      obtain ⟨rfl, checksum⟩ := List.append_inj' same rfl
      exact absurd ⟨(List.singleton_inj.mp checksum).symm, room⟩ refused

theorem storeByte_pushed {f : Framer} (h : f.InBounds) (data : UInt8) :
    ∃ f', f.storeByte data = some f' ∧ Pushed f [] f' := by
  unfold storeByte
  by_cases room : f.recvPos < 64
  · have size : recvBufSize = 64 := rfl
    have room' : f.recvPos.toNat < 64 := UInt8.lt_iff_toNat_lt.mp room
    have sum : (f.recvPos + 1).toNat = f.recvPos.toNat + 1 := by
      rw [UInt8.toNat_add]
      have : (1 : UInt8).toNat = 1 := rfl
      omega
    rw [if_pos room, dif_pos room']
    refine ⟨_, rfl, ⟨⟨?_, h.write, h.read⟩, ?_, rfl⟩⟩
    · simp only [sum]
      omega
    · simp only [List.append_nil]
      rfl
  · rw [if_neg room]
    exact ⟨f, rfl, ⟨h, by simp, rfl⟩⟩

theorem receive_pushed {f : Framer} (h : f.InBounds) (frameError : Bool) (data : UInt8) :
    ∃ f' queued, f.receive frameError data = some (f', queued) ∧
      Pushed f (queued.toList.flatMap IoHandler.frame) f' ∧
      ∀ p ∈ queued, 1 ≤ p.length ∧ p.length ≤ 63 := by
  unfold receive
  cases f.recvValid with
  | false => exact ⟨f, none, rfl, ⟨h, by simp, rfl⟩, by simp⟩
  | true =>
      cases frameError with
      | true => exact endOfFrame_pushed h
      | false =>
          obtain ⟨g, stored, pushed⟩ := storeByte_pushed h data
          exact ⟨g, none, by simp [stored], by simpa using pushed, by simp⟩

/-- One received character: no access out of bounds, and only whole frames enter the ring. -/
theorem isrReceive_pushed {f : Framer} (h : f.InBounds) (frameError : Bool) (data : UInt8) :
    ∃ f' queued, f.isrReceive frameError data = some (f', queued) ∧
      Pushed f (queued.toList.flatMap IoHandler.frame) f' ∧
      ∀ p ∈ queued, 1 ≤ p.length ∧ p.length ≤ 63 := by
  obtain ⟨g, queued, received, pushed, sizes⟩ := receive_pushed h frameError data
  unfold isrReceive
  rw [received]
  cases frameError with
  | false => exact ⟨g, queued, rfl, pushed, sizes⟩
  | true =>
      exact ⟨{ g with recvPos := 0, recvValid := true }, queued, rfl,
        ⟨⟨Nat.zero_le _, pushed.inBounds.write, pushed.inBounds.read⟩, pushed.ring, pushed.readPos⟩,
        sizes⟩

/-- The interrupt queues a payload only at the end of a frame. -/
theorem isrReceive_queued {f f' : Framer} {queued : Option (List UInt8)} (h : f.InBounds)
    {frameError : Bool} {data : UInt8} (taken : f.isrReceive frameError data = some (f', queued))
    (q : List UInt8) : queued = some q ↔ frameError = true ∧ f.recvValid = true ∧
      f.received = q ++ [calcChecksum q] ∧ 1 ≤ q.length ∧
      f.enoughTxSpace (f.recvPos - 1) = true := by
  unfold isrReceive at taken
  obtain ⟨⟨g, queued'⟩, ended, taken⟩ := Option.bind_eq_some_iff.mp taken
  have same : queued' = queued := by
    cases frameError <;> cases taken <;> rfl
  subst same
  unfold receive at ended
  cases valid : f.recvValid with
  | false =>
      rw [valid] at ended
      cases ended
      simp
  | true =>
      rw [valid, if_pos rfl] at ended
      cases frameError with
      | false =>
          obtain ⟨stored, -, pair⟩ := Option.map_eq_some_iff.mp ended
          cases pair
          simp
      | true => simp [endOfFrame_queued h ended q]

/-- The firmware, its main loop, the bytes it has put on the serial line and the payloads its
    interrupt has queued so far. -/
structure Link where
  framer : Framer
  pc : MainPc
  serial : List UInt8
  accepted : List (List UInt8)

namespace Link

/-- The interrupt for one received character, or one step of the main loop. -/
inductive Event where
  | uart (frameError : Bool) (data : UInt8)
  | main

def start : Link := { framer := Framer.start, pc := .test, serial := [], accepted := [] }

def step (s : Link) : Event → Option Link
  | .uart frameError data => do
      let (framer, queued) ← s.framer.isrReceive frameError data
      some { s with framer := framer, accepted := s.accepted ++ queued.toList }
  | .main => do
      let (framer, pc, byte) ← s.framer.mainStep s.pc
      some { s with framer := framer, pc := pc, serial := s.serial ++ byte.toList }

/-- Any sequence of received characters, in any interleaving with the main loop. -/
def run (s : Link) (events : List Event) : Option Link := events.foldlM step s

/-- The bytes of the ring that are not on the line yet: between the read of a byte and the
    advance of the read position, the byte at that position is already out. -/
def pending (s : Link) : List UInt8 :=
  match s.pc with
  | .advance => s.framer.ring.drop 1
  | _ => s.framer.ring

structure Inv (s : Link) : Prop where
  inBounds : s.framer.InBounds
  busy : s.pc ≠ .test → s.framer.ring ≠ []
  line : s.serial ++ s.pending = s.accepted.flatMap IoHandler.frame
  sizes : ∀ p ∈ s.accepted, 1 ≤ p.length ∧ p.length ≤ 63

theorem start_inv : start.Inv :=
  ⟨start_inBounds, by simp [start], by decide, by simp [start]⟩

theorem ring_eq_cons {f : Framer} (h : f.InBounds) (busy : f.ring ≠ []) :
    f.ring = f.txCell f.txReadPos.toNat ::
      Ring.contents transmitBufSize f.txCell
        (Ring.next transmitBufSize f.txReadPos.toNat) f.txWritePos.toNat := by
  refine Ring.contents_pop h.read h.write ?_
  intro equal
  exact busy ((ring_eq_nil_iff h).mpr (UInt8.toNat_inj.mp equal))

theorem step_uart {s : Link} (inv : s.Inv) (frameError : Bool) (data : UInt8) :
    ∃ s', s.step (.uart frameError data) = some s' ∧ s'.Inv := by
  obtain ⟨f', queued, received, pushed, sizes⟩ := isrReceive_pushed inv.inBounds frameError data
  refine ⟨{ s with framer := f', accepted := s.accepted ++ queued.toList },
    by simp [step, received], pushed.inBounds, ?_, ?_, ?_⟩
  · intro pc empty
    rw [pushed.ring] at empty
    exact inv.busy pc (List.append_eq_nil_iff.mp empty).1
  · have grown : (match s.pc with
        | .advance => f'.ring.drop 1
        | _ => f'.ring) = s.pending ++ queued.toList.flatMap IoHandler.frame := by
      unfold pending
      rw [pushed.ring]
      cases pc : s.pc with
      | test => rfl
      | write => rfl
      | advance =>
          have := List.length_pos_iff.mpr (inv.busy (by simp [pc]))
          exact List.drop_append_of_le_length (by omega)
    simp only [pending, grown, List.flatMap_append, ← inv.line, List.append_assoc]
  · intro p member
    rcases List.mem_append.mp member with old | new
    · exact inv.sizes p old
    · exact sizes p (Option.mem_toList.mp new)

theorem step_main {s : Link} (inv : s.Inv) : ∃ s', s.step .main = some s' ∧ s'.Inv := by
  obtain ⟨inBounds, busy, line, sizes⟩ := inv
  cases pc : s.pc with
  | test =>
      refine ⟨{ s with pc := if s.framer.txWritePos ≠ s.framer.txReadPos then .write else .test },
        by simp [step, mainStep, pc], inBounds, ?_, ?_, sizes⟩
      · simp only
        split
        next has => exact fun _ empty => has ((ring_eq_nil_iff inBounds).mp empty)
        next => exact fun wrong => absurd rfl wrong
      · simp only [pending, pc] at line ⊢
        split
        next advance => split at advance <;> cases advance
        next => exact line
  | write =>
      have head := ring_eq_cons inBounds (busy (by simp [pc]))
      have read : s.framer.txBuffer[s.framer.txReadPos.toNat]? =
          some (s.framer.txCell s.framer.txReadPos.toNat) := by
        simp [txCell, inBounds.read]
      refine ⟨{ s with
          pc := .advance
          serial := s.serial ++ [s.framer.txCell s.framer.txReadPos.toNat] },
        by simp [step, mainStep, pc, read], inBounds, fun _ => busy (by simp [pc]), ?_, sizes⟩
      rw [← line]
      simp only [pending, pc, List.append_assoc]
      rw [head]
      rfl
  | advance =>
      have head := ring_eq_cons inBounds (busy (by simp [pc]))
      refine ⟨{ s with
          pc := .test
          framer := { s.framer with
            txReadPos := if s.framer.txReadPos + 1 ≥ 250 then 0 else s.framer.txReadPos + 1 } },
        by simp [step, mainStep, pc], ⟨inBounds.recv, inBounds.write, ?_⟩,
        fun wrong => absurd rfl wrong, ?_, sizes⟩
      · simp only [toNat_advance inBounds.read]
        exact Ring.next_lt (by decide) _
      · rw [← line]
        simp only [pending, pc]
        rw [head, List.drop_one, List.tail_cons]
        simp only [ring, toNat_advance inBounds.read]
        rfl

theorem step_inv {s : Link} (inv : s.Inv) (event : Event) :
    ∃ s', s.step event = some s' ∧ s'.Inv := by
  cases event with
  | uart frameError data => exact step_uart inv frameError data
  | main => exact step_main inv

theorem run_inv {s : Link} (inv : s.Inv) (events : List Event) :
    ∃ s', s.run events = some s' ∧ s'.Inv := by
  induction events generalizing s with
  | nil => exact ⟨s, rfl, inv⟩
  | cons event events ih =>
      obtain ⟨t, stepped, inv'⟩ := step_inv inv event
      obtain ⟨u, rest, inv''⟩ := ih inv'
      refine ⟨u, ?_, inv''⟩
      unfold run at rest ⊢
      rw [List.foldlM_cons, stepped]
      exact rest

/-- What the collector has decoded is a prefix of what the interrupt has queued, and all of it
    once the positions meet. -/
theorem decoded_of_inv {s : Link} (inv : s.Inv) (h : IoHandler) (fresh : h.Fresh)
    (reads : List (List UInt8)) (split : reads.flatten = s.serial) :
    (h.readAll reads).2 <+: s.accepted ∧
      (s.framer.txWritePos = s.framer.txReadPos → (h.readAll reads).2 = s.accepted) := by
  have sizes : ∀ p ∈ s.accepted, 1 ≤ p.length ∧ p.length ≤ 255 := by
    intro p member
    have := inv.sizes p member
    omega
  have whole := IoHandler.readComplete_frames h fresh s.accepted sizes
  have part : s.serial <+: s.accepted.flatMap IoHandler.frame := ⟨s.pending, inv.line⟩
  rw [IoHandler.readAll_eq_readComplete, split]
  refine ⟨?_, ?_⟩
  · have := IoHandler.readComplete_prefix h part
    rwa [whole] at this
  · intro drained
    have empty := (ring_eq_nil_iff inv.inBounds).mpr drained
    have none : s.pending = [] := by
      unfold pending
      split <;> simp [empty]
    have line := inv.line
    rw [none, List.append_nil] at line
    rw [line, whole]

/-- The character of `e` ends a bus frame whose last byte is the checksum of the bytes `q` before it,
    and the ring has room for `q`: the interrupt accepts `q`. -/
structure Accepts (s : Link) (e : Event) (q : List UInt8) : Prop where
  ends : ∃ data, e = .uart true data
  valid : s.framer.recvValid = true
  checked : s.framer.received = q ++ [calcChecksum q]
  nonempty : 1 ≤ q.length
  room : s.framer.enoughTxSpace (s.framer.recvPos - 1) = true

/-- What an event adds to the accepted payloads. -/
theorem step_accepted {s s' : Link} {e : Event} (inv : s.Inv) (next : s.step e = some s') :
    ∃ new : Option (List UInt8), s'.accepted = s.accepted ++ new.toList ∧
      ∀ q, new = some q ↔ s.Accepts e q := by
  cases e with
  | uart frameError data =>
      obtain ⟨⟨framer, queued⟩, taken, next⟩ := Option.bind_eq_some_iff.mp next
      cases next
      refine ⟨queued, rfl, fun q => (isrReceive_queued inv.inBounds taken q).trans ⟨?_, ?_⟩⟩
      · rintro ⟨rfl, valid, checked, nonempty, room⟩
        exact ⟨⟨data, rfl⟩, valid, checked, nonempty, room⟩
      · rintro ⟨⟨data', ends⟩, valid, checked, nonempty, room⟩
        cases ends
        exact ⟨rfl, valid, checked, nonempty, room⟩
  | main =>
      obtain ⟨⟨framer, pc, byte⟩, -, next⟩ := Option.bind_eq_some_iff.mp next
      cases next
      refine ⟨none, (List.append_nil _).symm, fun q => iff_of_false nofun ?_⟩
      rintro ⟨⟨data, ends⟩, -⟩
      cases ends

/-- Framer to collector: whatever arrives on the bus and however the interrupt falls between the
    steps of the main loop, no access leaves a buffer, the accepted payloads are those of the bus
    frames with the right checksum that end while the ring has room, the decoder delivers a prefix
    of them, and the positions meet only when every queued byte is on the line; the 8-bit space
    test is the exact comparison for every length the interrupt can ask for. -/
theorem framer_to_collector (events : List Event) :
    ∃ s, start.run events = some s ∧
      (∀ before e after, events = before ++ e :: after → ∃ t t', start.run before = some t ∧
        t.step e = some t' ∧ ∃ new : Option (List UInt8),
          t'.accepted = t.accepted ++ new.toList ∧ ∀ q, new = some q ↔ t.Accepts e q) ∧
      (∀ (h : IoHandler) (reads : List (List UInt8)), h.Fresh → reads.flatten = s.serial →
        (h.readAll reads).2 <+: s.accepted ∧
        (s.framer.txWritePos = s.framer.txReadPos → (h.readAll reads).2 = s.accepted)) ∧
      (s.framer.txWritePos = s.framer.txReadPos →
        s.serial = s.accepted.flatMap IoHandler.frame) ∧
      s.framer.InBounds ∧
      ∀ needed : UInt8, needed.toNat < recvBufSize →
        (s.framer.enoughTxSpace needed = true ↔
          s.framer.ring.length + needed.toNat + 5 ≤ transmitBufSize) := by
  obtain ⟨s, run, inv⟩ := run_inv start_inv events
  refine ⟨s, run, ?_, fun h reads fresh split => decoded_of_inv inv h fresh reads split, ?_,
    inv.inBounds, ?_⟩
  · rintro before e after rfl
    obtain ⟨t, part, inv'⟩ := run_inv start_inv before
    obtain ⟨t', stepped, -⟩ := step_inv inv' e
    exact ⟨t, t', part, stepped, step_accepted inv' stepped⟩
  · intro drained
    have empty := (ring_eq_nil_iff inv.inBounds).mpr drained
    have line := inv.line
    unfold pending at line
    split at line <;> simpa [empty] using line
  · intro needed short
    have size : recvBufSize = 64 := rfl
    exact enoughTxSpace_iff inv.inBounds (by omega)

end Link

end EmsCollector.Framer
