import EmsCollector.Collector.MainProof.Ports
import EmsCollector.Collector.TcpHandlerProof.Watchdog

/-!
# The sessions of a TCP target

The collector and its TCP handler: what the handler reads goes to the decoder, and when it closes,
the session of the collector ends; after a while `main` makes a new handler. A session ends for no
other reason than a signal, a failure of the line, or a silence of two minutes, and it always ends
if one is found.
-/

namespace EmsCollector

/-- The collector, and the handler of its latest session. -/
structure TcpCollector (κ δ : Type) where
  collector : Collector κ δ
  line : TcpHandler

namespace TcpCollector

open TcpHandler (silences Guarded)

/-- An event of the handler, of the ports, a signal, or a new handler; `resolved` says whether the
    host is known when it is made. -/
inductive Event (κ δ : Type) where
  | line (e : TcpHandler.Event)
  | commands (e : System.Event κ)
  | data (e : DataHandler.Event δ)
  | signal
  | retry (resolved : Bool) (length : Nat) (checkSum : UInt8)

/-- What the decoder gets from an event of the handler. -/
def reads {κ δ : Type} : TcpHandler.Event → List (Collector.Event κ δ)
  | .read _ (some bytes) => [.read bytes]
  | _ => []

/-- The session ends with its handler. -/
def closing {κ δ : Type} (closed : Bool) : List (Collector.Event κ δ) :=
  if closed then [.closed] else []

variable {κ δ : Type} [DecidableEq κ] [DecidableEq δ]

/-- The collector takes several events at once. -/
def take (w : Surroundings) (setup : Setup) (c : Collector κ δ) (es : List (Collector.Event κ δ)) :
    Option (Collector κ δ) := es.foldlM (Collector.step w setup) c

def step (w : Surroundings) (setup : Setup) (c : TcpCollector κ δ) :
    Event κ δ → Option (TcpCollector κ δ)
  | .line e => do
      let line ← c.line.step e
      let collector ← take w setup c.collector (reads e ++ closing line.stopped)
      some { collector, line }
  | .commands e => do
      let collector ← take w setup c.collector [.commands e]
      some { c with collector }
  | .data e => do
      let collector ← take w setup c.collector [.data e]
      some { c with collector }
  | .signal => do
      let collector ← take w setup c.collector [.signal]
      some { collector, line := { c.line with stopped := true } }
  | .retry resolved length checkSum => do
      let collector ← take w setup c.collector (.retry length checkSum :: closing !resolved)
      some { collector, line := .new resolved }

/-- The program with its first session, which is over at once if the host is not known. -/
def start (setup : Setup) (database : Database) (resolved : Bool) (length : Nat)
    (checkSum : UInt8) : TcpCollector κ δ :=
  let collector := Collector.start setup database length checkSum
  { collector := if resolved then collector else { collector with session := none }
    line := .new resolved }

/-- The program as a transition system. -/
def system (w : Surroundings) (setup : Setup) (κ δ : Type) [DecidableEq κ] [DecidableEq δ] :
    LTS (TcpCollector κ δ) (Event κ δ) := .ofOption (step w setup)

/-- What an event is to the collector. -/
def toCollector : Event κ δ → List (Collector.Event κ δ)
  | .line e => reads e ++ closing e.closes
  | .commands e => [.commands e]
  | .data e => [.data e]
  | .signal => [.signal]
  | .retry resolved length checkSum => .retry length checkSum :: closing !resolved

/-- A session as seen from outside: whether its host was known, and what has happened on its
    line. -/
structure Session where
  resolved : Bool
  line : List TcpHandler.Event

/-- The line of the session is gone. -/
def Session.Lost (session : Session) : Prop :=
  session.resolved = false ∨ TcpHandler.Closed session.line

def Session.next (session : Session) : Event κ δ → Session
  | .line e => { session with line := session.line ++ [e] }
  | .retry resolved _ _ => ⟨resolved, []⟩
  | _ => session

/-- The latest session. -/
def latest (resolved : Bool) (es : List (Event κ δ)) : Session :=
  es.foldl Session.next ⟨resolved, []⟩

end TcpCollector

namespace Collector

variable {κ δ : Type} [DecidableEq κ] [DecidableEq δ] {w : Surroundings} {setup : Setup}
  {c c' : Collector κ δ} {e : Event κ δ}

/-- An event within a session leaves the session open. -/
theorem step_within (within : e.within = true) (next : step w setup c e = some c') :
    c.session.isSome = true ∧ c'.session.isSome = true ∧ c'.running = c.running := by
  cases e with
  | read bytes =>
      obtain ⟨session, current, next⟩ := Option.bind_eq_some_iff.mp next
      obtain ⟨-, next⟩ := Option.ite_none_right_eq_some.mp next
      obtain ⟨taken, -, next⟩ := Option.bind_eq_some_iff.mp next
      cases next
      exact ⟨Option.isSome_of_mem current, rfl, rfl⟩
  | commands e =>
      obtain ⟨session, current, next⟩ := Option.bind_eq_some_iff.mp next
      obtain ⟨commands, -, next⟩ := Option.bind_eq_some_iff.mp next
      obtain ⟨e, -, next⟩ := Option.bind_eq_some_iff.mp next
      obtain ⟨commands', -, next⟩ := Option.bind_eq_some_iff.mp next
      cases next
      exact ⟨Option.isSome_of_mem current, rfl, rfl⟩
  | data e =>
      obtain ⟨session, current, next⟩ := Option.bind_eq_some_iff.mp next
      obtain ⟨data, -, next⟩ := Option.bind_eq_some_iff.mp next
      obtain ⟨e, -, next⟩ := Option.bind_eq_some_iff.mp next
      obtain ⟨data', -, next⟩ := Option.bind_eq_some_iff.mp next
      cases next
      exact ⟨Option.isSome_of_mem current, rfl, rfl⟩
  | closed => cases within
  | signal => cases within
  | retry length checkSum => cases within

theorem step_closed (next : step w setup c .closed = some c') :
    c'.session = none ∧ c'.running = c.running := by
  obtain ⟨session, -, next⟩ := Option.map_eq_some_iff.mp next
  cases next
  exact ⟨rfl, rfl⟩

end Collector

namespace TcpCollector

open TcpHandler (silences Guarded)

variable {κ δ : Type} [DecidableEq κ] [DecidableEq δ] {w : Surroundings} {setup : Setup}
  {c c' : TcpCollector κ δ} {session : Session} {collector collector' : Collector κ δ}

omit [DecidableEq κ] [DecidableEq δ] in
theorem latest_snoc (resolved : Bool) (es : List (Event κ δ)) (e : Event κ δ) :
    latest resolved (es ++ [e]) = (latest resolved es).next e := by simp [latest]

/-- The collector takes the events of a list as steps of its own. -/
theorem take_run {es : List (Collector.Event κ δ)}
    (took : take w setup collector es = some collector') :
    (Collector.system w setup κ δ).Run (fun _ _ => True) collector es collector' := by
  unfold take at took
  exact .ofFold (by simpa only [if_true] using took)

/-- What is read leaves the session open, and closing ends it. -/
theorem take_line {e : TcpHandler.Event} {closed : Bool}
    (took : take w setup collector (reads e ++ closing closed) = some collector')
    (current : collector.session.isSome = true) :
    collector'.session.isSome = !closed ∧ collector'.running = collector.running := by
  unfold take at took
  rw [List.foldlM_append] at took
  obtain ⟨middle, read, took⟩ := Option.bind_eq_some_iff.mp took
  have kept : middle.session.isSome = true ∧ middle.running = collector.running := by
    unfold reads at read
    split at read
    · rw [List.foldlM_cons] at read
      obtain ⟨after, step, read⟩ := Option.bind_eq_some_iff.mp read
      cases read
      exact (Collector.step_within rfl step).2
    · cases read
      exact ⟨current, rfl⟩
  cases closed with
  | false =>
      cases took
      exact kept
  | true =>
      rw [show closing true = [Collector.Event.closed] from rfl, List.foldlM_cons] at took
      obtain ⟨after, step, took⟩ := Option.bind_eq_some_iff.mp took
      cases took
      obtain ⟨ended, running⟩ := Collector.step_closed step
      rw [ended, running]
      exact ⟨rfl, kept.2⟩

/-- The session of the collector and its handler end together. -/
structure Inv (c : TcpCollector κ δ) (session : Session) : Prop where
  together : c.collector.session.isSome = !c.line.stopped
  stopped : c.line.stopped = true ↔ c.collector.running = false ∨ session.Lost
  guarded : c.line.stopped = false → c.line.Guarded session.line

omit [DecidableEq κ] [DecidableEq δ] in
theorem start_inv (database : Database) (resolved : Bool) (length : Nat) (checkSum : UInt8) :
    (start setup database resolved length checkSum : TcpCollector κ δ).Inv ⟨resolved, []⟩ := by
  cases resolved with
  | true => exact ⟨rfl, by simp [start, Collector.start, TcpHandler.new, Session.Lost],
      fun _ => TcpHandler.new_guarded⟩
  | false => exact ⟨rfl, by simp [start, TcpHandler.new, TcpHandler.doClose, Session.Lost],
      fun runs => by cases runs⟩

/-- An event of the ports changes neither. -/
theorem take_port {e : Collector.Event κ δ} (within : e.within = true)
    (took : take w setup collector [e] = some collector') :
    collector'.session.isSome = collector.session.isSome ∧
      collector'.running = collector.running := by
  unfold take at took
  rw [List.foldlM_cons] at took
  obtain ⟨after, step, took⟩ := Option.bind_eq_some_iff.mp took
  cases took
  obtain ⟨current, current', running⟩ := Collector.step_within within step
  exact ⟨current'.trans current.symm, running⟩

omit [DecidableEq κ] [DecidableEq δ] in
theorem Inv.port (inv : c.Inv session) (together : collector.session.isSome = c.collector.session.isSome)
    (running : collector.running = c.collector.running) :
    Inv { c with collector } session where
  together := together.trans inv.together
  stopped := by
    rw [running]
    exact inv.stopped
  guarded := inv.guarded

/-- A new handler. -/
theorem Inv.retry {resolved : Bool} {length : Nat} {checkSum : UInt8}
    (took : take w setup c.collector (.retry length checkSum :: closing !resolved) = some collector) :
    Inv { collector, line := .new resolved } ⟨resolved, []⟩ := by
  unfold take at took
  rw [List.foldlM_cons] at took
  obtain ⟨after, step, took⟩ := Option.bind_eq_some_iff.mp took
  obtain ⟨⟨running, -⟩, step⟩ := Option.ite_none_right_eq_some.mp step
  cases step
  cases resolved with
  | true =>
      cases took
      exact ⟨rfl, by simp [TcpHandler.new, Session.Lost, running], fun _ => TcpHandler.new_guarded⟩
  | false =>
      cases took
      exact ⟨rfl, by simp [TcpHandler.new, TcpHandler.doClose, Session.Lost],
        fun runs => by cases runs⟩

/-- An event of the handler: it closes with the session, or stays guarded. -/
theorem Inv.line {e : TcpHandler.Event} {line : TcpHandler} (inv : c.Inv session)
    (stepped : c.line.step e = some line)
    (took : take w setup c.collector (reads e ++ closing line.stopped) = some collector) :
    line.stopped = e.closes ∧ Inv { collector, line } { session with line := session.line ++ [e] } := by
  have runs : c.line.stopped = false := by
    by_contra stopped
    cases (TcpHandler.step_stopped (Bool.eq_true_of_not_eq_false stopped) e).symm.trans stepped
  obtain ⟨together, running⟩ := take_line took (by rw [inv.together, runs]; rfl)
  have after := (inv.guarded runs).step runs stepped
  have going : ¬ (c.collector.running = false ∨ session.Lost) := by
    rw [← inv.stopped, runs]
    exact Bool.false_ne_true
  have lost : Session.Lost { session with line := session.line ++ [e] } ↔ e.closes = true := by
    unfold Session.Lost at going ⊢
    rw [TcpHandler.closed_snoc, ← or_assoc]
    exact or_iff_right fun lost => going (.inr lost)
  have closed : line.stopped = e.closes := by
    cases closes : e.closes with
    | true => rwa [closes, if_pos rfl] at after
    | false =>
        rw [closes, if_neg Bool.false_ne_true] at after
        exact after.1
  refine ⟨closed, together, ?_, fun open' => ?_⟩
  · rw [lost, running, closed, or_iff_right fun ended => going (.inl ended)]
  · rw [← closed, if_neg (by rw [open']; exact Bool.false_ne_true)] at after
    exact after.2

theorem step_inv {e : Event κ δ} (inv : c.Inv session) (next : step w setup c e = some c') :
    c'.Inv (session.next e) ∧ take w setup c.collector (toCollector e) = some c'.collector := by
  cases e with
  | line e =>
      obtain ⟨line, stepped, next⟩ := Option.bind_eq_some_iff.mp next
      obtain ⟨collector, took, next⟩ := Option.bind_eq_some_iff.mp next
      cases next
      obtain ⟨closed, inv'⟩ := inv.line stepped took
      refine ⟨inv', ?_⟩
      rw [closed] at took
      exact took
  | commands e =>
      obtain ⟨collector, took, next⟩ := Option.bind_eq_some_iff.mp next
      cases next
      obtain ⟨together, running⟩ := take_port rfl took
      exact ⟨inv.port together running, took⟩
  | data e =>
      obtain ⟨collector, took, next⟩ := Option.bind_eq_some_iff.mp next
      cases next
      obtain ⟨together, running⟩ := take_port rfl took
      exact ⟨inv.port together running, took⟩
  | signal =>
      obtain ⟨collector, took, next⟩ := Option.bind_eq_some_iff.mp next
      cases next
      refine ⟨?_, took⟩
      unfold take at took
      rw [List.foldlM_cons] at took
      obtain ⟨after, step, took⟩ := Option.bind_eq_some_iff.mp took
      cases took
      obtain ⟨-, step⟩ := Option.ite_none_right_eq_some.mp step
      cases step
      exact ⟨rfl, by simp, fun runs => by cases runs⟩
  | retry resolved length checkSum =>
      obtain ⟨collector, took, next⟩ := Option.bind_eq_some_iff.mp next
      cases next
      exact ⟨.retry took, took⟩

/-- After any run with any number of sessions: the collector has taken the steps of a collector;
    its session is over exactly if a signal has come, the host was not known, or an event on the
    line has closed it; and the watchdog is about to close it exactly if the event loop has found
    that two minutes had passed since the line of this session was last heard. -/
theorem tcp_session_ends {database : Database} {resolved : Bool} {length : Nat} {checkSum : UInt8}
    {es : List (Event κ δ)} (run : (system w setup κ δ).Run (fun _ _ => True)
      (start setup database resolved length checkSum) es c) :
    (Collector.system w setup κ δ).Run (fun _ _ => True) (.start setup database length checkSum)
      (closing (!resolved) ++ es.flatMap toCollector) c.collector ∧
    (c.collector.session = none ↔ c.collector.running = false ∨ (latest resolved es).Lost) ∧
    ((step w setup c (.line .watchdogExpired)).isSome ↔
      c.collector.session.isSome ∧ silences (latest resolved es).line ≠ []) := by
  have both : c.Inv (latest resolved es) ∧
      (Collector.system w setup κ δ).Run (fun _ _ => True) (.start setup database length checkSum)
        (closing (!resolved) ++ es.flatMap toCollector) c.collector := by
    induction run with
    | nil =>
        refine ⟨start_inv database resolved length checkSum, ?_⟩
        cases resolved with
        | true => exact .nil
        | false => exact .snoc .nil trivial rfl
    | snoc _ _ next ih =>
        obtain ⟨inv, steps⟩ := ih
        obtain ⟨inv', took⟩ := step_inv inv next
        rw [latest_snoc, List.flatMap_append, ← List.append_assoc]
        exact ⟨inv', steps.append (by simpa using take_run took)⟩
  obtain ⟨inv, steps⟩ := both
  have ended : c.collector.session = none ↔ c.line.stopped = true := by
    rw [← Option.isNone_iff_eq_none, ← Option.not_isSome, inv.together]
    simp
  refine ⟨steps, ended.trans inv.stopped, ?_⟩
  by_cases stopped : c.line.stopped = true
  · have gone := ended.mpr stopped
    simp [step, TcpHandler.step_stopped stopped, gone]
  · have runs := Bool.eq_false_of_not_eq_true stopped
    have guarded := inv.guarded runs
    have current : c.collector.session.isSome = true := by rw [inv.together, runs, Bool.not_false]
    rw [← guarded.bites runs, and_iff_right current]
    cases bitten : c.line.step .watchdogExpired with
    | none => simp [step, bitten]
    | some line =>
        have closed : line.stopped = true := guarded.step runs bitten
        obtain ⟨session, there⟩ := Option.isSome_iff_exists.mp current
        simp [step, bitten, closed, take, reads, closing, Collector.step, there]

/-- The line is silent for two minutes, and heard again after the event loop has found it so. -/
def heardAgain : List (Event Unit Unit) :=
  [.line (.connected 0 false), .line (.poll (minutes 2)), .line (.read (minutes 2) (some [0xaa]))]

/-- The watchdog closes the session all the same. -/
theorem tcp_session_ends_silent :
    ∃ c : TcpCollector Unit Unit, c.collector.session.isSome = true ∧
      (step Collector.counted ⟨.tcp, true⟩ c (.line .watchdogExpired)).isSome = true := by
  let setup : Setup := ⟨.tcp, true⟩
  let last := (heardAgain.foldlM
    (fun (c : TcpCollector Unit Unit) e => if True then step Collector.counted setup c e else none)
    (start setup Collector.offline true 0 0)).get (by decide +kernel)
  have run : (system Collector.counted setup Unit Unit).Run (fun _ _ => True)
      (start setup Collector.offline true 0 0) heardAgain last :=
    .ofFold (Option.some_get (by decide +kernel)).symm
  have current : last.collector.session.isSome = true := by decide +kernel
  obtain ⟨-, -, bites⟩ := tcp_session_ends run
  exact ⟨last, current, bites.mpr ⟨current, by decide +kernel⟩⟩

end TcpCollector

end EmsCollector
