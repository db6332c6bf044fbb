import EmsCollector.Collector.TcpHandler
import EmsCollector.Misc.Trace

/-!
# When the watchdog bites

The waits, the expired ones and the aborted ones amount to one thing: the watchdog can close the
handler exactly if the event loop has looked at the clock two minutes or more after the line was
last heard. A read that completes later does not call it back.
-/

namespace EmsCollector.TcpHandler

/-- An event by which the line is heard: it is connected, or a read brings something. -/
def Event.hears : Event → Option Time
  | .connected now false => some now
  | .read now (some _) => some now
  | _ => none

/-- When the line was last heard. -/
def heard (es : List Event) : Option Time := (es.filterMap Event.hears).getLast?

/-- The silence that the event loop finds when it looks at the clock. -/
def silence (before : List Event) : Event → List Time
  | .poll now => (heard before).toList.filter fun last => last + minutes 2 ≤ now
  | _ => []

/-- The silences that have been found. -/
def silences (es : List Event) : List Time := Trace.traced silence es

/-- An event that closes the handler. -/
def Event.closes : Event → Bool
  | .connected _ error => error
  | .read _ bytes => bytes.isNone
  | .watchdogExpired => true
  | .poll _ | .watchdogAborted => false

theorem heard_snoc (es : List Event) (e : Event) :
    heard (es ++ [e]) = e.hears.or (heard es) := by
  unfold heard
  cases hears : e.hears with
  | none => simp [hears]
  | some now => simp [hears]

theorem silences_snoc (es : List Event) (e : Event) :
    silences (es ++ [e]) = silences es ++ silence es e := Trace.traced_snoc es e

/-- Whether one of the events has closed the handler. -/
def Closed (es : List Event) : Prop := ∃ e ∈ es, e.closes = true

@[simp] theorem closed_nil : ¬ Closed [] := by simp [Closed]

theorem closed_snoc (es : List Event) (e : Event) :
    Closed (es ++ [e]) ↔ Closed es ∨ e.closes = true := by simp [Closed, or_and_right, exists_or]

/-- How the timer stands while the handler reads from a line last heard at `last`: armed for two
    minutes later, or found expired. -/
structure Armed (h : TcpHandler) (last : Time) : Prop where
  armed : ∀ expiry, h.watchdog.wait = some (expiry, ()) → expiry = last + minutes 2
  expired : h.watchdog.wait = none → 0 < h.due

/-- What holds of a handler that has not been stopped, after the events `es`. -/
structure Guarded (h : TcpHandler) (es : List Event) : Prop where
  active : h.active = true
  connecting : heard es = none → h.socket = .connecting ∧ h.watchdog.wait = none
  reading : ∀ last, heard es = some last → h.socket = .reading ∧ h.Armed last
  due : 0 < h.due ↔ silences es ≠ []

variable {h h' : TcpHandler} {es : List Event} {e : Event}

theorem new_guarded : (new true).Guarded [] where
  active := rfl
  connecting _ := ⟨rfl, rfl⟩
  reading last found := by cases found
  due := by simp [new, silences]

/-- The line is heard, and the watchdog armed again. -/
theorem Guarded.hear (guarded : h.Guarded es) {now : Time} (hears : e.hears = some now)
    (quiet : silence es e = []) : ((h.resetWatchdog now).readStart).Guarded (es ++ [e]) where
  active := guarded.active
  connecting unheard := by
    rw [heard_snoc, hears] at unheard
    cases unheard
  reading last found := by
    rw [heard_snoc, hears] at found
    cases found
    refine ⟨rfl, fun expiry armed => ?_, fun idle => by cases idle⟩
    cases armed
    rfl
  due := by
    rw [silences_snoc, quiet, List.append_nil]
    exact guarded.due

/-- Nothing is heard, and nothing found. -/
theorem Guarded.keep (guarded : h.Guarded es) (active : h'.active = h.active)
    (socket : h'.socket = h.socket) (wait : h'.watchdog.wait = h.watchdog.wait)
    (due : h'.due = h.due) (hears : e.hears = none) (quiet : silence es e = []) :
    h'.Guarded (es ++ [e]) where
  active := active.trans guarded.active
  connecting unheard := by
    rw [heard_snoc, hears, Option.none_or] at unheard
    rw [socket, wait]
    exact guarded.connecting unheard
  reading last found := by
    rw [heard_snoc, hears, Option.none_or] at found
    obtain ⟨reading, armed, expired⟩ := guarded.reading last found
    refine ⟨socket.trans reading, fun expiry waits => armed expiry (wait.symm.trans waits), ?_⟩
    intro idle
    rw [due]
    exact expired (wait.symm.trans idle)
  due := by
    rw [silences_snoc, quiet, List.append_nil, due]
    exact guarded.due

/-- A wait is found expired. -/
theorem poll_expired {expiry : Time} (armed : h.watchdog.wait = some (expiry, ())) {now : Time}
    (late : expiry ≤ now) :
    h.poll now = { h with watchdog := h.watchdog.expired, due := h.due + 1 } := by
  unfold TcpHandler.poll
  rw [armed]
  exact if_pos late

/-- Otherwise a look at the clock changes nothing. -/
theorem poll_early {now : Time}
    (early : ∀ expiry, h.watchdog.wait = some (expiry, ()) → now < expiry) : h.poll now = h := by
  unfold TcpHandler.poll
  cases wait : h.watchdog.wait with
  | none => rfl
  | some armed => exact if_neg (Int.not_le.mpr (early armed.1 wait))

/-- After two minutes of silence, a look at the clock leaves an expired wait and no other. -/
theorem Armed.poll_late {last now : Time} (armed : h.Armed last) (late : last + minutes 2 ≤ now) :
    (h.poll now).watchdog.wait = none ∧ 0 < (h.poll now).due := by
  cases wait : h.watchdog.wait with
  | none =>
      rw [poll_early fun expiry waits => by rw [wait] at waits; cases waits]
      exact ⟨wait, armed.expired wait⟩
  | some found =>
      have expiry : found.1 ≤ now := (armed.armed found.1 wait).trans_le late
      rw [poll_expired wait expiry]
      exact ⟨rfl, Nat.succ_pos _⟩

/-- A look at the clock leaves the rest alone. -/
theorem poll_rest (now : Time) : (h.poll now).active = h.active ∧ (h.poll now).socket = h.socket ∧
    (h.poll now).stopped = h.stopped := by
  unfold TcpHandler.poll
  split
  · split <;> exact ⟨rfl, rfl, rfl⟩
  · exact ⟨rfl, rfl, rfl⟩

/-- The event loop looks at the clock. -/
theorem Guarded.poll (guarded : h.Guarded es) (now : Time) :
    (h.poll now).Guarded (es ++ [.poll now]) := by
  cases last : heard es with
  | none =>
      have idle := (guarded.connecting last).2
      rw [poll_early fun expiry waits => by rw [idle] at waits; cases waits]
      exact guarded.keep rfl rfl rfl rfl rfl (by simp [silence, last])
  | some last' =>
      obtain ⟨reading, armed⟩ := guarded.reading last' last
      by_cases late : last' + minutes 2 ≤ now
      · have found : silence es (.poll now) = [last'] := by simp [silence, last, late]
        have still : heard (es ++ [.poll now]) = some last' := by
          rw [heard_snoc]
          exact last
        obtain ⟨idle, due⟩ := armed.poll_late late
        obtain ⟨active, socket, -⟩ := poll_rest (h := h) now
        refine ⟨active.trans guarded.active, fun unheard => ?_, fun t last'' => ?_, ?_⟩
        · rw [still] at unheard
          cases unheard
        · refine ⟨socket.trans reading, fun expiry waits => ?_, fun _ => due⟩
          rw [idle] at waits
          cases waits
        · rw [silences_snoc, found]
          exact iff_of_true due (List.append_ne_nil_of_right_ne_nil _ (List.cons_ne_nil _ _))
      · have early : h.poll now = h := poll_early fun expiry waits => by
          rw [armed.armed expiry waits]
          exact Int.not_le.mp late
        rw [early]
        exact guarded.keep rfl rfl rfl rfl rfl (by simp [silence, last, late])

/-- An event of a handler that has not been stopped either closes it or leaves it guarded. -/
theorem Guarded.step (guarded : h.Guarded es) (runs : h.stopped = false) (next : h.step e = some h') :
    if e.closes then h'.stopped = true else h'.stopped = false ∧ h'.Guarded (es ++ [e]) := by
  unfold TcpHandler.step at next
  rw [if_neg (by simp [runs])] at next
  cases e with
  | connected now error =>
      obtain ⟨-, next⟩ := Option.ite_none_right_eq_some.mp next
      cases next
      cases error with
      | true => rfl
      | false => exact ⟨runs, guarded.hear rfl rfl⟩
  | read now bytes =>
      obtain ⟨-, next⟩ := Option.ite_none_right_eq_some.mp next
      cases next
      cases bytes with
      | none => rfl
      | some bytes => exact ⟨runs, guarded.hear rfl rfl⟩
  | poll now =>
      cases next
      exact ⟨(poll_rest now).2.2.trans runs, guarded.poll now⟩
  | watchdogExpired =>
      obtain ⟨-, next⟩ := Option.ite_none_right_eq_some.mp next
      cases next
      rfl
  | watchdogAborted =>
      obtain ⟨-, -, next⟩ := Option.map_eq_some_iff.mp next
      cases next
      exact ⟨runs, guarded.keep rfl rfl rfl rfl rfl rfl⟩

/-- Once it has been stopped, nothing happens. -/
theorem step_stopped (stopped : h.stopped = true) (e : Event) : h.step e = none := if_pos stopped

/-- The handler of an expired wait can run exactly if the line is open and a silence of two minutes
    has been found. -/
theorem Guarded.bites (guarded : h.Guarded es) (runs : h.stopped = false) :
    (h.step .watchdogExpired).isSome ↔ silences es ≠ [] := by
  rw [← guarded.due]
  simp [TcpHandler.step, runs]

end EmsCollector.TcpHandler
