import Mathlib

/-!
# Deadline timers

A timer on which one wait can be pending. Setting a new expiry time or cancelling completes the
pending wait with `operation_aborted`; its handler still runs, later.
-/

/-- A moment, in microseconds. -/
abbrev Time := Int

/-- So many milliseconds. -/
def milliseconds (n : Int) : Time := 1000 * n

/-- `wait` is the pending wait with its expiry time, `aborted` the waits that were aborted and
    whose handlers have not run yet, oldest first. -/
structure DeadlineTimer (ω : Type) where
  wait : Option (Time × ω)
  aborted : List ω
  deriving DecidableEq, Repr

namespace DeadlineTimer

variable {ω : Type}

def idle : DeadlineTimer ω := { wait := none, aborted := [] }

/-- The pending wait is aborted. -/
def cancel (t : DeadlineTimer ω) : DeadlineTimer ω :=
  { wait := none, aborted := t.aborted ++ (t.wait.map Prod.snd).toList }

/-- A new expiry time, and a wait for it. -/
def asyncWait (t : DeadlineTimer ω) (expiry : Time) (handler : ω) : DeadlineTimer ω :=
  { t.cancel with wait := some (expiry, handler) }

/-- The pending wait has completed by expiry. -/
def expired (t : DeadlineTimer ω) : DeadlineTimer ω := { t with wait := none }

/-- The handler of the oldest aborted wait has run. -/
def dropAborted (t : DeadlineTimer ω) : DeadlineTimer ω := { t with aborted := t.aborted.tail }

@[simp] theorem cancel_wait (t : DeadlineTimer ω) : t.cancel.wait = none := rfl

@[simp] theorem asyncWait_wait (t : DeadlineTimer ω) (expiry : Time) (handler : ω) :
    (t.asyncWait expiry handler).wait = some (expiry, handler) := rfl

@[simp] theorem expired_wait (t : DeadlineTimer ω) : t.expired.wait = none := rfl

@[simp] theorem expired_aborted (t : DeadlineTimer ω) : t.expired.aborted = t.aborted := rfl

@[simp] theorem dropAborted_wait (t : DeadlineTimer ω) : t.dropAborted.wait = t.wait := rfl

@[simp] theorem dropAborted_aborted (t : DeadlineTimer ω) :
    t.dropAborted.aborted = t.aborted.tail := rfl

theorem asyncWait_aborted {t : DeadlineTimer ω} (free : t.wait = none) (expiry : Time)
    (handler : ω) : (t.asyncWait expiry handler).aborted = t.aborted := by
  simp [asyncWait, cancel, free]

/-- The waits whose handlers have not run yet. -/
def held (t : DeadlineTimer ω) : Multiset ω := (t.wait.map Prod.snd).toList + t.aborted

@[simp] theorem held_idle : (idle : DeadlineTimer ω).held = 0 := rfl

@[simp] theorem held_cancel (t : DeadlineTimer ω) : t.cancel.held = t.held := by
  simp [held, cancel, ← Multiset.coe_add, Multiset.add_comm]

/-- No wait is forgotten when the timer is armed again. -/
@[simp] theorem held_asyncWait (t : DeadlineTimer ω) (expiry : Time) (handler : ω) :
    (t.asyncWait expiry handler).held = handler ::ₘ t.held := by
  rw [← held_cancel t]
  simp [held, asyncWait]

theorem held_expired {t : DeadlineTimer ω} {expiry : Time} {handler : ω}
    (armed : t.wait = some (expiry, handler)) : t.held = handler ::ₘ t.expired.held := by
  simp [held, expired, armed]

theorem held_dropAborted {t : DeadlineTimer ω} {handler : ω}
    (aborted : t.aborted.head? = some handler) : t.held = handler ::ₘ t.dropAborted.held := by
  obtain ⟨rest, split⟩ := List.head?_eq_some_iff.mp aborted
  simp only [held, dropAborted, split, List.tail_cons]
  rw [← Multiset.cons_coe, Multiset.add_cons]

end DeadlineTimer
