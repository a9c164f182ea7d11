import BoundedWait.Event

/-!
# Tallies of events

A tally counts the events of any number of waits by kind, in 32-bit counters
that wrap around.  It is a sum: the order of the events does not matter.
-/

namespace BoundedWait

/-- How often each kind of event was seen, modulo 2^32. -/
@[ext] structure Tally where
  attemptStarts : UInt32
  notReady : UInt32
  successes : UInt32
  timeouts : UInt32
  aborts : UInt32
  cancellations : UInt32
deriving DecidableEq, Repr

namespace Tally

/-- No event was seen. -/
def zero : Tally := ⟨0, 0, 0, 0, 0, 0⟩

/-- Counts one event. -/
def record (t : Tally) : Event → Tally
  | .started .. => { t with attemptStarts := t.attemptStarts + 1 }
  | .notReady .. => { t with notReady := t.notReady + 1 }
  | .succeeded .. => { t with successes := t.successes + 1 }
  | .timedOut .. => { t with timeouts := t.timeouts + 1 }
  | .aborted .. => { t with aborts := t.aborts + 1 }
  | .cancelled .. => { t with cancellations := t.cancellations + 1 }

/-- Counts a list of events. -/
def recordAll (t : Tally) (events : List Event) : Tally :=
  events.foldl record t

theorem record_comm (t : Tally) (a b : Event) :
    (t.record a).record b = (t.record b).record a := by
  cases a <;> cases b <;> rfl

/-- The order of the events does not matter. -/
theorem recordAll_perm (t : Tally) {a b : List Event} (h : a.Perm b) :
    t.recordAll a = t.recordAll b := by
  induction h generalizing t with
  | nil => rfl
  | cons e _ ih =>
      exact ih (t.record e)
  | swap e f l =>
      simp only [recordAll, List.foldl_cons, record_comm]
  | trans _ _ ih₁ ih₂ =>
      exact (ih₁ t).trans (ih₂ t)

end Tally
end BoundedWait
