import BoundedWait.Duration
import BoundedWait.Fault

/-!
# Events of a wait

What a wait tells its observer, in order: the start of each attempt, each sleep
after an attempt that was not ready, and one last event for how it ended.
-/

namespace BoundedWait

/-- One report of a wait to its observer. -/
inductive Event
  /-- Attempt `attempt` of at most `bound` begins. -/
  | started (attempt bound : Nat)
  /-- The condition did not hold yet, and the wait sleeps for `delay`. -/
  | notReady (attempt : Nat) (fault : Fault) (delay : Duration)
  /-- The condition held. -/
  | succeeded (attempt : Nat) (elapsed : Duration)
  /-- The budget ran out. -/
  | timedOut (attempts : Nat) (fault : Fault) (elapsed : Duration)
  /-- A fatal fault ended the wait. -/
  | aborted (attempt : Nat) (fault : Fault) (elapsed : Duration)
  /-- An external cancellation ended the wait. -/
  | cancelled (attempts : Nat) (fault : Fault)
deriving DecidableEq

end BoundedWait
