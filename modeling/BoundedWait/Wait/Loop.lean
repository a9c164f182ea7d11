import BoundedWait.Plan.Delay
import BoundedWait.Classifier
import BoundedWait.Outcome
import BoundedWait.Event

/-!
# Decisions of the polling loop

The loop has two decision points.  After an attempt, `settle` either ends the
wait or asks for a sleep; after the sleep, `resume` either ends the wait or
lets the next attempt begin.  Neither looks at a clock or at the cancellation
signal: both are told what was read.

* A value or a fatal fault ends the wait whatever the clock and the signal say.
* A soft fault ends it in `settle` when the signal has fired or the time is up,
  and in `resume` when the signal has fired or no attempt is left.
* Every decision comes with the event that reports it.
-/

namespace BoundedWait
namespace Wait

variable {α : Type}

/-- What follows an attempt. -/
inductive Step (α : Type)
  /-- The wait is over. -/
  | finished (outcome : Outcome α)
  /-- The loop sleeps, with the fault of the attempt in mind. -/
  | sleep (fault : Fault) (delay : Duration)
deriving DecidableEq

/-- The attempt counter after one more attempt; it stays at its limit. -/
def nextAttempt (made : Nat) : Nat :=
  min (made + 1) Plan.counterLimit

/-- Ends a wait whose last fault was soft. -/
def giveUp (attempts : Nat) (fault : Fault) (elapsed : Duration) (cancelled : Bool) :
    Event × Outcome α :=
  if cancelled then
    (.cancelled attempts fault, .timedOut fault attempts elapsed true)
  else
    (.timedOut attempts fault elapsed, .timedOut fault attempts elapsed false)

/-- The delay that is slept: what the plan asks for, but no more than is left
of the timeout. -/
def sleepDelay (p : Plan) (n draw : Nat) (elapsed : Duration) : Duration :=
  min (p.delay n draw) (p.timeout.sub elapsed)

/-- Decides what follows attempt `n`. -/
def settle (p : Plan) (n : Nat) (attempt : Attempt α)
    (elapsed : Duration) (cancelled : Bool) (draw : Nat) : Event × Step α :=
  match attempt with
  | .ready value =>
    (.succeeded n elapsed, .finished (.success value))
  | .fatal fault =>
    (.aborted n fault elapsed, .finished (.aborted fault n elapsed))
  | .notYet fault =>
    if cancelled = true ∨ p.timeout ≤ elapsed then
      let ending := giveUp n fault elapsed cancelled
      (ending.1, .finished ending.2)
    else
      let delay := sleepDelay p n draw elapsed
      (.notReady n fault delay, .sleep fault delay)

/-- Decides whether another attempt follows the sleep after attempt `n`. -/
def resume (p : Plan) (n : Nat) (fault : Fault)
    (elapsed : Duration) (cancelled : Bool) : Option (Event × Outcome α) :=
  if cancelled = true ∨ p.bound ≤ n then some (giveUp n fault elapsed cancelled)
  else none

theorem resume_eq_none_iff (p : Plan) (n : Nat) (fault : Fault)
    (elapsed : Duration) (cancelled : Bool) :
    resume (α := α) p n fault elapsed cancelled = none ↔
      cancelled = false ∧ n < p.bound := by
  simp only [resume]
  split
  · rename_i h
    rcases h with h | h
    · simp [h]
    · simp only [reduceCtorEq, false_iff, not_and]
      omega
  · rename_i h
    simp only [not_or, Bool.not_eq_true] at h
    simp only [h.1, true_and, true_iff]
    omega

/-- The counter is exact as long as another attempt may follow. -/
theorem nextAttempt_eq_of_lt_bound {p : Plan} {made : Nat}
    (h : nextAttempt made < p.bound) :
    nextAttempt made = made + 1 := by
  have hb := p.bound_le
  simp only [nextAttempt] at *
  omega

end Wait
end BoundedWait
