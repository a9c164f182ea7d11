import BoundedWait.Wait.Loop

/-!
# Runs of the polling loop

A world answers what a wait asks of its surroundings: it calls the condition,
sleeps, and reads the clock, the cancellation signal and a random number.  A
run drives the loop through a world from the first attempt to the outcome and
keeps every event on the way.

A run ends because each further attempt needs the counter to be below the
bound of the plan.
-/

namespace BoundedWait
namespace Wait

variable {σ α : Type}

/-- The clock and the signal at one moment. -/
structure Reading where
  /-- The time since the wait began. -/
  elapsed : Duration
  /-- Whether the signal has fired. -/
  cancelled : Bool
deriving DecidableEq

/-- What an attempt brings: the result of the condition, the readings taken
after it, and the random draw for the delay. -/
structure Answer (α : Type) where
  probe : Probe α
  reading : Reading
  draw : Nat

/-- The surroundings of a wait, with a state that each request may change. -/
structure World (σ α : Type) where
  /-- Calls the condition for the attempt of a number. -/
  attempt : Nat → σ → Answer α × σ
  /-- Sleeps after the attempt of a number, and reads clock and signal. -/
  sleep : Nat → Duration → σ → Reading × σ

/-- A finished wait. -/
structure Run (σ α : Type) where
  events : List Event
  outcome : Outcome α
  final : σ

/-- Makes the attempt after `made` earlier ones, and all that follow it. -/
def runFrom (w : World σ α) (p : Plan) (c : Classifier) (made : Nat) (s : σ) : Run σ α :=
  let n := nextAttempt made
  let (answer, s) := w.attempt n s
  let attempt := Attempt.ofProbe c answer.probe
  match settle p n attempt answer.reading.elapsed answer.reading.cancelled answer.draw with
  | (event, .finished outcome) => ⟨[.started n p.bound, event], outcome, s⟩
  | (event, .sleep fault delay) =>
    let (reading, s) := w.sleep n delay s
    match _h : resume p n fault reading.elapsed reading.cancelled with
    | some (last, outcome) => ⟨[.started n p.bound, event, last], outcome, s⟩
    | none =>
      let rest := runFrom w p c n s
      ⟨.started n p.bound :: event :: rest.events, rest.outcome, rest.final⟩
termination_by p.bound - made
decreasing_by
  have hlt := ((resume_eq_none_iff p n fault reading.elapsed reading.cancelled).1 _h).2
  have heq : n = made + 1 := nextAttempt_eq_of_lt_bound hlt
  omega

/-- A whole wait. -/
def run (w : World σ α) (p : Plan) (c : Classifier) (s : σ) : Run σ α :=
  runFrom w p c 0 s

end Wait

/-- A wait that can be run any number of times: its plan, its classifier, and
the name of the condition in its failures. -/
structure Waiter where
  plan : Plan
  classifier : Classifier
  condition : String

namespace Waiter

/-- The name of a condition that is given none. -/
def unnamed : String := "condition"

/-- A waiter for a plan that ignores no kind of fault. -/
def ofPlan (p : Plan) : Waiter :=
  ⟨p, Classifier.standard, unnamed⟩

/-- The waiter that goes by a set of kinds, whatever it went by before. -/
def ignoring (w : Waiter) (kinds : Fault.KindSet) : Waiter :=
  { w with classifier := .ignoring kinds }

end Waiter
end BoundedWait
