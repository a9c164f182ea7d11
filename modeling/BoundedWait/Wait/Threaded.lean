import BoundedWait.Wait.Run
import BoundedWait.Signal.Shared

/-!
# Waits among threads

A wait that shares its signal with other threads takes one atomic step at a
time: it begins an attempt, calls the condition, reads the clock, asks the
signal and decides; then it sleeps on the signal, reads the clock again and
decides again.  Between any two of these steps, and inside of a sleep, the other
threads do what they like.

* `Task` is what a wait is given, and all that it is told but by the signal.
* `Threaded.act?` carries out one step of the wait or of somebody else.
* `Threaded.play?` carries out one step after the other.
-/

namespace BoundedWait
namespace Wait

variable {α : Type}

/-- How a wait sleeps. -/
inductive Manner
  /-- It blocks its thread. -/
  | blocking
  /-- It blocks nobody. -/
  | yielding
deriving DecidableEq

/-- The call of the signal by which a wait sleeps. -/
def Manner.sleep : Manner → Duration → Signal.Call
  | blocking, d => .sleep d
  | yielding, d => .nap d

/-- What a wait is told by others than the signal, by the number of the attempt. -/
structure Feed (α : Type) where
  probe : Nat → Probe α
  /-- The time read after the attempt. -/
  settled : Nat → Duration
  /-- The time read after the sleep that follows the attempt. -/
  woken : Nat → Duration
  draw : Nat → Nat

/-- A wait that is one of the threads that share a signal. -/
structure Task (α : Type) where
  plan : Plan
  classifier : Classifier
  manner : Manner
  feed : Feed α
  /-- The thread of the wait. -/
  thread : Nat
  /-- The last moment that a deadline can name. -/
  horizon : Nat

/-- Where a wait stands, named for the step that it takes next. -/
inductive Stage (α : Type)
  /-- The next attempt begins, after `made` earlier ones. -/
  | begin (made : Nat)
  /-- The condition is being called, and returns. -/
  | call (n : Nat)
  /-- The clock is read after the attempt. -/
  | settleClock (n : Nat) (probe : Probe α)
  /-- The signal is asked after the attempt. -/
  | settleAsk (n : Nat) (probe : Probe α) (elapsed : Duration)
  /-- It is decided what follows the attempt. -/
  | settle (n : Nat) (answer : Answer α)
  /-- A sleep begins. -/
  | retire (n : Nat) (fault : Fault) (delay : Duration)
  /-- The wait sleeps on the signal. -/
  | asleep (n : Nat) (fault : Fault)
  /-- The clock is read after the sleep. -/
  | resumeClock (n : Nat) (fault : Fault) (cancelled : Bool)
  /-- It is decided whether another attempt follows. -/
  | resume (n : Nat) (fault : Fault) (reading : Reading)
  /-- Nothing follows. -/
  | finished (outcome : Outcome α)

/-- A wait and the signal that it shares. -/
structure Threaded (α : Type) where
  shared : Signal.Shared
  stage : Stage α
  /-- What the wait has reported so far. -/
  events : List Event
  /-- What the signal has answered to the wait so far. -/
  readings : List Bool

/-- One step of the wait, or of somebody else. -/
inductive Action
  /-- The wait takes its next step. -/
  | step
  /-- The sleep of the wait takes a step. -/
  | doze (m : Signal.Move)
  /-- Another thread takes a step, or time passes. -/
  | other (a : Signal.Action)
deriving DecidableEq

namespace Threaded

/-- A wait that has not begun. -/
def start (shared : Signal.Shared) : Threaded α :=
  ⟨shared, .begin 0, [], []⟩

/-- Moves on to a stage. -/
def goto (s : Threaded α) (stage : Stage α) : Threaded α :=
  { s with stage := stage }

/-- Reports an event and moves on to a stage. -/
def report (s : Threaded α) (event : Event) (stage : Stage α) : Threaded α :=
  { s with stage := stage, events := s.events ++ [event] }

/-- Takes note of the last answer of the signal and moves on to a stage. -/
def note (s : Threaded α) (shared : Signal.Shared) (stage : Bool → Stage α) : Threaded α :=
  let fired := (shared.answers.getLast?.map Signal.Answer.fired).getD false
  { s with shared := shared, stage := stage fired, readings := s.readings ++ [fired] }

/-- The step that a wait takes at a stage, if it is not asleep or over. -/
def advance? (k : Task α) (s : Threaded α) : Stage α → Option (Threaded α)
  | .begin made =>
    let n := nextAttempt made
    some (s.report (.started n k.plan.bound) (.call n))
  | .call n => some (s.goto (.settleClock n (k.feed.probe n)))
  | .settleClock n probe => some (s.goto (.settleAsk n probe (k.feed.settled n)))
  | .settleAsk n probe elapsed =>
    (s.shared.act? k.horizon (.move k.thread (.call .ask))).map fun shared =>
      s.note shared fun fired => .settle n ⟨probe, ⟨elapsed, fired⟩, k.feed.draw n⟩
  | .settle n answer =>
    match Wait.settle k.plan n (Attempt.ofProbe k.classifier answer.probe)
        answer.reading.elapsed answer.reading.cancelled answer.draw with
    | (event, .finished outcome) => some (s.report event (.finished outcome))
    | (event, .sleep fault delay) => some (s.report event (.retire n fault delay))
  | .retire n fault delay =>
    (s.shared.act? k.horizon (.move k.thread (.call (k.manner.sleep delay)))).map fun shared =>
      { s with shared := shared, stage := .asleep n fault }
  | .asleep _ _ => none
  | .resumeClock n fault cancelled => some (s.goto (.resume n fault ⟨k.feed.woken n, cancelled⟩))
  | .resume n fault reading =>
    match Wait.resume k.plan n fault reading.elapsed reading.cancelled with
    | some (event, outcome) => some (s.report event (.finished outcome))
    | none => some (s.goto (.begin n))
  | .finished _ => none

/-- The sleep of a wait takes a step, and may be over then. -/
def doze? (k : Task α) (s : Threaded α) (m : Signal.Move) : Stage α → Option (Threaded α)
  | .asleep n fault =>
    (s.shared.act? k.horizon (.move k.thread m)).map fun shared =>
      if shared.stages[k.thread]? = some .idle then s.note shared (.resumeClock n fault)
      else { s with shared := shared }
  | _ => none

/-- Carries out an action, if it can happen. -/
def act? (k : Task α) (s : Threaded α) : Action → Option (Threaded α)
  | .step => s.advance? k s.stage
  | .doze m => s.doze? k m s.stage
  | .other (.pass time) =>
    (s.shared.act? k.horizon (.pass time)).map fun shared => { s with shared := shared }
  | .other (.move thread m) =>
    if thread = k.thread then none
    else
      (s.shared.act? k.horizon (.move thread m)).map fun shared => { s with shared := shared }

/-- Carries out one action after the other, if each can happen. -/
def play? (k : Task α) (s : Threaded α) (actions : List Action) : Option (Threaded α) :=
  actions.foldlM (act? k) s

end Threaded

end Wait
end BoundedWait
