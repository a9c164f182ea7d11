import BoundedWait.Rehearsal.Sequential

/-!
# Rehearsing waits side by side

Several waits of one waiter share a clock and its signal.  At each moment every
performer acts, in order, until it has to sleep; when all of them sleep, the
clock moves on to the next moment at which something is due.
-/

namespace BoundedWait
namespace Rehearsal

variable {α : Type}

/-- Where a performer stands. -/
inductive Phase (α : Type)
  /-- Before its first attempt. -/
  | waiting
  /-- The condition has been called and answers at a moment. -/
  | calling (moment : Nat)
  /-- It sleeps after a soft fault. -/
  | sleeping (fault : Fault) (moment : Nat)
  /-- It has ended. -/
  | ended (outcome : Outcome α) (moment : Nat)

/-- One of several waits. -/
structure Performer (α : Type) where
  script : Script α
  /-- When it began. -/
  began : Nat
  /-- The number of attempts. -/
  made : Nat
  /-- When the condition was called, the last call first. -/
  calls : List Nat
  phase : Phase α
  /-- Its events, the last one first. -/
  events : List Event

namespace Performer

/-- A performer that has not begun. -/
def ofScript (moment : Nat) (script : Script α) : Performer α :=
  ⟨script, moment, 0, [], .waiting, []⟩

/-- The line of its script that is being played. -/
def line (x : Performer α) : Line α :=
  x.script.line (x.calls.length - 1)

/-- Begins the next attempt. -/
def begin (w : Waiter) (c : Clock) (x : Performer α) : Performer α :=
  let n := Wait.nextAttempt x.made
  let x := { x with
    made := n
    calls := (c.now - x.began) :: x.calls
    events := .started n w.plan.bound :: x.events }
  let answers :=
    match x.line.take with
    | some d => c.wakeTime d
    | none => c.now
  { x with phase := .calling answers }

/-- What a performer does next at this moment, unless it has to wait. -/
def act? (w : Waiter) (set : Setting) (c : Clock) (x : Performer α) :
    Option (Clock × Performer α) :=
  match x.phase with
  | .waiting => some (c, x.begin w c)
  | .calling moment =>
    if moment ≤ c.now then
      let c := c.fireIf x.line.fires
      let attempt := Attempt.ofProbe w.classifier x.line.probe
      match Wait.settle w.plan x.made attempt (c.since x.began) (set.heeds && c.fired) 0 with
      | (event, .finished outcome) =>
        some (c, { x with phase := .ended outcome c.now, events := event :: x.events })
      | (event, .sleep fault delay) =>
        let c := c.fireIf (set.fireOnNotReady == some x.made)
        some (c, { x with
          phase := .sleeping fault (c.wakeTime delay)
          events := event :: x.events })
    else none
  | .sleeping fault moment =>
    if (set.heeds && c.fired) || decide (moment ≤ c.now) then
      match Wait.resume w.plan x.made fault (c.since x.began) (set.heeds && c.fired) with
      | some (event, outcome) =>
        some (c, { x with phase := .ended outcome c.now, events := event :: x.events })
      | none => some (c, x.begin w c)
    else none
  | .ended _ _ => none

/-- Acts until it has to wait, at most so many times. -/
def actOn (w : Waiter) (set : Setting) : Nat → Clock → Performer α → Clock × Performer α
  | 0, c, x => (c, x)
  | times + 1, c, x =>
    match x.act? w set c with
    | some (c, x) => actOn w set times c x
    | none => (c, x)

/-- The moment that a performer waits for. -/
def next? (x : Performer α) : Option Nat :=
  match x.phase with
  | .calling moment => some moment
  | .sleeping _ moment => some moment
  | _ => none

/-- The performance of a wait that has ended. -/
def performance? (c : Clock) (x : Performer α) : Option (Performance α) :=
  match x.phase with
  | .ended outcome moment =>
    some ⟨x.events.reverse, outcome, Duration.ofNanos (moment - x.began),
      x.calls.reverse.map Duration.ofNanos, c⟩
  | _ => none

end Performer

/-- Lets every performer act once, in order. -/
def actAll (w : Waiter) (set : Setting) :
    Clock → List (Performer α) → Clock × List (Performer α)
  | c, [] => (c, [])
  | c, x :: rest =>
    let (c, x) := x.actOn w set 4 c
    let (c, rest) := actAll w set c rest
    (c, x :: rest)

/-- The next moment at which something is due. -/
def nextMoment? (c : Clock) (xs : List (Performer α)) : Option Nat :=
  (xs.filterMap Performer.next? ++ c.due).min?

/-- Plays on for at most so many moments. -/
def play (w : Waiter) (set : Setting) :
    Nat → Clock → List (Performer α) → Clock × List (Performer α)
  | 0, c, xs => (c, xs)
  | moments + 1, c, xs =>
    let (c, xs) := actAll w set c xs
    let (c, xs) := actAll w set c xs
    if xs.all fun x => x.next?.isNone then (c, xs)
    else
      match nextMoment? c xs with
      | some moment => play w set moments (c.moveTo moment) xs
      | none => (c, xs)

/-- Runs waits side by side: their performances in order, and the clock when
the last one has ended. -/
def performTogether (w : Waiter) (set : Setting) (clock : Clock)
    (parts : List (Script α × Option Duration)) : Clock × List (Performance α) :=
  let clock := (parts.filterMap Prod.snd).foldl Clock.fireAfter clock
  let performers := parts.map fun part => Performer.ofScript clock.now part.1
  let moments := parts.length * (2 * w.plan.bound + 1) + clock.due.length + 1
  let (clock, performers) := play w set moments clock performers
  (clock, performers.filterMap (Performer.performance? clock))

end Rehearsal
end BoundedWait
