import BoundedWait.Wait.Run
import BoundedWait.Rehearsal.Clock
import BoundedWait.Rehearsal.Script

/-!
# Rehearsing one wait after the other

A stage is a world made of a virtual clock and a scripted condition.  The clock
outlives a run, so that a firing of the signal set up by one run can fall into
a later one.
-/

namespace BoundedWait
namespace Rehearsal

variable {α : Type}

/-- What the waits of a rehearsal have in common. -/
structure Setting where
  /-- Whether sleeps end when the signal fires. -/
  heeds : Bool
  /-- The attempt after which the observer fires the signal. -/
  fireOnNotReady : Option Nat

/-- The state of one run. -/
structure Stage (α : Type) where
  clock : Clock
  script : Script α
  /-- When the run began. -/
  began : Nat
  /-- When the condition was called, the last call first. -/
  calls : List Nat

namespace Stage

/-- The clock and the signal, as the wait sees them. -/
def reading (s : Stage α) (set : Setting) : Wait.Reading :=
  ⟨s.clock.since s.began, set.heeds && s.clock.fired⟩

/-- Calls the condition. -/
def attempt (set : Setting) (_n : Nat) (s : Stage α) : Wait.Answer α × Stage α :=
  let line := s.script.line s.calls.length
  let calls := (s.clock.now - s.began) :: s.calls
  let clock :=
    match line.take with
    | some d => s.clock.sleepUntil (s.clock.wakeTime d) false
    | none => s.clock
  let s := { s with calls := calls, clock := clock.fireIf line.fires }
  (⟨line.probe, s.reading set, 0⟩, s)

/-- Sleeps, after the observer had its chance to fire the signal. -/
def sleep (set : Setting) (n : Nat) (d : Duration) (s : Stage α) :
    Wait.Reading × Stage α :=
  let clock := s.clock.fireIf (set.fireOnNotReady == some n)
  let s := { s with clock := clock.sleepUntil (clock.wakeTime d) set.heeds }
  (s.reading set, s)

/-- The world that a stage is. -/
def world (set : Setting) : Wait.World (Stage α) α :=
  ⟨attempt set, sleep set⟩

end Stage

/-- A run on a virtual clock. -/
structure Performance (α : Type) where
  events : List Event
  outcome : Outcome α
  /-- How long the run took. -/
  total : Duration
  /-- When the condition was called, since the run began. -/
  calls : List Duration
  clock : Clock

/-- Runs a wait on a script, with the signal fired after a while if asked. -/
def perform (w : Waiter) (set : Setting) (clock : Clock)
    (script : Script α) (cancelAt : Option Duration) : Performance α :=
  let clock :=
    match cancelAt with
    | some d => clock.fireAfter d
    | none => clock
  let run := Wait.run (Stage.world set) w.plan w.classifier ⟨clock, script, clock.now, []⟩
  let final := run.final
  ⟨run.events, run.outcome, final.clock.since final.began,
    final.calls.reverse.map Duration.ofNanos, final.clock⟩

/-- Runs waits one after the other on one clock. -/
def performAll (w : Waiter) (set : Setting) (clock : Clock) :
    List (Script α × Option Duration) → List (Performance α)
  | [] => []
  | (script, cancelAt) :: rest =>
    let p := perform w set clock script cancelAt
    p :: performAll w set p.clock rest

end Rehearsal
end BoundedWait
