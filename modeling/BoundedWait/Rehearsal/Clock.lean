import BoundedWait.Duration.Sleep

/-!
# Virtual clocks

A virtual clock moves only when everybody sleeps.  It carries one cancellation
signal and the moments at which the signal is due to fire.  A sleep ends at a
multiple of the clock's grain since its start, at the earliest when it should.
-/

namespace BoundedWait
namespace Rehearsal

/-- A clock, in nanoseconds since its start. -/
structure Clock where
  now : Nat
  /-- Sleeps end at multiples of this number. -/
  grain : Nat
  /-- Whether the signal has fired. -/
  fired : Bool
  /-- When the signal will be fired. -/
  due : List Nat
deriving DecidableEq, Repr

namespace Clock

/-- A clock at its start. -/
def start (grain : Nat) : Clock :=
  ⟨0, grain, false, []⟩

/-- When a sleep ends that begins now. -/
def wakeTime (c : Clock) (d : Duration) : Nat :=
  d.wakeTime c.grain c.now

/-- The time since a moment. -/
def since (c : Clock) (moment : Nat) : Duration :=
  Duration.ofNanos (c.now - moment)

/-- Fires the signal. -/
def fire (c : Clock) : Clock :=
  { c with fired := true }

/-- Fires the signal if asked to. -/
def fireIf (c : Clock) (wanted : Bool) : Clock :=
  if wanted then c.fire else c

/-- Has the signal fired after a while. -/
def fireAfter (c : Clock) (d : Duration) : Clock :=
  { c with due := c.wakeTime d :: c.due }

/-- Moves on to a moment, firing the signal if that was due. -/
def moveTo (c : Clock) (moment : Nat) : Clock :=
  { c with
    now := moment
    fired := c.fired || c.due.any (· ≤ moment)
    due := c.due.filter (moment < ·) }

/-- The first of the moments at which the signal is due by a given one. -/
def firstDue? (c : Clock) (moment : Nat) : Option Nat :=
  (c.due.filter (· ≤ moment)).min?

/-- Sleeps until a moment, or until the signal fires for one who heeds it. -/
def sleepUntil (c : Clock) (moment : Nat) (heeds : Bool) : Clock :=
  if heeds then
    if c.fired then c
    else c.moveTo ((c.firstDue? moment).getD moment)
  else c.moveTo moment

end Clock
end Rehearsal
end BoundedWait
