import BoundedWait.Plan.Draft
import BoundedWait.TimeUnit

/-!
# Settings

Settings are the form in which a plan is written down: each time is a 64-bit
count and a unit, and a cap that equals the timeout is left out.  `toPlan`
reads a plan from them, and `ofPlan` writes one.

The standard values of single fields have names of their own, since more than
the standard settings are made of them.
-/

namespace BoundedWait

/-- A plan as it is written down. -/
@[ext] structure Settings where
  poll : UInt64
  pollUnit : TimeUnit
  timeout : UInt64
  timeoutUnit : TimeUnit
  growth : Growth
  multiplier : Float
  cap : Option UInt64
  capUnit : TimeUnit
  jitter : Bool
deriving DecidableEq

namespace Settings

def standardPoll : UInt64 := 1

def standardPollUnit : TimeUnit := .seconds

def standardTimeout : UInt64 := 1

def standardTimeoutUnit : TimeUnit := .minutes

def standardMultiplier : Float := 2.0

def standardCapUnit : TimeUnit := .seconds

/-- A poll each second for a minute. -/
def standard : Settings where
  poll := standardPoll
  pollUnit := standardPollUnit
  timeout := standardTimeout
  timeoutUnit := standardTimeoutUnit
  growth := .standard
  multiplier := standardMultiplier
  cap := none
  capUnit := standardCapUnit
  jitter := false

/-- The draft that settings describe. -/
def toDraft (s : Settings) : Plan.Draft :=
  let changes : List Plan.Draft.Change :=
    [.poll (s.pollUnit.toDuration s.poll), .timeout (s.timeoutUnit.toDuration s.timeout),
      .growth s.growth, .multiplier s.multiplier, .jitter s.jitter]
  let capped : List Plan.Draft.Change :=
    match s.cap with
    | some cap => [.cap (s.capUnit.toDuration cap)]
    | none => []
  Plan.Draft.ofChanges (changes ++ capped)

/-- The plan that settings describe, or its first defect. -/
def toPlan (s : Settings) : Except Plan.Defect Plan :=
  s.toDraft.build

/-- The settings of a plan. -/
def ofPlan (p : Plan) : Settings :=
  let poll := TimeUnit.split p.poll
  let timeout := TimeUnit.split p.timeout
  let cap := TimeUnit.split p.cap
  if p.cap = p.timeout then
    ⟨poll.1, poll.2, timeout.1, timeout.2, p.growth, p.multiplier, none, standardCapUnit,
      p.jitter⟩
  else
    ⟨poll.1, poll.2, timeout.1, timeout.2, p.growth, p.multiplier, some cap.1, cap.2, p.jitter⟩

end Settings
end BoundedWait
