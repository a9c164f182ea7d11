import BoundedWait.Plan
import BoundedWait.TimeUnit

/-!
# Drafts of plans

A draft holds the parameters of a plan before they are checked.  It starts from
the standard values and is changed one field at a time; `build` checks it and
names the first defect in a fixed order.  Without a cap of its own, a draft is
capped at the timeout that it has when it is built.
-/

namespace BoundedWait
namespace Plan

/-- Parameters that may or may not make a plan. -/
structure Draft where
  poll : Duration
  timeout : Duration
  growth : Growth
  multiplier : Float
  cap : Option Duration
  jitter : Bool
deriving DecidableEq

/-- One change of a draft. -/
inductive Draft.Change
  | poll (d : Duration)
  | timeout (d : Duration)
  | growth (g : Growth)
  | multiplier (x : Float)
  | cap (d : Duration)
  | jitter (on : Bool)
deriving DecidableEq

namespace Draft

/-- A poll each second for a minute. -/
def standard : Draft :=
  ⟨Duration.ofSeconds 1, Duration.ofSeconds 60, .fixed, 2.0, none, false⟩

/-- Makes one change. -/
def change (d : Draft) : Change → Draft
  | .poll p => { d with poll := p }
  | .timeout t => { d with timeout := t }
  | .growth g => { d with growth := g }
  | .multiplier x => { d with multiplier := x }
  | .cap c => { d with cap := some c }
  | .jitter on => { d with jitter := on }

/-- Makes a list of changes from the standard draft, in order. -/
def ofChanges (changes : List Change) : Draft :=
  changes.foldl change standard

/-- The cap of a draft, which is the timeout if none is given. -/
def effectiveCap (d : Draft) : Duration :=
  d.cap.getD d.timeout

/-- The plan of a draft, or its first defect. -/
def build (d : Draft) : Except Defect Plan :=
  if hpoll : 0 < d.poll.nanos then
    if htimeout : d.poll ≤ d.timeout then
      if hmultiplier : d.multiplier.isFinite = true ∧ 1.0 ≤ d.multiplier then
        if hcap : d.poll ≤ d.effectiveCap then
          .ok
            { poll := d.poll
              timeout := d.timeout
              growth := d.growth
              multiplier := d.multiplier
              cap := d.effectiveCap
              jitter := d.jitter
              poll_pos := hpoll
              poll_le_timeout := htimeout
              multiplier_finite := hmultiplier.1
              one_le_multiplier := hmultiplier.2
              poll_le_cap := hcap }
        else .error (.shortCap d.effectiveCap d.poll)
      else .error (.badMultiplier d.multiplier)
    else .error (.shortTimeout d.timeout d.poll)
  else .error .zeroPoll

end Draft

/-- A plan with a fixed interval. -/
def fixedEvery (poll timeout : Duration) : Except Defect Plan :=
  (Draft.ofChanges [.poll poll, .timeout timeout]).build

/-- A plan with a fixed interval, where both times are counts of a unit. -/
def ofCounts (poll : UInt64) (pollUnit : TimeUnit) (timeout : UInt64)
    (timeoutUnit : TimeUnit) : Except Defect Plan :=
  fixedEvery (pollUnit.toDuration poll) (timeoutUnit.toDuration timeout)

end Plan
end BoundedWait
