import BoundedWait.Plan

/-!
# Preset plans

Plans with a fixed interval for the common kinds of waits.
-/

namespace BoundedWait
namespace Plan

/-- A fixed interval, both times in seconds. -/
def inSeconds (poll timeout : Nat)
    (hpoll : 0 < (Duration.ofSeconds poll).nanos)
    (htimeout : Duration.ofSeconds poll ≤ Duration.ofSeconds timeout) : Plan where
  poll := Duration.ofSeconds poll
  timeout := Duration.ofSeconds timeout
  growth := .fixed
  multiplier := 2.0
  cap := Duration.ofSeconds timeout
  jitter := false
  poll_pos := hpoll
  poll_le_timeout := htimeout
  multiplier_finite := by decide
  one_le_multiplier := by decide
  poll_le_cap := htimeout

/-- The plan of a wait that is given none. -/
def standard : Plan := inSeconds 1 60 (by decide) (by decide)

/-- For a granted or revoked role to become visible. -/
def rolePropagation : Plan := inSeconds 1 60 (by decide) (by decide)

/-- For a row to appear in a table or to vanish from it. -/
def databaseRow : Plan := inSeconds 1 120 (by decide) (by decide)

/-- For a queued job to be taken up. -/
def queueDequeue : Plan := inSeconds 2 120 (by decide) (by decide)

/-- For a pipeline to stop at a request for input. -/
def inputRequest : Plan := inSeconds 2 300 (by decide) (by decide)

/-- For a build to finish. -/
def buildCompletion : Plan := inSeconds 15 1800 (by decide) (by decide)

/-- For an endpoint to serve. -/
def serviceReady : Plan := inSeconds 1 300 (by decide) (by decide)

end Plan
end BoundedWait
