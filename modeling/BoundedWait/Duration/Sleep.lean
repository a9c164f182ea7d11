import BoundedWait.Duration

/-!
# Sleeps

A timer wakes a sleeper at a multiple of its grain, at the earliest when the
sleep should end.  No sleep lasts longer than thirty years.
-/

namespace BoundedWait
namespace Duration

/-- The longest sleep: thirty years of 365 days. -/
def longestSleep : Duration :=
  ofSeconds (30 * 365 * 24 * 3600)

/-- When a sleep ends that begins at a moment, in nanoseconds. -/
def wakeTime (d : Duration) (grain now : Nat) : Nat :=
  (now + (min d longestSleep).nanos + (grain - 1)) / grain * grain

end Duration
end BoundedWait
