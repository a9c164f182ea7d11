import BoundedWait.Plan
import BoundedWait.Duration.Seconds

/-!
# Delays between attempts

The delay after an attempt grows as the plan says, but stays between the poll
interval and the cap.  Jitter then adds up to a quarter of it, as far as a
random draw asks for.
-/

namespace BoundedWait
namespace Plan

/-- `acc * x ^ n` by repeated squaring, in at most `rounds` squarings. -/
def powerFrom : Nat → Float → Float → Nat → Float
  | 0, acc, _, _ => acc
  | rounds + 1, acc, x, n =>
    let acc := if n % 2 = 1 then acc * x else acc
    if n / 2 = 0 then acc else powerFrom rounds acc (x * x) (n / 2)

/-- The power of a double with an exponent below 2^31. -/
def power (x : Float) (n : Nat) : Float :=
  powerFrom 32 1.0 x n

/-- The interval after attempt `attempt`, before it is capped. -/
def grown (p : Plan) (attempt : Nat) : Duration :=
  match p.growth with
  | .fixed => p.poll
  | .linear => p.poll.scale (min (attempt - 1 + 1) counterLimit)
  | .exponential =>
    let factor := power p.multiplier (min (attempt - 1) ((1 <<< 31) - 1))
    (Duration.ofFloatSeconds? (p.poll.toFloatSeconds * factor)).getD Duration.longest

/-- The interval after attempt `attempt`, between the poll interval and the
cap. -/
def interval (p : Plan) (attempt : Nat) : Duration :=
  max (min (p.grown attempt) p.cap) p.poll

/-- The most that jitter adds to an interval, in nanoseconds. -/
def jitterRange (interval : Duration) : Nat :=
  min (interval.nanos / 4) (UInt64.size - 1)

/-- The delay after attempt `attempt`.  A random draw beyond the range of the
jitter counts as the end of the range. -/
def delay (p : Plan) (attempt draw : Nat) : Duration :=
  let interval := p.interval attempt
  if p.jitter then
    interval.add (Duration.ofNanos (min draw (jitterRange interval)))
  else interval

theorem poll_le_interval (p : Plan) (attempt : Nat) :
    p.poll ≤ p.interval attempt := by
  simp only [interval, Duration.le_iff, Duration.nanos_max]
  omega

theorem interval_le_cap (p : Plan) (attempt : Nat) :
    p.interval attempt ≤ p.cap := by
  have h := Duration.le_iff.1 p.poll_le_cap
  simp only [interval, Duration.le_iff, Duration.nanos_max, Duration.nanos_min]
  omega

theorem delay_of_unjittered {p : Plan} (hjitter : p.jitter = false) (attempt draw : Nat) :
    p.delay attempt draw = p.interval attempt := by
  simp [delay, hjitter]

theorem interval_le_delay (p : Plan) (attempt draw : Nat) :
    p.interval attempt ≤ p.delay attempt draw := by
  have h := (p.interval attempt).nanos_lt
  simp only [delay]
  split
  · simp only [Duration.le_iff, Duration.nanos_add]
    omega
  · exact Nat.le_refl _

/-- No delay is shorter than the poll interval. -/
theorem poll_le_delay (p : Plan) (attempt draw : Nat) :
    p.poll ≤ p.delay attempt draw :=
  Nat.le_trans (p.poll_le_interval attempt) (p.interval_le_delay attempt draw)

end Plan
end BoundedWait
