import BoundedWait.Wait.Loop
import BoundedWait.Proofs.Plan.Building

/-!
# Arithmetic that can fail

The bound, the delays and the decisions of a plan, computed from a draft that
nobody has checked, by operations that fail where a machine's do: there is no
division by zero, no longer time can be taken from a shorter one, and nothing
can be drawn from an empty range.  Numbers and times have a limit, and what
would go beyond it is replaced by the limit where that is meant to happen.

* `Draft.bound?_eq_none_iff`: a draft without a poll interval has no bound.
* `Draft.bound?_eq`, `Draft.delay?_eq`, `Draft.settle?_eq`: on the draft of a
  plan nothing fails, and the results are those of the plan.
-/

namespace BoundedWait
namespace Strict

/-- A number below a limit. -/
def below? (limit n : Nat) : Option Nat :=
  if n < limit then some n else none

/-- The whole part of a quotient. -/
def divide? (a b : Nat) : Option Nat :=
  if b = 0 then none else some (a / b)

/-- The duration of so many nanoseconds. -/
def duration? (n : Nat) : Option Duration :=
  if h : n < Duration.limit then some ⟨n, h⟩ else none

/-- What is left of `a` after `b`. -/
def remaining? (a b : Duration) : Option Duration :=
  if b ≤ a then some (a.sub b) else none

/-- A random number from `low` to `high`. -/
def pick? (low high draw : Nat) : Option Nat :=
  if low ≤ high then some (min (low + draw) high) else none

section Operations

theorem getD_below?
    (limit n : Nat) :
    (below? (limit + 1) n).getD limit = min n limit := by
  simp only [below?]
  split
  · simp only [Option.getD_some]
    omega
  · simp only [Option.getD_none]
    omega

theorem getD_duration?
    (n : Nat) :
    (duration? n).getD Duration.longest = Duration.ofNanos n := by
  simp only [duration?]
  split
  · apply Duration.ext
    simp only [Option.getD_some, Duration.nanos_ofNanos]
    omega
  · apply Duration.ext
    simp only [Option.getD_none, Duration.longest, Duration.nanos_ofNanos]
    omega

theorem divide?_of_pos
    {b : Nat}
    (hb : 0 < b)
    (a : Nat) :
    divide? a b = some (a / b) := by
  simp only [divide?]
  rw [if_neg (by omega)]

theorem remaining?_of_le
    {a b : Duration}
    (h : b ≤ a) :
    remaining? a b = some (a.sub b) := by
  simp only [remaining?, if_pos h]

theorem pick?_zero
    (high draw : Nat) :
    pick? 0 high draw = some (min draw high) := by
  simp only [pick?, if_pos (Nat.zero_le high), Nat.zero_add]

end Operations

end Strict

namespace Plan
namespace Draft

open Strict

def bound? (d : Draft) : Option Nat := do
  let full ← divide? d.timeout.nanos d.poll.nanos
  let full := (below? UInt32.size full).getD counterLimit
  return (below? UInt32.size (full + 1)).getD counterLimit

/-- The interval after an attempt, before it is capped. -/
def grown (d : Draft) (attempt : Nat) : Duration :=
  match d.growth with
  | .fixed => d.poll
  | .linear =>
    let count := (below? UInt32.size (attempt - 1 + 1)).getD counterLimit
    (duration? (d.poll.nanos * count)).getD Duration.longest
  | .exponential =>
    let exponent := (below? (1 <<< 31) (attempt - 1)).getD ((1 <<< 31) - 1)
    let factor := power d.multiplier exponent
    (Duration.ofFloatSeconds? (d.poll.toFloatSeconds * factor)).getD Duration.longest

/-- The delay after an attempt. -/
def delay? (d : Draft) (attempt draw : Nat) : Option Duration := do
  let interval := max (min (d.grown attempt) d.effectiveCap) d.poll
  if d.jitter then
    let range := (below? UInt64.size (interval.nanos / 4)).getD (UInt64.size - 1)
    let extra ← pick? 0 range draw
    return (duration? (interval.nanos + extra)).getD Duration.longest
  else return interval

/-- What follows an attempt. -/
def settle? {α : Type} (d : Draft) (n : Nat) (attempt : Attempt α)
    (elapsed : Duration) (cancelled : Bool) (draw : Nat) : Option (Event × Wait.Step α) :=
  match attempt with
  | .ready value =>
    some (.succeeded n elapsed, .finished (.success value))
  | .fatal fault =>
    some (.aborted n fault elapsed, .finished (.aborted fault n elapsed))
  | .notYet fault =>
    if cancelled = true ∨ d.timeout ≤ elapsed then
      let ending := Wait.giveUp n fault elapsed cancelled
      some (ending.1, .finished ending.2)
    else do
      let wanted ← d.delay? n draw
      let left ← remaining? d.timeout elapsed
      let delay := min wanted left
      return (.notReady n fault delay, .sleep fault delay)

theorem bound?_eq_none_iff
    {d : Draft} :
    d.bound? = none ↔ d.poll.nanos = 0 := by
  constructor
  · intro h
    refine Nat.eq_zero_of_not_pos fun hpos => ?_
    simp only [bound?, divide?_of_pos hpos] at h
    cases h
  · intro h
    simp only [bound?, divide?, h, if_true]
    rfl

section Described

variable {α : Type} {d : Draft} {p : Plan}

theorem bound?_eq
    (h : d.Describes p) :
    d.bound? = some p.bound := by
  have hcounter : UInt32.size = counterLimit + 1 := rfl
  simp only [bound?, ← h.timeout_eq, ← h.poll_eq, divide?_of_pos p.poll_pos, hcounter,
    getD_below?, bound]
  rfl

theorem grown_eq
    (h : d.Describes p)
    (attempt : Nat) :
    d.grown attempt = p.grown attempt := by
  cases hgrowth : p.growth with
  | fixed =>
      simp only [grown, Plan.grown, ← h.growth_eq, hgrowth, ← h.poll_eq]
  | linear =>
      have hcounter : UInt32.size = counterLimit + 1 := rfl
      simp only [grown, Plan.grown, ← h.growth_eq, hgrowth, ← h.poll_eq, hcounter,
        getD_below?, getD_duration?, Duration.scale]
  | exponential =>
      have hexponent : (below? (1 <<< 31) (attempt - 1)).getD ((1 <<< 31) - 1) =
          min (attempt - 1) ((1 <<< 31) - 1) := getD_below? _ _
      simp only [grown, Plan.grown, ← h.growth_eq, hgrowth, ← h.poll_eq, ← h.multiplier_eq,
        hexponent]

/-- Adding the jitter never fails: its range is never empty. -/
theorem delay?_eq
    (h : d.Describes p)
    (attempt draw : Nat) :
    d.delay? attempt draw = some (p.delay attempt draw) := by
  have hrange : ∀ n, (below? UInt64.size n).getD (UInt64.size - 1) = min n (UInt64.size - 1) :=
    getD_below? _
  simp only [delay?, grown_eq h, ← h.cap_eq, ← h.poll_eq, ← h.jitter_eq, hrange, pick?_zero,
    getD_duration?, delay]
  split
  · refine congrArg some (Duration.ext ?_)
    simp only [interval, Duration.nanos_add, Duration.nanos_ofNanos, jitterRange]
    omega
  · rfl

/-- No time is taken from a shorter one: what is left of the timeout is asked for
only while there is some left. -/
theorem settle?_eq
    (h : d.Describes p)
    (n : Nat) (attempt : Attempt α)
    (elapsed : Duration) (cancelled : Bool) (draw : Nat) :
    d.settle? n attempt elapsed cancelled draw =
      some (Wait.settle p n attempt elapsed cancelled draw) := by
  cases attempt with
  | ready value =>
      rfl
  | fatal fault =>
      rfl
  | notYet fault =>
      simp only [settle?, Wait.settle, ← h.timeout_eq]
      split
      · rfl
      · rename_i hleft
        -- the guard before the subtraction is what keeps it from failing
        have hle : elapsed ≤ p.timeout := by
          have hlt := not_or.1 hleft
          simp only [Duration.le_iff] at hlt ⊢
          omega
        rw [delay?_eq h, remaining?_of_le hle]
        rfl

end Described

end Draft
end Plan
end BoundedWait
