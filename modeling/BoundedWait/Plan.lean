import BoundedWait.Duration.Text
import BoundedWait.Decimal.Layout

/-!
# Plans

A plan says how often a wait polls and how long it may take.  Its bounds are
part of the type: the poll interval is positive and fits into the timeout, the
multiplier is a finite number from one up, and no grown interval is capped
below the poll interval.

* `Plan.Defect` is the one thing wrong with parameters that make no plan.
* `Plan.bound` is the number of attempts that a plan allows.
-/

namespace BoundedWait

/-- How the interval between attempts changes over a wait. -/
inductive Growth
  /-- The same interval after every attempt. -/
  | fixed
  /-- One poll interval more after each attempt. -/
  | linear
  /-- Multiplied after each attempt. -/
  | exponential
deriving DecidableEq, Repr

namespace Growth

/-- The way of growing that is not asked for. -/
def standard : Growth := fixed

/-- Every way of growing. -/
def all : List Growth := [fixed, linear, exponential]

/-- The name of a way of growing. -/
def name : Growth → String
  | fixed => "fixed"
  | linear => "linear"
  | exponential => "exponential"

/-- The way of growing of a name. -/
def ofName? (text : String) : Option Growth :=
  all.find? (·.name == text)

theorem ofName?_name (g : Growth) :
    ofName? g.name = some g := by
  cases g <;> decide +kernel

end Growth

/-- How a wait polls, and for how long. -/
@[ext] structure Plan where
  /-- The least time between attempts. -/
  poll : Duration
  /-- The time that the wait may take. -/
  timeout : Duration
  growth : Growth
  /-- The factor of exponential growth. -/
  multiplier : Float
  /-- The most to which an interval grows. -/
  cap : Duration
  /-- Whether each interval is lengthened at random by up to a quarter. -/
  jitter : Bool
  poll_pos : 0 < poll.nanos
  poll_le_timeout : poll ≤ timeout
  multiplier_finite : multiplier.isFinite = true
  one_le_multiplier : 1.0 ≤ multiplier
  poll_le_cap : poll ≤ cap
deriving DecidableEq

namespace Plan

/-- What is wrong with parameters that make no plan. -/
inductive Defect
  | zeroPoll
  | shortTimeout (timeout poll : Duration)
  | badMultiplier (multiplier : Float)
  | shortCap (cap poll : Duration)
deriving DecidableEq

/-- The text of a defect. -/
def Defect.message : Defect → String
  | zeroPoll => "poll interval must be greater than zero"
  | shortTimeout timeout poll =>
    "timeout (" ++ timeout.text ++ ") must not be shorter than the poll interval (" ++
      poll.text ++ ")"
  | badMultiplier multiplier =>
    "backoff multiplier must be a finite number >= 1.0, got " ++
      Decimal.Layout.plain.write multiplier
  | shortCap cap poll =>
    "max poll interval (" ++ cap.text ++ ") must not be shorter than the poll interval (" ++
      poll.text ++ ")"

/-- The greatest number that the attempt counter can hold, 2^32 - 1. -/
def counterLimit : Nat := 4294967295

/-- How many attempts a plan allows: one, and one more for each poll interval
in the timeout, as far as the counter goes. -/
def bound (p : Plan) : Nat :=
  min (min (p.timeout.nanos / p.poll.nanos) counterLimit + 1) counterLimit

theorem two_le_bound (p : Plan) :
    2 ≤ p.bound := by
  have h : 1 ≤ p.timeout.nanos / p.poll.nanos :=
    Nat.div_pos p.poll_le_timeout p.poll_pos
  simp only [bound, counterLimit]
  omega

theorem bound_le (p : Plan) :
    p.bound ≤ counterLimit := by
  simp only [bound]
  omega

end Plan
end BoundedWait
