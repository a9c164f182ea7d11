import BoundedWait.Duration
import BoundedWait.Decimal.Binary

/-!
# Durations as floating-point seconds

A duration becomes a double by adding its whole seconds and its nanoseconds
over 10^9, each rounded on its own.  A double becomes the duration nearest to
it in nanoseconds, the even one of two, if there is one.
-/

namespace BoundedWait
namespace Duration

/-- The seconds of a duration as a double. -/
def toFloatSeconds (d : Duration) : Float :=
  (UInt64.ofNat d.seconds).toFloat + (UInt64.ofNat d.subsecond).toFloat / 1000000000.0

/-- The duration of so many seconds; none for a negative number, a number too
large, and no number. -/
def ofFloatSeconds? (x : Float) : Option Duration :=
  match Decimal.Binary.ofFloat? x with
  | none => none
  | some b =>
    if b.negative ∧ b.significand ≠ 0 then none
    else if 64 < b.exponent then none
    else
      let (numerator, denominator) := b.fraction
      let nanos := Decimal.roundHalfEven (numerator * perSecond) denominator
      if h : nanos < limit then some ⟨nanos, h⟩ else none

end Duration
end BoundedWait
