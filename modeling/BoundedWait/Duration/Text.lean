import BoundedWait.Duration

/-!
# Durations as text

A duration is shown in the largest of the units s, ms, µs and ns in which it
has a whole part, as a decimal number without trailing zeros: 1.5s, 500µs,
1.01µs, 0ns.
-/

namespace BoundedWait
namespace Duration

/-- The decimal digits of `n`, filled with zeros on the left to `width`. -/
def paddedDigits (width n : Nat) : List Char :=
  let digits := Nat.toDigits 10 n
  List.replicate (width - digits.length) '0' ++ digits

/-- A list of digits without the zeros at its end. -/
def dropTrailingZeros (digits : List Char) : List Char :=
  (digits.reverse.dropWhile (· == '0')).reverse

/-- `whole` and a fraction of `width` decimal places. -/
def decimalText (whole fraction width : Nat) : String :=
  if fraction = 0 then toString whole
  else toString whole ++ "." ++
    String.ofList (dropTrailingZeros (paddedDigits width fraction))

/-- The text of a duration, in the largest unit with a whole part. -/
def text (d : Duration) : String :=
  if perSecond ≤ d.nanos then
    decimalText (d.nanos / perSecond) (d.nanos % perSecond) 9 ++ "s"
  else if 1000000 ≤ d.nanos then
    decimalText (d.nanos / 1000000) (d.nanos % 1000000) 6 ++ "ms"
  else if 1000 ≤ d.nanos then
    decimalText (d.nanos / 1000) (d.nanos % 1000) 3 ++ "µs"
  else
    decimalText d.nanos 0 0 ++ "ns"

example : (ofNanos 1010).text = "1.01µs" := by cbv

example : (ofNanos 1500000000).text = "1.5s" := by cbv

example : zero.text = "0ns" := by cbv

end Duration
end BoundedWait
