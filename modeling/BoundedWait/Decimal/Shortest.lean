import BoundedWait.Decimal.Binary

/-!
# The fewest digits that read back

Every positive finite double stands for an interval of real numbers: those
that round to it.  Its shortest decimal is the number with the fewest digits
in that interval, and of those the one nearest to the double.

* `Interval` holds the two ends and the value over one denominator; the ends
  belong to it iff the significand is even.
* For 1, 2, ... 17 digits, the two neighbours of the value on that decimal grid
  are tested, and the first grid with a hit wins.
* When both neighbours are hits at the same distance, `Tie` decides.
-/

namespace BoundedWait
namespace Decimal

/-- Which of two equally near decimals is taken. -/
inductive Tie
  | upward
  | toEven
deriving DecidableEq, Repr

/-- A decimal number `digits * 10 ^ exponent`. -/
structure Digits where
  digits : Nat
  exponent : Int
deriving DecidableEq, Repr

/-- The real numbers that round to a double, over a common denominator. -/
structure Interval where
  low : Nat
  value : Nat
  high : Nat
  denominator : Nat
  closed : Bool

namespace Interval

/-- The interval of the magnitude of a double. -/
def ofBinary (b : Binary) : Interval :=
  let quarter : Binary := ⟨false, 1, b.exponent - 2⟩
  let (scale, denominator) := quarter.fraction
  let below := if b.isNarrowBelow then 1 else 2
  ⟨(4 * b.significand - below) * scale, 4 * b.significand * scale,
    (4 * b.significand + 2) * scale, denominator, b.significand % 2 == 0⟩

/-- Whether the quotient `numerator / denominator` lies in the interval. -/
def contains (i : Interval) (numerator denominator : Nat) : Bool :=
  let low := i.low * denominator
  let high := i.high * denominator
  let here := numerator * i.denominator
  if i.closed then decide (low ≤ here ∧ here ≤ high)
  else decide (low < here ∧ here < high)

/-- The exponent of the leading decimal digit of the value. -/
def leading (i : Interval) : Int :=
  if i.denominator ≤ i.value then
    ((Nat.toDigits 10 (i.value / i.denominator)).length : Int) - 1
  else
    let places := (Nat.toDigits 10 (i.denominator / i.value)).length
    if i.denominator ≤ i.value * Nat.pow 10 (places - 1) then 1 - (places : Int)
    else -(places : Int)

/-- The grid of the multiples of `10 ^ exponent`, as the quotient by which a
multiple is turned into a number. -/
def grid (exponent : Int) : Nat × Nat :=
  if 0 ≤ exponent then (Nat.pow 10 exponent.toNat, 1)
  else (1, Nat.pow 10 (-exponent).toNat)

/-- The multiple of `10 ^ exponent` nearest to the value among its two
neighbours that lie in the interval. -/
def onGrid? (i : Interval) (tie : Tie) (exponent : Int) : Option Nat :=
  let (up, down) := grid exponent
  let unit := up * i.denominator
  let scaled := i.value * down
  let below := scaled / unit
  let twice := 2 * (scaled % unit)
  let above := below + 1
  match i.contains (below * up) down, i.contains (above * up) down with
  | true, true =>
    if unit < twice then some above
    else if twice < unit then some below
    else match tie with
      | .upward => some above
      | .toEven => some (below + below % 2)
  | true, false => some below
  | false, true => some above
  | false, false => none

/-- The first hit over grids of `count`, `count + 1`, ... digits. -/
def search (i : Interval) (tie : Tie) (leading : Int) : Nat → Nat → Option Digits
  | 0, _ => none
  | rounds + 1, count =>
    let exponent := leading - (count : Int) + 1
    match i.onGrid? tie exponent with
    | some digits => some ⟨digits, exponent⟩
    | none => search i tie leading rounds (count + 1)

end Interval

/-- Moves zeros from the end of the digits into the exponent. -/
def Digits.trimmed (d : Digits) : Nat → Digits
  | 0 => d
  | rounds + 1 =>
    if d.digits ≠ 0 ∧ d.digits % 10 = 0 then
      Digits.trimmed ⟨d.digits / 10, d.exponent + 1⟩ rounds
    else d

/-- The shortest decimal of the magnitude of a finite double. -/
def shortest (b : Binary) (tie : Tie) : Digits :=
  if b.significand = 0 then ⟨0, 0⟩
  else
    let i := Interval.ofBinary b
    ((i.search tie i.leading 17 1).getD ⟨0, 0⟩).trimmed 20

end Decimal
end BoundedWait
