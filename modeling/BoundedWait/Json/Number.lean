/-!
# Numbers in JSON text

A number keeps the digits that it was written with until its place asks for a
value.  Its significand holds as many of the digits as fit into 64 bits; the
others only move the point.  It is then scaled by powers of ten with one
rounding for each, so the double is the nearest one whenever the significand
has at most 53 bits and the scale is at most 10^22.
-/

namespace BoundedWait
namespace Json

/-- A number as it is written. -/
structure Number where
  negative : Bool
  whole : List Char
  fraction : Option (List Char)
  /-- The exponent: whether it is negative, and its digits. -/
  exponent : Option (Bool × List Char)
deriving DecidableEq, Repr

/-- The value of a number. -/
inductive Number.Value
  | natural (n : UInt64)
  /-- A number below zero that fits into 64 bits. -/
  | below (n : Int)
  | real (x : Float)

namespace Number

/-- Appends digits to a significand as long as it fits into 64 bits, and
returns those that did not fit. -/
def absorb : Nat → List Char → Nat × List Char
  | significand, [] => (significand, [])
  | significand, d :: rest =>
    let longer := 10 * significand + (d.toNat - '0'.toNat)
    if longer < UInt64.size then absorb longer rest else (significand, d :: rest)

/-- `x * 10 ^ scale` for a scale within the range of doubles, in steps of at
most 10^308 each; none when it is too large. -/
def scaled : Nat → Float → Int → Option Float
  | 0, x, _ => some x
  | steps + 1, x, scale =>
    if scale.natAbs ≤ 308 then
      let power := Float.ofScientific 1 false scale.natAbs
      if 0 ≤ scale then
        let y := x * power
        if y.isFinite then some y else none
      else some (x / power)
    else if x == 0.0 then some x
    else if 0 ≤ scale then none
    else scaled steps (x / Float.ofScientific 1 false 308) (scale + 308)

/-- The double of a significand and a scale. -/
def real? (negative : Bool) (significand : Nat) (scale : Int) : Option Float :=
  (scaled 8 (UInt64.ofNat significand).toFloat scale).map fun x =>
    if negative then -x else x

/-- The double of a significand, a scale and a written exponent.  An exponent
of more than 31 bits stands for zero or for a number that is too large. -/
def withExponent? (negative : Bool) (significand : Nat) (scale : Int)
    (exponent : Bool × List Char) : Option Float :=
  let written := exponent.2.foldl (fun n d => 10 * n + (d.toNat - '0'.toNat)) 0
  if 1 <<< 31 ≤ written then
    if significand ≠ 0 ∧ !exponent.1 then none
    else some (if negative then -0.0 else 0.0)
  else
    let scale := if exponent.1 then scale - (written : Int) else scale + (written : Int)
    real? negative significand scale

/-- The value of a number; none when it is too large for a double. -/
def value? (n : Number) : Option Value :=
  let (significand, dropped) := absorb 0 n.whole
  match n.fraction, n.exponent with
  | none, none =>
    if dropped.isEmpty then
      if !n.negative then some (.natural (UInt64.ofNat significand))
      else if 0 < significand ∧ significand ≤ 1 <<< 63 then some (.below (-(significand : Int)))
      else some (.real (-(UInt64.ofNat significand).toFloat))
    else (real? n.negative significand dropped.length).map .real
  | none, some exponent =>
    (withExponent? n.negative significand dropped.length exponent).map .real
  | some fraction, exponent =>
    let (longer, rest) := absorb significand fraction
    let scale : Int := (dropped.length : Int) - ((fraction.length : Int) - rest.length)
    match exponent with
    | none => (real? n.negative longer scale).map .real
    | some exponent => (withExponent? n.negative longer scale exponent).map .real

end Number
end Json
end BoundedWait
