/-!
# Reading decimal numbers

A numeral is a sign, a run of digits with at most one point among or around
them, and an optional exponent.  It is read into the double nearest to it,
the even one of two.
-/

namespace BoundedWait
namespace Decimal

/-- The number `± digits * 10 ^ exponent`. -/
structure Numeral where
  negative : Bool
  digits : Nat
  exponent : Int
deriving DecidableEq, Repr

/-- The value of a list of decimal digits. -/
def digitsValue (digits : List Char) : Nat :=
  digits.foldl (fun n c => 10 * n + (c.toNat - '0'.toNat)) 0

/-- The leading digits of a text, and what follows them. -/
def spanDigits (text : List Char) : List Char × List Char :=
  (text.takeWhile Char.isDigit, text.dropWhile Char.isDigit)

/-- The exponent after the mantissa; nothing but it may follow. -/
def exponentOf? : List Char → Option Int
  | [] => some 0
  | mark :: rest =>
    if mark == 'e' || mark == 'E' then
      let (negative, rest) :=
        match rest with
        | '-' :: rest => (true, rest)
        | '+' :: rest => (false, rest)
        | rest => (false, rest)
      if rest.isEmpty || !rest.all Char.isDigit then none
      else
        let value : Int := digitsValue rest
        some (if negative then -value else value)
    else none

/-- A mantissa of at least one digit, and an exponent. -/
def unsigned? (negative : Bool) (text : List Char) : Option Numeral :=
  let (whole, rest) := spanDigits text
  let (fraction, rest) :=
    match rest with
    | '.' :: rest => spanDigits rest
    | rest => ([], rest)
  if whole.isEmpty && fraction.isEmpty then none
  else (exponentOf? rest).map fun exponent =>
    ⟨negative, digitsValue (whole ++ fraction), exponent - fraction.length⟩

/-- The numeral that a text spells from end to end. -/
def numeral? : List Char → Option Numeral
  | '-' :: rest => unsigned? true rest
  | '+' :: rest => unsigned? false rest
  | text => unsigned? false text

/-- The nearest double.  Beyond 400 places on either side of the point it is
infinity or zero, whatever the digits. -/
def Numeral.toFloat (n : Numeral) : Float :=
  let leading := n.exponent + (Nat.toDigits 10 n.digits).length
  let magnitude : Float :=
    if n.digits = 0 ∨ leading < -400 then 0.0
    else if 400 < leading then 1.0 / 0.0
    else if 0 ≤ n.exponent then
      Float.ofScientific (n.digits * Nat.pow 10 n.exponent.toNat) false 0
    else Float.ofScientific n.digits true n.exponent.natAbs
  if n.negative then -magnitude else magnitude

end Decimal
end BoundedWait
