import BoundedWait.Decimal.Shortest

/-!
# Layouts of decimal numbers

A layout fixes how the shortest digits of a double are written: between which
exponents they are written positionally, whether a whole number ends in .0,
whether a positive exponent has a sign, and what stands for infinity and for
no number.  The layouts themselves stand beside the texts that use them.
-/

namespace BoundedWait
namespace Decimal

/-- How a double is written. -/
structure Layout where
  /-- Which of two equally near decimals is taken. -/
  tie : Tie
  /-- The least and greatest exponents of the leading digit that are written
  positionally; all exponents are when there is no range. -/
  positional : Option (Int × Int)
  /-- Whether a whole number is written with a zero behind the point. -/
  wholePlace : Bool
  /-- Whether an exponent from zero up is written with a plus sign. -/
  plus : Bool
  /-- The text of infinity, after the sign. -/
  infinity : String
  /-- The text of no number. -/
  notANumber : String

namespace Layout

/-- Digits with the point after the leading `point` of them. -/
def positionalText (l : Layout) (digits : List Char) (point : Int) : List Char :=
  let whole := if l.wholePlace then ".0".toList else []
  if (digits.length : Int) ≤ point then
    digits ++ List.replicate (point - digits.length).toNat '0' ++ whole
  else if 0 < point then
    digits.take point.toNat ++ '.' :: digits.drop point.toNat
  else
    "0.".toList ++ List.replicate (-point).toNat '0' ++ digits

/-- One digit before the point, and the exponent of that digit. -/
def exponentText (l : Layout) (digits : List Char) (leading : Int) : List Char :=
  let mantissa :=
    match digits with
    | [] => []
    | [d] => [d]
    | d :: rest => d :: '.' :: rest
  let sign :=
    if leading < 0 then ['-'] else if l.plus then ['+'] else []
  mantissa ++ 'e' :: sign ++ Nat.toDigits 10 leading.natAbs

/-- The text of a magnitude. -/
def magnitude (l : Layout) (d : Digits) : List Char :=
  let digits := Nat.toDigits 10 d.digits
  let leading := d.exponent + digits.length - 1
  let inRange : Bool :=
    match l.positional with
    | none => true
    | some (least, greatest) => decide (least ≤ leading ∧ leading ≤ greatest)
  if d.digits == 0 || inRange then l.positionalText digits (leading + 1)
  else l.exponentText digits leading

/-- The text of a double. -/
def write (l : Layout) (x : Float) : String :=
  match Binary.ofFloat? x with
  | some b =>
    let sign := if b.negative then "-" else ""
    sign ++ String.ofList (l.magnitude (shortest b l.tie))
  | none =>
    if x.isNaN then l.notANumber
    else if x < 0 then "-" ++ l.infinity
    else l.infinity

/-- All digits positionally, as in messages. -/
def plain : Layout :=
  ⟨.upward, none, false, false, "inf", "NaN"⟩

/-- Whole numbers with .0, and an exponent below 1e-4 and from 1e16. -/
def exact : Layout :=
  ⟨.upward, some (-4, 15), true, false, "inf", "NaN"⟩

end Layout
end Decimal
end BoundedWait
