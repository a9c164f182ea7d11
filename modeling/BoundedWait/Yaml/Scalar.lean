import BoundedWait.Decimal.Numeral
import BoundedWait.Text.Hex

/-!
# Plain scalars as values

Which texts without quotes stand for null, a truth value, an unsigned number or
a floating-point number.
-/

namespace BoundedWait
namespace Yaml
namespace Scalar

/-- Whether a text stands for null. -/
def isNull (text : String) : Bool :=
  text ∈ ["null", "Null", "NULL", "~"]

/-- The truth value of a text. -/
def truth? (text : String) : Option Bool :=
  if text ∈ ["true", "True", "TRUE"] then some true
  else if text ∈ ["false", "False", "FALSE"] then some false
  else none

/-- A text without one plus sign at its beginning. -/
def afterPlus : List Char → List Char
  | '+' :: rest => rest
  | text => text

/-- Whether a text is a run of digits that begins with a needless zero, which
is no number. -/
def isPadded (text : List Char) : Bool :=
  let digits :=
    match text with
    | '-' :: rest => rest
    | '+' :: rest => rest
    | text => text
  match digits with
  | '0' :: rest => !rest.isEmpty && rest.all Char.isDigit
  | _ => false

/-- The number of a text: hexadecimal after 0x, octal after 0o, binary after
0b, else decimal. -/
def natural? (text : List Char) : Option Nat :=
  match afterPlus text with
  | '0' :: 'x' :: digits => Text.numberInBase? 16 digits
  | '0' :: 'o' :: digits => Text.numberInBase? 8 digits
  | '0' :: 'b' :: digits => Text.numberInBase? 2 digits
  | digits => if isPadded text then none else Text.numberInBase? 10 digits

/-- The number of a text, if it fits into 64 bits. -/
def count? (text : String) : Option UInt64 :=
  match natural? text.toList with
  | some n => if n < UInt64.size then some (UInt64.ofNat n) else none
  | none => none

/-- The floating-point number of a text; a numeral has to be finite. -/
def real? (text : String) : Option Float :=
  let unsigned := afterPlus text.toList
  let magnitude := String.ofList unsigned
  if magnitude ∈ [".inf", ".Inf", ".INF"] then some (1.0 / 0.0)
  else if text ∈ ["-.inf", "-.Inf", "-.INF"] then some (-1.0 / 0.0)
  else if text ∈ [".nan", ".NaN", ".NAN"] then some (0.0 / 0.0)
  else if unsigned.length < text.length ∧
      (unsigned.head? = some '+' ∨ unsigned.head? = some '-') then none
  else
    (Decimal.numeral? unsigned).bind fun n =>
      if n.toFloat.isFinite then some n.toFloat else none

/-- Whether a text is a whole number of at most 128 bits, possibly negative. -/
def isWhole (text : List Char) : Bool :=
  match natural? text with
  | some n => decide (n < 1 <<< 128)
  | none =>
    match text with
    | '-' :: digits =>
      match digits with
      | '+' :: _ => false
      | digits =>
        if isPadded text then false
        else (natural? digits).any fun n => decide (n ≤ 1 <<< 127)
    | _ => false

/-- Whether a text without quotes would be read as something else than text. -/
def isSpecial (text : String) : Bool :=
  text.isEmpty || isNull text || (truth? text).isSome || isWhole text.toList ||
    isPadded text.toList || (real? text).isSome

end Scalar
end Yaml
end BoundedWait
