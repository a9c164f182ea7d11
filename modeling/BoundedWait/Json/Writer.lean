import BoundedWait.Tree
import BoundedWait.Decimal.Layout

/-!
# Writing JSON text

A tree is written without any white space.  Inside a text the quote, the
backslash and the characters below U+0020 are escaped.  A number that is not
finite is written as null.
-/

namespace BoundedWait
namespace Json

/-- Whole numbers with .0, and a signed exponent below 1e-5 and from 1e16. -/
def layout : Decimal.Layout :=
  ⟨.toEven, some (-5, 15), true, true, "null", "null"⟩

/-- How one character of a text is written. -/
def escape (c : Char) : List Char :=
  if c = '\x22' then ['\\', '\x22']
  else if c = '\\' then ['\\', '\\']
  else if c = '\x08' then ['\\', 'b']
  else if c = '\x0c' then ['\\', 'f']
  else if c = '\n' then ['\\', 'n']
  else if c = '\r' then ['\\', 'r']
  else if c = '\t' then ['\\', 't']
  else if c.toNat < 0x20 then
    ['\\', 'u', '0', '0', Nat.digitChar (c.toNat / 16), Nat.digitChar (c.toNat % 16)]
  else [c]

/-- A text in quotes. -/
def quote (s : String) : String :=
  String.ofList ('\x22' :: s.toList.flatMap escape ++ ['\x22'])

mutual

/-- A tree as JSON text. -/
def write : Tree → String
  | .null => "null"
  | .truth b => if b then "true" else "false"
  | .count n => toString n.toNat
  | .real x => if x.isFinite then layout.write x else "null"
  | .text s => quote s
  | .record fields => "\x7b" ++ String.intercalate "," (writeFields fields) ++ "\x7d"

/-- The fields of a record as JSON text. -/
def writeFields : List (String × Tree) → List String
  | [] => []
  | (key, value) :: rest => (quote key ++ ":" ++ write value) :: writeFields rest

end

end Json
end BoundedWait
