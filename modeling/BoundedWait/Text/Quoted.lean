import BoundedWait.Text.Printable
import BoundedWait.Text.Extending

/-!
# Quoted text

A quoted text stands between double quotes.  Inside, NUL, tab, line feed,
carriage return, the quote and the backslash have short escapes; a character
that is not printable or that extends its predecessor is written by its code
point; every other character stands for itself.
-/

namespace BoundedWait
namespace Text
namespace Quoted

/-- The escape of a character by its code point in hexadecimal. -/
def byCodePoint (c : Char) : List Char :=
  "\\u\x7b".toList ++ Nat.toDigits 16 c.toNat ++ ['\x7d']

/-- How one character is written inside the quotes. -/
def encodeChar (c : Char) : List Char :=
  if c = '\x00' then ['\\', '0']
  else if c = '\t' then ['\\', 't']
  else if c = '\n' then ['\\', 'n']
  else if c = '\r' then ['\\', 'r']
  else if c = '\x22' then ['\\', '\x22']
  else if c = '\\' then ['\\', '\\']
  else if isExtending c || !isPrintable c then byCodePoint c
  else [c]

/-- A text between quotes. -/
def encode (text : String) : String :=
  String.ofList ('\x22' :: text.toList.flatMap encodeChar ++ ['\x22'])

example : encode "a\tb" = "\"a\\tb\"" := by decide +kernel

end Quoted
end Text
end BoundedWait
