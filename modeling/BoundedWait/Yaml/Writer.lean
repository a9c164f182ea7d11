import BoundedWait.Tree
import BoundedWait.Decimal.Layout
import BoundedWait.Yaml.Cursor
import BoundedWait.Yaml.Scalar

/-!
# Writing YAML text

A record is written one field to a line, and a record inside another one is
indented by two spaces more.  A text is written as plainly as it can be read
back: without quotes, else between single quotes, else between double quotes
with escapes.  A text with a line feed is a literal block if it can be one.

A key that does not fit on one line or into 128 bytes stands after a question
mark, and its value after a colon on a line of its own.
-/

namespace BoundedWait
namespace Yaml

/-- Whole numbers with .0, and an exponent without plus sign below 1e-5 and
from 1e16. -/
def layout : Decimal.Layout :=
  ⟨.toEven, some (-5, 15), true, false, ".inf", ".nan"⟩

/-- Whether a character may stand in a scalar that is not escaped. -/
def isShown (c : Char) : Bool :=
  let code := c.toNat
  code = 0xa || (0x20 ≤ code && code ≤ 0x7e) ||
    (0xa0 ≤ code && code ≤ 0xfffd && code ≠ 0xfeff) || 0x10000 ≤ code

/-- Whether the beginning of a text, in front of the rest, is a mark of the
language. -/
def isMarkAtStart (c : Char) (rest : List Char) : Bool :=
  isFlowMark c || c ∈ "#&*!|>%@".toList || c = '\x27' || c = '\x22' || c = '\x60' ||
    (c ∈ ['?', ':', '-'] && endsWord rest)

/-- Whether a colon before white space or a number sign after it stands behind
the first character of a text. -/
def hasMarkInside : List Char → Bool
  | c :: d :: rest =>
    (d = ':' && endsWord rest) || (d = '#' && (isSpacing c || isBreak c)) ||
      hasMarkInside (d :: rest)
  | _ => false

/-- Whether a text looks like the mark between documents. -/
def looksLikeMarker (text : List Char) : Bool :=
  text.take 3 = ['-', '-', '-'] || text.take 3 = ['.', '.', '.']

/-- Whether a text can be written without quotes, whatever it would be read
as. -/
def isPlain (text : List Char) : Bool :=
  match text with
  | [] => false
  | c :: rest =>
    !looksLikeMarker text && !isMarkAtStart c rest && !hasMarkInside text &&
      c ≠ ' ' && text.getLast? ≠ some ' ' && !text.any isBreak

/-- Whether a character of one class stands directly before one of another. -/
def hasPair (first second : Char → Bool) : List Char → Bool
  | c :: d :: rest => (first c && second d) || hasPair first second (d :: rest)
  | _ => false

/-- Whether a space stands before the end of a line, which hides it. -/
def hasHiddenSpace (text : List Char) : Bool :=
  hasPair (· = ' ') isBreak text

/-- Whether a text can be written between single quotes.  Spaces at the
beginning of a line would be lost there. -/
def isQuotable (text : List Char) : Bool :=
  text.all isShown && !hasHiddenSpace text && !hasPair isBreak (· = ' ') text

/-- The spaces of an indentation. -/
def spaces (indent : Nat) : List Char :=
  List.replicate indent ' '

/-- A text with an indentation before each of its lines that is not empty; the
first line begins before the text if so told. -/
def indented (indent : Nat) (begun : Bool) : List Char → List Char
  | [] => []
  | c :: rest =>
    if isBreak c then c :: indented indent false rest
    else if begun then c :: indented indent true rest
    else spaces indent ++ c :: indented indent true rest

/-- A text between single quotes.  Its further lines are indented, also the
closing quote on a line of its own. -/
def singleQuoted (indent : Nat) (text : List Char) : List Char :=
  let doubled := text.flatMap fun c => if c = '\x27' then ['\x27', '\x27'] else [c]
  '\x27' :: indented (indent + 2) true (doubled ++ ['\x27'])

/-- A code as upper-case hexadecimal digits of a width. -/
def hexDigits (width code : Nat) : List Char :=
  let digits := (Nat.toDigits 16 code).map Char.toUpper
  List.replicate (width - digits.length) '0' ++ digits

/-- How a character is written between double quotes. -/
def escaped (c : Char) : List Char :=
  if isShown c ∧ c ≠ '\n' ∧ c ≠ '\x22' ∧ c ≠ '\\' ∧ !isBreak c then [c]
  else
    match c with
    | '\x00' => ['\\', '0']
    | '\x07' => ['\\', 'a']
    | '\x08' => ['\\', 'b']
    | '\t' => ['\\', 't']
    | '\n' => ['\\', 'n']
    | '\x0b' => ['\\', 'v']
    | '\x0c' => ['\\', 'f']
    | '\r' => ['\\', 'r']
    | '\x1b' => ['\\', 'e']
    | '\x22' => ['\\', '\x22']
    | '\\' => ['\\', '\\']
    | '\u0085' => ['\\', 'N']
    | '\u00a0' => ['\\', '_']
    | '\u2028' => ['\\', 'L']
    | '\u2029' => ['\\', 'P']
    | c =>
      let code := c.toNat
      if code ≤ 0xff then '\\' :: 'x' :: hexDigits 2 code
      else if code ≤ 0xffff then '\\' :: 'u' :: hexDigits 4 code
      else '\\' :: 'U' :: hexDigits 8 code

/-- A text between double quotes. -/
def doubleQuoted (text : List Char) : List Char :=
  '\x22' :: text.flatMap escaped ++ ['\x22']

/-- A text of one line, or of several without a line feed between them. -/
def inlineText (indent : Nat) (s : String) : List Char :=
  let text := s.toList
  if !isQuotable text then doubleQuoted text
  else if Scalar.isSpecial s || !isPlain text then singleQuoted indent text
  else text

/-- What a literal block says about the breaks at its end: that the last line
has none, or that all of several are kept. -/
def chomping (text : List Char) : List Char :=
  match text.reverse with
  | c :: before =>
    if !isBreak c then ['-'] else if before.head?.all isBreak then ['+'] else []
  | [] => ['-']

/-- A text as a literal block, which ends like the text itself. -/
def literalText (indent : Nat) (text : List Char) : List Char :=
  let hint := if text.head?.any (fun c => c = ' ' || isBreak c) then ['2'] else []
  '|' :: hint ++ chomping text ++ '\n' :: indented (indent + 2) false text

/-- Whether a text can be written as a literal block. -/
def isLiteral (text : List Char) : Bool :=
  text.all isShown && text.getLast? ≠ some ' ' && !hasHiddenSpace text

/-- A text, which may go over several lines. -/
def textAt (indent : Nat) (s : String) : List Char :=
  if !s.toList.contains '\n' then inlineText indent s
  else if isLiteral s.toList then literalText indent s.toList
  else doubleQuoted s.toList

/-- Ends the line of what was written, unless it ends already. -/
def endLine (written : List Char) : List Char :=
  if written.getLast?.any isBreak then written else written ++ ['\n']

/-- Whether a key stands before its colon on one line. -/
def isSimpleKey (key : String) : Bool :=
  key.utf8ByteSize ≤ 128 && !key.toList.any isBreak

/-- A value that is no record. -/
def writeScalar (indent : Nat) : Tree → List Char
  | .null => "null".toList
  | .truth b => if b then "true".toList else "false".toList
  | .count n => Nat.toDigits 10 n.toNat
  | .real x => (layout.write x).toList
  | .text s => textAt indent s
  | .record _ => ['\x7b', '\x7d']

mutual

/-- What stands after the colon of a field, up to the end of its last line. -/
def writeValue (indent : Nat) : Tree → List Char
  | .record (field :: fields) =>
    '\n' :: writeFields (indent + 2) (field :: fields)
  | value => endLine (' ' :: writeScalar indent value)

/-- What stands after a colon on a line of its own. -/
def writeOwnValue (indent : Nat) : Tree → List Char
  | .record (field :: fields) =>
    ' ' :: (writeFields (indent + 2) (field :: fields)).drop (indent + 2)
  | value => endLine (' ' :: writeScalar indent value)

/-- The fields of a record, each with its line breaks. -/
def writeFields (indent : Nat) : List (String × Tree) → List Char
  | [] => []
  | (key, value) :: rest =>
    let field :=
      if isSimpleKey key then inlineText indent key ++ ':' :: writeValue indent value
      else endLine ('?' :: ' ' :: textAt indent key) ++ spaces indent ++ ':' ::
        writeOwnValue indent value
    spaces indent ++ field ++ writeFields indent rest

end

/-- A tree as the text of a document. -/
def write : Tree → String
  | .record (field :: fields) => String.ofList (writeFields 0 (field :: fields))
  | value => String.ofList (endLine (writeScalar 0 value))

end Yaml
end BoundedWait
