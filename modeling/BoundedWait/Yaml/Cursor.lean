/-!
# Positions in YAML text

A cursor is what is left of a text together with the place where that begins.
The place counts lines and columns, because in YAML indentation carries meaning
and a key has to fit on one line.

A line ends with a carriage return, a line feed, both together, a next line,
a line separator or a paragraph separator.  The first four are read as a line
feed, the others as themselves.
-/

namespace BoundedWait
namespace Yaml

/-- The characters that a text may hold at all. -/
def isAllowed (c : Char) : Bool :=
  let code := c.toNat
  code = 0x9 || code = 0xa || code = 0xd || (0x20 ≤ code && code ≤ 0x7e) || code = 0x85 ||
    (0xa0 ≤ code && code ≤ 0xfffd) || 0x10000 ≤ code

/-- A character that ends a line. -/
def isBreak (c : Char) : Bool :=
  c = '\n' || c = '\r' || c = '\u0085' || c = '\u2028' || c = '\u2029'

/-- A space or a tab. -/
def isSpacing (c : Char) : Bool :=
  c = ' ' || c = '\t'

/-- The characters of anchors and of the handles of tags. -/
def isNameChar (c : Char) : Bool :=
  c.isAlphanum || c = '_' || c = '-'

/-- The brackets, braces and comma of flow collections. -/
def isFlowMark (c : Char) : Bool :=
  c ∈ [',', '[', ']', '\x7b', '\x7d']

/-- Whether a word ends where a text begins. -/
def endsWord : List Char → Bool
  | [] => true
  | c :: _ => isSpacing c || isBreak c

/-- How many bytes a text takes. -/
def byteSize (text : List Char) : Nat :=
  text.foldl (fun size c => size + c.utf8Size) 0

/-- The rest of a text, and where it begins. -/
structure Cursor where
  rest : List Char
  /-- How many bytes stand before it. -/
  index : Nat
  line : Nat
  column : Nat
deriving Repr

namespace Cursor

/-- The beginning of a text. -/
def start (text : List Char) : Cursor := ⟨text, 0, 0, 0⟩

/-- Moves on by characters within a line. -/
def advance (c : Cursor) (n : Nat) : Cursor :=
  { c with
    rest := c.rest.drop n
    index := c.index + byteSize (c.rest.take n)
    column := c.column + n }

/-- Moves on within a line to a later part of the text. -/
def moveTo (c : Cursor) (rest : List Char) : Cursor :=
  c.advance (c.rest.length - rest.length)

/-- The characters of a class at the beginning, none of which ends a line. -/
def span (c : Cursor) (inClass : Char → Bool) : List Char × Cursor :=
  let taken := c.rest.takeWhile inClass
  (taken, c.advance taken.length)

/-- Without the characters of a class at the beginning. -/
def skip (c : Cursor) (inClass : Char → Bool) : Cursor :=
  (c.span inClass).2

/-- The next line, together with the character for the end of this one, if
this one ends here. -/
def newline? (c : Cursor) : Option (Char × Cursor) :=
  match c.rest with
  | '\r' :: '\n' :: rest => some ('\n', ⟨rest, c.index + 2, c.line + 1, 0⟩)
  | ch :: rest =>
    if isBreak ch then
      let read := if ch = '\u2028' ∨ ch = '\u2029' then ch else '\n'
      some (read, ⟨rest, c.index + ch.utf8Size, c.line + 1, 0⟩)
    else none
  | [] => none

/-- Without a byte order mark at the beginning of a line. -/
def skipByteOrderMark (c : Cursor) : Cursor :=
  if c.column = 0 ∧ c.rest.head? = some '\uFEFF' then c.advance 1 else c

/-- Without a comment at the beginning. -/
def skipComment (c : Cursor) : Cursor :=
  if c.rest.head? = some '#' then c.skip fun ch => !isBreak ch else c

/-- What follows the spacing, the comment and the end of a line that holds
nothing else. -/
def restOfLine? (c : Cursor) : Option Cursor :=
  let c := (c.skip isSpacing).skipComment
  match c.newline? with
  | some (_, next) => some next
  | none => if c.rest.isEmpty then some c else none

/-- Whether a word of three characters stands alone at the beginning of a
line. -/
def hasMarker (c : Cursor) (marker : List Char) : Bool :=
  c.column = 0 && marker.isPrefixOf c.rest && endsWord (c.rest.drop marker.length)

/-- Whether a document begins or ends here. -/
def atDocumentMarker (c : Cursor) : Bool :=
  c.hasMarker ['-', '-', '-'] || c.hasMarker ['.', '.', '.']

end Cursor
end Yaml
end BoundedWait
