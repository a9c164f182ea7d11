import BoundedWait.Yaml.Cursor
import BoundedWait.Yaml.Token
import BoundedWait.Text.Hex

/-!
# Names in YAML text

The names that begin with a mark: anchors and references, tags, and the
directives before a document.
-/

namespace BoundedWait
namespace Yaml

/-- The name of an anchor after its mark. -/
def anchorName? (c : Cursor) : Option (String × Cursor) :=
  let (name, c) := c.span isNameChar
  let ended := endsWord c.rest ||
    c.rest.head?.any fun ch => ch ∈ ['?', ':', ',', ']', '\x7d', '%', '@', '\x60']
  if name.isEmpty || !ended then none else some (String.ofList name, c)

/-- The characters of a tag; the brackets and the comma only in verbatim
ones. -/
def isTagChar (verbatim : Bool) (c : Char) : Bool :=
  isNameChar c || c ∈ ";/?:@&=+$.%!~*'()".toList || (verbatim && c ∈ [',', '[', ']'])

/-- How many bytes follow a byte that begins a character.  The characters need
not be ones that Unicode has. -/
def furtherBytes? (byte : Nat) : Option Nat :=
  if byte < 0x80 then some 0
  else if 0xc0 ≤ byte ∧ byte < 0xe0 then some 1
  else if 0xe0 ≤ byte ∧ byte < 0xf0 then some 2
  else if 0xf0 ≤ byte ∧ byte < 0xf8 then some 3
  else none

/-- The bytes of a tag, in which a percent sign stands before the digits of a
byte.  All bytes of a character are given so, or none is. -/
def tagBytes? : Nat → List Char → Option Tag
  | pending, '%' :: high :: low :: rest => do
    let byte ← Text.hexNumber? [high, low]
    let pending ←
      match pending with
      | 0 => furtherBytes? byte
      | further + 1 => if 0x80 ≤ byte ∧ byte < 0xc0 then some further else none
    let bytes ← tagBytes? pending rest
    return UInt8.ofNat byte :: bytes
  | 0, c :: rest =>
    if c = '%' then none else (tagBytes? 0 rest).map (UInt8.ofNat c.toNat :: ·)
  | 0, [] => some []
  | _ + 1, _ => none

/-- The part of a tag after its handle, up to its first zero byte.  It may be
left out only if told so. -/
def tagPart? (verbatim optional : Bool) (c : Cursor) : Option (Tag × Cursor) := do
  let (text, c) := c.span (isTagChar verbatim)
  if text.isEmpty && !optional then none
  else
    let bytes ← tagBytes? 0 text
    return (bytes.takeWhile (· ≠ 0), c)

/-- The handle of a tag, with its exclamation marks. -/
def tagHandle? (c : Cursor) : Option (List Char × Cursor) :=
  match c.rest with
  | '!' :: _ =>
    let (name, c) := (c.advance 1).span isNameChar
    match c.rest with
    | '!' :: _ => some ('!' :: name ++ ['!'], c.advance 1)
    | _ => some ('!' :: name, c)
  | _ => none

/-- The tag that is nothing but an exclamation mark. -/
def bareTag : Tag :=
  "!".toUTF8.toList

/-- A tag from its exclamation mark on. -/
def tag? (inFlow : Bool) (c : Cursor) : Option (Token × Cursor) := do
  let (token, c) ←
    match c.rest with
    | '!' :: '<' :: _ => do
      let (tag, c) ← tagPart? true false (c.advance 2)
      if c.rest.head? ≠ some '>' then none else some (Token.tag "" tag, c.advance 1)
    | _ => do
      let (handle, after) ← tagHandle? c
      if 1 < handle.length ∧ handle.getLast? = some '!' then
        let (suffix, c) ← tagPart? false false after
        some (Token.tag (String.ofList handle) suffix, c)
      else
        let (suffix, c) ← tagPart? false true (c.advance 1)
        some (if suffix.isEmpty then Token.tag "" bareTag else Token.tag "!" suffix, c)
  if endsWord c.rest || (inFlow && c.rest.head? = some ',') then return (token, c)
  else none

/-- A number of at most nine digits. -/
def versionNumber? (c : Cursor) : Option (Nat × Cursor) :=
  let (digits, c) := c.span Char.isDigit
  if digits.isEmpty || 9 < digits.length then none
  else some (digits.foldl (fun n d => 10 * n + (d.toNat - '0'.toNat)) 0, c)

/-- The version of the language, as two numbers with a point between them. -/
def version? (c : Cursor) : Option (Token × Cursor) := do
  let (major, c) ← versionNumber? (c.skip isSpacing)
  if c.rest.head? ≠ some '.' then none
  else
    let (minor, c) ← versionNumber? (c.advance 1)
    return (.version major minor, c)

/-- A handle and what it stands for. -/
def handle? (c : Cursor) : Option (Token × Cursor) := do
  let (handle, c) ← tagHandle? (c.skip isSpacing)
  if handle.getLast? ≠ some '!' || !c.rest.head?.any isSpacing then none
  else
    let (expansion, c) ← tagPart? true false (c.skip isSpacing)
    if !endsWord c.rest then none
    else return (.handle (String.ofList handle) expansion, c)

/-- A directive after its percent sign, with the rest of its line. -/
def directive? (c : Cursor) : Option (Token × Cursor) := do
  let (name, c) := c.span isNameChar
  if !endsWord c.rest then none
  else
    let (token, c) ←
      if name = "YAML".toList then version? c
      else if name = "TAG".toList then handle? c
      else none
    let c ← c.restOfLine?
    return (token, c)

end Yaml
end BoundedWait
