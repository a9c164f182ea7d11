import BoundedWait.Yaml.Folding
import BoundedWait.Text.Hex

/-!
# Quoted scalars

Between single quotes, a quote is written twice and nothing else is escaped.
Between double quotes, a backslash begins an escape, or at the end of a line
joins the next line to it.  In both, lines are folded.
-/

namespace BoundedWait
namespace Yaml
namespace Quoted

/-- The characters up to white space or the quote, between single quotes. -/
def singlePiece : List Char → List Char × List Char
  | [] => ([], [])
  | '\x27' :: '\x27' :: rest =>
    let (piece, rest) := singlePiece rest
    ('\x27' :: piece, rest)
  | c :: rest =>
    if c = '\x27' || isSpacing c || isBreak c then ([], c :: rest)
    else
      let (piece, rest) := singlePiece rest
      (c :: piece, rest)

/-- The character of an escape without digits. -/
def shortEscape? (c : Char) : Option Char :=
  match c with
  | '0' => some '\x00'
  | 'a' => some '\x07'
  | 'b' => some '\x08'
  | 't' => some '\t'
  | '\t' => some '\t'
  | 'n' => some '\n'
  | 'v' => some '\x0b'
  | 'f' => some '\x0c'
  | 'r' => some '\r'
  | 'e' => some '\x1b'
  | ' ' => some ' '
  | '\x22' => some '\x22'
  | '/' => some '/'
  | '\\' => some '\\'
  | 'N' => some '\u0085'
  | '_' => some '\u00a0'
  | 'L' => some '\u2028'
  | 'P' => some '\u2029'
  | _ => none

/-- The number of digits of an escape by code point. -/
def escapeWidth? (c : Char) : Option Nat :=
  match c with
  | 'x' => some 2
  | 'u' => some 4
  | 'U' => some 8
  | _ => none

/-- The character that so many hexadecimal digits spell. -/
def codeEscape? (width : Nat) (text : List Char) : Option Char := do
  let digits := text.take width
  if digits.length < width then none
  else
    let code ← Text.hexNumber? digits
    if code.isValidChar then some (Char.ofNat code) else none

/-- The characters up to white space, the quote or a backslash at the end of a
line, between double quotes. -/
def doublePiece? (text : List Char) : Option (List Char × List Char) :=
  match text with
  | [] => some ([], [])
  | '\\' :: c :: rest =>
    if isBreak c then some ([], '\\' :: c :: rest)
    else
      match escapeWidth? c with
      | some width => do
        let ch ← codeEscape? width rest
        let (piece, rest) ← doublePiece? (rest.drop width)
        return (ch :: piece, rest)
      | none => do
        let ch ← shortEscape? c
        let (piece, rest) ← doublePiece? rest
        return (ch :: piece, rest)
  | c :: rest =>
    if c = '\\' then none
    else if c = '\x22' || isSpacing c || isBreak c then some ([], c :: rest)
    else do
      let (piece, rest) ← doublePiece? rest
      return (c :: piece, rest)
termination_by text.length
decreasing_by
  all_goals simp only [List.length_cons, List.length_drop]
  all_goals omega

/-- The text up to the closing quote. -/
def upTo? (quote : Char) : Nat → Cursor → Option (List Char × Cursor)
  | 0, _ => none
  | further + 1, c =>
    if c.atDocumentMarker || c.rest.isEmpty then none
    else do
      let (piece, rest) ←
        if quote = '\x27' then some (singlePiece c.rest) else doublePiece? c.rest
      let c := c.moveTo rest
      let joined := if rest.head? = some '\\' then (c.advance 1).newline? else none
      let begun := (joined.map Prod.snd).getD c
      if begun.rest.head? = some quote then return (piece, begun.advance 1)
      else
        let (gap, c) ← Gap.read? 0 begun
        let (more, c) ← upTo? quote further c
        let between := if joined.isSome then gap.breaks else gap.folded
        return (piece ++ between ++ more, c)

/-- The scalar after its opening quote. -/
def read? (quote : Char) (c : Cursor) : Option (List Char × Cursor) :=
  upTo? quote (c.rest.length + 1) c

end Quoted
end Yaml
end BoundedWait
