import BoundedWait.Json.Value
import BoundedWait.Text.Hex

/-!
# Reading JSON text

The grammar of JSON: values separated by white space, which is made of spaces,
tabs, line feeds and carriage returns.  A text holds one value.

Every reader returns what it read and the rest of the text.
-/

namespace BoundedWait
namespace Json

/-- One character of a text, or a code unit of UTF-16 given by an escape. -/
inductive Piece
  | plain (c : Char)
  | unit (code : Nat)
deriving DecidableEq, Repr

/-- The characters of a text, in which two code units may make one. -/
def assemble? : List Piece → Option (List Char)
  | [] => some []
  | .plain c :: rest => (assemble? rest).map (c :: ·)
  | .unit high :: .unit low :: rest =>
    if 0xd800 ≤ high ∧ high ≤ 0xdbff then
      if 0xdc00 ≤ low ∧ low ≤ 0xdfff then
        let code := 0x10000 + (high - 0xd800) * 0x400 + (low - 0xdc00)
        (assemble? rest).map (Char.ofNat code :: ·)
      else none
    else if 0xdc00 ≤ high ∧ high ≤ 0xdfff then none
    else (assemble? (.unit low :: rest)).map (Char.ofNat high :: ·)
  | .unit code :: rest =>
    if 0xd800 ≤ code ∧ code ≤ 0xdfff then none
    else (assemble? rest).map (Char.ofNat code :: ·)

/-- The character of a short escape. -/
def shortEscape? (c : Char) : Option Char :=
  if c = '\x22' ∨ c = '\\' ∨ c = '/' then some c
  else if c = 'b' then some '\x08'
  else if c = 'f' then some '\x0c'
  else if c = 'n' then some '\n'
  else if c = 'r' then some '\r'
  else if c = 't' then some '\t'
  else none

/-- The rest of a text after its opening quote. -/
def pieces? : List Char → Option (List Piece × List Char)
  | [] => none
  | '\\' :: 'u' :: a :: b :: c :: d :: rest => do
    let a ← Text.hexDigit? a
    let b ← Text.hexDigit? b
    let c ← Text.hexDigit? c
    let d ← Text.hexDigit? d
    let (pieces, rest) ← pieces? rest
    return (.unit (((a * 16 + b) * 16 + c) * 16 + d) :: pieces, rest)
  | '\\' :: c :: rest => do
    let c ← shortEscape? c
    let (pieces, rest) ← pieces? rest
    return (.plain c :: pieces, rest)
  | c :: rest =>
    if c = '\x22' then some ([], rest)
    else if c.toNat < 0x20 ∨ c = '\\' then none
    else (pieces? rest).map fun r => (.plain c :: r.1, r.2)

/-- A text after its opening quote. -/
def text? (text : List Char) : Option (Option String × List Char) :=
  (pieces? text).map fun r => ((assemble? r.1).map String.ofList, r.2)

/-- A text without the white space before it. -/
def skipSpace : List Char → List Char :=
  List.dropWhile fun c => c = ' ' || c = '\t' || c = '\n' || c = '\r'

/-- The digits at the beginning of a text, and the rest. -/
def digits (text : List Char) : List Char × List Char :=
  (text.takeWhile Char.isDigit, text.dropWhile Char.isDigit)

/-- The digits at the beginning of a text, of which there is at least one. -/
def someDigits? (text : List Char) : Option (List Char × List Char) :=
  let (ds, rest) := digits text
  if ds.isEmpty then none else some (ds, rest)

/-- The fraction of a number, if there is one. -/
def fraction? : List Char → Option (Option (List Char) × List Char)
  | '.' :: rest => (someDigits? rest).map fun r => (some r.1, r.2)
  | rest => some (none, rest)

/-- The exponent of a number, if there is one. -/
def exponent? (text : List Char) : Option (Option (Bool × List Char) × List Char) :=
  match text with
  | c :: rest =>
    if c = 'e' ∨ c = 'E' then
      let (negative, rest) :=
        match rest with
        | '-' :: rest => (true, rest)
        | '+' :: rest => (false, rest)
        | rest => (false, rest)
      (someDigits? rest).map fun r => (some (negative, r.1), r.2)
    else some (none, text)
  | [] => some (none, [])

/-- The number at the beginning of a text. -/
def number? (text : List Char) : Option (Number × List Char) := do
  let (negative, text) :=
    match text with
    | '-' :: rest => (true, rest)
    | rest => (false, rest)
  let (whole, text) ← someDigits? text
  if whole.head? = some '0' ∧ whole ≠ ['0'] then none
  else
    let (fraction, text) ← fraction? text
    let (exponent, text) ← exponent? text
    return (⟨negative, whole, fraction, exponent⟩, text)

/-- A text without the word that it begins with. -/
def afterWord? (word : String) (text : List Char) : Option (List Char) :=
  if word.toList.isPrefixOf text then some (text.drop word.length) else none

mutual

/-- The value at the beginning of a text, nested at most so deep. -/
def value? : Nat → List Char → Option (Value × List Char)
  | 0, _ => none
  | depth + 1, text =>
    match text with
    | [] => none
    | c :: rest =>
      if c = 'n' then (afterWord? "null" text).map (Value.null, ·)
      else if c = 't' then (afterWord? "true" text).map (Value.truth true, ·)
      else if c = 'f' then (afterWord? "false" text).map (Value.truth false, ·)
      else if c = '\x22' then (text? rest).map fun r => (.text r.1, r.2)
      else if c = '[' then
        match skipSpace rest with
        | ']' :: rest => some (.array [], rest)
        | rest => (items? depth rest).map fun r => (.array r.1, r.2)
      else if c = '\x7b' then
        match skipSpace rest with
        | '\x7d' :: rest => some (.object [], rest)
        | rest => (members? depth rest).map fun r => (.object r.1, r.2)
      else (number? text).map fun r => (.number r.1, r.2)

/-- The items of an array from the first one on, with the closing bracket. -/
def items? : Nat → List Char → Option (List Value × List Char)
  | 0, _ => none
  | depth + 1, text => do
    let (item, rest) ← value? depth (skipSpace text)
    match skipSpace rest with
    | ',' :: rest =>
      let (items, rest) ← items? depth rest
      return (item :: items, rest)
    | ']' :: rest => return ([item], rest)
    | _ => none

/-- The members of an object from the first one on, with the closing brace. -/
def members? : Nat → List Char → Option (List (Option String × Value) × List Char)
  | 0, _ => none
  | depth + 1, text =>
    match skipSpace text with
    | '\x22' :: rest => do
      let (key, rest) ← text? rest
      match skipSpace rest with
      | ':' :: rest =>
        let (value, rest) ← value? depth (skipSpace rest)
        match skipSpace rest with
        | ',' :: rest =>
          let (members, rest) ← members? depth rest
          return ((key, value) :: members, rest)
        | '\x7d' :: rest => return ([(key, value)], rest)
        | _ => none
      | _ => none
    | _ => none

end

/-- The value that a whole text holds. -/
def parse? (text : String) : Option Value :=
  let text := text.toList
  match value? (2 * text.length + 2) (skipSpace text) with
  | some (value, rest) => if (skipSpace rest).isEmpty then some value else none
  | none => none

end Json
end BoundedWait
