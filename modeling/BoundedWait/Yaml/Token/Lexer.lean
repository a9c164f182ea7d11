import BoundedWait.Yaml.Plain
import BoundedWait.Yaml.Quoted
import BoundedWait.Yaml.Block
import BoundedWait.Yaml.Tag

/-!
# Tokens from text

The lexer walks through a text and keeps track of the columns of the blocks
that are open.  A block opens where its first item or key stands further to the
right than the block around it, and closes before what stands further to the
left.

A node may turn out to be a key only when its colon is reached.  So the lexer
leaves a slot before each node that may be one, and fills the slot at the
colon.  The slots that stay empty vanish in the end.
-/

namespace BoundedWait
namespace Yaml

/-- A node that may turn out to be a key. -/
structure PossibleKey where
  slot : Nat
  /-- Whether nothing but a key can stand there. -/
  required : Bool
  line : Nat
  index : Nat
  column : Nat
deriving Repr

/-- What the lexer has written: tokens, and slots for what may still have to be
written before them. -/
inductive Item
  | token (t : Token)
  | slot (number : Nat)
deriving Repr

/-- The state of the lexer. -/
structure Lexer where
  cursor : Cursor
  /-- The last item first. -/
  items : List Item
  /-- The number of slots. -/
  slots : Nat
  /-- What the filled slots hold. -/
  filled : List (Nat × List Token)
  /-- The columns of the open blocks, the innermost one first. -/
  columns : List Nat
  /-- The possible key of the innermost collection. -/
  possible : Option PossibleKey
  /-- The possible keys around each of the open flow collections. -/
  around : List (Option PossibleKey)
  /-- Whether a key may begin here. -/
  allowed : Bool
  anchors : Anchors

namespace Lexer

/-- The state before a text. -/
def start (text : List Char) : Lexer :=
  ⟨Cursor.start text, [], 0, [], [], none, [], true, []⟩

/-- Whether a flow collection is open. -/
def inFlow (s : Lexer) : Bool :=
  !s.around.isEmpty

/-- The column from which on a line belongs to the innermost block. -/
def inner (s : Lexer) : Nat :=
  match s.columns with
  | [] => 0
  | column :: _ => column + 1

/-- Writes a token. -/
def emit (s : Lexer) (t : Token) : Lexer :=
  { s with items := .token t :: s.items }

/-- Moves the cursor. -/
def moveTo (s : Lexer) (c : Cursor) : Lexer :=
  { s with cursor := c }

/-- Says whether a key may begin here. -/
def allow (s : Lexer) (allowed : Bool) : Lexer :=
  { s with allowed := allowed }

/-- The node before cannot be a key any more. -/
def forgetKey? (s : Lexer) : Option Lexer :=
  if s.possible.any PossibleKey.required then none else some { s with possible := none }

/-- The node that begins here may be a key. -/
def expectKey? (s : Lexer) : Option Lexer :=
  if s.allowed then do
    let s ← s.forgetKey?
    let required := !s.inFlow && s.columns.head? = some s.cursor.column
    return { s with
      items := .slot s.slots :: s.items
      slots := s.slots + 1
      possible := some ⟨s.slots, required, s.cursor.line, s.cursor.index, s.cursor.column⟩ }
  else some s

/-- Whether a key would have to end before a position: it fits on one line and
into 1024 bytes. -/
def isOver (c : Cursor) (k : PossibleKey) : Bool :=
  k.line < c.line || k.index + 1024 < c.index

/-- Without the possible keys that are over. -/
def forgetOver? (s : Lexer) : Option Lexer :=
  let gone := isOver s.cursor
  if (s.possible :: s.around).any fun k => k.any fun k => k.required && gone k then none
  else
    let keep := fun k : Option PossibleKey => k.filter fun k => !gone k
    some { s with possible := keep s.possible, around := s.around.map keep }

/-- Whether a block opens at a column. -/
def opensAt (s : Lexer) (column : Nat) : Bool :=
  !s.inFlow && s.columns.head?.all (· < column)

/-- Opens a block at this column, unless it is open. -/
def openBlock (s : Lexer) (t : Token) : Lexer :=
  if s.opensAt s.cursor.column then
    { s.emit t with columns := s.cursor.column :: s.columns }
  else s

/-- Closes the blocks that begin at a column or to the right of it. -/
def closeBlocks (s : Lexer) (column : Nat) : Lexer :=
  if s.inFlow then s
  else
    let closed := s.columns.takeWhile (column ≤ ·)
    { s with
      items := closed.map (fun _ => Item.token .blockEnd) ++ s.items
      columns := s.columns.drop closed.length }

/-- Skips white space, comments, and byte order marks at the beginnings of
lines.  At the beginning of a line, where a key may begin, a tab is no white
space. -/
def skipSpace : Nat → Lexer → Lexer
  | 0, s => s
  | further + 1, s =>
    let tabs := s.inFlow || !s.allowed
    let c := s.cursor.skipByteOrderMark
    let c := (c.skip fun ch => ch = ' ' || (tabs && ch = '\t')).skipComment
    match c.newline? with
    | some (_, c) => skipSpace further ((s.moveTo c).allow (s.allowed || !s.inFlow))
    | none => s.moveTo c

/-- A mark of so many characters that separates documents. -/
def document? (s : Lexer) (t : Token) : Option Lexer := do
  let s ← (s.closeBlocks 0).forgetKey?
  return ((s.emit t).moveTo (s.cursor.advance 3)).allow false

/-- A directive. -/
def directive? (s : Lexer) : Option Lexer := do
  let s ← (s.closeBlocks 0).forgetKey?
  let (t, c) ← Yaml.directive? (s.cursor.advance 1)
  return ((s.emit t).moveTo c).allow false

/-- The beginning of a flow collection. -/
def openFlow? (s : Lexer) (t : Token) : Option Lexer := do
  let s ← s.expectKey?
  let s := { s with around := s.possible :: s.around, possible := none }
  return ((s.emit t).moveTo (s.cursor.advance 1)).allow true

/-- The end of a flow collection. -/
def closeFlow? (s : Lexer) (t : Token) : Option Lexer := do
  let s ← s.forgetKey?
  let s :=
    match s.around with
    | [] => s
    | k :: around => { s with possible := k, around := around }
  return ((s.emit t).moveTo (s.cursor.advance 1)).allow false

/-- A comma. -/
def comma? (s : Lexer) : Option Lexer := do
  let s ← s.forgetKey?
  return ((s.emit .comma).moveTo (s.cursor.advance 1)).allow true

/-- A dash. -/
def entry? (s : Lexer) : Option Lexer :=
  if !s.inFlow && !s.allowed then none
  else do
    let s ← (s.openBlock .sequenceStart).forgetKey?
    return ((s.emit .entry).moveTo (s.cursor.advance 1)).allow true

/-- A question mark. -/
def key? (s : Lexer) : Option Lexer :=
  if !s.inFlow && !s.allowed then none
  else do
    let s ← (s.openBlock .mappingStart).forgetKey?
    return ((s.emit .key).moveTo (s.cursor.advance 1)).allow !s.inFlow

/-- A colon, which makes the node before it a key. -/
def value? (s : Lexer) : Option Lexer :=
  match s.possible with
  | some k =>
    let (opening, columns) :=
      if s.opensAt k.column then ([Token.mappingStart], k.column :: s.columns)
      else ([], s.columns)
    let s := { s with
      filled := (k.slot, opening ++ [Token.key]) :: s.filled
      columns := columns
      possible := none }
    some (((s.emit .value).moveTo (s.cursor.advance 1)).allow false)
  | none =>
    if !s.inFlow && !s.allowed then none
    else
      let s := s.openBlock .mappingStart
      some (((s.emit .value).moveTo (s.cursor.advance 1)).allow !s.inFlow)

/-- An anchor. -/
def anchor? (s : Lexer) : Option Lexer := do
  let s ← s.expectKey?
  let (name, c) ← anchorName? (s.cursor.advance 1)
  let s := { s.emit (.anchor s.anchors.nextNumber) with anchors := s.anchors.insert name }
  return (s.moveTo c).allow false

/-- A reference to an anchor. -/
def reference? (s : Lexer) : Option Lexer := do
  let s ← s.expectKey?
  let (name, c) ← anchorName? (s.cursor.advance 1)
  let number ← s.anchors.number? name
  return ((s.emit (.reference number)).moveTo c).allow false

/-- A tag. -/
def tag? (s : Lexer) : Option Lexer := do
  let s ← s.expectKey?
  let (t, c) ← Yaml.tag? s.inFlow s.cursor
  return ((s.emit t).moveTo c).allow false

/-- A block scalar. -/
def block? (s : Lexer) (style : Style) : Option Lexer := do
  let s ← s.forgetKey?
  let (text, c) ← Block.read? (style = .folded) s.inner (s.cursor.advance 1)
  return ((s.emit (.scalar style (String.ofList text))).moveTo c).allow true

/-- A quoted scalar. -/
def quoted? (s : Lexer) (quote : Char) : Option Lexer := do
  let s ← s.expectKey?
  let (text, c) ← Quoted.read? quote (s.cursor.advance 1)
  return ((s.emit (.scalar .quoted (String.ofList text))).moveTo c).allow false

/-- A plain scalar. -/
def plain? (s : Lexer) : Option Lexer := do
  let s ← s.expectKey?
  let r ← Plain.read? s.inFlow s.inner s.cursor
  return ((s.emit (.scalar .plain (String.ofList r.text))).moveTo r.cursor).allow r.pastLine

/-- The characters with which no plain scalar begins. -/
def isIndicator (c : Char) : Bool :=
  isFlowMark c || c ∈ "-?:#&*!|>%@".toList || c = '\x27' || c = '\x22' || c = '\x60'

/-- Reads the next token; there has to be one. -/
def token? (s : Lexer) : Option Lexer :=
  match s.cursor.rest with
  | [] => none
  | ch :: rest =>
    let alone := s.inFlow || endsWord rest
    if s.cursor.column = 0 ∧ ch = '%' then s.directive?
    else if s.cursor.hasMarker ['-', '-', '-'] then s.document? .documentStart
    else if s.cursor.hasMarker ['.', '.', '.'] then s.document? .documentEnd
    else if ch = '[' then s.openFlow? .flowSequenceStart
    else if ch = ']' then s.closeFlow? .flowSequenceEnd
    else if ch = '\x7b' then s.openFlow? .flowMappingStart
    else if ch = '\x7d' then s.closeFlow? .flowMappingEnd
    else if ch = ',' then s.comma?
    else if ch = '-' ∧ endsWord rest then s.entry?
    else if ch = '?' ∧ alone then s.key?
    else if ch = ':' ∧ alone then s.value?
    else if ch = '*' then s.reference?
    else if ch = '&' then s.anchor?
    else if ch = '!' then s.tag?
    else if ch = '|' ∧ !s.inFlow then s.block? .literal
    else if ch = '>' ∧ !s.inFlow then s.block? .folded
    else if ch = '\x27' ∨ ch = '\x22' then s.quoted? ch
    else if ch = '-' ∨ ((ch = '?' ∨ ch = ':') ∧ !s.inFlow) then s.plain?
    else if isIndicator ch || isSpacing ch then none
    else s.plain?

/-- Reads all that is left. -/
def readAll? : Nat → Lexer → Option Lexer
  | 0, _ => none
  | further + 1, s => do
    let s := skipSpace (s.cursor.rest.length + 1) s
    let s ← s.forgetOver?
    let s := s.closeBlocks (s.cursor.column + 1)
    if s.cursor.rest.isEmpty then (s.closeBlocks 0).forgetKey?
    else
      let s ← s.token?
      readAll? further s

/-- What was written, with the slots filled. -/
def tokens (s : Lexer) : List Token :=
  s.items.reverse.flatMap fun item =>
    match item with
    | .token t => [t]
    | .slot number => (s.filled.lookup number).getD []

end Lexer

/-- The tokens of a text; none when it is malformed. -/
def tokens? (text : String) : Option (List Token) :=
  let text := text.toList
  if text.all isAllowed then
    ((Lexer.start text).readAll? (text.length + 2)).map Lexer.tokens
  else none

end Yaml
end BoundedWait
