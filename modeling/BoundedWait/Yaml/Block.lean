import BoundedWait.Yaml.Cursor

/-!
# Block scalars

A block scalar is the lines below its header that are indented far enough.  A
literal one keeps its line breaks.  A folded one reads a break between two
lines that begin without spacing as a space, and drops the first of several.
The header says what becomes of the breaks at the end, and optionally how far
the lines are indented.
-/

namespace BoundedWait
namespace Yaml
namespace Block

/-- What becomes of the breaks at the end of a block. -/
inductive Chomping
  /-- All are dropped. -/
  | strip
  /-- One is kept. -/
  | clip
  /-- All are kept. -/
  | keep
deriving DecidableEq, Repr

/-- One line of a block that is not empty. -/
structure Line where
  /-- The breaks of the empty lines before it. -/
  before : List Char
  content : List Char
  /-- The break at its end, which the last line of a text may lack. -/
  ending : List Char

/-- The chomping that a sign stands for. -/
def chomping? : List Char → Option (Chomping × List Char)
  | '+' :: rest => some (.keep, rest)
  | '-' :: rest => some (.strip, rest)
  | _ => none

/-- The indentation that a digit stands for: none without a digit, and no
header at all with a zero. -/
def increment? : List Char → Option (Nat × List Char)
  | c :: rest =>
    if c = '0' then none
    else if c.isDigit then some (c.toNat - '0'.toNat, rest)
    else some (0, c :: rest)
  | [] => some (0, [])

/-- The chomping and the indentation of a header, in either order. -/
def header? (text : List Char) : Option (Chomping × Nat × List Char) :=
  match chomping? text with
  | some (chomping, rest) => (increment? rest).map fun r => (chomping, r.1, r.2)
  | none =>
    (increment? text).map fun r =>
      if r.1 = 0 then (.clip, 0, r.2)
      else
        match chomping? r.2 with
        | some (chomping, rest) => (chomping, r.1, rest)
        | none => (.clip, r.1, r.2)

/-- Empty lines, the indentation of the line after them, and the widest
indentation among all of these.  Without a given indentation, all spaces at the
beginning of a line belong to it. -/
def emptyLines? (indent : Nat) : Nat → Cursor → Option (List Char × Nat × Cursor)
  | 0, _ => none
  | further + 1, c =>
    let spaces := (c.rest.takeWhile (· = ' ')).length
    let c := c.advance (if indent = 0 then spaces else min spaces (indent - c.column))
    if (indent = 0 || c.column < indent) && c.rest.head? = some '\t' then none
    else
      match c.newline? with
      | none => some ([], c.column, c)
      | some (ch, next) =>
        (emptyLines? indent further next).map fun r => (ch :: r.1, max c.column r.2.1, r.2.2)

/-- The lines from one on that is not empty, and the breaks after the last
one. -/
def lines? (indent : Nat) :
    Nat → List Char → Cursor → Option (List Line × List Char × Cursor)
  | 0, _, _ => none
  | further + 1, before, c =>
    if c.column = indent ∧ !c.rest.isEmpty then do
      let (content, c) := c.span fun ch => !isBreak ch
      let (ending, c) :=
        match c.newline? with
        | some (ch, c) => ([ch], c)
        | none => ([], c)
      let (after, _, c) ← emptyLines? indent (c.rest.length + 1) c
      let (lines, after, c) ← lines? indent further after c
      return (⟨before, content, ending⟩ :: lines, after, c)
    else some ([], before, c)

/-- Whether a line begins with spacing. -/
def Line.isSpaced (l : Line) : Bool :=
  l.content.head?.any isSpacing

/-- What stands between the end of one line and the content of the next. -/
def between (folds : Bool) (previous next : Line) : List Char :=
  if folds ∧ previous.ending = ['\n'] ∧ !previous.isSpaced ∧ !next.isSpaced then
    if next.before.isEmpty then [' '] else next.before
  else previous.ending ++ next.before

/-- The text of a line and of the lines after it, up to the last break. -/
def joined (folds : Bool) : Line → List Line → List Char
  | l, [] => l.content
  | l, next :: rest => l.content ++ between folds l next ++ joined folds next rest

/-- The text of a block. -/
def text (folds : Bool) (chomping : Chomping) (lines : List Line) (after : List Char) :
    List Char :=
  let ending := (lines.getLast?.map Line.ending).getD []
  let content :=
    match lines with
    | [] => []
    | l :: rest => l.before ++ joined folds l rest
  match chomping with
  | .strip => content
  | .clip => content ++ ending
  | .keep => content ++ ending ++ after

/-- The scalar after its mark, within a block that is indented up to but not
including a column. -/
def read? (folds : Bool) (outer : Nat) (c : Cursor) : Option (List Char × Cursor) := do
  let (chomping, increment, rest) ← header? c.rest
  let c ← (c.moveTo rest).restOfLine?
  let given := if increment = 0 then 0 else max outer 1 - 1 + increment
  let (before, widest, c) ← emptyLines? given (c.rest.length + 1) c
  let indent := if given = 0 then max widest (max outer 1) else given
  let (lines, after, c) ← lines? indent (c.rest.length + 1) before c
  return (text folds chomping lines after, c)

end Block
end Yaml
end BoundedWait
