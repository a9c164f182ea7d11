import BoundedWait.Yaml.Folding

/-!
# Plain scalars

A plain scalar has no quotes.  It ends at a colon before white space, at a
comment, at a document marker, at a line that is not indented, and inside a
flow collection at a comma or a bracket.
-/

namespace BoundedWait
namespace Yaml
namespace Plain

/-- A plain scalar, and whether it ended only after the end of its line. -/
structure Reading where
  text : List Char
  pastLine : Bool
  cursor : Cursor

/-- The characters up to white space or the end of the scalar. -/
def word? (inFlow : Bool) : List Char → Option (List Char × List Char)
  | [] => some ([], [])
  | c :: rest =>
    if isSpacing c || isBreak c || (inFlow && isFlowMark c) then some ([], c :: rest)
    else if c = ':' ∧ inFlow ∧ rest.head?.any (fun d => isFlowMark d || d = '?') then none
    else if c = ':' ∧ endsWord rest then some ([], c :: rest)
    else (word? inFlow rest).map fun r => (c :: r.1, r.2)

/-- The words of a plain scalar from one on, with the gaps between them. -/
def words? (inFlow : Bool) (indent : Nat) : Nat → Cursor → Option Reading
  | 0, _ => none
  | further + 1, c =>
    if c.atDocumentMarker || c.rest.head? = some '#' then some ⟨[], false, c⟩
    else do
      let (word, rest) ← word? inFlow c.rest
      let c := c.moveTo rest
      if rest.isEmpty || !endsWord rest then return ⟨word, false, c⟩
      else
        let (gap, c) ← Gap.read? indent c
        let crossed := !gap.breaks.isEmpty
        if !inFlow && c.column < indent then return ⟨word, crossed, c⟩
        else
          let more ← words? inFlow indent further c
          if more.text.isEmpty then return ⟨word, crossed, more.cursor⟩
          else return ⟨word ++ gap.folded ++ more.text, more.pastLine, more.cursor⟩

/-- The plain scalar at the beginning of a text. -/
def read? (inFlow : Bool) (indent : Nat) (c : Cursor) : Option Reading :=
  words? inFlow indent (c.rest.length + 1) c

end Plain
end Yaml
end BoundedWait
