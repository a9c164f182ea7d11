import BoundedWait.Yaml.Cursor

/-!
# Line folding

Inside a scalar, the spacing around a line break does not count.  A single
break is read as a space; of several, the first one is dropped.  Line and
paragraph separators are kept.
-/

namespace BoundedWait
namespace Yaml

/-- The spacing and the breaks between two pieces of a scalar. -/
structure Gap where
  /-- The spacing before the first break. -/
  spacing : List Char
  breaks : List Char

namespace Gap

/-- How a gap is read. -/
def folded (g : Gap) : List Char :=
  match g.breaks with
  | [] => g.spacing
  | '\n' :: [] => [' ']
  | '\n' :: more => more
  | breaks => breaks

/-- The lines of a gap after its first break, in which no tab may stand before
the column of the indentation. -/
def lines? (indent : Nat) : Nat → Cursor → Option (List Char × Cursor)
  | 0, _ => none
  | further + 1, c =>
    let (spacing, c) := c.span isSpacing
    if (spacing.take indent).contains '\t' then none
    else
      match c.newline? with
      | none => some ([], c)
      | some (ch, c) => (lines? indent further c).map fun r => (ch :: r.1, r.2)

/-- The gap at the beginning of a text. -/
def read? (indent : Nat) (c : Cursor) : Option (Gap × Cursor) :=
  let (spacing, c) := c.span isSpacing
  match c.newline? with
  | none => some (⟨spacing, []⟩, c)
  | some (ch, c) =>
    (lines? indent (c.rest.length + 1) c).map fun r => (⟨spacing, ch :: r.1⟩, r.2)

end Gap

end Yaml
end BoundedWait
