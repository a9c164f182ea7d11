/-!
# Tokens of YAML text

The tokens of a text say where each collection begins and ends, which of the
nodes are keys, and what the scalars hold.  An anchor is known by a number.
-/

namespace BoundedWait
namespace Yaml

/-- How a scalar is written. -/
inductive Style
  | plain
  | quoted
  | literal
  | folded
deriving DecidableEq, Repr

/-- A tag, or a part of one, as bytes; they need not be well-formed UTF-8. -/
abbrev Tag := List UInt8

/-- A token. -/
inductive Token
  | version (major minor : Nat)
  /-- A handle of tags, and what it stands for. -/
  | handle (name : String) (expansion : Tag)
  | documentStart
  | documentEnd
  | sequenceStart
  | mappingStart
  /-- The end of a collection that is written by indentation. -/
  | blockEnd
  | flowSequenceStart
  | flowSequenceEnd
  | flowMappingStart
  | flowMappingEnd
  /-- The dash before an item. -/
  | entry
  /-- The comma between items. -/
  | comma
  | key
  | value
  | anchor (number : Nat)
  | reference (number : Nat)
  /-- The handle of a tag, which a verbatim tag does not have, and the rest. -/
  | tag (handle : String) (suffix : Tag)
  | scalar (style : Style) (text : String)
deriving DecidableEq, Repr

/-- The anchors that were given so far, with their numbers. -/
abbrev Anchors := List (String × Nat)

namespace Anchors

/-- The number of a new anchor: how many different names there are before it,
also where a name is given again. -/
def nextNumber (known : Anchors) : Nat :=
  known.length

/-- The anchors with a name given, if need be again. -/
def insert (known : Anchors) (name : String) : Anchors :=
  (name, known.nextNumber) :: known.filter (·.1 != name)

/-- The number of a name. -/
def number? (known : Anchors) (name : String) : Option Nat :=
  known.lookup name

end Anchors

end Yaml
end BoundedWait
