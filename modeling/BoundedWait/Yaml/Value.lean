import BoundedWait.Yaml.Node
import BoundedWait.Yaml.Scalar
import BoundedWait.Text.Utf8
import BoundedWait.Tree

/-!
# YAML nodes as values

What a node stands for where a value of some type is wanted.  A reference
stands for the last node that was given its anchor.  Quotes keep a scalar from
being a number or a truth value; a tag does not.  A literal block is one if its
tag says so.

A tag with an exclamation mark picks a choice, and its node is empty then.
-/

namespace BoundedWait
namespace Yaml

/-- A node together with the anchored nodes of its document, or nothing at
all. -/
inductive Value
  | nothing
  | node (anchored : Node.Anchored) (here : Node)

namespace Value

/-- The node that a value stands for, which is no reference. -/
def resolved? : Value → Option Node
  | nothing => none
  | node anchored here => here.target? anchored

/-- The tag of a type of the standard. -/
def standardTag (name : String) : Tag :=
  ("tag:yaml.org,2002:" ++ name).toUTF8.toList

/-- The text of a scalar that may be a number or a truth value, by the name of
its type. -/
def literal? (type : String) (v : Value) : Option String :=
  match v.resolved? with
  | some (.scalar _ .plain text) => some text
  | some (.scalar p .literal text) =>
    if p.tag = some (standardTag type) then some text else none
  | _ => none

/-- The choice that a tag picks: what follows its exclamation mark, or the mark
if nothing does.  Bytes that are no text pick nothing. -/
def picked? (tag : Tag) : Option String :=
  match tag with
  | mark :: name =>
    if [mark] = bareTag then Text.Utf8.decode? (if name.isEmpty then tag else name) else none
  | [] => none

/-- Whether a scalar is left out or stands for null. -/
def isEmpty (style : Style) (text : String) : Bool :=
  style = .plain && (text.isEmpty || Scalar.isNull text)

/-- The name of a choice. -/
def choice? (v : Value) : Option String :=
  match v.resolved? with
  | some (.scalar p style text) =>
    match p.tag.bind picked? with
    | some name => if isEmpty style text then some name else none
    | none => some text
  | _ => none

/-- Whether an optional value is left out.  The tag of null demands that it
is. -/
def absent? (v : Value) : Option Bool :=
  match v.resolved? with
  | none => some true
  | some (.scalar p .plain text) =>
    match p.tag with
    | none => some (isEmpty .plain text)
    | some tag =>
      if tag = standardTag "null" then
        if Scalar.isNull text then some true else none
      else some false
  | some _ => some false

/-- The entries of a mapping, whose keys are texts in whatever style.  An empty
plain scalar is a mapping without entries. -/
def entries? (v : Value) : Option (List (String × Value)) :=
  match v with
  | nothing => some []
  | node anchored here =>
    match here.target? anchored with
    | some (.mapping _ entries) =>
      entries.mapM fun entry =>
        match entry.1.target? anchored with
        | some (.scalar _ _ key) => some (key, node anchored entry.2)
        | _ => none
    | some (.scalar _ .plain text) => if text.isEmpty then some [] else none
    | _ => none

instance : Readable Value where
  count? v := (v.literal? "int").bind Scalar.count?
  real? v := (v.literal? "float").bind Scalar.real?
  truth? v := (v.literal? "bool").bind Scalar.truth?
  choice? := choice?
  absent? := absent?
  fields? _ := entries?
  entries? := entries?

end Value

/-- The value that a text holds. -/
def parse? (text : String) : Option Value :=
  (Node.parse? text).map fun
    | none => .nothing
    | some root => .node root.anchored root

end Yaml
end BoundedWait
