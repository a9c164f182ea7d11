import BoundedWait.Yaml.Value

/-!
# How often references are followed

An anchored node is read again for each reference to it, and the references
inside it are followed again each time.  So that a short text cannot ask for
endless work, at most a hundred references may be followed for each event of
the document.  A scalar and a reference are one event, and a collection is two,
its beginning and its end.
-/

namespace BoundedWait
namespace Yaml

namespace Node

/-- The number of events of a node without the nodes inside it. -/
def events : Node → Nat
  | scalar .. => 1
  | reference _ => 1
  | sequence .. => 2
  | mapping .. => 2

/-- The number of events of a document. -/
def eventCount (root : Node) : Nat :=
  root.nodes.foldl (fun count node => count + node.events) 0

/-- How often a node itself is followed when it is read. -/
def step : Node → Nat
  | reference _ => 1
  | _ => 0

/-- How many references are followed when a node is read. -/
def followed (anchored : Anchored) : Shape → Node → Nat
  | .skipped, _ => 0
  | .leaf, here => here.step
  | .entries shapeOf, here =>
    let ofEntry (entry : Node × Node) : Nat :=
      match entry.1.target? anchored with
      | some (scalar _ _ key) => entry.1.step + followed anchored (shapeOf key) entry.2
      | _ => entry.1.step
    match here.target? anchored with
    | some (mapping _ entries) => (entries.map ofEntry).foldl (· + ·) here.step
    | _ => here.step

end Node

/-- How many references may be followed for each event. -/
def effortPerEvent : Nat := 100

namespace Value

/-- Whether a value of a shape can be read with so few references followed. -/
def isWithinEffort (shape : Shape) : Value → Bool
  | nothing => true
  | node anchored here =>
    here.followed anchored shape ≤ effortPerEvent * here.eventCount

end Value

/-- Reads the document of a text as something of a shape. -/
def read? {β : Type} (shape : Shape) (read : Value → Option β) (text : String) : Option β := do
  let value ← parse? text
  if value.isWithinEffort shape then read value else none

end Yaml
end BoundedWait
