/-!
# Keyed trees

A keyed tree is what a value looks like when it is written down, before a
notation such as JSON or YAML is chosen.  `Readable` is the other direction: a
type of written values that can be looked at as a number, a truth value, a
name, or a record.  A shape says which parts of such a value a reader looks at.
-/

namespace BoundedWait

/-- A value as it is written down. -/
inductive Tree
  | null
  | truth (b : Bool)
  | count (n : UInt64)
  | real (x : Float)
  | text (s : String)
  | record (fields : List (String × Tree))

/-- Written values of type `ν`, each looked at as what its place asks for; none
where it is nothing of the kind. -/
class Readable (ν : Type) where
  /-- An unsigned number of 64 bits. -/
  count? : ν → Option UInt64
  /-- A floating-point number. -/
  real? : ν → Option Float
  /-- A truth value. -/
  truth? : ν → Option Bool
  /-- The name of one of several choices. -/
  choice? : ν → Option String
  /-- Whether an optional value is left out. -/
  absent? : ν → Option Bool
  /-- The fields of a record whose fields have these names, in this order. -/
  fields? : List String → ν → Option (List (String × ν))
  /-- The entries of a map. -/
  entries? : ν → Option (List (String × ν))

/-- What a reader looks at in a written value. -/
inductive Shape
  /-- Nothing, because the value is skipped. -/
  | skipped
  /-- A value without parts. -/
  | leaf
  /-- The keys of a record or map, and of the value of each key so much. -/
  | entries (shapeOf : String → Shape)

namespace Tree

instance : Readable Tree where
  count?
    | count n => some n
    | _ => none
  real?
    | real x => some x
    | count n => some n.toFloat
    | _ => none
  truth?
    | truth b => some b
    | _ => none
  choice?
    | text s => some s
    | _ => none
  absent?
    | null => some true
    | _ => some false
  fields? _
    | record fields => some fields
    | _ => none
  entries?
    | record fields => some fields
    | _ => none

end Tree

namespace Readable

variable {ν β : Type} [Readable ν]

/-- An optional value. -/
def optional? (read : ν → Option β) (v : ν) : Option (Option β) :=
  match absent? v with
  | none => none
  | some true => some none
  | some false => (read v).map some

/-- The value of a field: the given one if the record does not have the field,
and none if it has it twice. -/
def field? (fields : List (String × ν)) (key : String) (read : ν → Option β) (default : β) :
    Option β :=
  match fields.filter fun f => f.1 == key with
  | [] => some default
  | [f] => read f.2
  | _ => none

end Readable
end BoundedWait
