import BoundedWait.Json.Number
import BoundedWait.Tree

/-!
# JSON values

A JSON value as it is written: numbers keep their digits, and a text whose
escapes do not spell Unicode characters is kept as such.  Both are refused only
where a value is asked for, so that a field that nobody reads may hold them.

A record is written as an object, or as an array of its fields in order, of
which the last ones may be missing.  A choice is written as a text, or as an
object with the choice as its only key and null as its value.
-/

namespace BoundedWait
namespace Json

/-- A value as it is written; a text is none when it is malformed. -/
inductive Value
  | null
  | truth (b : Bool)
  | number (n : Number)
  | text (s : Option String)
  | array (items : List Value)
  | object (members : List (Option String × Value))

namespace Value

/-- The members of an object whose keys are all well-formed. -/
def keyed? : List (Option String × Value) → Option (List (String × Value))
  | [] => some []
  | (some key, value) :: rest => (keyed? rest).map ((key, value) :: ·)
  | (none, _) :: _ => none

instance : Readable Value where
  count?
    | number n =>
      match n.value? with
      | some (.natural n) => some n
      | _ => none
    | _ => none
  real?
    | number n =>
      match n.value? with
      | some (.natural n) => some n.toFloat
      | some (.below n) => some (-(UInt64.ofNat n.natAbs).toFloat)
      | some (.real x) => some x
      | none => none
    | _ => none
  truth?
    | truth b => some b
    | _ => none
  choice?
    | text s => s
    | object [(some key, null)] => some key
    | _ => none
  absent?
    | null => some true
    | _ => some false
  fields? names
    | object members => keyed? members
    | array items => if items.length ≤ names.length then some (names.zip items) else none
    | _ => none
  entries?
    | object members => keyed? members
    | _ => none

end Value
end Json
end BoundedWait
