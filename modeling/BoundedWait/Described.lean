import BoundedWait.Duration.Text
import BoundedWait.Decimal.Layout
import BoundedWait.Text.Quoted
import BoundedWait.Fault.KindSet

/-!
# Values as text in reasons

How a value appears in the reason of a fault: text is quoted, numbers are
decimal, an optional value is None or Some(...), a list stands in brackets and
a set in braces.
-/

namespace BoundedWait

/-- Types whose values can appear in a reason. -/
class Described (α : Type) where
  describe : α → String

namespace Described

/-- The items of a list between two marks. -/
def enclosed (opening closing : String) (items : List String) : String :=
  opening ++ String.intercalate ", " items ++ closing

instance : Described String := ⟨Text.Quoted.encode⟩

instance : Described Int := ⟨toString⟩

instance : Described Nat := ⟨toString⟩

instance : Described Bool := ⟨fun b => if b then "true" else "false"⟩

instance : Described Float := ⟨Decimal.Layout.exact.write⟩

instance : Described Duration := ⟨Duration.text⟩

instance : Described Fault.Kind := ⟨Fault.Kind.label⟩

instance : Described Fault.KindSet :=
  ⟨fun s => enclosed "\x7b" "\x7d" (s.members.map Fault.Kind.label)⟩

instance {α : Type} [Described α] : Described (Option α) where
  describe
    | none => "None"
    | some a => "Some(" ++ describe a ++ ")"

instance {α : Type} [Described α] : Described (List α) :=
  ⟨fun l => enclosed "[" "]" (l.map describe)⟩

end Described
end BoundedWait
