/-!
# Character classes as ranges

A class of characters is an ordered array of closed ranges of code points, and
membership is a binary search in it.
-/

namespace BoundedWait
namespace Text

/-- Ordered, disjoint, closed ranges of code points. -/
abbrev Ranges := Array (Nat × Nat)

namespace Ranges

/-- Whether some range at a position from `low` up to but not including
`high` holds a code point, looking at the middle range first. -/
def searchBetween (ranges : Ranges) (code : Nat) : Nat → Nat → Nat → Bool
  | 0, _, _ => false
  | rounds + 1, low, high =>
    if low < high then
      let middle := (low + high) / 2
      match ranges[middle]? with
      | none => false
      | some (first, last) =>
        if code < first then searchBetween ranges code rounds low middle
        else if last < code then searchBetween ranges code rounds (middle + 1) high
        else true
    else false

/-- Whether a character is in one of the ranges. -/
def member (ranges : Ranges) (c : Char) : Bool :=
  searchBetween ranges c.toNat (ranges.size + 1) 0 ranges.size

end Ranges

end Text
end BoundedWait
