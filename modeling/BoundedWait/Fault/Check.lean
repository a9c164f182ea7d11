import BoundedWait.Fault
import BoundedWait.Described

/-!
# Checks

The building blocks of conditions: a check succeeds with no value, or reports
that the condition does not hold yet.
-/

namespace BoundedWait
namespace Fault

/-- Succeeds if the condition holds. -/
def ensure (condition : Bool) (reason : String) : Probe Unit :=
  if condition then .ok () else .error (notReady reason)

/-- Succeeds if the two values are equal; the reason names both otherwise. -/
def ensureEqual {α : Type} [BEq α] [Described α]
    (what : String) (actual expected : α) : Probe Unit :=
  ensure (actual == expected)
    (what ++ ": expected " ++ Described.describe expected ++
      ", observed " ++ Described.describe actual)

end Fault
end BoundedWait
