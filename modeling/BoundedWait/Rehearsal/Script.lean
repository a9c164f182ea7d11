import BoundedWait.Fault
import BoundedWait.Duration

/-!
# Scripted conditions

A script says what each call of a condition does: how long it takes, whether it
fires the cancellation signal, and what it results in.  After its last line,
that line is repeated.
-/

namespace BoundedWait
namespace Rehearsal

/-- One call of a scripted condition. -/
structure Line (α : Type) where
  take : Option Duration
  fires : Bool
  probe : Probe α

/-- The lines of a scripted condition. -/
structure Script (α : Type) where
  first : Line α
  rest : List (Line α)

/-- The line of a call, where calls are numbered from zero. -/
def Script.line {α : Type} (s : Script α) (call : Nat) : Line α :=
  match call with
  | 0 => s.first
  | call + 1 => (s.rest[call]?).getD (s.rest.getLastD s.first)

end Rehearsal
end BoundedWait
