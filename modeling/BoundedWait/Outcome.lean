import BoundedWait.Duration.Text
import BoundedWait.Fault

/-!
# Outcomes of a wait

A wait ends in success, in a timeout that carries the last soft fault, or by a
fatal fault.  An external cancellation is a timeout with a flag.  `toExcept`
names the awaited condition in the failure.
-/

namespace BoundedWait

/-- How a wait ended. -/
inductive Outcome (α : Type)
  /-- The condition held. -/
  | success (value : α)
  /-- The budget ran out, or the wait was cancelled, with the condition not
  yet holding. -/
  | timedOut (fault : Fault) (attempts : Nat) (elapsed : Duration) (cancelled : Bool)
  /-- A fatal fault ended the wait. -/
  | aborted (fault : Fault) (attempts : Nat) (elapsed : Duration)
deriving DecidableEq

/-- A wait that did not succeed, under the name of its condition. -/
inductive Failure
  | timedOut (condition : String) (fault : Fault) (attempts : Nat) (elapsed : Duration)
    (cancelled : Bool)
  | aborted (condition : String) (fault : Fault) (attempts : Nat) (elapsed : Duration)
deriving DecidableEq

namespace Outcome

variable {α β : Type}

/-- Whether the condition held. -/
def isSuccess : Outcome α → Bool
  | success _ => true
  | _ => false

/-- Whether the wait ended without a fatal fault before the condition held. -/
def isTimedOut : Outcome α → Bool
  | timedOut .. => true
  | _ => false

/-- Whether a fatal fault ended the wait. -/
def isAborted : Outcome α → Bool
  | aborted .. => true
  | _ => false

/-- Whether an external cancellation ended the wait. -/
def isCancelled : Outcome α → Bool
  | timedOut _ _ _ cancelled => cancelled
  | _ => false

/-- The value of a success. -/
def value? : Outcome α → Option α
  | success value => some value
  | _ => none

/-- The fault that ended the wait. -/
def fault? : Outcome α → Option Fault
  | success _ => none
  | timedOut fault .. => some fault
  | aborted fault .. => some fault

/-- The number of attempts of a wait that did not succeed. -/
def attempts? : Outcome α → Option Nat
  | success _ => none
  | timedOut _ attempts .. => some attempts
  | aborted _ attempts _ => some attempts

/-- The time that a wait without success took. -/
def elapsed? : Outcome α → Option Duration
  | success _ => none
  | timedOut _ _ elapsed _ => some elapsed
  | aborted _ _ elapsed => some elapsed

/-- The outcome with another value in case of success. -/
def map (f : α → β) : Outcome α → Outcome β
  | success value => success (f value)
  | timedOut fault attempts elapsed cancelled => timedOut fault attempts elapsed cancelled
  | aborted fault attempts elapsed => aborted fault attempts elapsed

/-- The value, or the failure under the name of the condition. -/
def toExcept (condition : String) : Outcome α → Except Failure α
  | success value => .ok value
  | timedOut fault attempts elapsed cancelled =>
    .error (.timedOut condition fault attempts elapsed cancelled)
  | aborted fault attempts elapsed => .error (.aborted condition fault attempts elapsed)

end Outcome

namespace Failure

/-- The name of the awaited condition. -/
def condition : Failure → String
  | timedOut condition .. => condition
  | aborted condition .. => condition

/-- The fault that ended the wait. -/
def fault : Failure → Fault
  | timedOut _ fault .. => fault
  | aborted _ fault .. => fault

/-- The number of attempts made. -/
def attempts : Failure → Nat
  | timedOut _ _ attempts .. => attempts
  | aborted _ _ attempts _ => attempts

/-- The time that the wait took. -/
def elapsed : Failure → Duration
  | timedOut _ _ _ elapsed _ => elapsed
  | aborted _ _ _ elapsed => elapsed

/-- Whether the budget ran out or the wait was cancelled. -/
def isTimedOut : Failure → Bool
  | timedOut .. => true
  | aborted .. => false

/-- Whether a fatal fault ended the wait. -/
def isAborted : Failure → Bool
  | timedOut .. => false
  | aborted .. => true

/-- Whether an external cancellation ended the wait. -/
def isCancelled : Failure → Bool
  | timedOut _ _ _ _ cancelled => cancelled
  | aborted .. => false

/-- The message of a failed wait. -/
def message : Failure → String
  | timedOut condition fault attempts elapsed _ =>
    condition ++ " was not satisfied after " ++ toString attempts ++ " attempt(s) in " ++
      elapsed.text ++ ": " ++ fault.text
  | aborted condition fault attempts _ =>
    condition ++ " failed on attempt " ++ toString attempts ++ ": " ++ fault.text

end Failure
end BoundedWait
