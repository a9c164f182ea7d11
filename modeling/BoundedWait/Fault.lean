import BoundedWait.Fault.KindSet
import BoundedWait.Fault.SystemError

/-!
# Faults

A fault is what a condition reports instead of a value: a kind, a reason, and
the texts of the errors that led to it.
-/

namespace BoundedWait

/-- A failed attempt. -/
structure Fault where
  kind : Fault.Kind
  reason : String
  /-- The texts of the underlying errors, the nearest first. -/
  causes : List String
deriving DecidableEq, Repr

/-- What one attempt of a condition produces. -/
abbrev Probe (α : Type) := Except Fault α

namespace Fault

/-- A fault without underlying errors. -/
def plain (kind : Kind) (reason : String) : Fault :=
  ⟨kind, reason, []⟩

/-- The expected state has not been observed yet. -/
def notReady (reason : String) : Fault :=
  plain .notYetReady reason

/-- The kind in brackets, and the reason. -/
def text (f : Fault) : String :=
  "[" ++ f.kind.name ++ "] " ++ f.reason

/-- Whether a fault only says that the condition does not hold yet. -/
def isNotReady (f : Fault) : Bool :=
  f.kind == .notYetReady

/-- The text of the nearest underlying error. -/
def source? (f : Fault) : Option String :=
  f.causes.head?

/-- A fault caused by another one, with the text of that one as its reason. -/
def wrap (kind : Kind) (inner : Fault) : Fault :=
  ⟨kind, inner.text, inner.text :: inner.causes⟩

/-- The fault with another one as its cause, in place of its own causes. -/
def withSource (f source : Fault) : Fault :=
  { f with causes := source.text :: source.causes }

/-- A fault caused by a system error, with its text as the reason. -/
def ofError (kind : Kind) (error : SystemError) : Fault :=
  ⟨kind, error.text, [error.text]⟩

/-- The kind of fault that a system error amounts to. -/
def Kind.ofSystemError : SystemError.Kind → Kind
  | .connectionRefused | .connectionReset | .connectionAborted | .brokenPipe
  | .timedOut => .transport
  | .notFound => .notFound
  | .permissionDenied => .unauthorized
  | .invalidData | .unexpectedEnd => .invalidResponse
  | _ => .other

/-- The fault that a system error amounts to. -/
def ofSystemError (error : SystemError) : Fault :=
  ofError (Kind.ofSystemError error.kind) error

/-- The fault that an HTTP status code reports, if it reports one. -/
def ofHttpStatus? (code : Nat) (context : String) : Option Fault :=
  (Kind.ofHttpStatus? code).map fun kind =>
    plain kind (context ++ ": HTTP " ++ toString code)

end Fault
end BoundedWait
