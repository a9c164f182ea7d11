import BoundedWait.Fault
import BoundedWait.SortedMap

/-!
# Expectations on results

An expectation turns the items that a query returned into a probe.  A rule says
whether no items at all are an answer or mean "not yet"; the subject names what
is looked for in the reasons of faults.
-/

namespace BoundedWait

/-- What it means that there are no items. -/
inductive EmptyRule
  /-- The answer has arrived, and it is empty. -/
  | ready
  /-- The answer has not arrived yet. -/
  | notReady
deriving DecidableEq, Repr

namespace EmptyRule

/-- Both rules. -/
def all : List EmptyRule := [ready, notReady]

/-- The name of a rule. -/
def name : EmptyRule → String
  | ready => "ready"
  | notReady => "not-ready"

/-- The rule of a name. -/
def ofName? (text : String) : Option EmptyRule :=
  all.find? (·.name == text)

end EmptyRule

/-- What is looked for, and what it means to find nothing. -/
structure Expectation where
  onEmpty : EmptyRule
  subject : String
deriving DecidableEq, Repr

namespace Expectation

variable {α κ : Type}

/-- Some result, which has not arrived while there is none. -/
def standard : Expectation := ⟨.notReady, "result"⟩

/-- The same rule for another subject. -/
def describing (e : Expectation) (subject : String) : Expectation :=
  { e with subject := subject }

/-- The fault of having found nothing. -/
def nothing (e : Expectation) : Fault :=
  Fault.notReady ("no " ++ e.subject ++ " observed yet")

/-- All items. -/
def allItems (e : Expectation) (items : List α) : Probe (List α) :=
  if items.isEmpty ∧ e.onEmpty = .notReady then .error e.nothing
  else .ok items

/-- The first item, if there is one. -/
def first (e : Expectation) (items : List α) : Probe (Option α) :=
  match items with
  | item :: _ => .ok (some item)
  | [] =>
    match e.onEmpty with
    | .ready => .ok none
    | .notReady => .error e.nothing

/-- The first item, which has to exist. -/
def requireFirst (e : Expectation) (items : List α) : Probe α :=
  match items with
  | item :: _ => .ok item
  | [] => .error e.nothing

/-- The item that there may be. -/
def single (e : Expectation) (item : Option α) : Probe (Option α) :=
  match item with
  | some item => .ok (some item)
  | none =>
    match e.onEmpty with
    | .ready => .ok none
    | .notReady => .error e.nothing

/-- The map of pairs, where the last pair of a key counts. -/
def aggregate [Ord κ] [Std.TransOrd κ] [Std.LawfulEqOrd κ]
    (e : Expectation) (pairs : List (κ × α)) : Probe (SortedMap κ α) :=
  let map := SortedMap.ofList pairs
  if map.isEmpty ∧ e.onEmpty = .notReady then .error e.nothing
  else .ok map

/-- Succeeds when nothing is left. -/
def expectEmpty (e : Expectation) (items : List α) : Probe Unit :=
  if items.isEmpty then .ok ()
  else .error (Fault.notReady (toString items.length ++ " " ++ e.subject ++ " still present"))

end Expectation
end BoundedWait
