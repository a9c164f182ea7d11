import BoundedWait.Event

/-!
# Journals

A journal entry is a level, a message, and named fields in a fixed order.  The
journal of a wait has one entry for each event, under the name of the awaited
condition.  What is routine on a first attempt is reported at a lower level
than the same on a later one.
-/

namespace BoundedWait

/-- How much an entry matters. -/
inductive Level
  | debug
  | info
  | warning
  | error
deriving DecidableEq, Repr

/-- The word for a level. -/
def Level.name : Level → String
  | debug => "DEBUG"
  | info => "INFO"
  | warning => "WARN"
  | error => "ERROR"

/-- One line of a journal. -/
structure Entry where
  level : Level
  message : String
  fields : List (String × String)
deriving DecidableEq, Repr

namespace Entry

/-- The name of a condition that is given none. -/
def unnamed : String := "wait"

/-- The entry for one event of a wait on a condition. -/
def ofEvent (condition : String) : Event → Entry
  | .started attempt bound =>
    ⟨.debug, "polling condition",
      [("condition", condition), ("attempt", toString attempt),
        ("max_attempts", toString bound)]⟩
  | .notReady attempt fault delay =>
    if 1 < attempt then
      ⟨.warning, "condition still not ready",
        [("condition", condition), ("attempt", toString attempt),
          ("fault", fault.text), ("delay_ms", toString delay.loggedMillis)]⟩
    else
      ⟨.debug, "condition not ready yet",
        [("condition", condition), ("fault", fault.text),
          ("delay_ms", toString delay.loggedMillis)]⟩
  | .succeeded attempt elapsed =>
    if 1 < attempt then
      ⟨.info, "condition satisfied after polling",
        [("condition", condition), ("attempt", toString attempt),
          ("elapsed_ms", toString elapsed.loggedMillis)]⟩
    else
      ⟨.debug, "condition satisfied on first attempt",
        [("condition", condition), ("elapsed_ms", toString elapsed.loggedMillis)]⟩
  | .timedOut attempts fault elapsed =>
    ⟨.error, "timed out waiting for condition",
      [("condition", condition), ("attempts", toString attempts),
        ("fault", fault.text), ("elapsed_ms", toString elapsed.loggedMillis)]⟩
  | .aborted attempt fault elapsed =>
    ⟨.error, "wait aborted by fatal fault",
      [("condition", condition), ("attempt", toString attempt),
        ("fault", fault.text), ("elapsed_ms", toString elapsed.loggedMillis)]⟩
  | .cancelled attempts fault =>
    ⟨.warning, "wait cancelled",
      [("condition", condition), ("attempts", toString attempts), ("fault", fault.text)]⟩

end Entry
end BoundedWait
