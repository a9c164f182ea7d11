import BoundedWait.Settings
import BoundedWait.Tree

/-!
# Settings as written

The fields under which settings are written, and how they are read back.  A
field that is left out has a value of its own for this case (`unwritten`), an
unknown field is ignored, and a field that is given twice is refused.
-/

namespace BoundedWait
namespace Settings

/-- The names of the fields, in the order in which they are written. -/
def fieldNames : List String :=
  ["poll-interval", "poll-interval-unit", "wait-timeout", "wait-timeout-unit", "strategy",
    "backoff-multiplier", "max-poll-interval", "max-poll-interval-unit", "jitter"]

/-- The fields of settings, in order. -/
def toFields (s : Settings) : List (String × Tree) :=
  [("poll-interval", .count s.poll),
    ("poll-interval-unit", .text s.pollUnit.name),
    ("wait-timeout", .count s.timeout),
    ("wait-timeout-unit", .text s.timeoutUnit.name),
    ("strategy", .text s.growth.name),
    ("backoff-multiplier", .real s.multiplier),
    ("max-poll-interval", (s.cap.map Tree.count).getD .null),
    ("max-poll-interval-unit", .text s.capUnit.name),
    ("jitter", .truth s.jitter)]

/-- Settings as a tree. -/
def toTree (s : Settings) : Tree :=
  .record s.toFields

/-- The parts of written settings. -/
def shape : Shape :=
  .entries fun name => if name ∈ fieldNames then .leaf else .skipped

variable {ν : Type} [Readable ν]

/-- A unit by its name. -/
def readUnit? (v : ν) : Option TimeUnit :=
  (Readable.choice? v).bind TimeUnit.ofName?

/-- A way of growing by its name. -/
def readGrowth? (v : ν) : Option Growth :=
  (Readable.choice? v).bind Growth.ofName?

/-- What is read for each field that is left out. -/
def unwritten : Settings where
  poll := standardPoll
  pollUnit := standardPollUnit
  timeout := standardTimeout
  timeoutUnit := standardTimeoutUnit
  growth := .standard
  multiplier := standardMultiplier
  cap := none
  capUnit := standardCapUnit
  jitter := false

/-- The settings of a list of fields. -/
def ofFields? (fields : List (String × ν)) : Option Settings := do
  let poll ← Readable.field? fields "poll-interval" Readable.count? unwritten.poll
  let pollUnit ← Readable.field? fields "poll-interval-unit" readUnit? unwritten.pollUnit
  let timeout ← Readable.field? fields "wait-timeout" Readable.count? unwritten.timeout
  let timeoutUnit ← Readable.field? fields "wait-timeout-unit" readUnit? unwritten.timeoutUnit
  let growth ← Readable.field? fields "strategy" readGrowth? unwritten.growth
  let multiplier ←
    Readable.field? fields "backoff-multiplier" Readable.real? unwritten.multiplier
  let cap ← Readable.field? fields "max-poll-interval"
    (Readable.optional? Readable.count?) unwritten.cap
  let capUnit ← Readable.field? fields "max-poll-interval-unit" readUnit? unwritten.capUnit
  let jitter ← Readable.field? fields "jitter" Readable.truth? unwritten.jitter
  return ⟨poll, pollUnit, timeout, timeoutUnit, growth, multiplier, cap, capUnit, jitter⟩

/-- The settings that a written value describes. -/
def read? (v : ν) : Option Settings :=
  (Readable.fields? fieldNames v).bind ofFields?

end Settings
end BoundedWait
