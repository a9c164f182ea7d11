import BoundedWait.Profiles
import BoundedWait.Journal
import BoundedWait.Text.Blank
import BoundedWait.Text.Utf8

/-!
# Profiles and the environment

Three variables of the environment change the default profile: its poll
interval and its timeout, in milliseconds, and its jitter.  They are read in
that order, and the first that cannot be read is the error.  A variable whose
bytes are no text counts as not set.
-/

namespace BoundedWait

/-- The variables that are set, each with its text. -/
structure Environment where
  poll : Option String
  timeout : Option String
  jitter : Option String
deriving DecidableEq, Repr

namespace Environment

/-- The variable for the poll interval. -/
def pollName : String := "EVENTUAL_POLL_INTERVAL_MS"

/-- The variable for the timeout. -/
def timeoutName : String := "EVENTUAL_TIMEOUT_MS"

/-- The variable for the jitter. -/
def jitterName : String := "EVENTUAL_JITTER"

/-- The text of a variable, if it is set and its bytes are a text. -/
def textOf (value? : String → Option (List UInt8)) (name : String) : Option String :=
  (value? name).bind Text.Utf8.decode?

/-- The environment of variables whose values are given as bytes. -/
def ofVariables (value? : String → Option (List UInt8)) : Environment :=
  ⟨textOf value? pollName, textOf value? timeoutName, textOf value? jitterName⟩

/-- A number of 64 bits in decimal digits, with or without a plus sign. -/
def number? (text : String) : Option UInt64 :=
  let digits :=
    match text.toList with
    | '+' :: rest => rest
    | rest => rest
  if digits.isEmpty || !digits.all Char.isDigit then none
  else
    let value := digits.foldl (fun n d => 10 * n + (d.toNat - '0'.toNat)) 0
    if value < UInt64.size then some (UInt64.ofNat value) else none

/-- A truth value, whatever the blanks around it and the case of its letters. -/
def flag? (text : String) : Option Bool :=
  let word := String.ofList (Text.lowerAscii (Text.trimBlank text.toList))
  if word ∈ ["true", "1", "yes", "on"] then some true
  else if word ∈ ["false", "0", "no", "off"] then some false
  else none

/-- The settings with one variable over them: as they are if it is not set, and
with the value of its text otherwise. -/
def override {β : Type} (given : Option String) (read? : String → Option β)
    (complaint : Complaint) (change : Settings → β → Settings) (s : Settings) :
    Except Error Settings :=
  match given with
  | none => .ok s
  | some text =>
    match read? text with
    | some value => .ok (change s value)
    | none => .error (.invalid complaint)

/-- The settings with the poll interval of the environment. -/
def applyPoll (e : Environment) (s : Settings) : Except Error Settings :=
  override e.poll number? (.notANumber pollName)
    (fun s n => { s with poll := n, pollUnit := .milliseconds }) s

/-- The settings with the timeout of the environment. -/
def applyTimeout (e : Environment) (s : Settings) : Except Error Settings :=
  override e.timeout number? (.notANumber timeoutName)
    (fun s n => { s with timeout := n, timeoutUnit := .milliseconds }) s

/-- The settings with the jitter of the environment. -/
def applyJitter (e : Environment) (s : Settings) : Except Error Settings :=
  override e.jitter flag? (.notABoolean jitterName) (fun s on => { s with jitter := on }) s

/-- The settings with everything that the environment changes. -/
def apply (e : Environment) (s : Settings) : Except Error Settings := do
  let s ← e.applyPoll s
  let s ← e.applyTimeout s
  e.applyJitter s

/-- Whether any variable is set. -/
def isSet (e : Environment) : Bool :=
  e.poll.isSome || e.timeout.isSome || e.jitter.isSome

/-- The journal entry for settings that the environment changed. -/
def entry (s : Settings) : Entry :=
  ⟨.debug, "default wait profile overridden from environment",
    [("poll_interval", toString s.poll.toNat), ("poll_interval_unit", s.pollUnit.name),
      ("wait_timeout", toString s.timeout.toNat), ("wait_timeout_unit", s.timeoutUnit.name)]⟩

end Environment
end BoundedWait
