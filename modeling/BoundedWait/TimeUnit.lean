import BoundedWait.Duration

/-!
# Time units

A time unit turns a 64-bit count into a duration, and a duration back into the
coarsest unit in which it is a whole 64-bit count.

* `toDuration` multiplies; minutes and hours stop at 2^64 - 1 seconds.
* `split` looks through the units from hours down to nanoseconds.  A duration
  that no unit holds exactly is rounded up to whole seconds.
-/

namespace BoundedWait

/-- The units in which settings count time, from the finest up. -/
inductive TimeUnit
  | nanoseconds
  | microseconds
  | milliseconds
  | seconds
  | minutes
  | hours
deriving DecidableEq, Repr

namespace TimeUnit

/-- Nanoseconds in one unit. -/
def nanos : TimeUnit → Nat
  | nanoseconds => 1
  | microseconds => 1000
  | milliseconds => 1000000
  | seconds => 1000000000
  | minutes => 60000000000
  | hours => 3600000000000

theorem nanos_pos (u : TimeUnit) :
    0 < u.nanos := by
  cases u <;> decide

/-- The units from the coarsest down. -/
def coarsestFirst : List TimeUnit :=
  [hours, minutes, seconds, milliseconds, microseconds, nanoseconds]

theorem mem_coarsestFirst (u : TimeUnit) :
    u ∈ coarsestFirst := by
  cases u <;> decide

/-- So many units of time; minutes and hours are counted in 64-bit seconds. -/
def toDuration (u : TimeUnit) (count : UInt64) : Duration :=
  match u with
  | minutes => Duration.ofSeconds (count.toNat * 60)
  | hours => Duration.ofSeconds (count.toNat * 3600)
  | fine => Duration.ofNanos (count.toNat * fine.nanos)

/-- Whether a duration is a whole number of units that fits 64 bits. -/
def Holds (u : TimeUnit) (d : Duration) : Prop :=
  d.nanos % u.nanos = 0 ∧ d.nanos / u.nanos < UInt64.size

instance (u : TimeUnit) (d : Duration) : Decidable (u.Holds d) :=
  inferInstanceAs (Decidable (_ ∧ _))

/-- The coarsest unit that holds a duration exactly, if any does. -/
def coarsest? (d : Duration) : Option TimeUnit :=
  coarsestFirst.find? fun u => decide (u.Holds d)

/-- A duration as a count of the coarsest unit that holds it, else of the
whole seconds just above it. -/
def split (d : Duration) : UInt64 × TimeUnit :=
  match coarsest? d with
  | some u => (UInt64.ofNat (d.nanos / u.nanos), u)
  | none => (UInt64.ofNat (min (d.seconds + 1) (UInt64.size - 1)), seconds)

/-- The name of a unit in settings. -/
def name : TimeUnit → String
  | nanoseconds => "nanoseconds"
  | microseconds => "microseconds"
  | milliseconds => "milliseconds"
  | seconds => "seconds"
  | minutes => "minutes"
  | hours => "hours"

/-- The further names under which settings may give a unit. -/
def aliases : TimeUnit → List String
  | nanoseconds => ["ns", "nanos"]
  | microseconds => ["us", "micros"]
  | milliseconds => ["ms", "millis"]
  | seconds => ["s", "secs"]
  | minutes => ["m", "mins"]
  | hours => ["h"]

/-- The unit of a name or of one of its short forms. -/
def ofName? (text : String) : Option TimeUnit :=
  coarsestFirst.find? fun u => u.name == text || u.aliases.contains text

end TimeUnit
end BoundedWait
