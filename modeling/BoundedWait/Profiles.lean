import BoundedWait.Settings.Written
import BoundedWait.SortedMap
import BoundedWait.Plan.Preset
import BoundedWait.Error

/-!
# Profiles

Profiles are settings under names, and optionally the settings of the default
profile.  One layer of profiles is merged over another: its named settings and
its default replace those below.

* `get` looks a plan up: first among the named settings, then, for the name of
  the default profile, in the default.
* `merge` lays one layer over another.
-/

namespace BoundedWait

/-- Named settings, and the settings of the default profile if given. -/
@[ext] structure Profiles where
  default : Option Settings
  named : SortedMap String Settings

namespace Profiles

/-- The name of the default profile. -/
def defaultName : String := "default"

/-- No settings at all. -/
def empty : Profiles := ⟨none, SortedMap.empty⟩

/-- The settings that there are without any file. -/
def builtin : Profiles where
  default := some (Settings.ofPlan Plan.standard)
  named := SortedMap.ofList
    [("role-propagation", Settings.ofPlan Plan.rolePropagation),
      ("database-row", Settings.ofPlan Plan.databaseRow),
      ("queue-dequeue", Settings.ofPlan Plan.queueDequeue),
      ("input-request", Settings.ofPlan Plan.inputRequest),
      ("build-completion", Settings.ofPlan Plan.buildCompletion),
      ("service-ready", Settings.ofPlan Plan.serviceReady)]

/-- The plan of settings, with a defect as an error. -/
def planOf (s : Settings) : Except Error Plan :=
  s.toPlan.mapError Error.ofDefect

/-- The plan of the default profile. -/
def defaultPlan (p : Profiles) : Except Error Plan :=
  match p.default with
  | some s => planOf s
  | none => .ok Plan.standard

/-- The plan of a name. -/
def get (p : Profiles) (name : String) : Except Error Plan :=
  match p.named.get? name with
  | some s => planOf s
  | none => if name = defaultName then p.defaultPlan else .error (.unknownProfile name)

/-- The names, in order. -/
def names (p : Profiles) : List String :=
  p.named.keys

/-- The profiles with another layer over them. -/
def merge (below above : Profiles) : Profiles :=
  ⟨above.default.or below.default, below.named.merge above.named⟩

/-- Profiles as a tree, without a default that is not given. -/
def toTree (p : Profiles) : Tree :=
  let named : Tree := .record (p.named.pairs.map fun pair => (pair.1, pair.2.toTree))
  match p.default with
  | some s => .record [("default", s.toTree), ("profiles", named)]
  | none => .record [("profiles", named)]

/-- The names of the fields, in the order in which they are written. -/
def fieldNames : List String :=
  ["default", "profiles"]

/-- The parts of written profiles. -/
def shape : Shape :=
  .entries fun name =>
    if name = "default" then Settings.shape
    else if name = "profiles" then .entries fun _ => Settings.shape
    else .skipped

variable {ν : Type} [Readable ν]

/-- Named settings, where the last of several entries of a name counts. -/
def readNamed? (v : ν) : Option (SortedMap String Settings) := do
  let entries ← Readable.entries? v
  let pairs ← entries.mapM fun entry => (Settings.read? entry.2).map (entry.1, ·)
  return SortedMap.ofList pairs

/-- The profiles that a written value describes. -/
def read? (v : ν) : Option Profiles := do
  let fields ← Readable.fields? fieldNames v
  let default ←
    Readable.field? fields "default" (Readable.optional? Settings.read?) empty.default
  let named ← Readable.field? fields "profiles" readNamed? empty.named
  return ⟨default, named⟩

end Profiles
end BoundedWait
