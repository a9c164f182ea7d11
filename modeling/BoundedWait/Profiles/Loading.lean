import BoundedWait.Profiles.Environment
import BoundedWait.Profiles.FileState
import BoundedWait.Profiles.Location

/-!
# Loading profiles

Profiles are loaded in layers: those built in, over them the profile file if
there is one, and over the default of both the environment.  A load returns
the journal entries that it made, also when it fails.

How the text of a file is read is a parameter, so that what is said here holds
for every notation.
-/

namespace BoundedWait
namespace Profiles

/-- A result and the journal entries made on the way to it. -/
structure Loaded where
  result : Except Error Profiles
  journal : List Entry

/-- The profiles of one file. -/
def ofFile (parse? : String → Option Profiles) (path : String) (file : FileState) :
    Except Error Profiles := do
  let text ← file.text path
  match parse? text with
  | some profiles => .ok profiles
  | none => .error (.invalid (.unreadable path))

/-- The profiles with the environment over their default. -/
def withEnvironment (p : Profiles) (e : Environment) : Loaded :=
  let settings := p.default.getD (Settings.ofPlan Plan.standard)
  match e.apply settings with
  | .error error => ⟨.error error, []⟩
  | .ok settings =>
    ⟨.ok { p with default := some settings },
      if e.isSet then [Environment.entry settings] else []⟩

/-- The profiles of a file over those built in, and the environment over the
default of both. -/
def load (parse? : String → Option Profiles) (path : String) (file : FileState)
    (e : Environment) : Loaded :=
  if file.exists? then
    let entry : Entry := ⟨.debug, "loading wait profiles", [("path", path)]⟩
    match ofFile parse? path file with
    | .error error => ⟨.error error, [entry]⟩
    | .ok profiles =>
      let loaded := (builtin.merge profiles).withEnvironment e
      ⟨loaded.result, entry :: loaded.journal⟩
  else builtin.withEnvironment e

/-- The profiles of a file alone, without those built in and without the
environment. -/
def loadFile (parse? : String → Option Profiles) (path : String) (file : FileState) :
    Except Error Profiles :=
  if file.exists? then ofFile parse? path file
  else .error (.fileNotFound path)

end Profiles
end BoundedWait
