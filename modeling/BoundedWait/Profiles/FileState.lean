import BoundedWait.Error
import BoundedWait.Text.Utf8

/-!
# What stands at a path

A path leads to nothing, to a directory, to a file with some bytes, or to one
that the system refuses to read.  A relative path is followed name by name: an
empty name and `.` stay in a directory, `..` leads out of it, and nothing leads
on from a file, not even an empty name.

* `FileState.text` reads the text of a file, or says why there is none.
* `FileState.within` follows a path from a directory that has a single entry.
-/

namespace BoundedWait
namespace Profiles

/-- What stands at the path of a file, as the system shows it. -/
inductive FileState
  /-- Whatever `exists?` denies: nothing at all, and also a file whose metadata
  cannot be read. -/
  | missing
  /-- A directory, which is visible and has no text. -/
  | directory
  /-- A file with these bytes. -/
  | bytes (content : List UInt8)
  /-- A file that is visible but cannot be read. -/
  | refused (error : SystemError)
deriving DecidableEq

namespace FileState

/-- Whether the system shows that there is something at the path. -/
def exists? : FileState → Bool
  | missing => false
  | _ => true

/-- The text of a file. -/
def text (path : String) : FileState → Except Error String
  | missing => .error (.fileNotFound path)
  | directory => .error (.system .isADirectory)
  | bytes content =>
    match Text.Utf8.decode? content with
    | some text => .ok text
    | none => .error (.system .notUtf8)
  | refused error => .error (.system error)

/-- How far a path has led. -/
inductive Place
  /-- In the directory where the path begins. -/
  | inside
  /-- At the entry of that directory. -/
  | entry
  /-- In a directory around it. -/
  | outside
  | nowhere
deriving DecidableEq

/-- Whether a name in a path stays in a directory. -/
def staysIn (name : String) : Bool :=
  name == "" || name == "."

/-- Follows a path by one name. -/
def follow (entryName : String) (entry : FileState) (place : Place) (name : String) : Place :=
  match place with
  | .inside =>
    if staysIn name then .inside
    else if name = ".." then .outside
    else if name = entryName ∧ entry.exists? then .entry
    else .nowhere
  | .entry =>
    if entry ≠ directory then .nowhere
    else if staysIn name then .entry
    else if name = ".." then .inside
    else .nowhere
  | .outside => if staysIn name ∨ name = ".." then .outside else .nowhere
  | .nowhere => .nowhere

/-- What stands at a path that begins in a directory with a single entry; an
absolute path begins outside. -/
def within (entryName : String) (entry : FileState) (path : String) : FileState :=
  let start : Place := if path.startsWith "/" then .outside else .inside
  match (path.splitOn "/").foldl (follow entryName entry) start with
  | .inside => directory
  | .outside => directory
  | .entry => entry
  | .nowhere => missing

end FileState
end Profiles
end BoundedWait
