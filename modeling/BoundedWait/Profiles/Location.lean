import BoundedWait.Error
import BoundedWait.Text.Utf8

/-!
# Where profiles are kept

The profile file has a fixed name inside a directory, by default one in the
home directory.
-/

namespace BoundedWait
namespace Profiles

/-- The name of the profile file. -/
def fileName : String := "wait-profiles.yaml"

/-- The name of the directory of the profile file in the home directory. -/
def directoryName : String := ".eventual"

/-- A path inside a directory; an absolute path stands for itself. -/
def joinPath (directory path : String) : String :=
  if path.startsWith "/" then path
  else if directory.isEmpty || directory.endsWith "/" then directory ++ path
  else directory ++ "/" ++ path

/-- The profile file of a directory. -/
def filePath (directory : String) : String :=
  joinPath directory fileName

/-- The directory of the profile file for a home directory given by the bytes
of its path. -/
def directoryOfHome (home : List UInt8) : Except Error String :=
  match Text.Utf8.decode? home with
  | some home => .ok (joinPath home directoryName)
  | none => .error (.invalid (.homeNotUtf8 (Text.Utf8.decodeLossy home)))

end Profiles
end BoundedWait
