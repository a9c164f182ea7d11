import BoundedWait.Plan
import BoundedWait.Fault.SystemError

/-!
# Errors before a wait

What can go wrong while plans are built and profiles are loaded.  An error is
its cause; `message` is its text.
-/

namespace BoundedWait

/-- Why a configuration is invalid. -/
inductive Complaint
  /-- The parameters make no plan. -/
  | defect (d : Plan.Defect)
  /-- A variable of the environment should hold a number. -/
  | notANumber (variableName : String)
  /-- A variable of the environment should hold a truth value. -/
  | notABoolean (variableName : String)
  /-- A profile file is not well-formed. -/
  | unreadable (path : String)
  /-- The home directory's path, as far as it can be shown, is not UTF-8. -/
  | homeNotUtf8 (shown : String)
  /-- In the words of the caller. -/
  | stated (text : String)
deriving DecidableEq

/-- The text of a complaint. -/
def Complaint.message : Complaint → String
  | defect d => d.message
  | notANumber variableName => variableName ++ " must be a valid number"
  | notABoolean variableName => variableName ++ " must be true or false"
  | unreadable path => "Failed to parse " ++ path
  | homeNotUtf8 shown => "Home directory is not valid UTF-8: " ++ shown
  | stated text => text

/-- What went wrong before a wait. -/
inductive Error
  | invalid (complaint : Complaint)
  | fileNotFound (path : String)
  | unknownProfile (name : String)
  | system (error : SystemError)
  | malformedYaml
  | malformedJson
deriving DecidableEq

namespace Error

/-- The text of an error. -/
def message : Error → String
  | invalid complaint => "Invalid wait configuration: " ++ complaint.message
  | fileNotFound path => "Wait profile file not found: " ++ path
  | unknownProfile name => "Unknown wait profile: " ++ name
  | system error => "IO error: " ++ error.text
  | malformedYaml => "YAML parsing error"
  | malformedJson => "JSON parsing error"

/-- Whether an error is about the validity of a configuration. -/
def isInvalid : Error → Bool
  | invalid _ => true
  | _ => false

/-- The text of the underlying error. -/
def source? : Error → Option String
  | system error => some error.text
  | _ => none

/-- A defect as an error. -/
def ofDefect (d : Plan.Defect) : Error :=
  invalid (.defect d)

end Error
end BoundedWait
