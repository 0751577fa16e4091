import TypeProjection.Annotation.Fault
import TypeProjection.Files.Fault

/-!
Why inputs give no types, with the wording of each cause.
-/

namespace TypeProjection

/-- A cause. -/
inductive InputFault where
  | noFiles (input : String)
  /-- A file that is no source file. -/
  | unloadable (path : String)
  | failedFile (path cause : String)
  | failedImport (module cause : String)
  | noAttribute (module name : String)
  /-- A path without a name. -/
  | emptyName (path : String)
  | file (cause : FileFault)
  /-- A module failed, and not because something was not found. -/
  | definition (cause : Annotation.Fault)
  deriving DecidableEq, Repr

namespace InputFault

/-- Is the cause one of those that inputs are known for? -/
def isInputError : InputFault → Bool
  | noFiles _ | unloadable _ | failedFile _ _ | failedImport _ _ | noAttribute _ _ => true
  | emptyName _ | file _ | definition _ => false

/-- The name of a kind of cause. -/
def kind : InputFault → String
  | emptyName _ => "ValueError"
  | file cause => cause.kind
  | definition cause => cause.kind
  | _ => "InputError"

/-- The wording of a cause, or what is raised instead. -/
def message : InputFault → Except Annotation.Fault String
  | noFiles input => .ok ("No .py files found from input " ++ input)
  | unloadable path => .ok ("Cannot load " ++ path)
  | failedFile path cause => .ok ("Failed to load " ++ path ++ ": " ++ cause)
  | failedImport module cause => .ok ("Cannot import module " ++ module ++ ": " ++ cause)
  | noAttribute module name => .ok ("Module " ++ module ++ " has no attribute " ++ name)
  | emptyName path => .ok ("PosixPath(" ++ Text.display path ++ ") has an empty name")
  | file cause => .ok cause.message
  | definition cause => cause.message

end InputFault

end TypeProjection
