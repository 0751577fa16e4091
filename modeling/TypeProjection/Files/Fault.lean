import TypeProjection.Literal
import TypeProjection.Text.Utf8

/-!
Why a file cannot be used, with the wording of each cause.
-/

namespace TypeProjection

/-- A cause, with the path as it was written. -/
inductive FileFault where
  | notFound (path : String)
  | isFolder (path : String)
  | notFolder (path : String)
  /-- Something else stands where a folder is to be made. -/
  | taken (path : String)
  /-- A name on the way, or the path itself, is longer than the system allows. -/
  | overlong (path : String)
  | undecodable (cause : Text.Undecodable)
  /-- A text with surrogates, which no file can hold. -/
  | unencodable (text : List Text.Point)
  deriving DecidableEq, Repr

namespace FileFault

/-- The name of a kind of cause. -/
def kind : FileFault → String
  | notFound _ => "FileNotFoundError"
  | isFolder _ => "IsADirectoryError"
  | notFolder _ => "NotADirectoryError"
  | taken _ => "FileExistsError"
  | overlong _ => "OSError"
  | undecodable _ => "UnicodeDecodeError"
  | unencodable _ => "UnicodeEncodeError"

/-- A numbered cause with a path. -/
def numbered (number : Nat) (text path : String) : String :=
  "[Errno " ++ toString number ++ "] " ++ text ++ ": " ++ Text.display path

/-- The wording of a cause. -/
def message : FileFault → String
  | notFound path => numbered 2 "No such file or directory" path
  | isFolder path => numbered 21 "Is a directory" path
  | notFolder path => numbered 20 "Not a directory" path
  | taken path => numbered 17 "File exists" path
  | overlong path => numbered 36 "File name too long" path
  | undecodable cause => cause.message
  | unencodable text => Text.unencodableMessage text

end FileFault

end TypeProjection
