/-!
Why a definition or an annotation cannot be evaluated, with the wording of each cause. Making the
wording of what a module raises may fail as well.
-/

namespace TypeProjection.Annotation

/-- A class of exceptions: its name, and whether it is `ImportError` or extends it. -/
structure ExceptionClass where
  name : String
  ofImports : Bool
  deriving DecidableEq, Repr

/-- The class of exceptions with a name, as everybody knows it. -/
def ExceptionClass.named (name : String) : ExceptionClass :=
  ⟨name, name == "ImportError" || name == "ModuleNotFoundError"⟩

/-- A cause. -/
inductive Fault where
  | unknownName (name : String)
  /-- A name that is the whole of a text and means nothing. -/
  | unknownText (name : String)
  | unknownAttribute (text : String)
  | wrongType (text : String)
  | wrongValue (text : String)
  | badSyntax (text : String)
  /-- A key that nothing has, as it is displayed. -/
  | unknownKey (key : String)
  | notImportable (text : String)
  | unknownModule (text : String)
  | outOfBounds (text : String)
  | notDecodable (text : String)
  /-- Texts that stand for one another without end. -/
  | endless
  /-- What a module chose to raise. -/
  | raised (cls : ExceptionClass) (text : String)
  /-- What a module chose to raise, and what is raised instead of its text. -/
  | untold (cls : ExceptionClass) (cause : Fault)
  deriving DecidableEq, Repr

namespace Fault

/-- The class of a fault. -/
def cls : Fault → ExceptionClass
  | .unknownName _ | .unknownText _ => .named "NameError"
  | .unknownAttribute _ => .named "AttributeError"
  | .wrongType _ => .named "TypeError"
  | .wrongValue _ => .named "ValueError"
  | .badSyntax _ => .named "SyntaxError"
  | .unknownKey _ => .named "KeyError"
  | .notImportable _ => .named "ImportError"
  | .unknownModule _ => .named "ModuleNotFoundError"
  | .outOfBounds _ => .named "IndexError"
  | .notDecodable _ => .named "UnicodeDecodeError"
  | .endless => .named "RecursionError"
  | .raised cls _ | .untold cls _ => cls

/-- The name of a kind of fault. -/
def kind (f : Fault) : String := f.cls.name

/-- The wording of a fault, or what is raised instead. -/
def message : Fault → Except Fault String
  | .unknownName name => .ok ("name '" ++ name ++ "' is not defined")
  | .unknownText name => .ok name
  | .unknownKey key => .ok key
  | .unknownAttribute text | .wrongType text | .wrongValue text | .badSyntax text
  | .notImportable text | .unknownModule text | .outOfBounds text | .notDecodable text => .ok text
  | .endless => .ok "maximum recursion depth exceeded"
  | .raised _ text => .ok text
  | .untold _ cause => .error cause

/-- A fault as a report shows it: its wording, or the name of its class. -/
def shown (f : Fault) : String :=
  match f.message with
  | .ok text => text
  | .error _ => f.kind

/-- Has a module or a name of it not been found? -/
def isImportFault (f : Fault) : Bool := f.cls.ofImports

end Fault

end TypeProjection.Annotation
