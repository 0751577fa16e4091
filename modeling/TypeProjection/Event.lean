import TypeProjection.Declaration

/-!
Events: what a run reports on the way, with the wording of each.
-/

namespace TypeProjection

/-- One report. -/
inductive Event where
  | skippedType (displayName : String)
  | skippedEnum (displayName : String)
  | declaredType (kind : DeclarationKind) (name : String)
  | declaredEnum (name : String)
  | ignoredRoot (displayName : String)
  | rendering (types enums : Nat)
  /-- A provider could not resolve something. -/
  | unresolved (note : String)
  deriving DecidableEq, Repr

namespace Event

/-- Which part of the program reports. -/
def logger : Event → String
  | .skippedType _ | .skippedEnum _ | .declaredType _ _ | .declaredEnum _ => "tsgen.builder"
  | .ignoredRoot _ | .rendering _ _ => "tsgen.generator"
  | .unresolved _ => "tsgen.reflection"

/-- Is the report a warning? All others are for debugging. -/
def isWarning : Event → Bool
  | .ignoredRoot _ => true
  | _ => false

/-- The name of the report's level. -/
def level (e : Event) : String := if e.isWarning then "WARNING" else "DEBUG"

/-- The wording of a report. -/
def message : Event → String
  | .skippedType d => "Skipping " ++ d ++ " (matched skip pattern)"
  | .skippedEnum d => "Skipping enum " ++ d ++ " (matched skip pattern)"
  | .declaredType kind name => "Declared " ++ kind.label ++ " " ++ name
  | .declaredEnum name => "Declared enum " ++ name
  | .ignoredRoot d => "Ignoring root " ++ d ++ ": not an enum or structural type"
  | .rendering types enums =>
    "Rendering " ++ toString types ++ " type and " ++ toString enums ++ " enum declarations"
  | .unresolved note => note

/-- The report as one line of a log. -/
def line (e : Event) : String := e.level ++ " " ++ e.logger ++ ": " ++ e.message

end Event

end TypeProjection
