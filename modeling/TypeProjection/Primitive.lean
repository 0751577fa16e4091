/-!
Scalar shapes with a fixed name in TypeScript.
-/

namespace TypeProjection

/-- A scalar shape. -/
inductive PrimitiveKind where
  | boolean | number | string | dateTime | none | any
  deriving DecidableEq, Repr

namespace PrimitiveKind

/-- The word for a kind. -/
def label : PrimitiveKind → String
  | .boolean => "boolean"
  | .number => "number"
  | .string => "string"
  | .dateTime => "datetime"
  | .none => "none"
  | .any => "any"

/-- All kinds. -/
def all : List PrimitiveKind := [.boolean, .number, .string, .dateTime, .none, .any]

/-- The kind with a word. -/
def ofLabel? (s : String) : Option PrimitiveKind := all.find? (·.label == s)

end PrimitiveKind

/-- The reference to a type that has no representation. -/
def fallbackReference : String := "any"

/-- The reference to a scalar; `dates` chooses the native date type over a string. -/
def PrimitiveKind.reference (dates : Bool) : PrimitiveKind → String
  | .boolean => "boolean"
  | .number => "number"
  | .string => "string"
  | .dateTime => if dates then "Date" else "string"
  | .none => "null"
  | .any => fallbackReference

end TypeProjection
