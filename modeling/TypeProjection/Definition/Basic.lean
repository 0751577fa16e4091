import TypeProjection.Annotation.Fault
import TypeProjection.Annotation.Library
import TypeProjection.Annotation.Syntax

/-!
Definitions: what a module is made of. Only types are text here; what a function does is of no
interest, so a method is a name and a property is a name with the type that it gives.
-/

namespace TypeProjection.Definition

open Annotation (Fault Variance)

/-- A value of an enumeration member: written down, or the next one in turn. -/
inductive MemberValue where
  | written (value : Literal)
  | automatic
  deriving Inhabited, Repr

/-- An enumeration. The base is the text of all its bases. -/
structure EnumDefinition where
  name : String
  base : String
  members : List (String × MemberValue)
  deriving Inhabited, Repr

/-- How a property is made. -/
inductive PropertyKind where
  | plain | cached | writable | abstract
  deriving DecidableEq, Repr

mutual

/-- A class: its name, bases, decorators, further words of its header, and body. -/
inductive ClassDefinition where
  | mk (name : String) (bases decorators : List String) (header : String) (body : List BodyItem)

/-- What can stand in the body of a class. -/
inductive BodyItem where
  | field (name annotation : String) (value : Option String)
  | assignment (name value : String)
  | property (kind : PropertyKind) (name : String) (returns : Option String)
  /-- A property that can only be written. -/
  | writeOnly (name : String)
  | method (name : String) (isAbstract : Bool)
  | cls (definition : ClassDefinition)
  | enum (definition : EnumDefinition)

end

namespace ClassDefinition

/-- The name of the class. -/
def name : ClassDefinition → String
  | .mk name _ _ _ _ => name

end ClassDefinition

/-- A type variable, bound to a name that may differ from its own. -/
structure VariableDefinition where
  name : String
  boundTo : String
  alternatives : List String
  bound : Option String
  variance : Variance
  needsConstructor : Bool

/-- One definition of a module. -/
inductive ModuleItem where
  | cls (definition : ClassDefinition)
  | enum (definition : EnumDefinition)
  | typeVar (definition : VariableDefinition)
  | newType (name supertype : String)
  | alias (name value : String)
  | imports (module : String) (names : List String)
  | raising (cause : Fault)

/-- A module: its definitions in order, and whether annotations are kept as text. -/
structure Source where
  postponed : Bool
  definitions : List ModuleItem

end TypeProjection.Definition
