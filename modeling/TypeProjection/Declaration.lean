/-!
Declarations: the records that a run produces and a renderer lays out. `TypeDeclaration.header` is
the line that opens a class or an interface.
-/

namespace TypeProjection

/-- How a type is declared. A renderer's caller may use a word of its own, laid out as a class. -/
inductive DeclarationKind where
  | classKind
  | interfaceKind
  | custom (word : String)
  deriving DecidableEq, Repr

namespace DeclarationKind

/-- The word for a kind. -/
def label : DeclarationKind → String
  | .classKind => "class"
  | .interfaceKind => "interface"
  | .custom word => word

/-- The kind with a word. -/
def ofLabel (s : String) : DeclarationKind :=
  if s == "class" then .classKind
  else if s == "interface" then .interfaceKind
  else .custom s

end DeclarationKind

/-- One line of a body: a name and the reference to its type. -/
structure MemberDeclaration where
  name : String
  reference : String
  deriving DecidableEq, Repr

/-- A class or an interface, declared from one type. -/
structure TypeDeclaration (τ : Type) where
  source : τ
  name : String
  kind : DeclarationKind
  isAbstract : Bool
  typeParameters : List String
  bases : List String
  implements : List String
  members : List MemberDeclaration
  deriving DecidableEq, Repr

/-- A class without a header or a body. -/
def TypeDeclaration.bare {τ : Type} (source : τ) (name : String) : TypeDeclaration τ :=
  ⟨source, name, .classKind, false, [], [], [], []⟩

/-- One field of an enumeration: its name and its literal. -/
structure EnumField where
  name : String
  literal : String
  deriving DecidableEq, Repr

/-- An enumeration, declared from one type. -/
structure EnumDeclaration (τ : Type) where
  source : τ
  name : String
  fields : List EnumField
  deriving DecidableEq, Repr

namespace TypeDeclaration

variable {τ : Type}

/-- Is the type declared as an interface? -/
def isInterface (d : TypeDeclaration τ) : Bool := d.kind == .interfaceKind

/-- Items separated by a comma and a space. -/
def commaList (items : List String) : String := String.intercalate ", " items

/-- A keyword and its items after the name, or nothing without items. -/
def clause (keyword : String) (items : List String) : String :=
  if items.isEmpty then "" else " " ++ keyword ++ " " ++ commaList items

/-- The name with its type parameters. -/
def head (d : TypeDeclaration τ) : String :=
  if d.typeParameters.isEmpty then d.name
  else d.name ++ "<" ++ commaList d.typeParameters ++ ">"

/-- The line that opens the declaration. An interface has no `implements` clause and is never
abstract. -/
def header (d : TypeDeclaration τ) : String :=
  if d.isInterface then "export interface " ++ d.head ++ clause "extends" d.bases
  else
    (if d.isAbstract then "export abstract class " else "export class ") ++ d.head ++
      clause "extends" d.bases ++ clause "implements" d.implements

end TypeDeclaration

end TypeProjection
