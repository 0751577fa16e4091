import TypeProjection.Declaration
import TypeProjection.Template.Evaluate
import TypeProjection.Universe

/-!
Laying out declarations as text. The packaged template writes the enumerations and then the types,
each followed by an empty line; a caller may give a template of its own, which sees the same two
lists.
-/

namespace TypeProjection

open Template

/-- A line with a block tag. -/
def blockLine (tag : String) : String := "\x7b% " ++ tag ++ " %\x7d\n"

/-- A place where the value of an expression is written. -/
def slot (expression : String) : String := "\x7b\x7b " ++ expression ++ " \x7d\x7d"

/-- The packaged template. -/
def packagedTemplate : String := String.join
  [blockLine "for enum in enums",
    "export enum ", slot "enum.name", " \x7b\n",
    blockLine "for field in enum.fields",
    "    ", slot "field.name", " = ", slot "field.value", ",\n",
    blockLine "endfor",
    "\x7d\n\n",
    blockLine "endfor",
    blockLine "for type in types",
    slot "type.declaration", " \x7b\n",
    blockLine "for member in type.members",
    "    ", slot "member.name", ": ", slot "member.type_ref", ";\n",
    blockLine "endfor",
    "\x7d\n\n",
    blockLine "endfor"]

/-- The name by which the packaged template is found. -/
def packagedName : String := "declarations.ts.j2"

/-- The directory of the packaged template. -/
def packagedLoader (searchPath : String) : Loader where
  searchPath := searchPath
  read name := if name == packagedName then some (.ok packagedTemplate) else none

/-- A field as the display of its record shows it. -/
def shownField (f : String × Value) : String := f.1 ++ "=" ++ f.2.display

/-- A record that shows its fields; further ones can be asked for. -/
def shownRecord (className : String) (shown hidden : List (String × Value)) : Value :=
  .record className ("tsgen.declarations." ++ className)
    (className ++ "(" ++ String.intercalate ", " (shown.map shownField) ++ ")") (shown ++ hidden)

/-- A list of texts. -/
def textList (items : List String) : Value := .list (items.map .ofString)

/-- A member as a template sees it. -/
def MemberDeclaration.record (m : MemberDeclaration) : Value :=
  shownRecord "MemberDeclaration" [("name", .ofString m.name), ("type_ref", .ofString m.reference)] []

/-- A type as a template sees it; `source` shows what the type was declared from. -/
def TypeDeclaration.record {τ : Type} (source : τ → Value) (d : TypeDeclaration τ) : Value :=
  shownRecord "TypeDeclaration"
    [("source", source d.source), ("name", .ofString d.name), ("kind", .ofString d.kind.label),
      ("is_abstract", .bool d.isAbstract), ("type_parameters", textList d.typeParameters),
      ("extends", textList d.bases), ("implements", textList d.implements),
      ("members", .list (d.members.map MemberDeclaration.record))]
    [("is_interface", .bool d.isInterface), ("declaration", .ofString d.header)]

/-- A field of an enumeration as a template sees it. -/
def EnumField.record (f : EnumField) : Value :=
  shownRecord "EnumField" [("name", .ofString f.name), ("value", .ofString f.literal)] []

/-- An enumeration as a template sees it. -/
def EnumDeclaration.record {τ : Type} (source : τ → Value) (d : EnumDeclaration τ) : Value :=
  shownRecord "EnumDeclaration"
    [("source", source d.source), ("name", .ofString d.name),
      ("fields", .tuple (d.fields.map EnumField.record))] []

/-- A type of a universe as a template sees it. `handle` names the kind of universe. -/
def Universe.record {τ : Type} (U : Universe τ) (handle fullName : String) (t : τ) : Value :=
  .record handle fullName (handle ++ "(" ++ U.displayName t ++ ")")
    [("display_name", .ofString (U.displayName t)), ("name", .ofString (U.name t)),
      ("is_enum", .bool (U.isEnum t)), ("is_interface", .bool (U.isInterface t)),
      ("is_abstract", .bool (U.isAbstract t)), ("is_structural", .bool (U.isStructural t)),
      ("is_generic_parameter", .bool (U.isParameter t)),
      ("is_generic_definition", .bool (U.isDefinition t)),
      ("is_constructed_generic", .bool (U.isConstructed t)),
      ("requires_default_constructor", .bool (U.needsConstructor t))]

/-- The wording of a failed rendering. -/
def renderingFailure (cause : Fault) : String :=
  if cause.isTemplateError then "Template rendering failed: " ++ cause.message else cause.message

/-- The text of declarations: by the given template, or by the one that the loader has under the
packaged name. An empty template counts as none. -/
def renderDeclarations {τ : Type} (l : Loader) (template : Option String) (source : τ → Value)
    (types : List (TypeDeclaration τ)) (enums : List (EnumDeclaration τ)) :
    Except Fault (List Text.Point) :=
  let frame : Frame :=
    [("types", .list (types.map (TypeDeclaration.record source))),
      ("enums", .list (enums.map (EnumDeclaration.record source)))]
  match template.filter (· != "") with
  | some text => runSource l text frame
  | none => runNamed l packagedName frame

end TypeProjection
