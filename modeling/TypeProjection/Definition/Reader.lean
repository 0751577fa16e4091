import TypeProjection.Definition.Basic
import TypeProjection.Json.Basic
import TypeProjection.Text.CodeTable

/-!
Reading definitions from JSON. What is missing has its usual value, and what is not understood is
left out.
-/

namespace TypeProjection

/-- How deep a JSON value nests. -/
def Json.depth : Json → Nat
  | .arr items => items.attach.foldl (fun n j => max n (depth j.1 + 1)) 1
  | .obj entries => entries.attach.foldl (fun n e => max n (depth e.1.2 + 1)) 1
  | _ => 0
termination_by j => sizeOf j
decreasing_by
  · have := List.sizeOf_lt_of_mem j.2
    simp only [Json.arr.sizeOf_spec]
    omega
  · have h := List.sizeOf_lt_of_mem e.2
    have : sizeOf e.1.2 < sizeOf e.1 := by
      rcases e with ⟨⟨a, b⟩, hm⟩
      simp only [Prod.mk.sizeOf_spec]
      omega
    simp only [Json.obj.sizeOf_spec]
    omega

/-- The value of two hexadecimal digits after another. -/
def bytesOfHex : List Char → List Nat
  | a :: b :: rest => (Text.hexValue a * 16 + Text.hexValue b) :: bytesOfHex rest
  | _ => []

namespace Definition

open Annotation (ExceptionClass Fault Variance)

/-- A literal in a tagged form, to a depth. -/
def literalOf : Nat → Json → Literal
  | 0, _ => .none
  | depth + 1, j =>
    match j with
    | .null => .none
    | .bool b => .bool b
    | .int n => .int n
    | .float x => .float x
    | .str s => .str (Text.points s)
    | .broken ps => .str ps
    | .arr items => .list (items.map (literalOf depth))
    | .obj _ =>
      match j.strOf? "float", j.get? "tuple", j.strOf? "bytes", j.strOf? "repr" with
      | some s, _, _, _ => .float ((Binary64.ofText? s).getD .nan)
      | _, some (.arr items), _, _ => .tuple (items.map (literalOf depth))
      | _, _, some s, _ => .bytes (bytesOfHex s.toList)
      | _, _, _, some s => .other s
      | _, _, _, _ => .none

/-- A literal in its tagged form. -/
def literal (j : Json) : Literal := literalOf (j.depth + 1) j

/-- The value of a member. -/
def memberValue (j : Json) : MemberValue :=
  if (j.get? "auto").isSome then .automatic else .written (literal j)

/-- An enumeration. -/
def enumOf (j : Json) : EnumDefinition where
  name := (j.strOf? "name").getD ""
  base := (j.strOf? "base").getD "enum.Enum"
  members := (j.itemsOf "members").filterMap fun m =>
    match m with
    | .arr [.str name, value] => some (name, memberValue value)
    | _ => none

/-- The texts of a key. -/
def textsOf (j : Json) (key : String) : List String := (j.itemsOf key).filterMap Json.str?

mutual

/-- A class, to a depth. -/
def classOf : Nat → Json → ClassDefinition
  | 0, j => .mk ((j.strOf? "name").getD "") [] [] "" []
  | depth + 1, j =>
    .mk ((j.strOf? "name").getD "") (textsOf j "bases") (textsOf j "deco")
      ((j.strOf? "kw").getD "") ((j.itemsOf "body").filterMap (bodyItem? depth))

/-- An item of a body, to a depth. -/
def bodyItem? : Nat → Json → Option BodyItem
  | 0, _ => none
  | depth + 1, j =>
    match j with
    | .arr (.str "field" :: .str name :: .str annotation :: value) =>
      some (.field name annotation (value.head?.bind Json.str?))
    | .arr [.str "attr", .str name, .str value] => some (.assignment name value)
    | .arr (.str "prop" :: .str name :: returns) =>
      some (.property .plain name (returns.head?.bind Json.str?))
    | .arr (.str "cached" :: .str name :: returns) =>
      some (.property .cached name (returns.head?.bind Json.str?))
    | .arr (.str "rwprop" :: .str name :: returns) =>
      some (.property .writable name (returns.head?.bind Json.str?))
    | .arr (.str "aprop" :: .str name :: returns) =>
      some (.property .abstract name (returns.head?.bind Json.str?))
    | .arr (.str "nogetter" :: .str name :: _) => some (.writeOnly name)
    | .arr (.str "method" :: .str name :: _) => some (.method name false)
    | .arr (.str "amethod" :: .str name :: _) => some (.method name true)
    | .arr [.str "class", definition] => some (.cls (classOf depth definition))
    | .arr [.str "enum", definition] => some (.enum (enumOf definition))
    | _ => none

end

/-- The variance with a name. -/
def varianceOf (s : String) : Variance :=
  if s == "covariant" then .covariant
  else if s == "contravariant" then .contravariant
  else .invariant

/-- A type variable. -/
def variableOf (j : Json) : VariableDefinition :=
  let name := (j.strOf? "name").getD ""
  { name := name
    boundTo := (j.strOf? "var").getD name
    alternatives := textsOf j "constraints"
    bound := j.strOf? "bound"
    variance := varianceOf ((j.strOf? "variance").getD "")
    needsConstructor := j.flag "constructible" }

/-- The exception of a kind with a message. -/
def raisedFault (kind message : String) : Fault :=
  if kind == "KeyError" then .unknownKey (Text.display message)
  else .raised (ExceptionClass.named kind) message

/-- A definition of a module. -/
def definition? (j : Json) : Option ModuleItem :=
  let text (key : String) : String := (j.strOf? key).getD ""
  match text "def" with
  | "class" => some (.cls (classOf (j.depth + 1) j))
  | "enum" => some (.enum (enumOf j))
  | "typevar" => some (.typeVar (variableOf j))
  | "newtype" => some (.newType (text "name") (text "of"))
  | "alias" => some (.alias (text "name") (text "value"))
  | "import" => some (.imports (text "from") (textsOf j "names"))
  | "raise" => some (.raising (raisedFault (text "type") (text "message")))
  | _ => none

/-- A module. -/
def Source.ofJson (j : Json) : Source where
  postponed := j.flag "future"
  definitions := (j.itemsOf "defs").filterMap definition?

end Definition

end TypeProjection
