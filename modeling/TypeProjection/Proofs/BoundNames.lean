import TypeProjection.Proofs.TwinWorlds
import TypeProjection.Proofs.WrittenExpressions

/-!
# Names that definitions bind

The names that the items of a module and of its classes bind, and the annotations in the classes. A
word in an annotation has one binding at most if nothing binds it later: neither the definition that
the annotation stands in, nor one behind it, nor an item of the same body that comes behind it.
-/

namespace TypeProjection.Definition

open Annotation

/-- A name as the body of a class knows it. -/
def nameIn (owner written : String) : String := privateName owner (Text.normalForm written)

namespace ClassDefinition

/-- What stands in the body of the class. -/
def body : ClassDefinition → List BodyItem
  | .mk _ _ _ _ body => body

/-- The name of the class in normal form, which its private names begin with. -/
def owner (d : ClassDefinition) : String := Text.normalForm d.name

/-- The expression annotates the field of the class. -/
def Annotates (d : ClassDefinition) (field : String) (e : Expr) : Prop :=
  ∃ written text value, .field written text value ∈ d.body ∧ nameIn d.owner written = field ∧
    Expr.ofSource? text = some e

end ClassDefinition

namespace BodyItem

/-- The names that an item of a body binds. A field without a value binds none. -/
def bound (owner : String) : BodyItem → List String
  | .field _ _ none => []
  | .field written _ (some _) => [nameIn owner written]
  | .assignment written _ => [nameIn owner written]
  | .property _ written _ => [nameIn owner written]
  | .writeOnly written => [nameIn owner written]
  | .method written _ => [nameIn owner written]
  | .cls d => [nameIn owner d.name]
  | .enum d => [nameIn owner d.name]

/-- The annotation of an item: of a field, or of the getter of a property. -/
def annotation? : BodyItem → Option String
  | .field _ text _ => some text
  | .property _ _ returns => returns
  | _ => none

end BodyItem

/-- The names that a definition of a module binds. -/
def ModuleItem.bound : ModuleItem → List String
  | .cls d => [Text.normalForm d.name]
  | .enum d => [Text.normalForm d.name]
  | .typeVar d => [Text.normalForm d.boundTo]
  | .newType name _ => [Text.normalForm name]
  | .alias name _ => [Text.normalForm name]
  | .imports _ names => names.map Text.normalForm
  | .raising _ => []

/-- The classes that definitions make, each with the names that are still to be bound when its body
begins to run, and with the names around it and its own. -/
inductive ClassIn (definitions : List ModuleItem) :
    List String → List String → ClassDefinition → Prop
  | outer {before after : List ModuleItem} {d : ClassDefinition}
      (h : definitions = before ++ .cls d :: after) :
      ClassIn definitions ((.cls d :: after).flatMap ModuleItem.bound) [d.owner] d
  | inner {later path : List String} {d d' : ClassDefinition} (h : ClassIn definitions later path d)
      (hd : .cls d' ∈ d.body) : ClassIn definitions later (path ++ [d'.owner]) d'

/-- Every word in an annotation has one binding at most. What is no plain expression is not lost when
it is written down, as a plain one never is. -/
structure SinglyBound (definitions : List ModuleItem) : Prop where
  written : ∀ {later path d}, ClassIn definitions later path d → ∀ {item text e}, item ∈ d.body →
    item.annotation? = some text → Expr.ofSource? text = some e → e.Plain ∨ World.Writes e.text e
  module : ∀ {later path d}, ClassIn definitions later path d → ∀ {item text e}, item ∈ d.body →
    item.annotation? = some text → Expr.ofSource? text = some e →
      ∀ n ∈ e.words, n ∉ later ∧ privateName d.owner n = n
  fields : ∀ {later path d}, ClassIn definitions later path d →
    ∀ {before after name text value e}, d.body = before ++ .field name text value :: after →
      Expr.ofSource? text = some e → ∀ n ∈ e.names, n ∉ after.flatMap (BodyItem.bound d.owner)

/-- What the annotation of a getter names is not bound before it in the body of its class. -/
def GettersApart (definitions : List ModuleItem) : Prop :=
  ∀ {later path d}, ClassIn definitions later path d →
    ∀ {before after kind name text e}, d.body = before ++ .property kind name (some text) :: after →
      Expr.ofSource? text = some e → ∀ n ∈ e.names, n ∉ before.flatMap (BodyItem.bound d.owner)

/-- An expression annotates a field of a class that definitions make. -/
def AnnotatesIn (definitions : List ModuleItem) (e : Expr) : Prop :=
  ∃ later path d field, ClassIn definitions later path d ∧ d.Annotates field e

end TypeProjection.Definition
