import TypeProjection.Definition.DataClass
import TypeProjection.Definition.Enumeration

/-!
Running the definitions of a module, in order. A definition may add classes and variables to the
world, and binds a name of the module to what it made. A run that fails keeps what was made before.
-/

namespace TypeProjection.Definition

open Annotation

/-- A step that changes the world, and may fail. -/
abbrev Run := ExceptT Fault (StateM World)

/-- What a module's definitions need to know of it. -/
structure Setting where
  module : String
  postponed : Bool
  /-- The values of names that another module defines. -/
  importFrom : String → List String → Run (List Value)

/-- Where a definition stands: the names defined before it in the same class, the class that owns
private names, and the names of the enclosing classes. -/
structure Spot where
  locals : List (String × Value)
  owner : Option String
  path : List String

/-- Outside of all classes. -/
def Spot.outside : Spot := ⟨[], none, []⟩

/-- The name of something defined at a spot, with the names around it. -/
def Spot.pathOf (p : Spot) (name : String) : String := String.intercalate "." (p.path ++ [name])

/-- A name as a spot knows it. -/
def Spot.known (p : Spot) (name : String) : String :=
  let n := Text.normalForm name
  match p.owner with
  | some owner => privateName owner n
  | none => n

/-- A failure as a step. -/
def failing {α : Type} (f : Fault) : Run α := throw f

/-- A pure result as a step. -/
def lifted {α : Type} (r : Except Fault α) : Run α :=
  match r with
  | .ok a => pure a
  | .error f => throw f

/-- The expression that a text of the module writes. -/
def sourceExpression (text : String) : Run Expr :=
  match Expr.ofSource? text with
  | some e => pure e
  | none => failing (.badSyntax "invalid syntax")

/-- The scope at a spot. -/
def scopeAt (s : Setting) (p : Spot) : Run Scope := do
  return ⟨[p.locals, (← get).namesOf s.module], p.owner⟩

/-- The value of an expression at a spot. -/
def valueOf (s : Setting) (p : Spot) (e : Expr) : Run Value := do
  lifted ((← get).evaluate (← scopeAt s p) e)

/-- The value of a text at a spot. -/
def valueOfText (s : Setting) (p : Spot) (text : String) : Run Value := do
  valueOf s p (← sourceExpression text)

/-- An annotation at a spot: its value, or its text if annotations are postponed. -/
def annotationAt (s : Setting) (p : Spot) (text : String) : Run Value := do
  let e ← sourceExpression text
  if s.postponed then return .str e.text else valueOf s p e

/-- Binds a name of a module. -/
def bind (s : Setting) (name : String) (v : Value) : Run Unit :=
  modify fun w => w.withNames s.module (putPair name v (w.namesOf s.module))

/-- A new type variable. -/
def newTypeVar (s : Setting) (name : String) (variance : Variance) (alternatives : List Value)
    (bound : Option Value) (needsConstructor : Bool) : Run Value := do
  let w ← get
  let bound ← match bound with
    | none | some .none => pure none
    | some v => do
      let t ← lifted (w.checkType { message := "Bound must be a type." } v)
      pure (some t)
  if !alternatives.isEmpty && bound.isSome then
    failing (.wrongType "Constraints cannot be combined with bound=...")
  else if alternatives.length == 1 then
    failing (.wrongType "A single constraint is not allowed")
  else
    let types ← lifted (alternatives.mapM
      (w.checkType { message := "TypeVar(name, constraint, ...): constraints must be types." }))
    let v : TypeVariable := ⟨name, s.module, variance, bound, types, needsConstructor⟩
    set { w with typeVars := w.typeVars.push v }
    return .typeVar w.typeVars.size

/-- A new variable for a list of parameters. -/
def newParamSpec (s : Setting) (name : String) : Run Value := do
  let w ← get
  set { w with paramSpecs := w.paramSpecs.push (name, s.module) }
  return .paramSpec w.paramSpecs.size

/-- A new name for a type. -/
def newNamedType (s : Setting) (name : String) (supertype : Value) : Run Value := do
  let w ← get
  set { w with newTypes := w.newTypes.push ⟨name, s.module, supertype⟩ }
  return .newType w.newTypes.size

/-- Marks a type variable: its arguments need a constructor without parameters. -/
def markConstructible (i : Nat) : Run Unit :=
  modify fun w =>
    { w with typeVars := w.typeVars.modify i fun v => { v with needsConstructor := true } }

/-- Is a word of a call there and true? -/
def isSet (words : List (String × Value)) (name : String) : Bool :=
  match words.lookup name with
  | some (.bool b) => b
  | _ => false

/-- The variance that the words of a call choose. -/
def varianceIn (words : List (String × Value)) : Variance :=
  if isSet words "covariant" then .covariant
  else if isSet words "contravariant" then .contravariant
  else .invariant

/-- The value of a call that makes something new, or of any other. -/
def called (s : Setting) (callee : Value) (arguments : List Value)
    (words : List (String × Value)) : Run Value := do
  match callee, arguments with
  | .cls (.library "typing" "ParamSpec"), .str name :: _ => newParamSpec s name
  | .cls (.library "typing" "TypeVar"), .str name :: alternatives =>
    newTypeVar s name (varianceIn words) alternatives (words.lookup "bound") false
  | .cls (.library "typing" "NewType"), [.str name, supertype] => newNamedType s name supertype
  | .function "tsgen.reflection" "constructible", [.typeVar i] =>
    markConstructible i
    return .typeVar i
  | _, _ => lifted ((← get).call callee (arguments ++ words.map (·.2)))

/-- The value of a text that may make something new. -/
def assignedValue (s : Setting) (p : Spot) (text : String) : Run Value := do
  match ← sourceExpression text with
  | .call callee arguments named =>
    let f ← valueOf s p callee
    let values ← arguments.mapM (valueOf s p)
    let words ← named.mapM fun n => do return (n.1, ← valueOf s p n.2)
    called s f values words
  | e => valueOf s p e

/-- An attribute that a text makes: a property made by a call has a getter without annotations. -/
def assignedAttribute (s : Setting) (p : Spot) (text : String) : Run Attribute := do
  match ← sourceExpression text with
  | .call callee arguments named =>
    match ← valueOf s p callee with
    | .cls (.library "builtins" "property") | .cls (.library "functools" "cached_property") =>
      let values ← arguments.mapM (valueOf s p)
      let words ← named.mapM fun n => do return (n.1, ← valueOf s p n.2)
      let getter : Option Value := match values.head? with
        | some v => some v
        | none => words.lookup "fget"
      match getter with
      | none | some .none => return .property none false
      | some _ => return .property (some ⟨none, "builtins"⟩) false
    | _ => return .value (← assignedValue s p text)
  | _ => return .value (← assignedValue s p text)

/-- The attributes of a body as values. -/
def attributeValues (s : Setting) (path : String) (attributes : List (String × Attribute)) :
    List (String × Value) :=
  attributes.map fun a =>
    match a.2 with
    | .value v => (a.1, v)
    | .property _ _ => (a.1, .other "<property object>")
    | .method _ => (a.1, .function s.module (path ++ "." ++ a.1))

/-- A decorator: how a data class is made, or nothing for any other. -/
def dataOptions? (s : Setting) (p : Spot) (text : String) : Run (Option DataOptions) := do
  match ← sourceExpression text with
  | .call callee _ named =>
    match ← valueOf s p callee with
    | .function "dataclasses" "dataclass" =>
      let words ← named.mapM fun n => do return (n.1, ← valueOf s p n.2)
      return some ⟨isSet words "frozen", isSet words "slots", isSet words "kw_only"⟩
    | _ => return none
  | e =>
    match ← valueOf s p e with
    | .function "dataclasses" "dataclass" => return some ⟨false, false, false⟩
    | _ => return none

/-- The metaclass with a value, if it is one. -/
def metaclassNamed? : Value → Option Metaclass
  | .cls (.library "abc" "ABCMeta") => some .abstract
  | .cls (.library "builtins" "type") => some .plain
  | .cls (.library "enum" "EnumType") => some .enumeration
  | _ => none

/-- The further words of a header with their values. -/
def headerWords (s : Setting) (p : Spot) (text : String) : Run (List (String × Value)) := do
  if (Text.strip text.toList).isEmpty then return []
  else
    match ← sourceExpression ("f(" ++ text ++ ")") with
    | .call _ _ named => named.mapM fun n => do return (n.1, ← valueOf s p n.2)
    | _ => return []

/-- The header of a class from the values in it. -/
def headerOf (w : World) (s : Setting) (p : Spot) (name : String) (written : List Value)
    (words : List (String × Value)) : Except Fault Header := do
  let (bases, replaced) ← entries w written written
  let asked := (words.lookup "metaclass").bind metaclassNamed?
  let classes := bases.map (metaclassOfBase w)
  let metaclass ← chooseMetaclass (asked.getD ((classes.head?).getD .plain)) classes
  return {
    module := s.module
    name := name
    path := p.pathOf name
    written := written
    entries := bases
    replaced := replaced
    metaclass := metaclass
    words := (words.map (·.1)).filter (· != "metaclass") }

/-- Makes a class and its data class, if it is to be one. -/
def finishClass (h : Header) (body : Body) (options : List (Option DataOptions)) : Run Value := do
  let w ← get
  let info ← lifted (buildClass w h body)
  let order := (World.orderOf? info.bases (info.bases.map w.ancestorsOf)).getD []
  let made ← options.reverse.foldlM (fun info o =>
    match o with
    | some o => lifted (makeDataClass w o info)
    | none => pure info) { info with ancestors := order }
  let (w, c) := addClass w made
  set w
  return .cls c

/-- Makes an enumeration. -/
def runEnum (s : Setting) (p : Spot) (d : EnumDefinition) : Run Value := do
  let written ← match ← valueOfText s p ("(" ++ d.base ++ ")") with
    | .tuple items => pure items
    | v => pure [v]
  let w ← get
  let h ← lifted (headerOf w s p (Text.normalForm d.name) written [])
  let bases := h.bases
  let members ← lifted (enumMembers w { d with name := h.name } bases)
  let _ ← lifted (lookupOrder w bases)
  let info : ClassInfo :=
    { module := h.module, name := h.name, path := h.path, bases := bases
      writtenBases := if h.replaced then written else bases.map .cls
      ancestors := [], metaclass := .enumeration, isProtocol := false, subscription := none
      abstracts := [], parameters := [], annotations := [], attributes := []
      members := members, dataFields := none }
  let (w, c) := addClass w info
  set w
  return .cls c

/-- A property of a body. -/
def runProperty (s : Setting) (p : Spot) (kind : PropertyKind) (returns : Option String) :
    Run Attribute := do
  let shown ← match returns with
    | none => pure none
    | some text => do
      let v ← annotationAt s p text
      pure (some v)
  return .property (some ⟨shown, s.module⟩) (kind == .abstract)

/-- The body with one more attribute. -/
def Body.put (b : Body) (name : String) (a : Attribute) : Body :=
  { b with attributes := putPair name a b.attributes }

mutual

/-- Makes a class. -/
def runClass (s : Setting) (p : Spot) : ClassDefinition → Run Value
  | .mk written bases decorators header body => do
    let name := Text.normalForm written
    let options ← decorators.mapM (dataOptions? s p)
    let values ← bases.mapM (valueOfText s p)
    let words ← headerWords s p header
    let h ← lifted (headerOf (← get) s p name values words)
    let here : Spot := ⟨[], some name, p.path ++ [name]⟩
    let contents ← runBody s here ⟨[], []⟩ body
    finishClass h contents options

/-- Runs the items of a body, given what it holds already. -/
def runBody (s : Setting) (p : Spot) (done : Body) : List BodyItem → Run Body
  | [] => pure done
  | item :: rest => do
    let locals := attributeValues s (String.intercalate "." p.path) done.attributes
    let here : Spot := { p with locals := locals }
    let more ← runItem s here done item
    runBody s p more rest

/-- Runs one item of a body. The value of a field is there before its annotation is looked at. -/
def runItem (s : Setting) (p : Spot) (done : Body) : BodyItem → Run Body
  | .field written annotation value => do
    let name := p.known written
    let (attributes, locals) ← match value with
      | none => pure (done.attributes, p.locals)
      | some text => do
        let a ← assignedAttribute s p text
        let attributes := putPair name a done.attributes
        pure (attributes, attributeValues s (String.intercalate "." p.path) attributes)
    let v ← annotationAt s { p with locals := locals } annotation
    return ⟨putPair name v done.annotations, attributes⟩
  | .assignment written text => do
    let a ← assignedAttribute s p text
    return done.put (p.known written) a
  | .property kind written returns => do
    let a ← runProperty s p kind returns
    return done.put (p.known written) a
  | .writeOnly written => return done.put (p.known written) (.property none false)
  | .method written isAbstract => return done.put (p.known written) (.method isAbstract)
  | .cls d => do
    let v ← runClass s p d
    return done.put (p.known d.name) (.value v)
  | .enum d => do
    let v ← runEnum s p d
    return done.put (p.known d.name) (.value v)

end

/-- Makes a type variable. -/
def runVariable (s : Setting) (d : VariableDefinition) : Run Unit := do
  let alternatives ← d.alternatives.mapM (valueOfText s .outside)
  let bound ← match d.bound with
    | none => pure none
    | some text => do
      let v ← valueOfText s .outside text
      pure (some v)
  let v ← newTypeVar s d.name d.variance alternatives bound d.needsConstructor
  bind s (Text.normalForm d.boundTo) v

/-- Runs one definition of a module. -/
def runDefinition (s : Setting) : ModuleItem → Run Unit
  | .cls d => do bind s (Text.normalForm d.name) (← runClass s .outside d)
  | .enum d => do bind s (Text.normalForm d.name) (← runEnum s .outside d)
  | .typeVar d => runVariable s d
  | .newType name supertype => do
    let v ← valueOfText s .outside supertype
    bind s (Text.normalForm name) (← newNamedType s name v)
  | .alias name text => do bind s (Text.normalForm name) (← assignedValue s .outside text)
  | .imports module names => do
    let values ← s.importFrom module names
    (names.zip values).forM fun e => bind s (Text.normalForm e.1) e.2
  | .raising f => failing f

/-- Runs the definitions of a module. The names that every module starts with are bound first. -/
def runDefinitions (s : Setting) (definitions : List ModuleItem) : Run Unit := do
  preamble.forM fun e => bind s e.1 e.2
  definitions.forM (runDefinition s)

end TypeProjection.Definition
