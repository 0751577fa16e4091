import TypeProjection.Definition.Bases
import TypeProjection.Annotation.Types
import TypeProjection.Pairs

/-!
Building a class from its header and the contents of its body. There are three ways: tuples with
names and dictionaries with fixed keys turn the texts among their annotations into references at
once; every other class keeps its annotations as they are. Type parameters, protocols and abstract
methods follow the rules of the class's ancestors.
-/

namespace TypeProjection.Definition

open Annotation

/-- The contents of a body. -/
structure Body where
  annotations : List (String × Value)
  attributes : List (String × Attribute)

/-- The header of a class. -/
structure Header where
  module : String
  name : String
  /-- The name with the names of the enclosing classes. -/
  path : String
  written : List Value
  entries : List Base
  /-- Were the bases replaced by others? -/
  replaced : Bool
  metaclass : Metaclass
  /-- The further words, without the one that chooses a metaclass. -/
  words : List String

namespace Header

/-- The bases that are classes. -/
def bases (h : Header) : List ClassRef := h.entries.filterMap Base.class?

/-- The bases as they count: without any, the root. -/
def effectiveBases (h : Header) : List ClassRef :=
  if h.bases.isEmpty then [.root] else h.bases

end Header

/-- The name of a module that may hold protocols without being one, with those. -/
def acceptedProtocols : List (String × List String) :=
  [("collections.abc", ["Callable", "Awaitable", "Iterable", "Iterator", "AsyncIterable",
      "Hashable", "Sized", "Container", "Collection", "Reversible"]),
    ("contextlib", ["AbstractContextManager", "AbstractAsyncContextManager"])]

/-- Can a protocol derive from a class? -/
def fitsProtocol (w : World) (c : ClassRef) : Bool :=
  c == .root || c == World.genericRoot ||
    ((acceptedProtocols.lookup (w.moduleOf c)).getD []).contains (w.nameOf c) ||
    (w.derives c World.genericRoot && w.hasProtocolMark c)

/-- Checks the bases of a protocol. -/
def checkProtocol (w : World) (bases : List ClassRef) : Except Fault Unit :=
  match bases.find? fun c => !fitsProtocol w c with
  | some c =>
    .error (.wrongType ("Protocols can only inherit from other protocols, got " ++
      w.displayClass c))
  | none => .ok ()

/-- The variables that the base class of generic classes was given. -/
def listedVariables : List Value → Except Fault (Option (List Value))
  | [] => .ok none
  | .applied "" c arguments :: rest => do
    let others ← listedVariables rest
    if c == World.genericRoot then
      match others with
      | some _ => .error (.wrongType "Cannot inherit from Generic[...] multiple times.")
      | none => return some (Value.variablesOfAll arguments)
    else return others
  | _ :: rest => listedVariables rest

/-- The type parameters of a generic class. `written` are the bases as written, if any of them was
replaced. -/
def typeParameters (w : World) (h : Header) (written : Option (List Value)) :
    Except Fault (List Value) := do
  let plain : Bool := match written with
    | some vs => vs.any fun v => v.same (.cls World.genericRoot)
    | none =>
      h.bases.contains World.genericRoot && h.name != "Protocol" && h.metaclass != .typedDict
  if plain then .error (.wrongType "Cannot inherit from plain Generic")
  else
    match written with
    | none => return []
    | some vs =>
      let used := Value.variablesOfAll vs
      match ← listedVariables vs with
      | none => return used
      | some listed =>
        let missing := used.filter fun v => !listed.any fun x => x.same v
        if missing.isEmpty then return listed
        else
          .error (.wrongType ("Some type variables (" ++
            String.intercalate ", " (missing.map w.shown) ++ ") are not listed in Generic[" ++
            String.intercalate ", " (listed.map w.shown) ++ "]"))

/-- Is what stands under a name still to be defined? The first class in order that has the name
decides. -/
def isMissing (w : World) (own : List (String × Attribute)) (order : List ClassRef)
    (name : String) : Bool :=
  match own.lookup name with
  | some a => a.isAbstract
  | none =>
    (order.findSome? fun c =>
      match c with
      | .library m n =>
        (libraryClass? m n).bind fun l =>
          if l.concrete.contains name then some false
          else if l.abstracts.contains name then some true
          else none
      | .declared _ => ((w.attributesOf c).lookup name).map Attribute.isAbstract).getD false

/-- The methods that a subclass has to define. -/
def missingMethods (w : World) (h : Header) (own : List (String × Attribute))
    (order : List ClassRef) : List String :=
  if h.metaclass.tracksAbstract then
    (own.filter fun a => a.2.isAbstract).map (·.1) ++
      (h.bases.flatMap w.abstractsOf).filter (isMissing w own order)
  else []

/-- Is the annotation one of a variable of the class? -/
def isClassVar (v : Value) : Bool := World.marksClassVar v

/-- What the body of a model leaves in the class: fields keep no values. -/
def modelAttributes (body : Body) : List (String × Attribute) :=
  body.attributes.filter fun a =>
    match body.annotations.lookup a.1 with
    | some v => isClassVar v
    | none => true

/-- Every class but the two special kinds. -/
def buildOrdinary (w : World) (h : Header) (body : Body) : Except Fault ClassInfo := do
  let bases := h.effectiveBases
  let protocolBase :=
    h.bases.contains World.protocolRoot || h.bases.contains World.laterProtocolRoot
  if h.metaclass == .laterProtocol && protocolBase then checkProtocol w bases
  let order ← lookupOrder w bases
  let written := if h.replaced then some h.written else none
  let parameters ←
    if order.contains World.genericRoot then typeParameters w h written else pure []
  let isProtocol :=
    if order.contains World.laterProtocolRoot then h.bases.contains World.laterProtocolRoot
    else order.contains World.protocolRoot && h.bases.contains World.protocolRoot
  if isProtocol && !order.contains World.laterProtocolRoot then checkProtocol w bases
  if h.metaclass != .model && !h.words.isEmpty then
    .error (.wrongType (h.name ++ ".__init_subclass__() takes no keyword arguments"))
  return {
    module := h.module
    name := h.name
    path := h.path
    bases := bases
    writtenBases := written.getD (bases.map Value.cls)
    ancestors := []
    metaclass := h.metaclass
    isProtocol := isProtocol
    subscription := none
    abstracts := missingMethods w h body.attributes order
    parameters := parameters
    annotations := body.annotations
    attributes := if h.metaclass == .model then modelAttributes body else body.attributes
    members := []
    dataFields := none }

/-- The names that a tuple with names defines itself. -/
def tupleNames : List String :=
  ["__new__", "__init__", "__slots__", "__getnewargs__", "_fields", "_field_defaults",
    "_field_types", "_make", "_replace", "_asdict", "_source"]

/-- Checks that fields with a default come last. -/
def checkDefaults (attributes : List (String × Attribute)) :
    List String → List String → Except Fault Unit
  | _, [] => .ok ()
  | withDefault, name :: rest =>
    if (attributes.lookup name).isSome then
      checkDefaults attributes (withDefault ++ [name]) rest
    else if withDefault.isEmpty then checkDefaults attributes withDefault rest
    else
      .error (.wrongType ("Non-default namedtuple field " ++ name ++
        " cannot follow default field" ++ (if 1 < withDefault.length then "s" else "") ++ " " ++
        String.intercalate ", " withDefault))

/-- A tuple with names. -/
def buildNamedTuple (w : World) (h : Header) (body : Body) : Except Fault ClassInfo := do
  let fits (b : Base) : Bool := b == .namedTuple || b == .cls World.genericRoot
  if !h.entries.all fits then
    .error (.wrongType "can only inherit from a NamedTuple type and Generic")
  let names := body.annotations.map (·.1)
  checkDefaults body.attributes [] names
  let annotations ← body.annotations.mapM fun a => do
    let v ← w.checkType { message := "field " ++ a.1 ++ " annotation must be a type" } a.2
    return (a.1, v)
  match names.find? fun n => n.toList.head? == some '_' with
  | some n =>
    .error (.wrongValue ("Field names cannot start with an underscore: " ++ Text.display n))
  | none => pure ()
  match (body.attributes.map (·.1)).find? tupleNames.contains with
  | some n => .error (.unknownAttribute ("Cannot overwrite NamedTuple attribute " ++ n))
  | none => pure ()
  let isGeneric := h.entries.contains (.cls World.genericRoot)
  let bases := h.entries.map fun b => (b.class?).getD (builtin "tuple")
  let _ ← lookupOrder w bases
  let parameters ← if isGeneric then typeParameters w h (some h.written) else pure []
  let fields : List (String × Attribute) := names.map fun n => (n, .value (.other "_tuplegetter"))
  return {
    module := h.module
    name := h.name
    path := h.path
    bases := bases
    writtenBases := h.written
    ancestors := []
    metaclass := .plain
    isProtocol := false
    subscription := if isGeneric then some .generic else none
    abstracts := []
    parameters := parameters
    annotations := annotations
    attributes := fields ++ body.attributes.filter fun a => !names.contains a.1
    members := []
    dataFields := none }

/-- A dictionary with fixed keys: it starts with the keys of its bases. -/
def buildTypedDict (w : World) (h : Header) (body : Body) : Except Fault ClassInfo := do
  let fits (b : Base) : Bool :=
    metaclassOfBase w b == .typedDict || b == .cls World.genericRoot
  if !h.entries.all fits then
    .error (.wrongType ("cannot inherit from both a TypedDict type and a non-TypedDict base class"))
  let isGeneric := h.bases.any fun c => w.derives c World.genericRoot
  let bases := (if isGeneric then [World.genericRoot] else []) ++ [builtin "dict"]
  let order ← lookupOrder w bases
  let written := if h.replaced then some h.written else none
  let parameters ←
    if order.contains World.genericRoot then
      typeParameters w { h with entries := bases.map .cls } written
    else pure []
  let own ← body.annotations.mapM fun a => do
    let v ← w.checkType
      { message := "TypedDict('Name', \x7bf0: t0, f1: t1, ...\x7d); each t must be a type",
        module := h.module } a.2
    return (a.1, v)
  let inherited := h.bases.foldl (fun all c => putPairs all (w.annotationsOf c)) []
  return {
    module := h.module
    name := h.name
    path := h.path
    bases := bases
    writtenBases := written.getD (bases.map Value.cls)
    ancestors := []
    metaclass := .typedDict
    isProtocol := false
    subscription := none
    abstracts := []
    parameters := parameters
    annotations := putPairs inherited own
    attributes := body.attributes
    members := []
    dataFields := none }

/-- The class of a header and a body. -/
def buildClass (w : World) (h : Header) (body : Body) : Except Fault ClassInfo :=
  if h.entries.contains .namedTuple then buildNamedTuple w h body
  else if h.metaclass == .typedDict then buildTypedDict w h body
  else buildOrdinary w h body

/-- The world with one more class, and a reference to it. The new class comes first in its own
order of attribute lookup. -/
def addClass (w : World) (info : ClassInfo) : World × ClassRef :=
  let c := ClassRef.declared w.classes.size
  let order := (World.orderOf? info.bases (info.bases.map w.ancestorsOf)).getD []
  ({ w with classes := w.classes.push { info with ancestors := c :: order } }, c)

end TypeProjection.Definition
