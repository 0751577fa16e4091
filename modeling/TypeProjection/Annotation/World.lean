import TypeProjection.Annotation.Library
import TypeProjection.Pairs

/-!
The world: everything that the modules run so far have made. Classes, variables and named types are
found by their serials, which are their places; nothing that was made is ever taken away, so a
reference stays good. Questions about a class are answered here, whether the library or a module
declared it.
-/

namespace TypeProjection.Annotation

/-- How the value of a property is got: by a function with a result annotation, in a module. -/
structure Getter where
  returns : Option Value
  module : String

/-- What stands under a name in a class. -/
inductive Attribute where
  | value (v : Value)
  /-- A property, with its getter if it can be read. -/
  | property (getter : Option Getter) (isAbstract : Bool)
  | method (isAbstract : Bool)

/-- Has a subclass to define the attribute? -/
def Attribute.isAbstract : Attribute → Bool
  | .value _ => false
  | .property _ b => b
  | .method b => b

/-- A parameter of the constructor that a data class gets. -/
structure DataField where
  name : String
  hasDefault : Bool

/-- What is known of a class that a module declared. -/
structure ClassInfo where
  module : String
  name : String
  /-- The name with the names of the enclosing classes. -/
  path : String
  bases : List ClassRef
  /-- The bases as they were written. -/
  writtenBases : List Value
  /-- The class and all that it derives from, in the order of attribute lookup. -/
  ancestors : List ClassRef
  metaclass : Metaclass
  isProtocol : Bool
  /-- How the class itself takes arguments, if it does not leave that to its ancestors. -/
  subscription : Option Subscription
  /-- The methods that a subclass has to define. -/
  abstracts : List String
  parameters : List Value
  annotations : List (String × Value)
  attributes : List (String × Attribute)
  /-- The names of an enumeration with the names and values of their members. -/
  members : List (String × String × Literal)
  /-- The constructor parameters of a data class, and whether its instances can change. -/
  dataFields : Option (List DataField × Bool)

/-- A name of its own for another type. -/
structure NamedType where
  name : String
  module : String
  supertype : Value

/-- A module that has been run, or is being run. -/
structure LoadedModule where
  name : String
  names : List (String × Value)
  /-- The file it came from. -/
  file : Option String
  /-- Where its submodules are looked for, if it is a package. -/
  folders : Option (List (List String))
  /-- The version of its file when it was run, if it was asked for by the file. -/
  version : Option Nat
  isReady : Bool

/-- Everything made so far. -/
structure World where
  classes : Array ClassInfo
  typeVars : Array TypeVariable
  /-- Variables for lists of parameters: name and module. -/
  paramSpecs : Array (String × String)
  newTypes : Array NamedType
  modules : Array LoadedModule
  /-- The serials of the modules that can be found by their names. -/
  current : List (String × Nat)

namespace World

/-- The world before any module is run. -/
def initial : World := ⟨#[], libraryVariables.toArray, #[], #[], #[], []⟩

/-- What is known of a declared class. -/
def info? (w : World) : ClassRef → Option ClassInfo
  | .library _ _ => none
  | .declared i => w.classes[i]?

/-- What is known of a library class. -/
def libraryInfo? : ClassRef → Option LibraryClass
  | .library m n => libraryClass? m n
  | .declared _ => none

/-- The module of a class. -/
def moduleOf (w : World) : ClassRef → String
  | .library m _ => m
  | .declared i => (w.classes[i]?.map ClassInfo.module).getD ""

/-- The short name of a class. -/
def nameOf (w : World) : ClassRef → String
  | .library _ n => n
  | .declared i => (w.classes[i]?.map ClassInfo.name).getD ""

/-- The name of a class within its module. -/
def pathOf (w : World) : ClassRef → String
  | .library _ n => n
  | .declared i => (w.classes[i]?.map ClassInfo.path).getD ""

/-- The name of a class with its module, which builtins go without. -/
def qualified (w : World) (c : ClassRef) : String :=
  if w.moduleOf c == "builtins" then w.pathOf c else w.moduleOf c ++ "." ++ w.pathOf c

/-- The direct bases of a class. -/
def basesOf (w : World) (c : ClassRef) : List ClassRef :=
  match c with
  | .library _ _ => ((libraryInfo? c).map LibraryClass.bases).getD []
  | .declared i => (w.classes[i]?.map ClassInfo.bases).getD []

/-- The first head that no tail holds. -/
def nextInOrder (lists : List (List ClassRef)) : Option ClassRef :=
  (lists.filterMap List.head?).find? fun c => lists.all fun l => !l.tail.contains c

/-- Merges orders into one that keeps each of them, if there is one. The first list with a fitting
head goes first. -/
def mergeOrders : Nat → List (List ClassRef) → Option (List ClassRef)
  | 0, _ => none
  | fuel + 1, lists =>
    let pending := lists.filter fun l => !l.isEmpty
    if pending.isEmpty then some []
    else
      match nextInOrder pending with
      | none => none
      | some c =>
        (mergeOrders fuel (pending.map fun l => if l.head? == some c then l.tail else l)).map
          (c :: ·)

/-- The order of attribute lookup behind bases with known orders, if there is one. -/
def orderOf? (bases : List ClassRef) (orders : List (List ClassRef)) : Option (List ClassRef) :=
  let lists := orders ++ [bases]
  mergeOrders (lists.foldl (fun n l => n + l.length) 1) lists

/-- The library classes that a library class derives from, itself first. -/
def libraryAncestors : Nat → ClassRef → List ClassRef
  | 0, c => [c]
  | depth + 1, c =>
    let bases := ((libraryInfo? c).map LibraryClass.bases).getD []
    c :: (orderOf? bases (bases.map (libraryAncestors depth))).getD []

/-- How deep the library's classes derive from one another. -/
def libraryDepth : Nat := 12

/-- A class and all that it derives from, in the order of attribute lookup. -/
def ancestorsOf (w : World) (c : ClassRef) : List ClassRef :=
  match c with
  | .library _ _ => libraryAncestors libraryDepth c
  | .declared i => (w.classes[i]?.map ClassInfo.ancestors).getD []

/-- Does a class derive from another? -/
def derives (w : World) (c d : ClassRef) : Bool := (w.ancestorsOf c).contains d

/-- The class of a class. -/
def metaclassOf (w : World) (c : ClassRef) : Metaclass :=
  match c with
  | .library _ _ => ((libraryInfo? c).map LibraryClass.metaclass).getD .plain
  | .declared i => (w.classes[i]?.map ClassInfo.metaclass).getD .plain

/-- The base class of enumerations. -/
def enumRoot : ClassRef := .library "enum" "Enum"

/-- The base class of sets of flags. -/
def flagRoot : ClassRef := .library "enum" "Flag"

/-- The base class of generic classes. -/
def genericRoot : ClassRef := .library "typing" "Generic"

/-- The base class of protocols. -/
def protocolRoot : ClassRef := .library "typing" "Protocol"

/-- The other base class of protocols. -/
def laterProtocolRoot : ClassRef := .library "typing_extensions" "Protocol"

/-- Is the class an enumeration? -/
def isEnumeration (w : World) (c : ClassRef) : Bool := w.derives c enumRoot

/-- Is the class a protocol, or a base class of protocols? -/
def hasProtocolMark (w : World) (c : ClassRef) : Bool :=
  match c with
  | .library _ _ => ((libraryInfo? c).map LibraryClass.isProtocol).getD false
  | .declared i => (w.classes[i]?.map ClassInfo.isProtocol).getD false

/-- Is the class a protocol? -/
def isProtocol (w : World) (c : ClassRef) : Bool :=
  w.hasProtocolMark c && c != protocolRoot && c != laterProtocolRoot

/-- The methods that a subclass has to define. -/
def abstractsOf (w : World) (c : ClassRef) : List String :=
  match c with
  | .library _ _ => ((libraryInfo? c).map LibraryClass.abstracts).getD []
  | .declared i => (w.classes[i]?.map ClassInfo.abstracts).getD []

/-- The type parameters of a class. -/
def parametersOf (w : World) (c : ClassRef) : List Value :=
  match c with
  | .library _ _ => libraryParameters c
  | .declared i => (w.classes[i]?.map ClassInfo.parameters).getD []

/-- How a class takes arguments: the way of the first ancestor that has one. -/
def subscriptionOf (w : World) (c : ClassRef) : Option Subscription :=
  (w.ancestorsOf c).findSome? fun d =>
    match d with
    | .library _ _ => (libraryInfo? d).bind LibraryClass.subscription
    | .declared i => w.classes[i]?.bind ClassInfo.subscription

/-- A property that shows a type. -/
def shownProperty (v : Value) : Attribute := .property (some ⟨some v, "builtins"⟩) false

/-- A property without an annotation. -/
def bareProperty : Attribute := .property (some ⟨none, "builtins"⟩) false

/-- The properties of library classes. -/
def libraryAttributes : ClassRef → List (String × Attribute)
  | .library "uuid" "UUID" =>
    ["bytes", "bytes_le", "fields", "time_low", "time_mid", "time_hi_version",
      "clock_seq_hi_variant", "clock_seq_low", "time", "clock_seq", "node", "hex", "urn",
      "variant", "version"].map fun n => (n, bareProperty)
  | .library "pydantic.main" "BaseModel" =>
    [("model_extra", shownProperty (.union true
        [.native (builtin "dict") [.cls (builtin "str"), Value.any], Value.noneType])),
      ("model_fields_set", shownProperty (.native (builtin "set") [.cls (builtin "str")]))]
  | .library "typing" "IO" =>
    [("mode", shownProperty (.cls (builtin "str"))),
      ("name", shownProperty (.cls (builtin "str"))),
      ("closed", shownProperty (.cls (builtin "bool")))]
  | .library "typing" "TextIO" =>
    [("buffer", shownProperty (.cls (.library "typing" "BinaryIO"))),
      ("encoding", shownProperty (.cls (builtin "str"))),
      ("errors", shownProperty (.union false [.cls (builtin "str"), Value.noneType])),
      ("line_buffering", shownProperty (.cls (builtin "bool"))),
      ("newlines", shownProperty Value.any)]
  | .library "collections" "ChainMap" => [("parents", bareProperty)]
  | .library "typing" "ParamSpec" => [("args", bareProperty), ("kwargs", bareProperty)]
  | _ => []

/-- What stands under the names of a class itself. -/
def attributesOf (w : World) (c : ClassRef) : List (String × Attribute) :=
  match c with
  | .library _ _ => libraryAttributes c
  | .declared i => (w.classes[i]?.map ClassInfo.attributes).getD []

/-- The annotations of a class itself. -/
def annotationsOf (w : World) (c : ClassRef) : List (String × Value) :=
  ((w.info? c).map ClassInfo.annotations).getD []

/-- The names of an enumeration with their members. -/
def membersOf (w : World) (c : ClassRef) : List (String × String × Literal) :=
  match c with
  | .library "uuid" "SafeUUID" =>
    [("safe", "safe", .int 0), ("unsafe", "unsafe", .int (-1)), ("unknown", "unknown", .none)]
  | _ => ((w.info? c).map ClassInfo.members).getD []

/-- The bases of a class as they were written. -/
def writtenBasesOf (w : World) (c : ClassRef) : List Value :=
  match c with
  | .library "typing" "TextIO" => [.applied "" (.library "typing" "IO") [.cls (builtin "str")]]
  | .library "typing" "BinaryIO" => [.applied "" (.library "typing" "IO") [.cls (builtin "bytes")]]
  | .library _ _ => (w.basesOf c).map Value.cls
  | .declared i => (w.classes[i]?.map ClassInfo.writtenBases).getD []

/-- The module that is found by a name. -/
def loaded? (w : World) (module : String) : Option LoadedModule :=
  (w.current.lookup module).bind fun i => w.modules[i]?

/-- The names of a module that has been run. -/
def namesOf (w : World) (module : String) : List (String × Value) :=
  ((w.loaded? module).map LoadedModule.names).getD []

/-- The world with the module of a name changed. -/
def changeModule (w : World) (module : String) (f : LoadedModule → LoadedModule) : World :=
  match w.current.lookup module with
  | some i => { w with modules := w.modules.modify i f }
  | none => w

/-- The world with the names of a module replaced. -/
def withNames (w : World) (module : String) (names : List (String × Value)) : World :=
  w.changeModule module fun m => { m with names := names }

/-- The world with a new module, found by its name from now on. -/
def addModule (w : World) (m : LoadedModule) : World :=
  { w with modules := w.modules.push m, current := putPair m.name w.modules.size w.current }

/-- The world in which no module is found by a name. -/
def forgetModule (w : World) (module : String) : World :=
  { w with current := w.current.filter fun e => e.1 != module }

/-- What a name of a class means when it is used as a value. -/
def attributeValue (w : World) (c : ClassRef) (name : String) : Attribute → Value
  | .value v => v
  | .property _ _ => .other "<property object>"
  | .method _ => .function (w.moduleOf c) (w.pathOf c ++ "." ++ name)

/-- The names of a class itself, as values. -/
def classNames (w : World) (c : ClassRef) : List (String × Value) :=
  (w.attributesOf c).map fun a => (a.1, w.attributeValue c a.1 a.2)

end World

end TypeProjection.Annotation
