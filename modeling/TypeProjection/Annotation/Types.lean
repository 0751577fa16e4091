import TypeProjection.Annotation.Reference
import TypeProjection.Universe

/-!
The universe of annotated types: the answers of the world about its values. A value is described
without the wrappers around it, and one that cannot be told is anything. What a constructed type is
made of is its origin; a structure is a class of a module that is no part of the library's
machinery.
-/

namespace TypeProjection.Annotation

namespace Value

/-- A value without notes and without the word that forbids assignment. -/
def peel : Value → Value
  | .none => noneType
  | .str _ => any
  | .forward _ _ _ => any
  | .annotated inner _ => peel inner
  | .formed "Final" [inner] => peel inner
  | v => v

/-- Where a value comes from: what was given arguments. -/
inductive Origin where
  | cls (c : ClassRef)
  | form (name : String)
  deriving DecidableEq, Repr

/-- The class of unions between classes. -/
def unionClass : ClassRef := .library "types" "UnionType"

/-- What a value was made of. Bare generic names have an origin, too. -/
def origin? : Value → Option Origin
  | .applied _ c _ => some (.cls c)
  | .native c _ => some (.cls c)
  | .looseCallable _ => some (.cls callableRoot)
  | .alias name => some (.cls (aliasOrigin name))
  | .formed name _ => some (.form name)
  | .union false _ => some (.form "Union")
  | .union true _ => some (.cls unionClass)
  | .cls c => if c == World.genericRoot then some (.cls c) else Option.none
  | _ => Option.none

/-- The arguments of a value. The parameters of a callable are one of them, as a list. -/
def arguments : Value → List Value
  | .applied _ origin arguments =>
    if isFlatCallable origin arguments then grouped arguments else arguments
  | .native origin arguments =>
    if isFlatCallable origin arguments then grouped arguments else arguments
  | .looseCallable arguments =>
    if isFlatCallable callableRoot arguments then grouped arguments else arguments
  | .formed _ arguments => arguments
  | .union _ members => members
  | _ => []
where
  grouped (arguments : List Value) : List Value :=
    .list arguments.dropLast :: (arguments.getLast?).toList

/-- The class behind a value. -/
def class? (v : Value) : Option ClassRef :=
  match v.origin? with
  | some (.cls c) => some c
  | some (.form _) => Option.none
  | Option.none =>
    match v with
    | .cls c => some c
    | _ => Option.none

/-- Is the value a type made of a class and arguments? -/
def isConstructed (v : Value) : Bool :=
  match v.origin? with
  | some (.cls _) => !v.arguments.isEmpty
  | _ => false

end Value

namespace World

/-- A value without its wrappers, following as many named types as the fuel allows. -/
def unwrapFrom (w : World) : Nat → Value → Value
  | 0, v => v.peel
  | fuel + 1, v =>
    match v.peel with
    | .newType i =>
      match w.newTypes[i]? with
      | some n => unwrapFrom w fuel n.supertype
      | Option.none => .newType i
    | other => other

/-- A value without its wrappers: the type that it describes. A named type is older than any type
named after it, so their number bounds the way. -/
def describe (w : World) (v : Value) : Value := w.unwrapFrom (w.newTypes.size + 1) v

/-- The scalars. -/
def scalarKinds : List (ClassRef × PrimitiveKind) :=
  [(builtin "bool", .boolean), (builtin "int", .number), (builtin "float", .number),
    (.library "decimal" "Decimal", .number), (builtin "str", .string),
    (.library "datetime" "datetime", .dateTime), (.library "datetime" "date", .dateTime),
    (builtin "NoneType", .none), (.library "typing" "Any", .any), (builtin "object", .any)]

/-- The classes of sequences. -/
def sequenceClasses : List ClassRef :=
  ["list", "set", "frozenset"].map builtin ++ [.library "collections" "deque"] ++
    ["Sequence", "MutableSequence", "Set", "MutableSet", "Collection", "Iterable", "Iterator",
      "Reversible"].map container

/-- The classes of mappings. -/
def mappingClasses : List ClassRef :=
  [builtin "dict"] ++
    ["OrderedDict", "defaultdict", "Counter"].map (ClassRef.library "collections") ++
    ["Mapping", "MutableMapping"].map container

/-- The bases that no declaration mentions. -/
def silentBases : List ClassRef :=
  [.root, genericRoot, protocolRoot, laterProtocolRoot, .library "abc" "ABC"]

/-- The modules whose classes are never structures. -/
def machineryModules : List String :=
  ["builtins", "typing", "typing_extensions", "types", "abc", "enum", "collections",
    "collections.abc", "datetime", "decimal"]

/-- The qualified form of a type. -/
def displayName (w : World) (v : Value) : String :=
  match v with
  | .cls c => if c == genericRoot then w.shown v else w.qualified c
  | _ => w.shown v

/-- The short name of a type. -/
def shortName (w : World) (v : Value) : String :=
  match v with
  | .typeVar i => ((w.typeVars[i]?).map TypeVariable.name).getD ""
  | .paramSpec i => ((w.paramSpecs[i]?).map Prod.fst).getD ""
  | .form name => name
  | .function _ path => lastName path
  | .module name => name
  | _ =>
    match v.class?, v.origin? with
    | some c, _ => w.nameOf c
    | none, some (.form "Union") =>
      if v.arguments.length == 2 && v.arguments.any (fun a => a.same Value.noneType) then
        "Optional"
      else "Union"
    | none, some (.form name) => name
    | none, _ => w.displayName v

/-- Is the type an enumeration? -/
def isEnumType (w : World) (v : Value) : Bool := (v.class?.map w.isEnumeration).getD false

/-- Is the type a protocol? -/
def isInterfaceType (w : World) (v : Value) : Bool := (v.class?.map w.isProtocol).getD false

/-- Can the type be declared? -/
def isStructuralType (w : World) (v : Value) : Bool :=
  match v.class? with
  | some c => !w.isEnumeration c && !machineryModules.contains (w.moduleOf c)
  | none => false

/-- The type parameters that a bare class declares. -/
def declaredParameters (w : World) (v : Value) : List Value :=
  match v with
  | .cls c => if c == genericRoot then [] else w.parametersOf c
  | _ => []

/-- The type that a constructed one was made of. -/
def definitionOf (v : Value) : Value :=
  if v.isConstructed then (v.class?.map Value.cls).getD v else v

/-- What is known of a type variable. -/
def parameter? (w : World) : Value → Option TypeVariable
  | .typeVar i => w.typeVars[i]?
  | _ => none

/-- The bound of a variable, with notes on what could not be resolved. -/
def boundOf (w : World) (v : Value) : List Value × List String :=
  match w.parameter? v with
  | none => ([], [])
  | some p =>
    match p.bound with
    | none => ([], [])
    | some b =>
      let (t, notes) := w.annotationType [] p.module b
      ([w.describe t], notes)

/-- The alternatives of a variable, with notes on what could not be resolved. -/
def alternativesOf (w : World) (v : Value) : List Value × List String :=
  match w.parameter? v with
  | none => ([], [])
  | some p =>
    let resolved := p.alternatives.map (w.annotationType [] p.module)
    (resolved.map fun r => w.describe r.1, resolved.flatMap (·.2))

/-- Is a base mentioned in declarations? -/
def isMentioned (base : Value) : Bool :=
  match base.origin?, base with
  | some (.cls c), _ => !silentBases.any c.equals
  | some (.form _), _ => true
  | none, .cls c => !silentBases.any c.equals
  | none, _ => true

/-- The types that a class extends directly, as they were written. -/
def supertypesOf (w : World) (v : Value) : List Value :=
  match v.class? with
  | none => []
  | some c => ((w.writtenBasesOf c).filter isMentioned).map w.describe

/-- The first supertype that is no protocol. A protocol has no base. -/
def baseOf (w : World) (v : Value) : Option Value :=
  if w.isInterfaceType v then none
  else (w.supertypesOf v).find? fun s => !w.isInterfaceType s

/-- The supertypes other than the base. -/
def interfacesOf (w : World) (v : Value) : List Value :=
  match w.baseOf v with
  | none => w.supertypesOf v
  | some b => (w.supertypesOf v).filter fun s => !s.same b

/-- Does a text start with a word after possible names of its module? -/
def saysWord (modules : List String) (word text : String) : Bool :=
  let cs := text.toList
  let startsHere (cs : List Char) : Bool :=
    Text.startsWith cs word.toList &&
      !(((cs.drop word.length).head?.map Text.isWord).getD false)
  startsHere cs || modules.any fun m =>
    Text.startsWith cs (m ++ ".").toList && startsHere (cs.drop (m.length + 1))

/-- Does an annotation mark a variable of the class? A text is read only as far as its first
word. -/
def marksClassVar (v : Value) : Bool :=
  match annotationText? v with
  | some s => saysWord ["typing", "typing_extensions"] "ClassVar" s
  | none =>
    match v with
    | .form "ClassVar" => true
    | .formed "ClassVar" _ => true
    | _ => false

/-- Does an annotation mark a parameter of the constructor? -/
def marksInitVar (v : Value) : Bool :=
  match annotationText? v with
  | some s => saysWord ["dataclasses"] "InitVar" s
  | none =>
    match v with
    | .cls (.library "dataclasses" "InitVar") => true
    | .initVar _ => true
    | _ => false

/-- Is the annotation one of a field? -/
def marksField (v : Value) : Bool := !marksClassVar v && !marksInitVar v

/-- Is the name hidden? -/
def isHidden (name : String) : Bool := name.toList.head? == some '_'

/-- The fields of a class: a field whose annotation turns out to mark something else is none. -/
def fieldsOf (w : World) (c : ClassRef) : List ((String × Value) × List String) :=
  let names := w.classNames c
  ((w.annotationsOf c).filter fun a => !isHidden a.1 && marksField a.2).map fun a =>
    let (t, notes) := w.annotationType names (w.moduleOf c) a.2
    ((a.1, t), notes)

/-- The properties of a class that can be read. -/
def propertiesOf (w : World) (c : ClassRef) : List ((String × Value) × List String) :=
  (w.attributesOf c).filterMap fun a =>
    match a.2 with
    | .property (some g) _ =>
      if isHidden a.1 then none
      else
        let (t, notes) := w.annotationType [] g.module (g.returns.getD Value.any)
        some ((a.1, t), notes)
    | _ => none

/-- The fields and then the properties that a type itself declares. -/
def typeMembers (w : World) (v : Value) : List (String × Value) :=
  match v.class? with
  | none => []
  | some c =>
    let fields := (w.fieldsOf c).filter fun f => marksField f.1.2
    (fields ++ w.propertiesOf c).map fun m => (m.1.1, w.describe m.1.2)

/-- What could not be resolved among the members. -/
def memberNotesOf (w : World) (v : Value) : List String :=
  match v.class? with
  | none => []
  | some c => (w.fieldsOf c ++ w.propertiesOf c).flatMap (·.2)

/-- Is the type an open tuple: an element and an ellipsis? -/
def isOpenTuple : List Value → Bool
  | [_, .ellipsis] => true
  | _ => false

/-- The class that a bare type or its origin is. -/
def containerOf (v : Value) : Option ClassRef := v.class?

/-- The element of a sequence. -/
def elementOf (w : World) (v : Value) : Option Value :=
  match containerOf v with
  | none => none
  | some c =>
    let first := w.describe ((v.arguments.head?).getD Value.any)
    if sequenceClasses.contains c then some first
    else if c == builtin "tuple" && (v.arguments.isEmpty || isOpenTuple v.arguments) then
      some first
    else none

/-- Key and value of a mapping. -/
def keyValueOf (w : World) (v : Value) : Option (Value × Value) :=
  match containerOf v with
  | none => none
  | some c =>
    if mappingClasses.contains c then
      some (w.describe ((v.arguments[0]?).getD Value.any),
        w.describe ((v.arguments[1]?).getD Value.any))
    else none

/-- The elements of a tuple of fixed length. -/
def tupleOf (w : World) (v : Value) : Option (List Value) :=
  if containerOf v == some (builtin "tuple") && !v.arguments.isEmpty &&
      !isOpenTuple v.arguments then
    some (v.arguments.map w.describe)
  else none

/-- The alternatives of a union. -/
def alternativesOfUnion (w : World) (v : Value) : List Value :=
  match v with
  | .union _ members => members.map w.describe
  | _ => []

/-- How deep the questions of a walk may nest before they count as endless. As with the stack of a
program, it does not matter what has been loaded. -/
def nestingLimit : Nat := 1000000

/-- The universe of the types in a world. -/
def types (w : World) : Universe Value where
  displayName := w.displayName
  name := w.shortName
  isEnum := w.isEnumType
  isInterface := w.isInterfaceType
  isAbstract v := (v.class?.map fun c => !(w.abstractsOf c).isEmpty).getD false
  isStructural := w.isStructuralType
  isParameter v := (w.parameter? v).isSome
  isDefinition v := !(w.declaredParameters v).isEmpty
  isConstructed := Value.isConstructed
  needsConstructor v := ((w.parameter? v).map TypeVariable.needsConstructor).getD false
  primitive v :=
    match v with
    | .cls c => scalarKinds.lookup c
    | _ => none
  definition := definitionOf
  arguments v :=
    if v.isConstructed then v.arguments.map w.describe
    else (w.declaredParameters v).map w.describe
  bounds v := (w.boundOf v).1
  alternatives v := (w.alternativesOf v).1
  base := w.baseOf
  interfaces := w.interfacesOf
  members := w.typeMembers
  enumMembers v :=
    if w.isEnumType v then
      ((v.class?.map w.membersOf).getD []).map fun m => (m.1, m.2.2)
    else []
  element := w.elementOf
  keyValue := w.keyValueOf
  tuple := w.tupleOf
  union := w.alternativesOfUnion
  memberNotes := w.memberNotesOf
  boundNotes v := (w.boundOf v).2
  alternativeNotes v := (w.alternativesOf v).2
  extent := w.classes.foldl (fun n c => n + c.writtenBases.length) libraryClasses.length
  depth := nestingLimit

end World

end TypeProjection.Annotation
